import NatTester.Source.TimeFormatterParts

/-!
# The levels of getApproximately

`approximated delta` is the list of the parts that `getApproximately` writes. Below the
years all levels are alike: a unit that is almost full is rounded up whatever was
rounded before it, and a unit is rounded down only if nothing was.
-/
namespace NatTester.Source
open NatTester.Lib

namespace TimeFormatter

/-- The parts below the years, of a duration that is less than the unit before `units`. -/
def finer : List TimeUnit → Int → Bool → Nat → List Part
  | [], d, rounded, _ => if 0 < d ∧ rounded = false then [⟨d.toNat, .millisecond⟩] else []
  | unit :: units, d, rounded, parts =>
    let mod := d % unit.length
    if upperCeiling unit.length ≤ mod then
      ⟨(d / unit.length + 1).toNat, unit⟩ :: (if parts = 0 then finer units mod true 1 else [])
    else if unit.length ≤ d ∧ rounded = false then
      ⟨(d / unit.length).toNat, unit⟩ :: (if parts = 0 then finer units mod (mod ≤ lowerCeiling unit.length) 1 else [])
    else finer units mod rounded parts

def approximated (delta : Int) : List Part :=
  let mod := delta % YEAR
  if upperCeiling YEAR ≤ mod then [⟨(delta / YEAR + 1).toNat, .year⟩]
  else if YEAR ≤ delta then
    ⟨(delta / YEAR).toNat, .year⟩ ::
      (if mod ≤ lowerCeiling YEAR then [] else finer [.day, .hour, .minute, .second] mod false 1)
  else finer [.day, .hour, .minute, .second] mod false 0

/-! ## The code writes these parts -/

/-- `getApproximately` below `bigger`. -/
def approximateFrom (bigger : TimeUnit) : List TimeUnit → Approximate → String
  | [], p =>
    let p := p.rest bigger.length
    if p.d > 0 ∧ p.rounded = false then (p.append (toString (asInt p.d)) "ms").a else p.a
  | unit :: units, p =>
    let p := approximateUnit unit.length unit.name (p.rest bigger.length)
    if p.parts < 2 then approximateFrom unit units p else p.a

theorem getApproximately_eq (delta : Int) :
    getApproximately delta =
      let p := approximateUnit YEAR "y" ⟨"", 0, false, false, delta⟩
      if p.rounded then p.a else approximateFrom .year [.day, .hour, .minute, .second] p := rfl

section Level

variable {p : Approximate} {n : Int} {unit : String}

theorem approximateUnit_up (h : upperCeiling n ≤ p.d.tmod n) :
    approximateUnit n unit p = { p.append (ceil p.d n) unit with parts := p.parts + 1, rounded := true } :=
  if_pos h

theorem approximateUnit_down (h : ¬upperCeiling n ≤ p.d.tmod n) (hdown : n ≤ p.d ∧ p.rounded = false) :
    approximateUnit n unit p =
      { p.append (floor p.d n) unit with parts := p.parts + 1, rounded := p.d.tmod n ≤ lowerCeiling n } :=
  (if_neg h).trans (if_pos hdown)

theorem approximateUnit_skip (h : ¬upperCeiling n ≤ p.d.tmod n) (hdown : ¬(n ≤ p.d ∧ p.rounded = false)) :
    approximateUnit n unit p = p :=
  (if_neg h).trans (if_neg hdown)

end Level

theorem rest_d {p : Approximate} (hlow : 0 ≤ p.d) (unit : TimeUnit) : (p.rest unit.length).d = p.d % unit.length :=
  Int.tmod_eq_emod_of_nonneg hlow

theorem upperCeiling_pos (unit : TimeUnit) (h : unit ≠ .millisecond) : 0 < upperCeiling unit.length := by
  cases unit <;> first | exact absurd rfl h | decide

theorem year_le (unit : TimeUnit) (h : unit ≠ .millisecond) : YEAR ≤ 0x7fffffff * unit.length := by
  cases unit <;> first | exact absurd rfl h | decide

theorem length_le_year (unit : TimeUnit) : unit.length ≤ YEAR := by
  cases unit <;> decide

theorem length_le_day (unit : TimeUnit) (h : unit ≠ .year) : unit.length ≤ 86400000 := by
  cases unit <;> first | exact absurd rfl h | decide

theorem finer_cons (unit : TimeUnit) (units : List TimeUnit) (d : Int) (rounded : Bool) (parts : Nat) :
    finer (unit :: units) d rounded parts =
      if upperCeiling unit.length ≤ d % unit.length then
        ⟨(d / unit.length + 1).toNat, unit⟩ :: (if parts = 0 then finer units (d % unit.length) true 1 else [])
      else if unit.length ≤ d ∧ rounded = false then
        ⟨(d / unit.length).toNat, unit⟩ ::
          (if parts = 0 then finer units (d % unit.length) (d % unit.length ≤ lowerCeiling unit.length) 1 else [])
      else finer units (d % unit.length) rounded parts := rfl

/-- The milliseconds, and nothing behind a rounded part. -/
theorem approximateFrom_milliseconds {bigger : TimeUnit} {p : Approximate} {parts : List Part}
    (hwrites : Writes p.a p.prependBlank parts) (hlow : 0 ≤ p.d) (hlast : bigger ≠ .year) :
    ∃ blank, Writes (approximateFrom bigger [] p) blank (parts ++ finer [] (p.d % bigger.length) p.rounded p.parts) := by
  have hd := rest_d hlow bigger
  have hnonneg := Int.emod_nonneg p.d (length_pos bigger).ne'
  have hless := Int.emod_lt_of_pos p.d (length_pos bigger)
  have hday := length_le_day bigger hlast
  rw [approximateFrom, finer, hd]
  by_cases hrest : 0 < p.d % bigger.length ∧ p.rounded = false
  · obtain ⟨n, hn⟩ := Int.eq_ofNat_of_zero_le hnonneg
    have hwritten := hwrites.append ⟨n, .millisecond⟩ (by dsimp only; omega)
    rw [if_pos hrest, if_pos (show p.d % bigger.length > 0 ∧ (p.rest bigger.length).rounded = false from hrest),
      asInt_of_int (by omega) (by omega), hn]
    exact ⟨true, hwritten⟩
  · rw [if_neg hrest, if_neg (show ¬(p.d % bigger.length > 0 ∧ (p.rest bigger.length).rounded = false) from hrest),
      List.append_nil]
    exact ⟨p.prependBlank, hwrites⟩

/-- Below the years, the code appends the parts of `finer`. -/
theorem approximateFrom_writes {units : List TimeUnit} {bigger : TimeUnit} {p : Approximate} {parts : List Part}
    (hwrites : Writes p.a p.prependBlank parts) (hlow : 0 ≤ p.d) (hfew : p.parts < 2)
    (hunits : ∀ unit ∈ units, unit ≠ .year ∧ unit ≠ .millisecond) (hlast : units = [] → bigger ≠ .year) :
    ∃ blank, Writes (approximateFrom bigger units p) blank
      (parts ++ finer units (p.d % bigger.length) p.rounded p.parts) := by
  induction units generalizing bigger p parts with
  | nil => exact approximateFrom_milliseconds hwrites hlow (hlast rfl)
  | cons unit units ih =>
    obtain ⟨hyear, hmillisecond⟩ := hunits unit List.mem_cons_self
    have hpos := length_pos unit
    have hd := rest_d hlow bigger
    have hnonneg := Int.emod_nonneg p.d (length_pos bigger).ne'
    have hless := Int.emod_lt_of_pos p.d (length_pos bigger)
    have hbigger := length_le_year bigger
    have hunit := year_le unit hmillisecond
    have hrange : YEAR < 2 ^ 52 := by decide
    have hrest : ∀ (q : Approximate) (written : List Part), Writes q.a q.prependBlank written → 0 ≤ q.d → q.parts < 2 →
        ∃ blank, Writes (approximateFrom unit units q) blank
          (written ++ finer units (q.d % unit.length) q.rounded q.parts) := by
      intro q written hq hqd hparts
      exact ih hq hqd hparts (fun other hother => hunits other (List.mem_cons_of_mem _ hother)) fun _ => hyear
    -- behind a part that is the second, nothing follows
    have hthen : ∀ (q : Approximate) (part : Part), Writes q.a q.prependBlank (parts ++ [part]) → q.parts = p.parts + 1 →
        q.d = p.d % bigger.length →
        ∃ blank, Writes (if q.parts < 2 then approximateFrom unit units q else q.a) blank
          (parts ++ part :: if p.parts = 0 then finer units (p.d % bigger.length % unit.length) q.rounded 1 else []) := by
      intro q part hq hparts hqd
      rcases Nat.eq_zero_or_pos p.parts with hzero | hone
      · obtain ⟨blank, hfiner⟩ := hrest q _ hq (by omega) (by omega)
        rw [if_pos (by omega), if_pos hzero, ← hqd]
        rw [hparts, hzero, List.append_assoc] at hfiner
        exact ⟨blank, hfiner⟩
      · rw [if_neg (by omega), if_neg (by omega)]
        exact ⟨q.prependBlank, hq⟩
    have hmod : (p.rest bigger.length).d.tmod unit.length = p.d % bigger.length % unit.length := by
      rw [hd, Int.tmod_eq_emod_of_nonneg hnonneg]
    rw [approximateFrom, finer_cons]
    by_cases hup : upperCeiling unit.length ≤ p.d % bigger.length % unit.length
    · have hpositive := upperCeiling_pos unit hmillisecond
      obtain ⟨htext, hnumber⟩ := ceil_eq unit hnonneg (by omega) (by omega) (by omega)
      have hwritten := hwrites.append ⟨(p.d % bigger.length / unit.length + 1).toNat, unit⟩ hnumber
      rw [if_pos hup, approximateUnit_up (by rw [hmod]; exact hup), hd, htext]
      refine hthen _ ⟨(p.d % bigger.length / unit.length + 1).toNat, unit⟩ ?_ rfl hd
      exact hwritten
    · rw [if_neg hup]
      by_cases hdown : unit.length ≤ p.d % bigger.length ∧ p.rounded = false
      · obtain ⟨htext, hnumber⟩ := floor_eq unit hnonneg (by omega) (by omega)
        rw [if_pos hdown, approximateUnit_down (by rw [hmod]; exact hup) (by rw [hd]; exact hdown), hd, htext]
        have hmod' : (p.d % bigger.length).tmod unit.length = p.d % bigger.length % unit.length :=
          Int.tmod_eq_emod_of_nonneg hnonneg
        have hwritten := hwrites.append ⟨(p.d % bigger.length / unit.length).toNat, unit⟩ hnumber
        rw [hmod']
        refine hthen _ ⟨(p.d % bigger.length / unit.length).toNat, unit⟩ ?_ rfl hd
        exact hwritten
      · rw [if_neg hdown, approximateUnit_skip (by rw [hmod]; exact hup) (by rw [hd]; exact hdown)]
        have hfiner := hrest (p.rest bigger.length) parts hwrites (by rw [hd]; exact hnonneg) hfew
        rw [hd] at hfiner
        rw [if_pos (show (p.rest bigger.length).parts < 2 from hfew)]
        exact hfiner

/-- **The text of `getApproximately` is the parts of `approximated`.** -/
theorem getApproximately_writes {delta : Int} (hlow : 0 ≤ delta) (hdelta : delta < 2 ^ 52) :
    ∃ blank, Writes (getApproximately delta) blank (approximated delta) := by
  have hmod : delta.tmod YEAR = delta % YEAR := Int.tmod_eq_emod_of_nonneg hlow
  have hyear : YEAR = 31536000000 := by decide
  have hunits : ∀ unit ∈ [TimeUnit.day, .hour, .minute, .second], unit ≠ .year ∧ unit ≠ .millisecond := by decide
  have hfiner : ∀ (p : Approximate) (written : List Part), Writes p.a p.prependBlank written → p.d = delta → p.parts < 2 →
      ∃ blank, Writes (approximateFrom .year [.day, .hour, .minute, .second] p) blank
        (written ++ finer [.day, .hour, .minute, .second] (delta % YEAR) p.rounded p.parts) := by
    intro p written hp hd hparts
    have hwrites : ∃ blank, Writes (approximateFrom .year _ p) blank (written ++ finer _ (p.d % YEAR) p.rounded p.parts) :=
      approximateFrom_writes hp (by omega) hparts hunits fun hnil => nomatch hnil
    rwa [hd] at hwrites
  rw [getApproximately_eq, approximated]
  by_cases hup : upperCeiling YEAR ≤ delta % YEAR
  · have hpositive : 0 < upperCeiling YEAR := by decide
    obtain ⟨htext, hnumber⟩ := ceil_eq .year hlow hdelta (by rw [TimeUnit.length]; omega) (by rw [TimeUnit.length]; omega)
    have hwritten := Writes.nil.append ⟨(delta / YEAR + 1).toNat, .year⟩ hnumber
    rw [TimeUnit.length] at htext
    rw [if_pos hup, approximateUnit_up (by rw [hmod]; exact hup), htext]
    exact ⟨true, hwritten⟩
  · rw [if_neg hup]
    by_cases hdown : YEAR ≤ delta
    · obtain ⟨htext, hnumber⟩ := floor_eq .year hlow hdelta (by rw [TimeUnit.length]; omega)
      have hwritten := Writes.nil.append ⟨(delta / YEAR).toNat, .year⟩ hnumber
      rw [TimeUnit.length] at htext
      rw [if_pos hdown, approximateUnit_down (by rw [hmod]; exact hup) ⟨hdown, rfl⟩, hmod, htext]
      by_cases hrounded : delta % YEAR ≤ lowerCeiling YEAR
      · rw [if_pos hrounded, decide_eq_true hrounded]
        exact ⟨true, hwritten⟩
      · rw [if_neg hrounded, decide_eq_false hrounded]
        refine hfiner _ [⟨(delta / YEAR).toNat, .year⟩] ?_ rfl ?_
        · exact hwritten
        · exact Nat.one_lt_two
    · rw [if_neg hdown, approximateUnit_skip (by rw [hmod]; exact hup) fun hyears => hdown hyears.1]
      exact hfiner ⟨"", 0, false, false, delta⟩ [] .nil rfl Nat.two_pos

end TimeFormatter

end NatTester.Source
