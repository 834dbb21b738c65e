import NatTester.Source.TimeFormatterLevels

/-!
# Approximate durations

At most two parts are written, and a part is rounded by 15 percent of its unit or less.
A level below the days does not look at what was rounded before it, though: where days,
hours or minutes are rounded up and a finer unit is almost full as well, that is rounded
up too, and written behind them. The years do stop the finer levels.
-/
namespace NatTester.Guarantees
open NatTester.Lib NatTester.Source TimeFormatter

def isBlank (ch : Char) : Bool := ch = ' '

/-- The milliseconds that the code takes the unit of a part for. -/
def unitLength (part : List Char) : Int := nTimes 0 (part.dropWhile Char.isDigit) 1

/-- One or two parts, read as a duration within 15 percent of the largest unit from `delta`. -/
structure StaysClose (delta : Int) (text : List Char) : Prop where
  parts : (words isBlank text).length = 1 ∨ (words isBlank text).length = 2
  close : ∃ read largest, eval text = some read ∧ largest ∈ words isBlank text ∧
    (∀ part ∈ words isBlank text, unitLength part ≤ unitLength largest) ∧
    100 * ((read - delta).natAbs : Int) ≤ CEILING_PERCENTAGE * unitLength largest

/-- Minutes are rounded up, and seconds are written behind them. -/
def AfterMinutes (d : Int) : Prop := upperCeiling MINUTE ≤ d % MINUTE ∧ upperCeiling SECOND ≤ d % SECOND

/-- Hours are rounded up, and what is written behind them is more than the rounding leaves room for. -/
def AfterHours (d : Int) : Prop :=
  upperCeiling HOUR ≤ d % HOUR ∧
    (upperCeiling MINUTE ≤ d % MINUTE ∨ upperCeiling SECOND ≤ d % SECOND ∧ d % HOUR < 52 * MINUTE)

/-- Days are rounded up, and what is written behind them is more than the rounding leaves room for. -/
def AfterDays (d : Int) : Prop :=
  upperCeiling DAY ≤ d % DAY ∧
    (upperCeiling HOUR ≤ d % HOUR ∨ upperCeiling MINUTE ≤ d % MINUTE ∧ d % DAY < 21 * HOUR ∨
      upperCeiling SECOND ≤ d % SECOND ∧ d % DAY < 20 * HOUR + 25 * MINUTE)

/-- A unit is rounded up and a finer one behind it as well. -/
def RoundedTwice (delta : Int) : Prop :=
  delta < upperCeiling YEAR ∧
    (AfterDays delta ∨ delta < upperCeiling DAY ∧ AfterHours delta ∨ delta < upperCeiling HOUR ∧ AfterMinutes delta)

/-! ## The parts as a list -/

section Shape

variable {units : List TimeUnit} {unit : TimeUnit} {d : Int} {rounded : Bool} {parts : Nat}

theorem total_down (unit : TimeUnit) (rest : List Part) (hlow : 0 ≤ d) :
    total (⟨(d / unit.length).toNat, unit⟩ :: rest) = d - d % unit.length + total rest := by
  have hpos := length_pos unit
  have hquotient : ((d / unit.length).toNat : Int) = d / unit.length := Int.toNat_of_nonneg (Int.ediv_nonneg hlow hpos.le)
  have hsplit := Int.mul_ediv_add_emod d unit.length
  rw [total_cons, Part.value, hquotient]
  dsimp only
  omega

theorem total_up (unit : TimeUnit) (rest : List Part) (hlow : 0 ≤ d) :
    total (⟨(d / unit.length + 1).toNat, unit⟩ :: rest) = d - d % unit.length + unit.length + total rest := by
  have hpos := length_pos unit
  have hnonneg := Int.ediv_nonneg hlow hpos.le
  have hquotient : ((d / unit.length + 1).toNat : Int) = d / unit.length + 1 := Int.toNat_of_nonneg (by omega)
  have hsplit := Int.mul_ediv_add_emod d unit.length
  rw [total_cons, Part.value, hquotient, Int.mul_add, Int.mul_one]
  dsimp only
  omega

/-- A level writes nothing and leaves the rest to the others, or it writes a part and they write behind it. -/
theorem finer_cases (unit : TimeUnit) (units : List TimeUnit) (rounded : Bool) (parts : Nat) (hlow : 0 ≤ d) :
    ¬(unit.length ≤ d ∧ rounded = false) ∧
        finer (unit :: units) d rounded parts = finer units (d % unit.length) rounded parts ∨
      ∃ part behind, part.unit = unit ∧ part.value ≤ d - d % unit.length + unit.length ∧
        finer (unit :: units) d rounded parts = part :: if parts = 0 then finer units (d % unit.length) behind 1 else [] := by
  have hmod := Int.emod_nonneg d (length_pos unit).ne'
  have hpos := length_pos unit
  rw [finer_cons]
  by_cases hup : upperCeiling unit.length ≤ d % unit.length
  · have hvalue := total_up unit [] hlow
    rw [total_cons, total_nil] at hvalue
    refine .inr ⟨⟨(d / unit.length + 1).toNat, unit⟩, true, rfl, by omega, ?_⟩
    rw [if_pos hup]
  · by_cases hdown : unit.length ≤ d ∧ rounded = false
    · have hvalue := total_down unit [] hlow
      rw [total_cons, total_nil] at hvalue
      refine .inr ⟨⟨(d / unit.length).toNat, unit⟩, d % unit.length ≤ lowerCeiling unit.length, rfl, by omega, ?_⟩
      rw [if_neg hup, if_pos hdown]
    · refine .inl ⟨hdown, ?_⟩
      rw [if_neg hup, if_neg hdown]

theorem finer_units (hlow : 0 ≤ d) :
    ∀ part ∈ finer units d rounded parts, part.unit ∈ units ∨ part.unit = .millisecond := by
  induction units generalizing d rounded parts with
  | nil =>
    intro part hpart
    rw [finer] at hpart
    split at hpart
    · exact .inr (List.mem_singleton.mp hpart ▸ rfl)
    · cases hpart
  | cons unit units ih =>
    have hmod := Int.emod_nonneg d (length_pos unit).ne'
    intro part hpart
    rcases finer_cases unit units rounded parts hlow with
      ⟨-, hskip⟩ | ⟨first, behind, hunit, -, hwritten⟩
    · rw [hskip] at hpart
      exact (ih hmod part hpart).imp_left (List.mem_cons_of_mem _)
    · rw [hwritten] at hpart
      rcases List.mem_cons.mp hpart with rfl | hrest
      · exact .inl (hunit ▸ List.mem_cons_self)
      · split at hrest
        · exact (ih hmod part hrest).imp_left (List.mem_cons_of_mem _)
        · cases hrest

/-- The units get finer. -/
theorem finer_descending (hlow : 0 ≤ d) (hunits : units.Pairwise fun bigger smaller => smaller.length ≤ bigger.length) :
    (finer units d rounded parts).Pairwise fun part later => later.unit.length ≤ part.unit.length := by
  induction units generalizing d rounded parts with
  | nil =>
    rw [finer]
    split
    · exact List.pairwise_singleton _ _
    · exact .nil
  | cons unit units ih =>
    obtain ⟨hfiner, hlater⟩ := List.pairwise_cons.mp hunits
    have hmod := Int.emod_nonneg d (length_pos unit).ne'
    rcases finer_cases unit units rounded parts hlow with
      ⟨-, hskip⟩ | ⟨first, behind, hunit, -, hwritten⟩
    · rw [hskip]
      exact ih hmod hlater
    · rw [hwritten]
      split
      · refine List.pairwise_cons.mpr ⟨fun part hpart => ?_, ih hmod hlater⟩
        rw [hunit]
        rcases finer_units hmod part hpart with hin | hmillisecond
        · exact hfiner part.unit hin
        · rw [hmillisecond]
          exact length_pos unit
      · exact List.pairwise_singleton _ _

theorem finer_length (units : List TimeUnit) (rounded : Bool) (hlow : 0 ≤ d) (hparts : parts ≤ 1) :
    (finer units d rounded parts).length + parts ≤ 2 := by
  induction units generalizing d rounded parts with
  | nil =>
    rw [finer]
    split
    · rw [List.length_singleton]
      omega
    · rw [List.length_nil]
      omega
  | cons unit units ih =>
    have hmod := Int.emod_nonneg d (length_pos unit).ne'
    rcases finer_cases unit units rounded parts hlow with
      ⟨-, hskip⟩ | ⟨first, behind, -, -, hwritten⟩
    · rw [hskip]
      exact ih rounded hmod hparts
    · have hbehind := ih behind hmod (Nat.le_refl 1)
      rw [hwritten, List.length_cons]
      split
      · omega
      · rw [List.length_nil]
        omega

/-- A duration that is not zero leaves a text that is not empty. -/
theorem finer_ne_nil (units : List TimeUnit) (parts : Nat) (hlow : 0 < d) : finer units d false parts ≠ [] := by
  induction units generalizing d with
  | nil =>
    rw [finer, if_pos ⟨hlow, rfl⟩]
    exact List.cons_ne_nil _ _
  | cons unit units ih =>
    rcases finer_cases unit units false parts hlow.le with
      ⟨hless, hskip⟩ | ⟨first, behind, -, -, hwritten⟩
    · have hsame : d % unit.length = d := Int.emod_eq_of_lt hlow.le (by by_contra hge; exact hless ⟨by omega, rfl⟩)
      rw [hskip, hsame]
      exact ih hlow
    · rw [hwritten]
      exact List.cons_ne_nil _ _

theorem finer_total_le (units : List TimeUnit) (rounded : Bool) (hlow : 0 ≤ d) (hparts : parts ≤ 1) :
    total (finer units d rounded parts) + 31536000000 * parts ≤ d + 63072000000 := by
  induction units generalizing d rounded parts with
  | nil =>
    rw [finer]
    split
    · rw [total_cons, total_nil, Part.value, TimeUnit.length]
      dsimp only
      omega
    · rw [total_nil]
      omega
  | cons unit units ih =>
    have hmod := Int.emod_nonneg d (length_pos unit).ne'
    have hsplit := Int.mul_ediv_add_emod d unit.length
    have hwhole := Int.mul_nonneg (length_pos unit).le (Int.ediv_nonneg hlow (length_pos unit).le)
    have hunit : unit.length ≤ 31536000000 := length_le_year unit
    rcases finer_cases unit units rounded parts hlow with
      ⟨-, hskip⟩ | ⟨first, behind, -, hvalue, hwritten⟩
    · have hrest := ih rounded hmod hparts
      rw [hskip]
      omega
    · have hrest := ih behind hmod (Nat.le_refl 1)
      rw [hwritten, total_cons]
      split
      · omega
      · rw [total_nil]
        omega

end Shape

/-! ## The sums -/

/-- The sum of the parts is off by at most 15 percent of the unit of the first. -/
def CloseParts (delta : Int) : List Part → Prop
  | [] => False
  | part :: rest => 100 * ((total (part :: rest) - delta).natAbs : Int) ≤ CEILING_PERCENTAGE * part.unit.length

theorem lengths : TimeUnit.day.length = 86400000 ∧ TimeUnit.hour.length = 3600000 ∧ TimeUnit.minute.length = 60000 ∧
    TimeUnit.second.length = 1000 ∧ TimeUnit.millisecond.length = 1 := by decide

theorem ceilings : upperCeiling 86400000 = 73440000 ∧ upperCeiling 3600000 = 3060000 ∧ upperCeiling 60000 = 51000 ∧
    upperCeiling 1000 = 850 ∧ lowerCeiling 86400000 = 12960000 ∧ lowerCeiling 3600000 = 540000 ∧ lowerCeiling 60000 = 9000 ∧
    lowerCeiling 1000 = 150 ∧ CEILING_PERCENTAGE = 15 := by decide

section Sums

variable {d : Int} {unit : TimeUnit} {units : List TimeUnit} {rest : List Part}

/-- Behind a rounded part only a unit that is almost full is written, rounded up. -/
theorem total_carried (hlow : 0 ≤ d) :
    total (finer (unit :: units) d true 1) =
      if upperCeiling unit.length ≤ d % unit.length then d - d % unit.length + unit.length
      else total (finer units (d % unit.length) true 1) := by
  rw [finer_cons, apply_ite total, total_up _ _ hlow]
  simp [total]

/-- Behind a part that is not rounded the next unit is written, where there is a whole one. -/
theorem total_second (unit : TimeUnit) (units : List TimeUnit) (hlow : 0 ≤ d) (hwhole : unit.length ≤ d) :
    total (finer (unit :: units) d false 1) =
      if upperCeiling unit.length ≤ d % unit.length then d - d % unit.length + unit.length else d - d % unit.length := by
  rw [finer_cons, if_pos (show unit.length ≤ d ∧ false = false from ⟨hwhole, rfl⟩), apply_ite total, total_up _ _ hlow,
    total_down _ _ hlow]
  simp [total]

theorem close_up (hlow : 0 ≤ d) (hup : upperCeiling unit.length ≤ d % unit.length) :
    CloseParts d (finer (unit :: units) d false 0) ↔
      100 * (unit.length - d % unit.length + total (finer units (d % unit.length) true 1)) ≤
        CEILING_PERCENTAGE * unit.length := by
  have hless := Int.emod_lt_of_pos d (length_pos unit)
  have hrest := total_nonneg (finer units (d % unit.length) true 1)
  rw [finer_cons, if_pos hup, if_pos rfl, CloseParts, total_up _ _ hlow]
  dsimp only
  omega

theorem close_down_rounded (hlow : 0 ≤ d) (hup : d % unit.length < upperCeiling unit.length) (hwhole : unit.length ≤ d)
    (hrounded : d % unit.length ≤ lowerCeiling unit.length) :
    CloseParts d (finer (unit :: units) d false 0) ↔
      100 * ((total (finer units (d % unit.length) true 1) - d % unit.length).natAbs : Int) ≤
        CEILING_PERCENTAGE * unit.length := by
  rw [finer_cons, if_neg (Int.not_le.mpr hup), if_pos ⟨hwhole, rfl⟩, if_pos rfl, decide_eq_true hrounded, CloseParts,
    total_down _ _ hlow]
  dsimp only
  omega

theorem close_down (hlow : 0 ≤ d) (hup : d % unit.length < upperCeiling unit.length) (hwhole : unit.length ≤ d)
    (hrounded : lowerCeiling unit.length < d % unit.length) :
    CloseParts d (finer (unit :: units) d false 0) ↔
      100 * ((total (finer units (d % unit.length) false 1) - d % unit.length).natAbs : Int) ≤
        CEILING_PERCENTAGE * unit.length := by
  rw [finer_cons, if_neg (Int.not_le.mpr hup), if_pos ⟨hwhole, rfl⟩, if_pos rfl, decide_eq_false (Int.not_le.mpr hrounded),
    CloseParts, total_down _ _ hlow]
  dsimp only
  omega

/-- A duration is rounded up at a unit, or is less than it, or leaves a rest that is written, or one that is not. -/
theorem level_cases (unit : TimeUnit) (hlow : 0 ≤ d) :
    upperCeiling unit.length ≤ d % unit.length ∨
      d < upperCeiling unit.length ∧ d < unit.length ∨
      d % unit.length < upperCeiling unit.length ∧ unit.length ≤ d ∧ lowerCeiling unit.length < d % unit.length ∨
      d % unit.length < upperCeiling unit.length ∧ unit.length ≤ d ∧ d % unit.length ≤ lowerCeiling unit.length := by
  rcases lt_or_ge (d % unit.length) (upperCeiling unit.length) with hup | hup
  · rcases lt_or_ge d unit.length with hless | hwhole
    · rw [Int.emod_eq_of_lt hlow hless] at hup
      exact .inr (.inl ⟨hup, hless⟩)
    · rcases lt_or_ge (lowerCeiling unit.length) (d % unit.length) with hrest | hrounded
      · exact .inr (.inr (.inl ⟨hup, hwhole, hrest⟩))
      · exact .inr (.inr (.inr ⟨hup, hwhole, hrounded⟩))
  · exact .inl hup

theorem close_skip (hlow : 0 ≤ d) (hup : d < upperCeiling unit.length) (hwhole : d < unit.length) :
    CloseParts d (finer (unit :: units) d false 0) ↔ CloseParts d (finer units d false 0) := by
  have hsame : d % unit.length = d := Int.emod_eq_of_lt hlow hwhole
  rw [finer_cons, hsame, if_neg (Int.not_le.mpr hup), if_neg fun hdown => absurd hdown.1 (Int.not_le.mpr hwhole)]

end Sums

theorem total_finer_nil (d : Int) (parts : Nat) : total (finer [] d true parts) = 0 := by
  rw [finer, if_neg (fun h => Bool.noConfusion h.2)]
  rfl

theorem total_milliseconds {d : Int} (hlow : 0 ≤ d) (parts : Nat) : total (finer [] d false parts) = d := by
  rw [finer]
  split
  · rw [total_cons, Part.value]
    simp only [TimeUnit.length, total, List.map_nil, List.sum_nil]
    omega
  next hrest =>
    have hzero : d = 0 := by
      by_contra hne
      exact hrest ⟨by omega, rfl⟩
    rw [hzero]
    rfl

theorem close_milliseconds {d : Int} (hlow : 0 < d) : CloseParts d (finer [] d false 0) := by
  have htotal := total_milliseconds hlow.le 0
  rw [finer, if_pos ⟨hlow, rfl⟩] at htotal ⊢
  rw [CloseParts, htotal]
  simp only [lengths, ceilings]
  omega

theorem close_seconds {d : Int} (hlow : 0 < d) : CloseParts d (finer [.second] d false 0) := by
  rcases level_cases .second hlow.le with hup | ⟨hup, hless⟩ | ⟨hup, hwhole, hrest⟩ | ⟨hup, hwhole, hrounded⟩
  · rw [close_up hlow.le hup, total_finer_nil]
    simp only [lengths, ceilings] at *
    omega
  · rw [close_skip hlow.le hup hless]
    exact close_milliseconds hlow
  · rw [close_down hlow.le hup hwhole hrest, total_milliseconds (Int.emod_nonneg _ (length_pos _).ne')]
    simp only [lengths, ceilings]
    omega
  · rw [close_down_rounded hlow.le hup hwhole hrounded, total_finer_nil]
    simp only [lengths, ceilings] at *
    omega

theorem afterMinutes_iff (d : Int) : AfterMinutes d ↔ 51000 ≤ d % 60000 ∧ 850 ≤ d % 1000 := Iff.rfl

theorem afterHours_iff (d : Int) :
    AfterHours d ↔ 3060000 ≤ d % 3600000 ∧ (51000 ≤ d % 60000 ∨ 850 ≤ d % 1000 ∧ d % 3600000 < 3120000) := Iff.rfl

theorem afterDays_iff (d : Int) :
    AfterDays d ↔ 73440000 ≤ d % 86400000 ∧
      (3060000 ≤ d % 3600000 ∨ 51000 ≤ d % 60000 ∧ d % 86400000 < 75600000 ∨
        850 ≤ d % 1000 ∧ d % 86400000 < 73500000) := Iff.rfl

theorem carried_seconds {d : Int} (hlow : 0 ≤ d) :
    total (finer [.second] d true 1) = if 850 ≤ d % 1000 then d - d % 1000 + 1000 else 0 := by
  rw [total_carried hlow, total_finer_nil]
  simp only [lengths, ceilings]

theorem carried_minutes {d : Int} (hlow : 0 ≤ d) :
    total (finer [.minute, .second] d true 1) =
      if 51000 ≤ d % 60000 then d - d % 60000 + 60000
      else if 850 ≤ d % 60000 % 1000 then d % 60000 - d % 60000 % 1000 + 1000 else 0 := by
  rw [total_carried hlow, carried_seconds (Int.emod_nonneg _ (length_pos _).ne')]
  simp only [lengths, ceilings]

theorem carried_hours {d : Int} (hlow : 0 ≤ d) :
    total (finer [.hour, .minute, .second] d true 1) =
      if 3060000 ≤ d % 3600000 then d - d % 3600000 + 3600000
      else if 51000 ≤ d % 3600000 % 60000 then d % 3600000 - d % 3600000 % 60000 + 60000
      else if 850 ≤ d % 3600000 % 60000 % 1000 then d % 3600000 % 60000 - d % 3600000 % 60000 % 1000 + 1000 else 0 := by
  rw [total_carried hlow, carried_minutes (Int.emod_nonneg _ (length_pos _).ne')]
  simp only [lengths, ceilings]

theorem close_minutes {d : Int} (hlow : 0 < d) : CloseParts d (finer [.minute, .second] d false 0) ↔ ¬AfterMinutes d := by
  have hmod : 0 ≤ d % TimeUnit.minute.length := Int.emod_nonneg _ (length_pos _).ne'
  rw [afterMinutes_iff]
  rcases level_cases .minute hlow.le with hup | ⟨hup, hless⟩ | ⟨hup, hwhole, hrest⟩ | ⟨hup, hwhole, hrounded⟩
  · rw [close_up hlow.le hup, carried_seconds hmod]
    simp only [lengths, ceilings] at *
    split <;> omega
  · rw [close_skip hlow.le hup hless]
    simp only [lengths, ceilings] at hup
    exact iff_of_true (close_seconds hlow) (by omega)
  · rw [close_down hlow.le hup hwhole hrest, total_second _ _ hmod (by simp only [lengths, ceilings] at *; omega)]
    simp only [lengths, ceilings] at *
    split <;> omega
  · rw [close_down_rounded hlow.le hup hwhole hrounded, carried_seconds hmod]
    simp only [lengths, ceilings] at *
    split <;> omega

theorem close_hours {d : Int} (hlow : 0 < d) :
    CloseParts d (finer [.hour, .minute, .second] d false 0) ↔
      ¬(AfterHours d ∨ d < upperCeiling HOUR ∧ AfterMinutes d) := by
  have hmod : 0 ≤ d % TimeUnit.hour.length := Int.emod_nonneg _ (length_pos _).ne'
  have hceiling : upperCeiling HOUR = 3060000 := rfl
  rw [afterHours_iff, hceiling]
  rcases level_cases .hour hlow.le with hup | ⟨hup, hless⟩ | ⟨hup, hwhole, hrest⟩ | ⟨hup, hwhole, hrounded⟩
  · rw [close_up hlow.le hup, carried_minutes hmod, afterMinutes_iff]
    simp only [lengths, ceilings] at *
    split_ifs <;> omega
  · rw [close_skip hlow.le hup hless, close_minutes hlow]
    simp only [lengths, ceilings] at hup hless
    have hnone : ¬3060000 ≤ d % 3600000 := by omega
    simp only [hup, hnone, true_and, false_and, false_or]
  · rw [close_down hlow.le hup hwhole hrest, total_second _ _ hmod (by simp only [lengths, ceilings] at *; omega),
      afterMinutes_iff]
    simp only [lengths, ceilings] at *
    split <;> omega
  · rw [close_down_rounded hlow.le hup hwhole hrounded, carried_minutes hmod, afterMinutes_iff]
    simp only [lengths, ceilings] at *
    split_ifs <;> omega

theorem close_days {d : Int} (hlow : 0 < d) :
    CloseParts d (finer [.day, .hour, .minute, .second] d false 0) ↔
      ¬(AfterDays d ∨ d < upperCeiling DAY ∧ AfterHours d ∨ d < upperCeiling HOUR ∧ AfterMinutes d) := by
  have hmod : 0 ≤ d % TimeUnit.day.length := Int.emod_nonneg _ (length_pos _).ne'
  have hceilings : upperCeiling DAY = 73440000 ∧ upperCeiling HOUR = 3060000 := ⟨rfl, rfl⟩
  rw [afterDays_iff, hceilings.1, hceilings.2]
  rcases level_cases .day hlow.le with hup | ⟨hup, hless⟩ | ⟨hup, hwhole, hrest⟩ | ⟨hup, hwhole, hrounded⟩
  · rw [close_up hlow.le hup, carried_hours hmod, afterHours_iff, afterMinutes_iff]
    simp only [lengths, ceilings] at *
    split_ifs <;> omega
  · rw [close_skip hlow.le hup hless, close_hours hlow, hceilings.2]
    simp only [lengths, ceilings] at hup hless
    have hnone : ¬73440000 ≤ d % 86400000 := by omega
    simp only [hup, hnone, true_and, false_and, false_or]
  · rw [close_down hlow.le hup hwhole hrest, total_second _ _ hmod (by simp only [lengths, ceilings] at *; omega),
      afterHours_iff, afterMinutes_iff]
    simp only [lengths, ceilings] at *
    split <;> omega
  · rw [close_down_rounded hlow.le hup hwhole hrounded, carried_hours hmod, afterHours_iff, afterMinutes_iff]
    simp only [lengths, ceilings] at *
    split_ifs <;> omega

/-! ## Reading the text -/

theorem words_rendered (parts : List Part) : words isBlank (rendered parts) = parts.map fun part => part.text.toList := by
  refine words_intercalate rfl fun word hword => ?_
  obtain ⟨part, -, rfl⟩ := List.mem_map.mp hword
  have hname : part.unit.name.toList.any isBlank = false := by cases part.unit <;> decide
  rw [part.toList_text]
  refine ⟨fun hnil => digits_ne_nil _ (List.append_eq_nil_iff.mp hnil).1, fun c hc => ?_⟩
  rcases List.mem_append.mp hc with hdigit | hunit
  · refine decide_eq_false fun hblank => ?_
    have hisDigit := digits_isDigit _ c hdigit
    rw [hblank] at hisDigit
    exact absurd hisDigit (by decide)
  · simpa using List.any_eq_false.mp hname c hunit

theorem unitLength_text (part : Part) : unitLength part.text.toList = part.unit.length := by
  have hname : (part.unit.name.toList).dropWhile Char.isDigit = part.unit.name.toList := by cases part.unit <;> decide
  have hdrop : (part.text.toList).dropWhile Char.isDigit = part.unit.name.toList := by
    rw [part.toList_text, List.dropWhile_append_of_pos (digits_isDigit _), hname]
  rw [unitLength, hdrop, nTimes_name]
  cases part.unit <;> decide

/-- The largest unit of parts whose units get finer is that of the first. -/
theorem staysClose_iff {delta : Int} {parts : List Part} (hints : ∀ part ∈ parts, part.number ≤ 0x7fffffff)
    (hlong : total parts < 0x8000000000000000) (hlength : parts.length = 1 ∨ parts.length = 2)
    (hdescending : parts.Pairwise fun part later => later.unit.length ≤ part.unit.length) :
    StaysClose delta (rendered parts) ↔ CloseParts delta parts := by
  have hread := eval_rendered hints hlong
  have hwords := words_rendered parts
  cases parts with
  | nil => exact absurd hlength (by decide)
  | cons first rest =>
    have hfirst : ∀ part ∈ first :: rest, part.unit.length ≤ first.unit.length := by
      intro part hpart
      rcases List.mem_cons.mp hpart with rfl | hlater
      · exact Int.le_refl _
      · exact (List.pairwise_cons.mp hdescending).1 part hlater
    constructor
    · rintro ⟨-, read, largest, heval, hlargest, hall, hclose⟩
      rw [hread, Option.some.injEq] at heval
      rw [hwords] at hlargest hall
      obtain ⟨part, hpart, rfl⟩ := List.mem_map.mp hlargest
      have hmost := hall _ (List.mem_map_of_mem List.mem_cons_self)
      rw [unitLength_text, unitLength_text] at hmost
      have hsame : part.unit.length = first.unit.length := Int.le_antisymm (hfirst part hpart) hmost
      rw [unitLength_text, hsame, ← heval] at hclose
      exact hclose
    · intro hclose
      refine ⟨by rw [hwords, List.length_map]; exact hlength, total (first :: rest), first.text.toList, hread, ?_, ?_, ?_⟩
      · rw [hwords]
        exact List.mem_map_of_mem List.mem_cons_self
      · rw [hwords]
        intro word hword
        obtain ⟨part, hpart, rfl⟩ := List.mem_map.mp hword
        rw [unitLength_text, unitLength_text]
        exact hfirst part hpart
      · rw [unitLength_text]
        exact hclose

/-! ## Every duration -/

/-- The years are rounded up, or down, or have another part behind them, or there are none. -/
theorem approximated_cases {delta : Int} (hlow : 0 < delta) :
    upperCeiling YEAR ≤ delta % YEAR ∧ approximated delta = [⟨(delta / YEAR + 1).toNat, .year⟩] ∨
      YEAR ≤ delta ∧ delta % YEAR ≤ lowerCeiling YEAR ∧ approximated delta = [⟨(delta / YEAR).toNat, .year⟩] ∨
      YEAR ≤ delta ∧ lowerCeiling YEAR < delta % YEAR ∧
        approximated delta = ⟨(delta / YEAR).toNat, .year⟩ :: finer [.day, .hour, .minute, .second] (delta % YEAR) false 1 ∨
      delta < upperCeiling YEAR ∧ approximated delta = finer [.day, .hour, .minute, .second] delta false 0 := by
  rw [approximated]
  by_cases hup : upperCeiling YEAR ≤ delta % YEAR
  · exact .inl ⟨hup, if_pos hup⟩
  · rw [if_neg hup]
    by_cases hwhole : YEAR ≤ delta
    · rw [if_pos hwhole]
      by_cases hrounded : delta % YEAR ≤ lowerCeiling YEAR
      · exact .inr (.inl ⟨hwhole, hrounded, by rw [if_pos hrounded]⟩)
      · exact .inr (.inr (.inl ⟨hwhole, Int.not_le.mp hrounded, by rw [if_neg hrounded]⟩))
    · have hsame : delta % YEAR = delta := Int.emod_eq_of_lt hlow.le (Int.not_le.mp hwhole)
      rw [if_neg hwhole, hsame]
      exact .inr (.inr (.inr ⟨by omega, rfl⟩))

theorem approximated_shape {delta : Int} (hlow : 0 < delta) :
    ((approximated delta).length = 1 ∨ (approximated delta).length = 2) ∧
      ((approximated delta).Pairwise fun part later => later.unit.length ≤ part.unit.length) ∧
      total (approximated delta) ≤ delta + 63072000000 := by
  have hyear : YEAR = 31536000000 := by decide
  have hmod : 0 ≤ delta % YEAR := Int.emod_nonneg _ (by omega)
  have hunits : [TimeUnit.day, .hour, .minute, .second].Pairwise fun bigger smaller => smaller.length ≤ bigger.length := by
    decide
  rcases approximated_cases hlow with ⟨-, hparts⟩ | ⟨-, -, hparts⟩ | ⟨-, -, hparts⟩ | ⟨-, hparts⟩
  · have htotal := total_up .year [] hlow.le
    rw [TimeUnit.length, total_nil] at htotal
    rw [hparts]
    exact ⟨.inl rfl, List.pairwise_singleton _ _, by omega⟩
  · have htotal := total_down .year [] hlow.le
    rw [TimeUnit.length, total_nil] at htotal
    rw [hparts]
    exact ⟨.inl rfl, List.pairwise_singleton _ _, by omega⟩
  · have htotal := total_down .year (finer [.day, .hour, .minute, .second] (delta % YEAR) false 1) hlow.le
    have hlength := finer_length [.day, .hour, .minute, .second] false hmod (Nat.le_refl 1)
    have hbound := finer_total_le [.day, .hour, .minute, .second] false hmod (Nat.le_refl 1)
    rw [TimeUnit.length] at htotal
    rw [hparts, List.length_cons]
    refine ⟨by omega, List.pairwise_cons.mpr ⟨fun part _ => length_le_year part.unit, finer_descending hmod hunits⟩, by omega⟩
  · have hlength := finer_length [.day, .hour, .minute, .second] false hlow.le (Nat.zero_le 1)
    have hbound := finer_total_le [.day, .hour, .minute, .second] false hlow.le (Nat.zero_le 1)
    have hne := finer_ne_nil [.day, .hour, .minute, .second] 0 hlow
    rw [hparts]
    exact ⟨by have := List.length_pos_of_ne_nil hne; omega, finer_descending hlow.le hunits, by omega⟩

theorem years : YEAR = 31536000000 ∧ upperCeiling 31536000000 = 26805600000 ∧ lowerCeiling 31536000000 = 4730400000 := by
  decide

theorem close_approximated {delta : Int} (hlow : 0 < delta) : CloseParts delta (approximated delta) ↔ ¬RoundedTwice delta := by
  have hnone : ¬delta < upperCeiling YEAR → ¬RoundedTwice delta := fun hge htwice => hge htwice.1
  rcases approximated_cases hlow with
    ⟨hup, hparts⟩ | ⟨hwhole, hrounded, hparts⟩ | ⟨hwhole, hrest, hparts⟩ | ⟨hsmall, hparts⟩
  · have htotal := total_up .year [] hlow.le
    rw [hparts, CloseParts]
    simp only [TimeUnit.length, years, ceilings, total_nil] at *
    exact iff_of_true (by omega) (hnone (by omega))
  · have htotal := total_down .year [] hlow.le
    rw [hparts, CloseParts]
    simp only [TimeUnit.length, years, ceilings, total_nil] at *
    exact iff_of_true (by omega) (hnone (by omega))
  · have hmod : 0 ≤ delta % YEAR := Int.emod_nonneg _ (by decide)
    have htotal := total_down .year (finer [.day, .hour, .minute, .second] (delta % YEAR) false 1) hlow.le
    have hdays := total_second .day [.hour, .minute, .second] hmod
      (by simp only [lengths, years] at *; omega)
    simp only [lengths, ceilings] at hdays
    rw [hdays] at htotal
    rw [hparts, CloseParts]
    simp only [TimeUnit.length, years, ceilings] at *
    refine iff_of_true ?_ (hnone (by omega))
    split at htotal <;> omega
  · rw [hparts, close_days hlow, RoundedTwice]
    simp only [hsmall, true_and]

/-- **What is read back is close, exactly if no two units are rounded up.** -/
theorem approximate_close_iff {delta : Int} (hlow : 0 < delta) (hdelta : delta < 2 ^ 52) :
    StaysClose delta (getApproximately delta).toList ↔ ¬RoundedTwice delta := by
  obtain ⟨blank, hwrites⟩ := getApproximately_writes hlow.le hdelta
  obtain ⟨hlength, hdescending, htotal⟩ := approximated_shape hlow
  rw [hwrites.text, staysClose_iff hwrites.ints (by omega) hlength hdescending]
  exact close_approximated hlow

/-- Two hours. -/
theorem approximate_close_iff_hours : StaysClose 7200000 (getApproximately 7200000).toList ↔ ¬RoundedTwice 7200000 :=
  approximate_close_iff (by decide) (by decide)

/-- 23 hours and 55 minutes are a day, and 24 hours more. -/
theorem day_written_twice :
    eval (getApproximately 86100000).toList = some 172800000 ∧ ¬StaysClose 86100000 (getApproximately 86100000).toList := by
  obtain ⟨blank, hwrites⟩ : ∃ blank, TimeFormatter.Writes (getApproximately 86100000) blank (approximated 86100000) :=
    getApproximately_writes (by decide) (by decide)
  have hparts : approximated 86100000 = [⟨1, .day⟩, ⟨24, .hour⟩] := by decide
  rw [hparts] at hwrites
  rw [hwrites.text]
  constructor
  · exact eval_rendered hwrites.ints (by decide)
  · rw [staysClose_iff hwrites.ints (by decide) (by decide) (by decide), CloseParts]
    decide

end NatTester.Guarantees
