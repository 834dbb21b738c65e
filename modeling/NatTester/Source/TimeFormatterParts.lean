import NatTester.Lib.Words
import NatTester.Source.TimeFormatter

/-!
# The parts of a duration

What `getExactly` and `getApproximately` write is a list of parts, each a number and a
unit, with a blank between each two; `eval` reads the sum of such a list. It acts at the
end of a token: it keeps a number, and adds a unit as often as the number before it says.
-/
namespace NatTester.Source
open NatTester.Lib

namespace TimeFormatter

inductive TimeUnit where
  | year | day | hour | minute | second | millisecond
  deriving DecidableEq, Repr

/-- The milliseconds of a unit. -/
def TimeUnit.length : TimeUnit → Int
  | .year => YEAR
  | .day => DAY
  | .hour => HOUR
  | .minute => MINUTE
  | .second => SECOND
  | .millisecond => 1

def TimeUnit.name : TimeUnit → String
  | .year => "y"
  | .day => "d"
  | .hour => "h"
  | .minute => "m"
  | .second => "s"
  | .millisecond => "ms"

structure Part where
  number : Nat
  unit : TimeUnit
  deriving DecidableEq, Repr

def Part.text (part : Part) : String := toString part.number ++ part.unit.name

def Part.value (part : Part) : Int := part.unit.length * part.number

def rendered (parts : List Part) : List Char := [' '].intercalate (parts.map fun part => part.text.toList)

def total (parts : List Part) : Int := (parts.map Part.value).sum

theorem Part.value_nonneg (part : Part) : 0 ≤ part.value := by
  refine Int.mul_nonneg ?_ (Int.natCast_nonneg _)
  cases part.unit <;> decide

theorem total_nil : total [] = 0 := rfl

theorem total_cons (part : Part) (parts : List Part) : total (part :: parts) = part.value + total parts := rfl

theorem total_nonneg (parts : List Part) : 0 ≤ total parts := by
  induction parts with
  | nil => exact Int.le_refl 0
  | cons part parts ih => exact Int.add_nonneg part.value_nonneg ih

/-! ## Tokens -/

/-- The digits of a number, as the code writes them. -/
def digits (n : Nat) : List Char := (toString n).toList

theorem Part.toList_text (part : Part) : part.text.toList = digits part.number ++ part.unit.name.toList :=
  String.toList_append

theorem digits_isDigit (n : Nat) : ∀ c ∈ digits n, c.isDigit = true := by
  intro c hc
  rw [digits, Nat.toString_eq_repr, Nat.toList_repr] at hc
  exact Nat.isDigit_of_mem_toDigits (by decide) (by decide) hc

theorem digits_ne_nil (n : Nat) : digits n ≠ [] := by
  rw [digits, Nat.toString_eq_repr, Nat.toList_repr]
  exact Nat.toDigits_ne_nil

/-- A written number is read back. -/
theorem parseInt_digits {n : Nat} (h : n ≤ 0x7fffffff) : parseInt (digits n) = some (n : Int) := by
  have hread : Nat.ofDigitChars 10 (digits n) 0 = n := by
    rw [digits, Nat.toString_eq_repr, Nat.toList_repr, Nat.ofDigitChars_ten_toDigits]
  rw [parseInt, hread]
  exact if_pos h

theorem getState_digits (n : Nat) : ∀ c ∈ digits n, getState c = .number :=
  fun c hc => if_pos (digits_isDigit n c hc)

theorem getState_name (unit : TimeUnit) : ∀ c ∈ unit.name.toList, getState c = .unit := by
  have hname : (unit.name.toList.all fun c => getState c = .unit) = true := by cases unit <;> decide
  exact fun c hc => of_decide_eq_true (List.all_eq_true.mp hname c hc)

theorem name_ne_nil (unit : TimeUnit) : unit.name.toList ≠ [] := by
  cases unit <;> decide

/-- Each unit is found under its name. -/
theorem nTimes_name (unit : TimeUnit) (delta n : Int) : nTimes delta unit.name.toList n = times unit.length delta n := by
  cases unit <;> rfl

/-! ## The loop -/

section Loop

variable {text : List Char} {e : Evaluation}

/-- Inside a token nothing happens. -/
theorem foldlM_same {run : List Char} (h : ∀ c ∈ run, getState c = e.oldState) :
    run.foldlM (evalChar text) e = some { e with stop := e.stop + run.length } := by
  induction run generalizing e with
  | nil => rfl
  | cons c run ih =>
    have hfirst : evalChar text e c = some { e with stop := e.stop + 1 } := by
      rw [evalChar, h c List.mem_cons_self]
      simp
    have hrest := ih (e := { e with stop := e.stop + 1 }) fun x hx => h x (List.mem_cons_of_mem _ hx)
    rw [List.foldlM_cons, hfirst, Option.bind_eq_bind, Option.bind_some, hrest, List.length_cons]
    dsimp only
    congr 2
    omega

/-- A token ends the one before it. -/
theorem foldlM_token {run : List Char} {state : State} {e' : Evaluation} (hne : run ≠ [])
    (h : ∀ c ∈ run, getState c = state) (hstate : e.oldState ≠ state) (hend : endToken text e = some e') :
    run.foldlM (evalChar text) e =
      some { e' with start := e'.stop, stop := e'.stop + run.length, oldState := state } := by
  obtain ⟨c, run, rfl⟩ := List.exists_cons_of_ne_nil hne
  have hfirst : evalChar text e c = some { e' with start := e'.stop, stop := e'.stop + 1, oldState := state } := by
    rw [evalChar, h c List.mem_cons_self]
    simp [hstate, hend]
  have hrest : run.foldlM (evalChar text) { e' with start := e'.stop, stop := e'.stop + 1, oldState := state } = _ :=
    foldlM_same fun x hx => h x (List.mem_cons_of_mem _ hx)
  rw [List.foldlM_cons, hfirst, Option.bind_eq_bind, Option.bind_some, hrest, List.length_cons]
  dsimp only
  congr 2
  omega

theorem subSequence_append (front token rest : List Char) :
    subSequence (front ++ (token ++ rest)) front.length (front.length + token.length) = token := by
  rw [subSequence, List.drop_left, Nat.add_sub_cancel_left, List.take_left]

/-- After a part its number is kept, and its unit is the pending token. -/
theorem foldlM_part {front rest : List Char} {part : Part} (hint : part.number ≤ 0x7fffffff)
    (htext : text = front ++ (part.text.toList ++ rest)) (hstop : e.stop = front.length) (hstate : e.oldState = .ignored) :
    part.text.toList.foldlM (evalChar text) e =
      some ⟨e.out, part.number, front.length + (digits part.number).length, front.length + part.text.toList.length,
        .unit⟩ := by
  have hstart : endToken text e = some e := by
    rw [endToken, hstate]
  have hnumber := foldlM_token (digits_ne_nil part.number) (getState_digits part.number) (by rw [hstate]; decide) hstart
  have hparse : endToken text { e with start := e.stop, stop := e.stop + (digits part.number).length, oldState := .number } =
      some { e with num := part.number, start := e.stop, stop := e.stop + (digits part.number).length, oldState := .number } := by
    have hdigits : subSequence text e.stop (e.stop + (digits part.number).length) = digits part.number := by
      rw [htext, part.toList_text, List.append_assoc, hstop, subSequence_append]
    simp only [endToken, hdigits, parseInt_digits hint, Option.map_some]
  have hunit := foldlM_token (name_ne_nil part.unit) (getState_name part.unit) (State.noConfusion) hparse
  rw [part.toList_text, List.foldlM_append, hnumber, Option.bind_eq_bind, Option.bind_some, hunit, hstop, List.length_append,
    Nat.add_assoc]

/-- The pending part is added. -/
theorem nTimes_part {front rest : List Char} {part : Part} {out : Int} (hint : part.number ≤ 0x7fffffff)
    (htext : text = front ++ (part.text.toList ++ rest)) (hout : 0 ≤ out) (hlong : out + part.value < 0x8000000000000000) :
    nTimes out (subSequence text (front.length + (digits part.number).length) (front.length + part.text.toList.length))
        part.number =
      out + part.value := by
  have htoken : subSequence text (front.length + (digits part.number).length) (front.length + part.text.toList.length) =
      part.unit.name.toList := by
    have hsplit : text = (front ++ digits part.number) ++ (part.unit.name.toList ++ rest) := by
      rw [htext, part.toList_text]
      simp only [List.append_assoc]
    rw [hsplit, part.toList_text, List.length_append, ← Nat.add_assoc, ← List.length_append, subSequence_append]
  have hnonneg := part.value_nonneg
  rw [htoken, nTimes_name, times, Int.natAbs_natCast, asInt_of_int (by omega) (by omega)]
  rw [Part.value] at hnonneg hlong ⊢
  rw [asLong_of_long (n := part.unit.length * part.number) (by omega) (by omega), asLong_of_long (by omega) (by omega)]

/-- A blank adds the pending part. -/
theorem foldlM_blank {front rest : List Char} {part : Part} {out : Int} (hint : part.number ≤ 0x7fffffff)
    (htext : text = front ++ (part.text.toList ++ rest)) (hout : 0 ≤ out) (hlong : out + part.value < 0x8000000000000000) :
    [' '].foldlM (evalChar text)
        ⟨out, part.number, front.length + (digits part.number).length, front.length + part.text.toList.length, .unit⟩ =
      some ⟨out + part.value, 0, front.length + part.text.toList.length, front.length + part.text.toList.length + 1,
        .ignored⟩ := by
  have hblank : ∀ c ∈ [' '], getState c = .ignored := List.forall_mem_singleton.mpr rfl
  rw [foldlM_token (List.cons_ne_nil _ _) hblank (State.noConfusion) rfl, nTimes_part hint htext hout hlong]
  rfl

/-- From the front of a part on, `eval` adds the parts. -/
theorem eval_parts {front : List Char} {part : Part} {parts : List Part}
    (hints : ∀ p ∈ part :: parts, p.number ≤ 0x7fffffff)
    (htext : text = front ++ rendered (part :: parts)) (hstop : e.stop = front.length) (hstate : e.oldState = .ignored)
    (hout : 0 ≤ e.out) (hlong : e.out + total (part :: parts) < 0x8000000000000000) :
    ((rendered (part :: parts)).foldlM (evalChar text) e).map (evalEnd text) = some (e.out + total (part :: parts)) := by
  induction parts generalizing front part e with
  | nil =>
    have hint := hints part List.mem_cons_self
    have hlast : rendered [part] = part.text.toList := by simp [rendered]
    have htotal : total [part] = part.value := Int.add_zero _
    rw [htotal] at hlong ⊢
    rw [hlast] at htext ⊢
    rw [← List.append_nil part.text.toList] at htext
    rw [foldlM_part hint htext hstop hstate, Option.map_some, evalEnd, if_pos rfl, nTimes_part hint htext hout hlong]
  | cons next parts ih =>
    have hint := hints part List.mem_cons_self
    have hsplit : rendered (part :: next :: parts) = part.text.toList ++ ([' '] ++ rendered (next :: parts)) := by
      simp [rendered, List.intercalate_cons_cons]
    have hvalue := part.value_nonneg
    have hrest := total_nonneg (next :: parts)
    rw [total_cons] at hlong ⊢
    rw [hsplit] at htext ⊢
    have hfront : text = (front ++ part.text.toList ++ [' ']) ++ rendered (next :: parts) := by
      rw [htext]
      simp only [List.append_assoc]
    have hstop' : front.length + part.text.toList.length + 1 = (front ++ part.text.toList ++ [' ']).length := by
      simp only [List.length_append, List.length_singleton]
    have htail := ih (e := ⟨e.out + part.value, 0, front.length + part.text.toList.length, _, .ignored⟩)
      (fun p hp => hints p (List.mem_cons_of_mem _ hp)) hfront hstop' rfl (by dsimp only; omega) (by dsimp only; omega)
    rw [List.foldlM_append, foldlM_part hint htext hstop hstate, Option.bind_eq_bind, Option.bind_some, List.foldlM_append,
      foldlM_blank hint htext hout (by omega), Option.bind_eq_bind, Option.bind_some, htail, Int.add_assoc]

end Loop

/-- **`eval` reads the sum of the parts.** -/
theorem eval_rendered {parts : List Part} (hints : ∀ part ∈ parts, part.number ≤ 0x7fffffff)
    (hlong : total parts < 0x8000000000000000) : eval (rendered parts) = some (total parts) := by
  cases parts with
  | nil => rfl
  | cons part parts =>
    have hfront : rendered (part :: parts) = [] ++ rendered (part :: parts) := rfl
    have hsum := eval_parts (e := ⟨0, 0, 0, 0, .ignored⟩) hints hfront rfl rfl (Int.le_refl 0)
      (by rw [Int.zero_add]; exact hlong)
    rwa [Int.zero_add] at hsum

/-! ## Writing -/

theorem total_concat (parts : List Part) (part : Part) : total (parts ++ [part]) = total parts + part.value := by
  induction parts with
  | nil => exact Int.add_comm part.value 0
  | cons first parts ih => rw [List.cons_append, total_cons, ih, total_cons, Int.add_assoc]

/-- The text `a` holds the parts, and another one is separated from them. -/
structure Writes (a : String) (prependBlank : Bool) (parts : List Part) : Prop where
  text : a.toList = rendered parts
  blank : prependBlank = !parts.isEmpty
  ints : ∀ part ∈ parts, part.number ≤ 0x7fffffff

theorem Writes.nil : Writes "" false [] := ⟨rfl, rfl, fun _ hpart => nomatch hpart⟩

/-- A part is appended. -/
theorem Writes.append {a : String} {prependBlank : Bool} {parts : List Part} (h : Writes a prependBlank parts) (part : Part)
    (hint : part.number ≤ 0x7fffffff) :
    Writes ((if prependBlank then a ++ " " else a) ++ toString part.number ++ part.unit.name) true (parts ++ [part]) := by
  refine ⟨?_, by simp, ?_⟩
  · rw [String.append_assoc, String.toList_append]
    cases parts with
    | nil =>
      have htext : a.toList = [] := h.text
      rw [h.blank]
      simp [htext, rendered, Part.text]
    | cons first parts =>
      have htext : (a ++ " ").toList = rendered (first :: parts) ++ [' '] := by rw [String.toList_append, h.text]; rfl
      rw [h.blank]
      simp only [List.isEmpty_cons, Bool.not_false, if_true, htext]
      rw [rendered, rendered, List.map_append, List.map_singleton, intercalate_concat ' ' (by simp), List.append_assoc]
      rfl
  · intro other hother
    rcases List.mem_append.mp hother with hfront | hlast
    · exact h.ints other hfront
    · exact List.mem_singleton.mp hlast ▸ hint

theorem length_pos (unit : TimeUnit) : 0 < unit.length := by
  cases unit <;> decide

theorem length_lt (unit : TimeUnit) : unit.length < 2 ^ 52 := by
  cases unit <;> decide

section Quotient

variable {d : Int}

theorem double_long (hlow : 0 ≤ d) (hd : d < 2 ^ 52) : double d = d :=
  double_intCast (by rw [abs_of_nonneg hlow]; omega)

theorem toString_toInt {n : Nat} (h : n ≤ 0x7fffffff) : toString (toInt n) = toString n := by
  have hsame : toInt n = n := by
    unfold toInt
    omega
  rw [hsame]
  rfl

/-- The integer quotient is written. -/
theorem floor_eq (unit : TimeUnit) (hlow : 0 ≤ d) (hd : d < 2 ^ 52) (hint : d < 0x80000000 * unit.length) :
    floor d unit.length = toString (d / unit.length).toNat ∧ (d / unit.length).toNat ≤ 0x7fffffff := by
  have hpos := length_pos unit
  have hlength := length_lt unit
  rw [floor, double_long hlow hd, double_long hpos.le hlength]
  generalize unit.length = n at *
  lift d to ℕ using hlow
  lift n to ℕ using hpos.le
  have hquotient : d / n ≤ 0x7fffffff := by
    rw [← Nat.lt_succ_iff]
    exact Nat.div_lt_of_lt_mul (by rw [Nat.mul_comm]; exact_mod_cast hint)
  rw [Int.cast_natCast, Int.cast_natCast, floor_double_quotient (by exact_mod_cast hd) (by exact_mod_cast hpos),
    toString_toInt hquotient]
  exact ⟨rfl, hquotient⟩

/-- The next number is written where the unit does not divide the duration. -/
theorem ceil_eq (unit : TimeUnit) (hlow : 0 ≤ d) (hd : d < 2 ^ 52) (hint : d < 0x7fffffff * unit.length)
    (hmod : 0 < d % unit.length) :
    ceil d unit.length = toString (d / unit.length + 1).toNat ∧ (d / unit.length + 1).toNat ≤ 0x7fffffff := by
  have hpos := length_pos unit
  have hlength := length_lt unit
  rw [ceil, double_long hlow hd, double_long hpos.le hlength]
  generalize unit.length = n at *
  lift d to ℕ using hlow
  lift n to ℕ using hpos.le
  have hmod' : 0 < d % n := by exact_mod_cast hmod
  have hquotient : d / n + 1 ≤ 0x7fffffff := Nat.div_lt_of_lt_mul (by rw [Nat.mul_comm]; exact_mod_cast hint)
  have hnext : (d - 1) / n = d / n := by
    have hsplit := Nat.div_add_mod d n
    have hlt := Nat.mod_lt d (show 0 < n by exact_mod_cast hpos)
    refine Nat.div_eq_of_lt_le ?_ ?_
    · rw [Nat.mul_comm]
      omega
    · rw [Nat.add_one_mul, Nat.mul_comm]
      omega
  have hzero : 0 < d := Nat.pos_of_ne_zero fun heq => by simp [heq] at hmod'
  rw [Int.cast_natCast, Int.cast_natCast, ceil_double_quotient (by exact_mod_cast hd) (by exact_mod_cast hpos) hzero, hnext,
    toString_toInt hquotient]
  exact ⟨rfl, hquotient⟩

end Quotient

end TimeFormatter

end NatTester.Source
