import Mathlib.Tactic.Common

/-!
# Lines of a text

A line ends at CR, at LF, at CR and LF together, or at the end of the text. A text
that ends with a line break has no empty line behind it.
-/
namespace NatTester.Lib

def isLineBreak (ch : Char) : Bool := ch = '\r' ∨ ch = '\n'

/-- The text behind the line break it begins with. -/
def skipBreak : List Char → List Char
  | '\r' :: '\n' :: rest => rest
  | '\r' :: rest => rest
  | '\n' :: rest => rest
  | rest => rest

theorem length_skipBreak_le (s : List Char) : (skipBreak s).length ≤ s.length := by
  unfold skipBreak
  split <;> grind

theorem length_skipBreak_lt {ch : Char} (hch : isLineBreak ch = true) (rest : List Char) :
    (skipBreak (ch :: rest)).length ≤ rest.length := by
  unfold skipBreak
  split
  next heq =>
    rw [(List.cons.inj heq).2, List.length_cons]
    omega
  next heq => exact Nat.le_of_eq (congrArg List.length (List.cons.inj heq).2.symm)
  next heq => exact Nat.le_of_eq (congrArg List.length (List.cons.inj heq).2.symm)
  next hcr hlf =>
    simp only [isLineBreak, Bool.decide_or, Bool.or_eq_true, decide_eq_true_eq] at hch
    rcases hch with rfl | rfl
    · exact absurd rfl (hcr rest)
    · exact absurd rfl (hlf rest)

def lines (s : List Char) : List (List Char) :=
  match s with
  | [] => []
  | ch :: rest =>
    ((ch :: rest).takeWhile fun ch => !isLineBreak ch) :: lines (skipBreak ((ch :: rest).dropWhile fun ch => !isLineBreak ch))
termination_by s.length
decreasing_by
  rw [List.length_cons, Nat.lt_succ_iff]
  by_cases hch : isLineBreak ch = true
  · rw [List.dropWhile_cons_of_neg (by simp [hch])]
    exact length_skipBreak_lt hch rest
  · rw [List.dropWhile_cons_of_pos (by simp [hch])]
    exact Nat.le_trans (length_skipBreak_le _) (List.dropWhile_sublist _).length_le

theorem mem_lines {s line : List Char} (h : line ∈ lines s) : ∀ ch ∈ line, isLineBreak ch = false := by
  induction s using lines.induct with
  | case1 =>
    rw [lines] at h
    cases h
  | case2 ch rest ih =>
    rw [lines] at h
    rcases List.mem_cons.mp h with rfl | hlater
    · intro x hx
      simpa using List.all_eq_true.mp List.all_takeWhile x hx
    · exact ih hlater

/-- Every line with CR and LF behind it. -/
def terminated (ls : List (List Char)) : List Char := ls.flatMap fun line => line ++ ['\r', '\n']

/-- The first line of a text, up to its line break. -/
theorem lines_break_cons {line rest : List Char} (h : ∀ ch ∈ line, isLineBreak ch = false) {ch : Char}
    (hch : isLineBreak ch = true) : lines (line ++ ch :: rest) = line :: lines (skipBreak (ch :: rest)) := by
  have htake : (line ++ ch :: rest).takeWhile (fun ch => !isLineBreak ch) = line := by
    rw [List.takeWhile_append_of_pos fun x hx => by simp [h x hx], List.takeWhile_cons_of_neg (by simp [hch]),
      List.append_nil]
  have hdrop : (line ++ ch :: rest).dropWhile (fun ch => !isLineBreak ch) = ch :: rest := by
    rw [List.dropWhile_append_of_pos fun x hx => by simp [h x hx], List.dropWhile_cons_of_neg (by simp [hch])]
  obtain ⟨first, others, htext⟩ := List.exists_cons_of_ne_nil (l := line ++ ch :: rest) (by simp)
  rw [htext] at htake hdrop ⊢
  rw [lines, htake, hdrop]

theorem lines_terminated_cons {line : List Char} (h : ∀ ch ∈ line, isLineBreak ch = false) (rest : List Char) :
    lines (line ++ '\r' :: '\n' :: rest) = line :: lines rest := by
  rw [lines_break_cons h (by decide)]
  rfl

/-- Lines with LF behind them are read back. -/
theorem lines_newlines {ls : List (List Char)} (h : ∀ line ∈ ls, ∀ ch ∈ line, isLineBreak ch = false) :
    lines (ls.flatMap fun line => line ++ ['\n']) = ls := by
  induction ls with
  | nil => rw [List.flatMap_nil, lines]
  | cons line ls ih =>
    have htail := ih fun other hother => h other (List.mem_cons_of_mem _ hother)
    rw [List.flatMap_cons, List.append_assoc, List.singleton_append, lines_break_cons (h line List.mem_cons_self) (by decide)]
    exact congrArg (line :: ·) htail

/-- Terminated lines are read back. -/
theorem lines_terminated {ls : List (List Char)} (h : ∀ line ∈ ls, ∀ ch ∈ line, isLineBreak ch = false) :
    lines (terminated ls) = ls := by
  induction ls with
  | nil =>
    rw [terminated, List.flatMap_nil, lines]
  | cons line ls ih =>
    have htail := ih fun other hother => h other (List.mem_cons_of_mem _ hother)
    have htext : terminated (line :: ls) = line ++ '\r' :: '\n' :: terminated ls := by simp [terminated]
    rw [htext, lines_terminated_cons (h line List.mem_cons_self), htail]

end NatTester.Lib
