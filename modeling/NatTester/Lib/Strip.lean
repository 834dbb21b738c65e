import Mathlib.Data.List.DropRight
import Mathlib.Tactic.Common

/-!
# Stripping both ends of a list

`IsStripped p s u` says that `u` is what remains of `s` without the elements with
`p` at either end. Every list has exactly one such part.
-/
namespace NatTester.Lib

variable {α : Type} {p : α → Bool}

/-- `s` is `u` between elements with `p`, and `u`, unless it is empty, begins and ends with one without. -/
structure IsStripped (p : α → Bool) (s u : List α) : Prop where
  between : ∃ a b, s = a ++ u ++ b ∧ (∀ x ∈ a, p x = true) ∧ ∀ x ∈ b, p x = true
  head : ∀ x ∈ u.head?, p x = false
  last : ∀ x ∈ u.getLast?, p x = false

def strip (p : α → Bool) (s : List α) : List α := (s.dropWhile p).rdropWhile p

theorem strip_of_all {s : List α} (h : ∀ x ∈ s, p x = true) : strip p s = [] := by
  have hdropped : s.dropWhile p = [] := List.dropWhile_eq_nil_iff.mpr h
  rw [strip, hdropped, List.rdropWhile_nil]

/-- What is in front and behind does not matter. -/
theorem strip_append {a u b : List α} (ha : ∀ x ∈ a, p x = true) (hb : ∀ x ∈ b, p x = true) (hu : u ≠ [])
    (hhead : ∀ x ∈ u.head?, p x = false) (hlast : ∀ x ∈ u.getLast?, p x = false) : strip p (a ++ u ++ b) = u := by
  have hfront : (u ++ b).dropWhile p = u ++ b := by
    cases u with
    | nil => exact absurd rfl hu
    | cons c rest =>
      have hc := hhead c rfl
      rw [List.cons_append, List.dropWhile_cons_of_neg]
      simp [hc]
  have hback : b.reverse.dropWhile p = [] := List.dropWhile_eq_nil_iff.mpr fun x hx => hb x (List.mem_reverse.mp hx)
  have hend : u.rdropWhile p = u := by
    rw [List.rdropWhile_eq_self_iff]
    intro hl
    have hc := hlast (u.getLast hl) (List.getLast?_eq_some_getLast hl)
    simp [hc]
  rw [strip, List.append_assoc, List.dropWhile_append_of_pos ha, hfront, List.rdropWhile, List.reverse_append,
    List.dropWhile_append, hback]
  exact hend

theorem IsStripped.eq_strip {s u : List α} (h : IsStripped p s u) : u = strip p s := by
  obtain ⟨a, b, rfl, ha, hb⟩ := h.between
  by_cases hu : u = []
  · subst hu
    refine (strip_of_all ?_).symm
    intro x hx
    rw [List.append_nil] at hx
    rcases List.mem_append.mp hx with hx | hx
    · exact ha x hx
    · exact hb x hx
  · exact (strip_append ha hb hu h.head h.last).symm

theorem strip_isStripped (p : α → Bool) (s : List α) : IsStripped p s (strip p s) := by
  have hsplit : s.dropWhile p = strip p s ++ (s.dropWhile p).rtakeWhile p := List.rdropWhile_append_rtakeWhile.symm
  refine ⟨⟨s.takeWhile p, (s.dropWhile p).rtakeWhile p, ?_, ?_, ?_⟩, ?_, ?_⟩
  · rw [List.append_assoc, ← hsplit, List.takeWhile_append_dropWhile]
  · exact fun x hx => List.all_eq_true.mp List.all_takeWhile x hx
  · exact fun x hx => List.mem_rtakeWhile_imp hx
  · intro x hx
    have hdropped : (s.dropWhile p).head? = some x := by
      rw [hsplit, List.head?_append]
      simp [Option.mem_def.mp hx]
    have hfirst := List.head?_dropWhile_not p s
    rw [hdropped] at hfirst
    simpa using hfirst
  · intro x hx
    have hne : strip p s ≠ [] := by
      intro hnil
      rw [hnil] at hx
      cases hx
    have hlast := List.rdropWhile_last_not (p := p) (l := s.dropWhile p) hne
    rw [List.getLast?_eq_some_getLast hne] at hx
    cases hx
    exact Bool.eq_false_iff.mpr hlast

theorem IsStripped.iff {s u : List α} : IsStripped p s u ↔ u = strip p s := by
  constructor
  · exact IsStripped.eq_strip
  · rintro rfl
    exact strip_isStripped p s

theorem strip_strip (s : List α) : strip p (strip p s) = strip p s := by
  have hself : IsStripped p (strip p s) (strip p s) :=
    ⟨⟨[], [], by simp, by simp, by simp⟩, (strip_isStripped p s).head, (strip_isStripped p s).last⟩
  exact hself.eq_strip.symm

/-- Only a list of elements with `p` is stripped to nothing. -/
theorem strip_eq_nil_iff {s : List α} : strip p s = [] ↔ ∀ x ∈ s, p x = true := by
  constructor
  · intro hnil x hx
    obtain ⟨a, b, hs, ha, hb⟩ := (strip_isStripped p s).between
    rw [hnil, List.append_nil] at hs
    rw [hs] at hx
    rcases List.mem_append.mp hx with hx | hx
    · exact ha x hx
    · exact hb x hx
  · exact strip_of_all

end NatTester.Lib
