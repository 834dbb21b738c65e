import Mathlib.Data.List.Chain
import Mathlib.Data.List.DropRight
import Mathlib.Tactic.Common

/-!
# The words of a text

`words sep s` are the maximal runs of elements of `s` that do not separate, in their
order. Everything about them follows from what happens at a separator.
-/
namespace NatTester.Lib

variable {α : Type} {sep : α → Bool}

def words (sep : α → Bool) (s : List α) : List (List α) := (s.splitOnP sep).filter fun w => !w.isEmpty

theorem words_nil : words sep [] = [] := rfl

/-- A separator belongs to no word, and no word crosses it. -/
theorem words_append_cons {c : α} (hc : sep c = true) (s t : List α) :
    words sep (s ++ c :: t) = words sep s ++ words sep t := by
  unfold words
  rw [List.splitOnP_append_cons s t hc, List.filter_append]

theorem words_cons {c : α} (hc : sep c = true) (t : List α) : words sep (c :: t) = words sep t := words_append_cons hc [] t

/-- A run without separators is one word. -/
theorem words_of_run {w : List α} (hne : w ≠ []) (h : ∀ x ∈ w, sep x = false) : words sep w = [w] := by
  rw [words, List.splitOnP_eq_singleton h]
  simp [hne]

theorem words_append_of_blank {blanks : List α} (h : ∀ x ∈ blanks, sep x = true) (t : List α) :
    words sep (blanks ++ t) = words sep t := by
  induction blanks with
  | nil => rfl
  | cons c blanks ih =>
    rw [List.cons_append, words_cons (h c List.mem_cons_self)]
    exact ih fun x hx => h x (List.mem_cons_of_mem _ hx)

theorem words_of_blank {s : List α} (h : ∀ x ∈ s, sep x = true) : words sep s = [] := by
  have hwords := words_append_of_blank h []
  rwa [List.append_nil] at hwords

/-- A run, up to a separator or the end of the text, is the first word. -/
theorem words_run_append {w t : List α} (hne : w ≠ []) (h : ∀ x ∈ w, sep x = false) (ht : ∀ x ∈ t.head?, sep x = true) :
    words sep (w ++ t) = w :: words sep t := by
  cases t with
  | nil => rw [List.append_nil, words_of_run hne h, words_nil]
  | cons c t =>
    have hc := ht c rfl
    rw [words_append_cons hc, words_of_run hne h, words_cons hc, List.singleton_append]

/-! ## Words on a line -/

/-- Words that hold no separator are read back from a line of them with a `blank` between each two. -/
theorem words_intercalate {blank : α} (hblank : sep blank = true) {ws : List (List α)}
    (h : ∀ w ∈ ws, w ≠ [] ∧ ∀ x ∈ w, sep x = false) : words sep ([blank].intercalate ws) = ws := by
  induction ws with
  | nil => rfl
  | cons first rest ih =>
    have hfirst := h first List.mem_cons_self
    have hrest := ih fun w hw => h w (List.mem_cons_of_mem _ hw)
    cases rest with
    | nil =>
      rw [List.intercalate_singleton]
      exact words_of_run hfirst.1 hfirst.2
    | cons next rest =>
      rw [List.intercalate_cons_cons, List.append_assoc, List.singleton_append, words_append_cons hblank,
        words_of_run hfirst.1 hfirst.2, hrest, List.singleton_append]

theorem intercalate_concat (blank : α) {ws : List (List α)} (hne : ws ≠ []) (w : List α) :
    [blank].intercalate (ws ++ [w]) = [blank].intercalate ws ++ blank :: w := by
  induction ws with
  | nil => exact absurd rfl hne
  | cons first rest ih =>
    cases rest with
    | nil => simp [List.intercalate_cons_cons]
    | cons next rest =>
      have htail := ih (List.cons_ne_nil next rest)
      rw [List.cons_append] at htail
      rw [List.cons_append, List.cons_append, List.intercalate_cons_cons, htail, List.intercalate_cons_cons]
      simp only [List.append_assoc]

/-- `lines` holds the words `ws` in their order, none is empty, one with two words or more is not longer than `width`, and
the first word of a line did not fit on the one before it. -/
structure IsWrapped (width : Nat) (lineText : List (List α) → List α) (ws : List (List α)) (lines : List (List (List α))) :
    Prop where
  flatten : lines.flatten = ws
  nonempty : ∀ line ∈ lines, line ≠ []
  fits : ∀ line ∈ lines, 2 ≤ line.length → (lineText line).length ≤ width
  full : lines.IsChain fun line next => ∀ w ∈ next.head?, width < (lineText line).length + 1 + w.length

variable {width : Nat} {lineText : List (List α) → List α} {line : List (List α)} {lines : List (List (List α))}

theorem IsWrapped.single (hne : line ≠ []) (hfits : 2 ≤ line.length → (lineText line).length ≤ width) :
    IsWrapped width lineText line [line] := by
  refine ⟨by simp, ?_, ?_, .singleton line⟩
  · simpa using hne
  · simpa using hfits

/-- A line in front of others, the first of which begins with a word that did not fit on it. -/
theorem IsWrapped.cons {ws : List (List α)} {w : List α} (h : IsWrapped width lineText (w :: ws) lines) (hne : line ≠ [])
    (hfits : 2 ≤ line.length → (lineText line).length ≤ width) (hfull : width < (lineText line).length + 1 + w.length) :
    IsWrapped width lineText (line ++ w :: ws) (line :: lines) := by
  refine ⟨?_, ?_, ?_, ?_⟩
  · rw [List.flatten_cons, h.flatten]
  · rw [List.forall_mem_cons]
    exact ⟨hne, h.nonempty⟩
  · rw [List.forall_mem_cons]
    exact ⟨hfits, h.fits⟩
  · cases lines with
    | nil => exact .singleton line
    | cons next rest =>
      refine List.isChain_cons_cons.mpr ⟨?_, h.full⟩
      obtain ⟨first, others, rfl⟩ := List.exists_cons_of_ne_nil (h.nonempty next List.mem_cons_self)
      intro other hother
      obtain rfl := Option.some.inj hother
      have hflat := h.flatten
      rw [List.flatten_cons, List.cons_append] at hflat
      rwa [(List.cons.inj hflat).1]

end NatTester.Lib
