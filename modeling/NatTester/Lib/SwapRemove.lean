import Mathlib.Data.List.Basic
import Mathlib.Data.List.Perm.Basic
import Mathlib.Tactic.Common

/-!
# Removal by swapping

The last element of a list takes the place of the removed one.
-/
namespace NatTester.Lib

variable {α : Type} {xs : List α} {x last : α} {pos : Nat}

def swapRemove (pos : Nat) (xs : List α) : List α := (xs.getLast?.elim xs fun last => xs.set pos last).dropLast

theorem swapRemove_eq (hlast : xs.getLast? = some last) : swapRemove pos xs = (xs.set pos last).dropLast := by
  rw [swapRemove, hlast, Option.elim_some]

/-- The removed element with the remaining ones. -/
theorem cons_swapRemove_perm (hx : xs[pos]? = some x) : (x :: swapRemove pos xs).Perm xs := by
  obtain ⟨before, rest, rfl, rfl⟩ : ∃ before rest, xs = before ++ x :: rest ∧ before.length = pos := by
    obtain ⟨hpos, rfl⟩ := List.getElem?_eq_some_iff.mp hx
    exact ⟨xs.take pos, xs.drop (pos + 1), by simp, by simp [Nat.le_of_lt hpos]⟩
  rcases List.eq_nil_or_concat rest with rfl | ⟨mid, last, rfl⟩
  · rw [swapRemove_eq (List.getLast?_concat)]
    simpa using (List.perm_append_singleton x before).symm
  · have hlast : (before ++ x :: mid.concat last).getLast? = some last := by
      rw [List.concat_eq_append, ← List.cons_append, ← List.append_assoc, List.getLast?_append, List.getLast?_singleton,
        Option.some_or]
    rw [swapRemove_eq hlast]
    have hswapped : ((before ++ x :: (mid ++ [last])).set before.length last).dropLast = before ++ last :: mid := by
      rw [List.set_append_right _ _ (Nat.le_refl _), Nat.sub_self, List.set_cons_zero, ← List.cons_append,
        ← List.append_assoc, List.dropLast_concat]
    rw [List.concat_eq_append, hswapped]
    refine List.Perm.trans ?_ List.perm_middle.symm
    exact (((List.perm_append_singleton last mid).symm.append_left before)).cons x

theorem swapRemove_perm [DecidableEq α] (hx : xs[pos]? = some x) : (swapRemove pos xs).Perm (xs.erase x) :=
  (List.cons_perm_iff_perm_erase.mp (cons_swapRemove_perm hx)).2

/-- The places after a removal, in a list without duplicates. -/
theorem getElem?_swapRemove (hnodup : xs.Nodup) (hx : xs[pos]? = some x) (hlast : xs.getLast? = some last) {i : Nat}
    {y : α} :
    (swapRemove pos xs)[i]? = some y ↔ y ≠ x ∧ (y ≠ last ∧ xs[i]? = some y ∨ y = last ∧ i = pos) := by
  have hinj : ∀ {j k : Nat} {z : α}, xs[j]? = some z → xs[k]? = some z → j = k := by
    intro j k z hj hk
    obtain ⟨hjlt, -⟩ := List.getElem?_eq_some_iff.mp hj
    exact (List.getElem?_inj hjlt hnodup).mp (hj.trans hk.symm)
  have hend : xs[xs.length - 1]? = some last := by rwa [← List.getLast?_eq_getElem?]
  have hplace : (swapRemove pos xs)[i]? =
      if i < xs.length - 1 then if pos = i then some last else xs[i]? else none := by
    obtain ⟨hpos, -⟩ := List.getElem?_eq_some_iff.mp hx
    rw [swapRemove_eq hlast, List.getElem?_dropLast, List.length_set, List.getElem?_set, if_pos hpos]
  rw [hplace]
  constructor
  · intro h
    split at h
    next hlt =>
      split at h
      next heq =>
        cases h
        subst heq
        refine ⟨?_, .inr ⟨rfl, rfl⟩⟩
        intro hsame
        have := hinj hend (hsame ▸ hx)
        omega
      next hne =>
        refine ⟨?_, .inl ⟨?_, h⟩⟩
        · intro hsame
          exact hne (hinj hx (hsame ▸ h))
        · intro hsame
          have := hinj hend (hsame ▸ h)
          omega
    next => cases h
  · intro h
    obtain ⟨hyx, h⟩ := h
    rcases h with ⟨hylast, hy⟩ | ⟨rfl, rfl⟩
    · obtain ⟨hilt, -⟩ := List.getElem?_eq_some_iff.mp hy
      have hlt : i < xs.length - 1 := by
        have hne : i ≠ xs.length - 1 := by
          intro heq
          rw [heq, hend] at hy
          exact hylast (Option.some.inj hy).symm
        omega
      have hne : pos ≠ i := by
        intro heq
        rw [heq, hy] at hx
        exact hyx (Option.some.inj hx)
      rw [if_pos hlt, if_neg hne, hy]
    · have hlt : i < xs.length - 1 := by
        obtain ⟨hilt, -⟩ := List.getElem?_eq_some_iff.mp hx
        have hne : i ≠ xs.length - 1 := by
          intro heq
          rw [heq, hend] at hx
          exact hyx (Option.some.inj hx)
        omega
      rw [if_pos hlt, if_pos rfl]

end NatTester.Lib
