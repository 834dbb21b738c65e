import Mathlib.Data.List.Basic
import Mathlib.Tactic.Common

/-!
# Slices of a list and writes into the middle of one

`slice pos n l` are the `n` elements of `l` from `pos`; `splice pos xs l` is `l`
with `xs` written over it from `pos`, as far as `l` reaches or beyond its end.
-/
namespace NatTester.Lib

variable {α : Type}

def slice (pos n : Nat) (l : List α) : List α := (l.drop pos).take n

def splice (pos : Nat) (xs l : List α) : List α :=
  l.take pos ++ xs ++ l.drop (pos + xs.length)

theorem slice_length (pos n : Nat) (l : List α) : (slice pos n l).length = min n (l.length - pos) := by
  simp [slice]

theorem slice_length_of_le {pos n : Nat} {l : List α} (h : pos + n ≤ l.length) :
    (slice pos n l).length = n := by
  rw [slice_length]
  omega

theorem slice_take {pos n k : Nat} (l : List α) (h : pos + n ≤ k) :
    slice pos n (l.take k) = slice pos n l := by
  simp only [slice, List.drop_take, List.take_take]
  congr 1
  omega

/-- A slice of a concatenation that starts at the seam. -/
theorem slice_append_right (xs ys : List α) (pos n : Nat) (h : pos = xs.length) :
    slice pos n (xs ++ ys) = ys.take n := by
  simp [slice, h]

theorem slice_append_left {xs : List α} (ys : List α) {pos n : Nat} (h : pos + n ≤ xs.length) :
    slice pos n (xs ++ ys) = slice pos n xs := by
  simp only [slice]
  rw [List.drop_append_of_le_length (by omega), List.take_append_of_le_length]
  simp only [List.length_drop]
  omega

theorem slice_drop (pos n k : Nat) (l : List α) : slice pos n (l.drop k) = slice (k + pos) n l := by
  simp [slice, List.drop_drop]

theorem slice_append_drop (pos n : Nat) (l : List α) : slice pos n l ++ l.drop (pos + n) = l.drop pos := by
  rw [slice, ← List.drop_drop, List.take_append_drop]

theorem slice_add (pos m n : Nat) (l : List α) : slice pos (m + n) l = slice pos m l ++ slice (pos + m) n l := by
  rw [slice, List.take_add, List.drop_drop, slice, slice]

theorem splice_length {pos : Nat} {xs l : List α} (h : pos ≤ l.length) :
    (splice pos xs l).length = max (pos + xs.length) l.length := by
  simp only [splice, List.length_append, List.length_take, List.length_drop]
  omega

/-- Writing at the end of a prefix of the list extends that prefix. -/
theorem splice_take_end {pos : Nat} {xs l : List α} (h : pos ≤ l.length) :
    (splice pos xs l).take (pos + xs.length) = l.take pos ++ xs := by
  have hlen : (l.take pos ++ xs).length = pos + xs.length := by
    simp only [List.length_append, List.length_take]
    omega
  rw [splice, ← hlen, List.take_left]

/-- Writing inside a prefix of the list writes inside that prefix. -/
theorem splice_take_inside {pos n : Nat} {xs l : List α} (h : pos + xs.length ≤ n)
    (hl : n ≤ l.length) : (splice pos xs l).take n = splice pos xs (l.take n) := by
  have hlen : (l.take pos ++ xs).length = pos + xs.length := by
    simp only [List.length_append, List.length_take]
    omega
  rw [splice, splice, List.take_append, List.take_of_length_le (by omega), List.take_take,
    List.drop_take, hlen, Nat.min_eq_left (by omega)]

@[simp] theorem splice_append (xs ys zs new : List α) (h : new.length = ys.length) :
    splice xs.length new (xs ++ ys ++ zs) = xs ++ new ++ zs := by
  simp [splice, h, List.append_assoc]

/-- A loop that stores one value after the other. -/
theorem foldl_set_range (f : Nat → α) {pos n : Nat} {l : List α} (h : pos + n ≤ l.length) :
    (List.range n).foldl (fun l k => l.set (pos + k) (f k)) l = splice pos ((List.range n).map f) l := by
  induction n with
  | zero => simp [splice]
  | succ n ih =>
    have hlen : (l.take pos ++ (List.range n).map f).length = pos + n := by
      simp only [List.length_append, List.length_take, List.length_map, List.length_range]
      omega
    have hrest : l.drop (pos + n) = l[pos + n] :: l.drop (pos + (n + 1)) := List.drop_eq_getElem_cons (by omega)
    rw [List.range_succ, List.foldl_append, ih (by omega), List.foldl_cons, List.foldl_nil, splice, splice,
      List.length_map, List.length_range, List.set_append_right _ _ (by omega), hlen, Nat.sub_self, hrest,
      List.set_cons_zero, List.map_append, List.length_append, List.length_map, List.length_range]
    simp

end NatTester.Lib
