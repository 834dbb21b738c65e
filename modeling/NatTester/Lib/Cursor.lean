import NatTester.Lib.Splice

/-!
# A list with a position in it

Reading hands out the elements after the position, writing puts elements over
them and beyond the end of the list. The position is one of the list, so a move
may be refused.
-/
namespace NatTester.Lib

structure Cursor (α : Type) where
  items : List α
  pos : Nat
  pos_le : pos ≤ items.length

namespace Cursor

variable {α : Type} {c d : Cursor α}

def start (items : List α) : Cursor α := ⟨items, 0, Nat.zero_le _⟩

/-- The cursor moved to `p`, when the list has that position. -/
def seek (p : Nat) (c : Cursor α) : Option (Cursor α) :=
  if h : p ≤ c.items.length then some ⟨c.items, p, h⟩ else none

/-- The cursor moved by `offset`, backwards when it is negative. -/
def seekBy (offset : Int) (c : Cursor α) : Option (Cursor α) :=
  if 0 ≤ c.pos + offset then c.seek (c.pos + offset).toNat else none

/-- The next `n` elements, and the cursor behind them. -/
def read (n : Nat) (c : Cursor α) : Option (List α × Cursor α) :=
  (c.seek (c.pos + n)).map fun next => (slice c.pos n c.items, next)

def write (xs : List α) (c : Cursor α) : Cursor α where
  items := splice c.pos xs c.items
  pos := c.pos + xs.length
  pos_le := by
    rw [splice_length c.pos_le]
    exact Nat.le_max_left _ _

theorem seek_of_le {p : Nat} (h : p ≤ c.items.length) : c.seek p = some ⟨c.items, p, h⟩ := dif_pos h

theorem seek_of_gt {p : Nat} (h : c.items.length < p) : c.seek p = none := dif_neg (Nat.not_le.mpr h)

theorem seekBy_of_nonneg {offset : Int} {p : Nat} (h : c.pos + offset = p) : c.seekBy offset = c.seek p := by
  rw [seekBy, if_pos (by omega), h, Int.toNat_natCast]

theorem seekBy_of_neg {offset : Int} (h : c.pos + offset < 0) : c.seekBy offset = none := if_neg (by omega)

theorem write_length (xs : List α) : (c.write xs).items.length = max c.items.length (c.pos + xs.length) := by
  rw [write, splice_length c.pos_le, Nat.max_comm]

end Cursor

end NatTester.Lib
