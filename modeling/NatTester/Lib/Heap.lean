import NatTester.Lib.Descriptors
import Mathlib.Data.List.Nodup
import Mathlib.Data.List.Perm.Lattice

/-!
# A heap

Blocks with an address and a content. Freeing a block that is not allocated is
remembered. `Owns own base h` says that `h` is the heap `base` with the blocks `own`
besides, so code that owns nothing before and after has freed what it allocated.
-/
namespace NatTester.Lib

structure Heap (β : Type) where
  blocks : List (Nat × β)
  nodup : (blocks.map Prod.fst).Nodup
  misused : Bool

namespace Heap
variable {β : Type}

def addresses (h : Heap β) : List Nat := h.blocks.map Prod.fst

/-- A block at an address that is not in use. -/
def alloc (b : β) (h : Heap β) : Nat × Heap β :=
  (Descriptors.lowestFree h.addresses, ⟨(Descriptors.lowestFree h.addresses, b) :: h.blocks,
    List.nodup_cons.mpr ⟨Descriptors.lowestFree_not_mem h.addresses, h.nodup⟩, h.misused⟩)

def read (p : Nat) (h : Heap β) : Option β := (h.blocks.find? fun block => block.1 = p).map Prod.snd

def modified (p : Nat) (f : β → β) (block : Nat × β) : Nat × β :=
  (block.1, if block.1 = p then f block.2 else block.2)

theorem map_modified (p : Nat) (f : β → β) (blocks : List (Nat × β)) :
    (blocks.map (modified p f)).map Prod.fst = blocks.map Prod.fst := by
  rw [List.map_map]
  rfl

def modify (p : Nat) (f : β → β) (h : Heap β) : Heap β :=
  ⟨h.blocks.map (modified p f), (map_modified p f h.blocks).symm ▸ h.nodup, h.misused⟩

def free (p : Nat) (h : Heap β) : Heap β :=
  ⟨h.blocks.filter fun block => block.1 ≠ p, h.nodup.sublist (List.filter_sublist.map Prod.fst),
    h.misused || decide (p ∉ h.addresses)⟩

/-- The heap `base`, and the blocks `own`. -/
structure Owns (own : List (Nat × β)) (base h : Heap β) : Prop where
  blocks : h.blocks.Perm (own ++ base.blocks)
  misused : h.misused = base.misused

variable {own own' : List (Nat × β)} {base h : Heap β} {p : Nat} {b : β}

theorem Owns.refl (base : Heap β) : Owns [] base base := ⟨.refl _, rfl⟩

theorem Owns.perm (h' : Owns own base h) (hperm : own.Perm own') : Owns own' base h :=
  ⟨h'.blocks.trans (hperm.append_right base.blocks), h'.misused⟩

theorem Owns.alloc (h' : Owns own base h) (b : β) : Owns (((h.alloc b).1, b) :: own) base (h.alloc b).2 :=
  ⟨h'.blocks.cons _, h'.misused⟩

/-- The address of a block is that of no other. -/
theorem Owns.other (h' : Owns ((p, b) :: own) base h) : ∀ block ∈ own ++ base.blocks, block.1 ≠ p := by
  have hkeys : (((p, b) :: (own ++ base.blocks)).map Prod.fst).Nodup := (h'.blocks.map Prod.fst).nodup_iff.mp h.nodup
  rw [List.map_cons, List.nodup_cons] at hkeys
  intro block hblock heq
  exact hkeys.1 (List.mem_map.mpr ⟨block, hblock, heq⟩)

theorem Owns.mem (h' : Owns own base h) {block : Nat × β} (hblock : block ∈ own) : block ∈ h.blocks :=
  h'.blocks.mem_iff.mpr (List.mem_append_left _ hblock)

theorem read_of_mem (hmem : (p, b) ∈ h.blocks) : h.read p = some b := by
  unfold Heap.read
  cases hfind : h.blocks.find? fun block => block.1 = p with
  | none => exact absurd (List.find?_eq_none.mp hfind (p, b) hmem) (by simp)
  | some block =>
    have hkey : block.1 = p := by simpa using List.find?_some hfind
    have hsame : block = (p, b) := List.inj_on_of_nodup_map h.nodup (List.mem_of_find?_eq_some hfind) hmem hkey
    rw [hsame]
    rfl

theorem Owns.modify (h' : Owns ((p, b) :: own) base h) (f : β → β) : Owns ((p, f b) :: own) base (h.modify p f) := by
  have hothers : (own ++ base.blocks).map (modified p f) = own ++ base.blocks := by
    conv_rhs => rw [← List.map_id (own ++ base.blocks)]
    refine List.map_congr_left fun block hblock => ?_
    rw [modified, if_neg (h'.other block hblock)]
    rfl
  refine ⟨(h'.blocks.map (modified p f)).trans ?_, h'.misused⟩
  rw [List.cons_append, List.map_cons, hothers, modified, if_pos rfl]
  exact .refl _

theorem Owns.free (h' : Owns ((p, b) :: own) base h) : Owns own base (h.free p) := by
  have hmem : p ∈ h.addresses := List.mem_map.mpr ⟨(p, b), h'.mem List.mem_cons_self, rfl⟩
  constructor
  · refine (h'.blocks.filter _).trans ?_
    rw [List.cons_append, List.filter_cons_of_neg (by simp), List.filter_eq_self.mpr]
    intro block hblock
    simpa using h'.other block hblock
  · simp [Heap.free, hmem, h'.misused]

end Heap

end NatTester.Lib
