import NatTester.Lib.Holders
import Mathlib.Data.List.Nodup
import Mathlib.Data.List.Perm.Subperm

/-!
# The descriptors of a process

The table of what a process has open. A new descriptor is the lowest that is free,
as POSIX has it; closing one that is not open is remembered. `Conserves` says that
a piece of code accounts for its descriptors: what it held and what it holds now
make up the difference of the tables.
-/
namespace NatTester.Lib

structure Descriptors where
  table : List Nat
  nodup : table.Nodup
  misused : Bool

namespace Descriptors

def lowestFree (table : List Nat) : Nat := ((List.range (table.length + 1)).find? fun fd => fd ∉ table).getD 0

theorem lowestFree_not_mem (table : List Nat) : lowestFree table ∉ table := by
  unfold lowestFree
  cases hfind : (List.range (table.length + 1)).find? fun fd => fd ∉ table with
  | some fd => simpa using List.find?_some hfind
  | none =>
    -- more numbers than the table has room for
    have hall : ∀ fd ∈ List.range (table.length + 1), fd ∈ table := by simpa using hfind
    have hlength := (List.nodup_range.subperm hall).length_le
    rw [List.length_range] at hlength
    omega

/-- A call that returns a new descriptor. -/
def opened (d : Descriptors) : Nat × Descriptors :=
  (lowestFree d.table, ⟨lowestFree d.table :: d.table, List.nodup_cons.mpr ⟨lowestFree_not_mem d.table, d.nodup⟩, d.misused⟩)

/-- `close(fd)` -/
def closed (fd : Nat) (d : Descriptors) : Descriptors :=
  ⟨d.table.erase fd, d.nodup.erase fd, d.misused || decide (fd ∉ d.table)⟩

/-- How often a descriptor is open. -/
def inUse (d : Descriptors) (fd : Nat) : Int := d.table.count fd

variable {d e f : Descriptors} {held holds keeps : Option Nat} {fd : Nat}

theorem inUse_le_one (d : Descriptors) (fd : Nat) : d.inUse fd ≤ 1 := by
  have hcount : d.table.count fd ≤ 1 := List.nodup_iff_count_le_one.mp d.nodup fd
  unfold inUse
  omega

theorem mem_iff_inUse : fd ∈ d.table ↔ 0 < d.inUse fd := by
  rw [← List.count_pos_iff]
  unfold inUse
  omega

/-- Code that held `held` and now holds `holds` has turned the table of `d` into that of `e`, without
a wrong call of `close`. -/
structure Conserves (held holds : Option Nat) (d e : Descriptors) : Prop where
  misused : e.misused = d.misused
  balance : Balance held holds d.inUse e.inUse

theorem Conserves.refl (held : Option Nat) (d : Descriptors) : Conserves held held d d := ⟨rfl, .refl held _⟩

theorem Conserves.trans (h : Conserves held holds d e) (h' : Conserves holds keeps e f) : Conserves held keeps d f :=
  ⟨h'.misused.trans h.misused, h.balance.trans h'.balance⟩

/-- A new descriptor is taken before the old one is given back. -/
theorem Conserves.exchange (h : Conserves none holds d e) (h' : Conserves held none e f) : Conserves held holds d f :=
  ⟨h'.misused.trans h.misused, h.balance.exchange h'.balance⟩

theorem Conserves.frame (h : Conserves none none d e) (held : Option Nat) : Conserves held held d e :=
  ⟨h.misused, h.balance.frame held⟩

/-- What the code holds is open. -/
theorem Conserves.mem (h : Conserves none (some fd) d e) : fd ∈ e.table := by
  have hbalance := h.balance fd
  have hbefore : 0 ≤ d.inUse fd := Int.natCast_nonneg _
  rw [once_none, once_self] at hbalance
  rw [mem_iff_inUse]
  omega

theorem opened_fresh (d : Descriptors) : d.opened.1 ∉ d.table := lowestFree_not_mem d.table

theorem conserves_opened (d : Descriptors) : Conserves none (some d.opened.1) d d.opened.2 := by
  refine ⟨rfl, ?_⟩
  intro fd
  have hcons : (lowestFree d.table :: d.table).count fd = d.table.count fd + once (some (lowestFree d.table)) fd := by
    rw [List.count_cons, once]
    simp only [beq_iff_eq, Option.some.injEq]
  change (((lowestFree d.table :: d.table).count fd : Nat) : Int) + ((0 : Nat) : Int) =
    ((d.table.count fd : Nat) : Int) + once (some (lowestFree d.table)) fd
  omega

theorem conserves_closed (h : fd ∈ d.table) : Conserves (some fd) none d (d.closed fd) := by
  constructor
  · simp [closed, h]
  · intro r
    have hperm := (List.perm_cons_erase h).count_eq r
    have herase : (d.table.erase fd).count r + once (some fd) r = d.table.count r := by
      rw [hperm, List.count_cons, once]
      simp only [beq_iff_eq, Option.some.injEq]
    change (((d.table.erase fd).count r : Nat) : Int) + once (some fd) r = ((d.table.count r : Nat) : Int) + ((0 : Nat) : Int)
    omega

/-- Tables in which the same is open. -/
theorem perm_of_inUse (h : ∀ fd, e.inUse fd = d.inUse fd) : e.table.Perm d.table := by
  rw [List.perm_iff_count]
  intro fd
  have hsame := h fd
  unfold inUse at hsame
  omega

theorem count_toList (held : Option Nat) (fd : Nat) : held.toList.count fd = once held fd := by
  cases held with
  | none => rfl
  | some r => simp [once, List.count_singleton]

/-- What code holds that held nothing before, and the table as it was, make up the table. -/
theorem Conserves.perm_holds (h : Conserves none holds d e) : e.table.Perm (holds.toList ++ d.table) := by
  rw [List.perm_iff_count]
  intro fd
  have hbalance := h.balance fd
  rw [once_none] at hbalance
  rw [List.count_append, count_toList]
  unfold inUse at hbalance
  omega

/-- Code that holds nothing before and after leaves the table as it was. -/
theorem Conserves.perm (h : Conserves none none d e) : e.table.Perm d.table := h.perm_holds

end Descriptors

end NatTester.Lib
