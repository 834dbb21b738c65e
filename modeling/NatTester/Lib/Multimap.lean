import Mathlib.Data.List.Basic
import Mathlib.Tactic.Common

/-!
# Bounded multimaps with hidden duplicates

The entries stand in a list, the newest first; `key` reads the key of an entry.
A key may be there several times. Only its newest entry is found, and removing
that one uncovers the next older one.
-/
namespace NatTester.Lib.Multimap

variable {α κ : Type} [DecidableEq κ] {key : α → κ} {k : κ} {entries : List α}

def find (key : α → κ) (k : κ) (entries : List α) : Option α := entries.find? fun x => key x = k

/-- The entries without the newest one of the key `k`. -/
def without (key : α → κ) (k : κ) (entries : List α) : List α := entries.eraseP fun x => key x = k

/-- A found entry splits the entries: nothing newer has its key. -/
theorem find_eq_some {x : α} (h : find key k entries = some x) :
    ∃ newer older, entries = newer ++ x :: older ∧ key x = k ∧ ∀ y ∈ newer, key y ≠ k := by
  obtain ⟨hkey, newer, older, hentries, hnewer⟩ := List.find?_eq_some_iff_append.mp h
  exact ⟨newer, older, hentries, by simpa using hkey, fun y hy => by simpa using hnewer y hy⟩

theorem find_eq_none : find key k entries = none ↔ ∀ x ∈ entries, key x ≠ k := by
  simp [find]

theorem without_append {newer older : List α} {x : α} (hx : key x = k) (hnewer : ∀ y ∈ newer, key y ≠ k) :
    without key k (newer ++ x :: older) = newer ++ older := by
  have hnone : ∀ y ∈ newer, ¬ decide (key y = k) = true := by simpa using hnewer
  rw [without, List.eraseP_append_right _ hnone, List.eraseP_cons_of_pos (by simpa using hx)]

theorem without_eq_self (h : find key k entries = none) : without key k entries = entries := by
  apply List.eraseP_of_forall_not
  intro x hx
  simpa using find_eq_none.mp h x hx

/-- The other keys do not notice a removal. -/
theorem find_without_of_ne {k' : κ} (hne : k' ≠ k) : find key k' (without key k entries) = find key k' entries := by
  cases h : find key k entries with
  | none => rw [without_eq_self h]
  | some x =>
    obtain ⟨newer, older, rfl, hx, hnewer⟩ := find_eq_some h
    have hx' : ¬ key x = k' := fun heq => hne (heq.symm.trans hx)
    rw [without_append hx hnewer]
    simp [find, List.find?_append, hx']

/-- Removing a key uncovers its next older entry. -/
theorem find_without {newer older : List α} {x : α} (hx : key x = k) (hnewer : ∀ y ∈ newer, key y ≠ k) :
    find key k (without key k (newer ++ x :: older)) = find key k older := by
  have hnone : newer.find? (fun y => key y = k) = none := find_eq_none.mpr hnewer
  rw [without_append hx hnewer, find, List.find?_append, hnone, Option.none_or, find]

/-! ## Distinct keys -/

theorem find_eq_some_iff (hdistinct : (entries.map key).Nodup) {x : α} :
    find key k entries = some x ↔ x ∈ entries ∧ key x = k := by
  constructor
  · intro h
    obtain ⟨newer, older, rfl, hx, -⟩ := find_eq_some h
    exact ⟨by simp, hx⟩
  · intro h
    obtain ⟨hmem, rfl⟩ := h
    obtain ⟨newer, older, rfl⟩ := List.append_of_mem hmem
    rw [List.map_append, List.map_cons] at hdistinct
    have hnewer : ∀ y ∈ newer, ¬ decide (key y = key x) = true := by
      intro y hy heq
      exact (List.nodup_append.mp hdistinct).2.2 (key y) (List.mem_map_of_mem hy) (key x) (by simp)
        (of_decide_eq_true heq)
    rw [find, List.find?_append, List.find?_eq_none.mpr hnewer]
    simp

theorem without_distinct (hdistinct : (entries.map key).Nodup) : ((without key k entries).map key).Nodup :=
  hdistinct.sublist (List.eraseP_sublist.map key)

theorem mem_without (hdistinct : (entries.map key).Nodup) {x : α} :
    x ∈ without key k entries ↔ x ∈ entries ∧ key x ≠ k := by
  cases h : find key k entries with
  | none =>
    have habsent := find_eq_none.mp h
    rw [without_eq_self h]
    exact ⟨fun hx => ⟨hx, habsent x hx⟩, fun hx => hx.1⟩
  | some y =>
    obtain ⟨newer, older, rfl, rfl, hnewer⟩ := find_eq_some h
    rw [without_append rfl hnewer]
    rw [List.map_append, List.map_cons] at hdistinct
    have holder : key y ∉ older.map key := (List.nodup_cons.mp (List.nodup_append.mp hdistinct).2.1).1
    constructor
    · intro hx
      refine ⟨by simp only [List.mem_append, List.mem_cons] at hx ⊢; tauto, ?_⟩
      rcases List.mem_append.mp hx with hx | hx
      · exact hnewer x hx
      · exact fun heq => holder (heq ▸ List.mem_map_of_mem hx)
    · intro hx
      have hne : x ≠ y := fun heq => hx.2 (congrArg key heq)
      have hmem := hx.1
      simp only [List.mem_append, List.mem_cons, hne, false_or] at hmem
      exact List.mem_append.mpr hmem

inductive Op (α κ : Type)
  | insert (x : α)
  | remove (k : κ)
  | reset
  deriving DecidableEq, Repr

def apply (key : α → κ) (bound : Nat) (entries : List α) : Op α κ → List α
  | .insert x => if entries.length < bound then x :: entries else entries
  | .remove k => without key k entries
  | .reset => []

/-- What a multimap of at most `bound` entries, empty at first, holds after operations. -/
def after (key : α → κ) (bound : Nat) (ops : List (Op α κ)) : List α := ops.foldl (apply key bound) []

theorem after_concat (key : α → κ) (bound : Nat) (ops : List (Op α κ)) (op : Op α κ) :
    after key bound (ops ++ [op]) = apply key bound (after key bound ops) op := by
  rw [after, List.foldl_append]
  rfl

/-- The same entry inserted again and again. -/
theorem after_replicate (key : α → κ) {bound n : Nat} (hn : n ≤ bound) (x : α) :
    after key bound (List.replicate n (.insert x)) = List.replicate n x := by
  induction n with
  | zero => rfl
  | succ n ih =>
    rw [List.replicate_succ', after_concat, ih (Nat.le_of_succ_le hn), apply, List.length_replicate,
      if_pos (Nat.lt_of_succ_le hn)]
    rfl

end NatTester.Lib.Multimap
