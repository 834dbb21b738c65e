import Mathlib.Data.List.Basic
import Mathlib.Logic.Function.Basic
import Mathlib.Tactic.Common

/-!
# Singly linked chains

`next` links every node to its successor. `Chain next head nodes` says that the
links from `head` visit exactly `nodes`, in that order, and then end.
-/
namespace NatTester.Lib

variable {α : Type}

def Chain (next : α → Option α) : Option α → List α → Prop
  | head, [] => head = none
  | head, node :: nodes => head = some node ∧ Chain next (next node) nodes

namespace Chain

variable {next next' : α → Option α} {head : Option α} {nodes : List α}

@[simp] theorem nil_iff : Chain next head [] ↔ head = none := Iff.rfl

@[simp] theorem cons_iff {node : α} :
    Chain next head (node :: nodes) ↔ head = some node ∧ Chain next (next node) nodes := Iff.rfl

/-- Only the links of the visited nodes matter. -/
theorem congr (h : Chain next head nodes) (hnext : ∀ x ∈ nodes, next' x = next x) :
    Chain next' head nodes := by
  induction nodes generalizing head with
  | nil => exact h
  | cons node nodes ih =>
    refine ⟨h.1, ?_⟩
    rw [hnext node (by simp)]
    exact ih h.2 fun x hx => hnext x (by simp [hx])

/-- Relinking a node outside a chain does not change the chain. -/
theorem update [DecidableEq α] (h : Chain next head nodes) {x : α} (hx : x ∉ nodes)
    (link : Option α) : Chain (Function.update next x link) head nodes :=
  h.congr fun y hy => Function.update_of_ne (fun e : y = x => hx (e ▸ hy)) link next

/-- A chain with a new node pushed on its front. -/
theorem push [DecidableEq α] (h : Chain next head nodes) {x : α} (hx : x ∉ nodes) :
    Chain (Function.update next x head) (some x) (x :: nodes) := by
  refine ⟨rfl, ?_⟩
  rw [Function.update_self]
  exact h.update hx head

/-- Linking a node past its successor takes the successor out of the chain. -/
theorem unlink [DecidableEq α] {before after : List α} {p x : α} (h : Chain next head (before ++ p :: x :: after))
    (hnodup : (before ++ p :: x :: after).Nodup) :
    Chain (Function.update next p (next x)) head (before ++ p :: after) := by
  induction before generalizing head with
  | nil =>
    obtain ⟨hhead, -, htail⟩ := h
    have hp : p ∉ after := fun hmem => (List.nodup_cons.mp hnodup).1 (List.mem_cons_of_mem x hmem)
    constructor
    · exact hhead
    · rw [Function.update_self]
      exact htail.update hp (next x)
  | cons y before ih =>
    have hnodup' := List.nodup_cons.mp hnodup
    have hyp : y ≠ p := by
      intro heq
      apply hnodup'.1
      simp [heq]
    constructor
    · exact h.1
    · rw [Function.update_of_ne hyp]
      exact ih h.2 hnodup'.2

end Chain

end NatTester.Lib
