import Mathlib.Tactic.Common

/-!
# Machines and their runs

A machine has initial states and labelled steps. `Run M history s` says that the
steps of `history`, the last one first, lead to `s`. Invariants are proved once
here: an invariant of the steps is one of every run.
-/
namespace NatTester.Lib

structure Machine (σ ι : Type) where
  init : σ → Prop
  step : σ → ι → σ → Prop

namespace Machine

variable {σ ι : Type} {M : Machine σ ι}

/-- A step, as it was taken. -/
structure Taken (σ ι : Type) where
  before : σ
  label : ι
  after : σ

inductive Run (M : Machine σ ι) : List (Taken σ ι) → σ → Prop
  | start {s : σ} (init : M.init s) : Run M [] s
  | step {history : List (Taken σ ι)} {s t : σ} {label : ι} (run : Run M history s) (step : M.step s label t) :
    Run M (⟨s, label, t⟩ :: history) t

def Reachable (M : Machine σ ι) (s : σ) : Prop := ∃ history, M.Run history s

theorem Reachable.start {s : σ} (h : M.init s) : M.Reachable s := ⟨[], .start h⟩

theorem Reachable.step {s t : σ} {label : ι} (h : M.Reachable s) (hstep : M.step s label t) : M.Reachable t := by
  obtain ⟨history, hrun⟩ := h
  exact ⟨_, hrun.step hstep⟩

/-- What holds at the start and is preserved by every step holds after every run. -/
theorem Run.invariant {I : List (Taken σ ι) → σ → Prop} {history : List (Taken σ ι)} {s : σ} (h : M.Run history s)
    (hinit : ∀ s, M.init s → I [] s)
    (hstep : ∀ history s label t, I history s → M.step s label t → I (⟨s, label, t⟩ :: history) t) : I history s := by
  induction h with
  | start init => exact hinit _ init
  | step _ step ih => exact hstep _ _ _ _ ih step

theorem Reachable.invariant {I : σ → Prop} {s : σ} (h : M.Reachable s) (hinit : ∀ s, M.init s → I s)
    (hstep : ∀ s label t, I s → M.step s label t → I t) : I s := by
  obtain ⟨history, hrun⟩ := h
  exact hrun.invariant hinit fun _ => hstep

/-- Every step of a run is a step of the machine from a reachable state. -/
theorem Run.taken {history : List (Taken σ ι)} {s : σ} (h : M.Run history s) :
    ∀ k ∈ history, M.Reachable k.before ∧ M.step k.before k.label k.after := by
  induction h with
  | start _ => simp
  | step run step ih =>
    intro k hk
    rcases List.mem_cons.mp hk with rfl | hk
    · exact ⟨⟨_, run⟩, step⟩
    · exact ih k hk

/-- The run before one of the steps of a run. -/
theorem Run.split {later earlier : List (Taken σ ι)} {k : Taken σ ι} {s : σ} (h : M.Run (later ++ k :: earlier) s) :
    M.Run earlier k.before ∧ M.step k.before k.label k.after ∧ M.Run (k :: earlier) k.after := by
  induction later generalizing s with
  | nil =>
    cases h with
    | step run step => exact ⟨run, step, run.step step⟩
  | cons last later ih =>
    cases h with
    | step run _ => exact ih run

/-- A machine whose steps are the values of a function. -/
def ofFn (init : σ → Prop) (next : ι → σ → σ) : Machine σ ι := ⟨init, fun s label t => t = next label s⟩

theorem reachable_foldl {init : σ → Prop} {next : ι → σ → σ} (labels : List ι) {s : σ}
    (h : (ofFn init next).Reachable s) : (ofFn init next).Reachable (labels.foldl (fun s label => next label s) s) := by
  induction labels generalizing s with
  | nil => exact h
  | cons label labels ih => exact ih (h.step rfl)

/-- The steps along `labels`, the last one first. -/
def stepsOf (next : ι → σ → σ) : σ → List ι → List (Taken σ ι)
  | _, [] => []
  | s, label :: labels => stepsOf next (next label s) labels ++ [⟨s, label, next label s⟩]

theorem run_stepsOf {init : σ → Prop} {next : ι → σ → σ} (labels : List ι) {history : List (Taken σ ι)} {s : σ}
    (h : (ofFn init next).Run history s) :
    (ofFn init next).Run (stepsOf next s labels ++ history) (labels.foldl (fun s label => next label s) s) := by
  induction labels generalizing s history with
  | nil => exact h
  | cons label labels ih =>
    have hnext := ih (h.step (t := next label s) rfl)
    rwa [stepsOf, List.append_assoc]

theorem forall_stepsOf {next : ι → σ → σ} {P : Taken σ ι → Prop} {s : σ} {label : ι} {labels : List ι}
    (first : P ⟨s, label, next label s⟩) (rest : ∀ k ∈ stepsOf next (next label s) labels, P k) :
    ∀ k ∈ stepsOf next s (label :: labels), P k := by
  intro k hk
  rw [stepsOf, List.mem_append, List.mem_singleton] at hk
  rcases hk with hk | rfl
  · exact rest k hk
  · exact first

end Machine

end NatTester.Lib
