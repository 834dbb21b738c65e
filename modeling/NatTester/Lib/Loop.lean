import Mathlib.Tactic.Common

/-!
# Loops

The body of a loop leaves it with a result or goes on from the next state.
`Leaves body s passed r` says that the loop, entered at `s`, ends with `r` after it
went on from the states in `passed`. A loop whose body keeps an invariant and counts
something down ends.
-/
namespace NatTester.Lib

variable {σ ρ : Type}

inductive Leaves (body : σ → ρ ⊕ σ) : σ → List σ → ρ → Prop
  | leave {s : σ} {r : ρ} (left : body s = .inl r) : Leaves body s [] r
  | next {s t : σ} {passed : List σ} {r : ρ} (goesOn : body s = .inr t) (rest : Leaves body t passed r) :
    Leaves body s (s :: passed) r

/-- From a state with `I`, the body leaves with a result that has `Q`, or goes on from one with `P` to another with `I`,
where there is less to come. -/
theorem leaves_of_variant (body : σ → ρ ⊕ σ) {I P : σ → Prop} {Q : ρ → Prop} (variant : σ → Nat)
    (hbody : ∀ s, I s → (∃ r, body s = .inl r ∧ Q r) ∨ ∃ t, body s = .inr t ∧ P s ∧ I t ∧ variant t < variant s)
    {s : σ} (hs : I s) :
    ∃ passed r, Leaves body s passed r ∧ Q r ∧ (∀ t ∈ passed, P t) ∧ passed.length ≤ variant s := by
  induction hn : variant s using Nat.strongRecOn generalizing s with
  | ind n ih =>
    rcases hbody s hs with ⟨r, hleft, hr⟩ | ⟨t, hnext, hpassed, ht, hless⟩
    · exact ⟨[], r, .leave hleft, hr, by simp, Nat.zero_le n⟩
    · obtain ⟨passed, r, hrest, hr, hall, hlength⟩ := ih (variant t) (hn ▸ hless) ht rfl
      refine ⟨s :: passed, r, .next hnext hrest, hr, List.forall_mem_cons.mpr ⟨hpassed, hall⟩, ?_⟩
      rw [List.length_cons]
      omega

end NatTester.Lib
