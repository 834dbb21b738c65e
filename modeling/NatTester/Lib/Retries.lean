import Mathlib.Tactic.Common

/-!
# A sender that retries

A sender makes attempts, of which it has a limited number, and looks at the clock
now and then. A look makes an attempt, or finds that the timeout of the last one
has not passed. If the looks are close enough, the attempts are used up in time:
the sender cannot still be looking once the clock has gone on for long enough.
-/
namespace NatTester.Lib

/-- The attempts made so far, and when the last one was made. -/
structure Retries where
  used : Nat
  last : Nat

namespace Retries

/-- One look at the clock. Attempts may also be given up without being made. -/
inductive Look (timeout now : Nat) : Retries → Retries → Prop
  | attempt {r : Retries} {used : Nat} (more : r.used < used) : Look timeout now r ⟨used, now⟩
  | wait {r : Retries} {used : Nat} (more : r.used ≤ used) (waiting : now - r.last < timeout) :
    Look timeout now r ⟨used, r.last⟩

/-- The sender at `now`, when it has looked at the clock from `first` on and at least once in
every `gap`. -/
structure OnTime (timeout gap first now : Nat) (r : Retries) : Prop where
  made : r.last ≤ now
  current : now ≤ r.last + timeout
  steady : r.last + (timeout + gap) ≤ first + r.used * (timeout + gap)

variable {timeout gap first now next : Nat} {r t : Retries}

/-- The first attempt. -/
theorem OnTime.start {used : Nat} (h : 0 < used) : OnTime timeout gap first first ⟨used, first⟩ := by
  constructor
  · exact Nat.le_refl first
  · exact Nat.le_add_right first timeout
  · have hone : 1 * (timeout + gap) ≤ used * (timeout + gap) := Nat.mul_le_mul_right _ h
    simp only
    omega

theorem OnTime.look (h : OnTime timeout gap first now r) (hnow : now ≤ next) (hgap : next ≤ now + gap)
    (hlook : Look timeout next r t) : OnTime timeout gap first next t := by
  have hcurrent := h.current
  have hmade := h.made
  have hsteady := h.steady
  cases hlook with
  | @attempt used hmore =>
    have hsucc : (r.used + 1) * (timeout + gap) ≤ used * (timeout + gap) := Nat.mul_le_mul_right _ hmore
    rw [Nat.succ_mul] at hsucc
    constructor
    · exact Nat.le_refl next
    · exact Nat.le_add_right next timeout
    · simp only
      omega
  | @wait used hmore hwaiting =>
    have hmono : r.used * (timeout + gap) ≤ used * (timeout + gap) := Nat.mul_le_mul_right _ hmore
    constructor
    · simp only
      omega
    · simp only
      omega
    · simp only
      omega

/-- Behind the deadline no sender is still looking. -/
theorem OnTime.deadline (h : OnTime timeout gap first now r) {attempts : Nat} (hattempts : r.used ≤ attempts) :
    now + gap ≤ first + attempts * (timeout + gap) := by
  have hcurrent := h.current
  have hsteady := h.steady
  have hall : r.used * (timeout + gap) ≤ attempts * (timeout + gap) := Nat.mul_le_mul_right _ hattempts
  omega

end Retries

end NatTester.Lib
