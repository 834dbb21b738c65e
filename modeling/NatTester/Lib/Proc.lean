import Mathlib.Tactic.Common

/-!
# Procedures over a mutable state, and their total-success triples

A procedure runs on a state and stops at its first failing step; the state it
had reached by then is kept, nothing is rolled back. `Ensures P m Q` says that
from every state satisfying `P` the procedure runs to its end and leaves a value
and a state satisfying `Q`. Failure paths are read off `exec` directly.
-/
namespace NatTester.Lib

/-- A procedure on states `σ` that returns an `α` or stops with an error `ε`. -/
abbrev Proc (ε σ α : Type) := ExceptT ε (StateM σ) α

namespace Proc

variable {ε σ τ α β : Type}

/-- Run a procedure: its outcome, and the state it leaves behind either way. -/
def exec (m : Proc ε σ α) (s : σ) : Except ε α × σ := (ExceptT.run m) s

/-- Run a procedure on one part of a larger state. -/
def zoom (get : σ → τ) (set : τ → σ → σ) (m : Proc ε τ α) : Proc ε σ α :=
  ExceptT.mk fun s => ((exec m (get s)).1, set (exec m (get s)).2 s)

/-- Run a procedure and hand its outcome, failure included, to the caller. -/
def outcome (m : Proc ε σ α) : Proc ε σ (Except ε α) :=
  ExceptT.mk fun s => (.ok (exec m s).1, (exec m s).2)

/-- Run a procedure whose result the caller does not look at. -/
def ignore (m : Proc ε σ α) : Proc ε σ Unit :=
  ExceptT.mk fun s => (.ok (), (exec m s).2)

/-- Run `m`, and `next` from the state it leaves if it failed. -/
def orElse (m next : Proc ε σ α) : Proc ε σ α :=
  ExceptT.mk fun s =>
    match exec m s with
    | (.ok a, t) => (.ok a, t)
    | (.error _, t) => exec next t

@[simp] theorem exec_pure (a : α) (s : σ) : exec (pure a : Proc ε σ α) s = (.ok a, s) := rfl

@[simp] theorem exec_throw (e : ε) (s : σ) : exec (throw e : Proc ε σ α) s = (.error e, s) := rfl

@[simp] theorem exec_get (s : σ) : exec (get : Proc ε σ σ) s = (.ok s, s) := rfl

@[simp] theorem exec_set (s t : σ) : exec (set t : Proc ε σ PUnit) s = (.ok ⟨⟩, t) := rfl

@[simp] theorem exec_modify (f : σ → σ) (s : σ) :
    exec (modify f : Proc ε σ PUnit) s = (.ok ⟨⟩, f s) := rfl

theorem exec_bind (m : Proc ε σ α) (f : α → Proc ε σ β) (s : σ) :
    exec (m >>= f) s =
      match exec m s with
      | (.ok a, t) => exec (f a) t
      | (.error e, t) => (.error e, t) := by
  change (match exec m s with
    | (r, t) => exec (match r with | .ok a => f a | .error e => throw e) t) = _
  rcases exec m s with ⟨_ | _, t⟩ <;> rfl

theorem exec_map (m : Proc ε σ α) (f : α → β) (s : σ) :
    exec (f <$> m) s =
      match exec m s with
      | (.ok a, t) => (.ok (f a), t)
      | (.error e, t) => (.error e, t) := by
  change (match exec m s with
    | (r, t) => exec (match r with | .ok a => pure (f a) | .error e => throw e) t) = _
  rcases exec m s with ⟨_ | _, t⟩ <;> rfl

theorem exec_bind_ok {m : Proc ε σ α} {s t : σ} {a : α} (h : exec m s = (.ok a, t))
    (f : α → Proc ε σ β) : exec (m >>= f) s = exec (f a) t := by
  rw [exec_bind, h]

theorem exec_bind_error {m : Proc ε σ α} {s t : σ} {e : ε} (h : exec m s = (.error e, t))
    (f : α → Proc ε σ β) : exec (m >>= f) s = (.error e, t) := by
  rw [exec_bind, h]

theorem exec_ite (c : Prop) [Decidable c] (m n : Proc ε σ α) (s : σ) :
    exec (if c then m else n) s = if c then exec m s else exec n s := by
  split <;> rfl

@[simp] theorem exec_zoom (get : σ → τ) (set : τ → σ → σ) (m : Proc ε τ α) (s : σ) :
    exec (zoom get set m) s = ((exec m (get s)).1, set (exec m (get s)).2 s) := rfl

@[simp] theorem exec_outcome (m : Proc ε σ α) (s : σ) :
    exec (outcome m) s = (.ok (exec m s).1, (exec m s).2) := rfl

@[simp] theorem exec_ignore (m : Proc ε σ α) (s : σ) :
    exec (ignore m) s = (.ok (), (exec m s).2) := rfl

theorem exec_orElse (m next : Proc ε σ α) (s : σ) :
    exec (orElse m next) s =
      match exec m s with
      | (.ok a, t) => (.ok a, t)
      | (.error _, t) => exec next t := rfl

/-! ## Total-success triples -/

/-- From every state satisfying `P`, `m` succeeds and establishes `Q`. -/
def Ensures (P : σ → Prop) (m : Proc ε σ α) (Q : α → σ → Prop) : Prop :=
  ∀ s, P s → ∃ a t, exec m s = (.ok a, t) ∧ Q a t

variable {P P' : σ → Prop} {Q Q' : α → σ → Prop} {R : β → σ → Prop}
  {m : Proc ε σ α} {f : α → Proc ε σ β}

theorem Ensures.pure {a : α} (h : ∀ s, P s → Q a s) :
    Ensures P (pure a : Proc ε σ α) Q :=
  fun s hs => ⟨a, s, rfl, h s hs⟩

theorem Ensures.bind (hm : Ensures P m Q) (hf : ∀ a, Ensures (Q a) (f a) R) :
    Ensures P (m >>= f) R := by
  intro s hs
  obtain ⟨a, t, hrun, hq⟩ := hm s hs
  rw [exec_bind_ok hrun]
  exact hf a t hq

theorem Ensures.conseq (hm : Ensures P' m Q') (hp : ∀ s, P s → P' s)
    (hq : ∀ a s, Q' a s → Q a s) : Ensures P m Q := by
  intro s hs
  obtain ⟨a, t, hrun, hqt⟩ := hm s (hp s hs)
  exact ⟨a, t, hrun, hq a t hqt⟩

theorem Ensures.ite {c : Prop} [Decidable c] {n : Proc ε σ α}
    (ht : c → Ensures P m Q) (he : ¬ c → Ensures P n Q) :
    Ensures P (if c then m else n) Q := by
  split
  · exact ht ‹_›
  · exact he ‹_›

theorem Ensures.modify {g : σ → σ} {Q : PUnit → σ → Prop} (h : ∀ s, P s → Q ⟨⟩ (g s)) :
    Ensures P (modify g : Proc ε σ PUnit) Q :=
  fun s hs => ⟨⟨⟩, g s, rfl, h s hs⟩

theorem Ensures.ignore {Q : σ → Prop} (h : Ensures P m fun _ => Q) : Ensures P (ignore m) fun _ => Q := by
  intro s hs
  obtain ⟨a, t, hrun, hq⟩ := h s hs
  refine ⟨(), t, ?_, hq⟩
  rw [exec_ignore, hrun]

/-- A triple on a part of the state, lifted along `zoom`. -/
theorem Ensures.zoom {get : σ → τ} {set : τ → σ → σ} {n : Proc ε τ α}
    {P' : τ → Prop} {Q' : α → τ → Prop} (hn : Ensures P' n Q') (hp : ∀ s, P s → P' (get s))
    (hq : ∀ a s t, P s → Q' a t → Q a (set t s)) : Ensures P (zoom get set n) Q := by
  intro s hs
  obtain ⟨a, t, hrun, hqt⟩ := hn (get s) (hp s hs)
  exact ⟨a, set t s, by rw [exec_zoom, hrun], hq a s t hs hqt⟩

/-- The final state of a procedure known to succeed. -/
theorem Ensures.state {Q : α → σ → Prop} (h : Ensures P m Q) {s : σ} (hs : P s) :
    ∃ a, Q a (exec m s).2 := by
  obtain ⟨a, t, hrun, hq⟩ := h s hs
  exact ⟨a, by rwa [hrun]⟩

/-! ## Invariants, whatever the outcome -/

/-- From every state satisfying `I`, `m` leaves one that does, also where it fails. -/
def Keeps (I : σ → Prop) (m : Proc ε σ α) : Prop := ∀ s, I s → I (exec m s).2

variable {I : σ → Prop}

theorem Keeps.pure {a : α} : Keeps I (pure a : Proc ε σ α) := fun _ => id

theorem Keeps.throw {e : ε} : Keeps I (throw e : Proc ε σ α) := fun _ => id

theorem Keeps.modify {g : σ → σ} (h : ∀ s, I s → I (g s)) : Keeps I (modify g : Proc ε σ PUnit) := h

theorem Keeps.bind (hm : Keeps I m) (hf : ∀ a, Keeps I (f a)) : Keeps I (m >>= f) := by
  intro s hs
  have hmid := hm s hs
  rw [exec_bind]
  rcases hrun : exec m s with ⟨_ | a, t⟩ <;> rw [hrun] at hmid
  · exact hmid
  · exact hf a t hmid

/-- What reads the state first may rely on what it has read. -/
theorem Keeps.get_bind {f : σ → Proc ε σ α} (h : ∀ s, I s → I (exec (f s) s).2) :
    Keeps I ((get : Proc ε σ σ) >>= f) := by
  intro s hs
  rw [exec_bind_ok (exec_get s)]
  exact h s hs

theorem Keeps.get : Keeps I (get : Proc ε σ σ) := fun _ => id

theorem Keeps.ite {c : Prop} [Decidable c] {n : Proc ε σ α} (ht : Keeps I m) (he : Keeps I n) :
    Keeps I (if c then m else n) := by
  split
  · exact ht
  · exact he

/-- A procedure on a part of the state the invariant does not speak of. -/
theorem Keeps.zoom {get : σ → τ} {set : τ → σ → σ} {n : Proc ε τ α} (h : ∀ s t, I s → I (set t s)) :
    Keeps I (zoom get set n) :=
  fun s => h s _

theorem Keeps.outcome (h : Keeps I m) : Keeps I (outcome m) := h

theorem Keeps.orElse {next : Proc ε σ α} (h : Keeps I m) (hnext : Keeps I next) : Keeps I (orElse m next) := by
  intro s hs
  have hfirst := h s hs
  rw [exec_orElse]
  rcases hrun : exec m s with ⟨_ | a, t⟩ <;> rw [hrun] at hfirst
  · exact hnext t hfirst
  · exact hfirst

/-! ## The errors it may stop with -/

/-- Every error `m` stops with satisfies `E`. -/
def Throws (E : ε → Prop) (m : Proc ε σ α) : Prop := ∀ s e t, exec m s = (.error e, t) → E e

variable {E : ε → Prop}

theorem Throws.pure {a : α} : Throws E (pure a : Proc ε σ α) := by
  intro s e t h
  cases h

theorem Throws.modify {g : σ → σ} : Throws E (modify g : Proc ε σ PUnit) := by
  intro s e t h
  cases h

theorem Throws.throw {e : ε} (he : E e) : Throws E (throw e : Proc ε σ α) := by
  intro s e' t h
  cases h
  exact he

theorem Throws.bind (hm : Throws E m) (hf : ∀ a, Throws E (f a)) : Throws E (m >>= f) := by
  intro s e t h
  rw [exec_bind] at h
  rcases hrun : exec m s with ⟨e' | a, t'⟩ <;> rw [hrun] at h
  · cases h
    exact hm s e t hrun
  · exact hf a t' e t h

theorem Throws.ite {c : Prop} [Decidable c] {n : Proc ε σ α} (ht : Throws E m) (he : Throws E n) :
    Throws E (if c then m else n) := by
  split
  · exact ht
  · exact he

/-! ## Procedures that do the same -/

/-- From every state satisfying `I`, `m` does what `n` does, with the errors renamed, and `I` still holds. -/
def Agrees {ε' : Type} (I : σ → Prop) (f : ε → ε') (m : Proc ε' σ α) (n : Proc ε σ α) : Prop :=
  ∀ s, I s → exec m s = ((exec n s).1.mapError f, (exec n s).2) ∧ I (exec n s).2

section Agrees

variable {ε' : Type} {f : ε → ε'} {m' : Proc ε' σ α}

theorem Agrees.pure {a : α} : Agrees I f (pure a) (pure a) := fun _ hs => ⟨rfl, hs⟩

theorem Agrees.throw {e : ε} : Agrees I f (throw (f e) : Proc ε' σ α) (throw e) := fun _ hs => ⟨rfl, hs⟩

theorem Agrees.set {t : σ} (ht : I t) : Agrees I f (set t : Proc ε' σ PUnit) (set t) := fun _ _ => ⟨rfl, ht⟩

theorem Agrees.modify {g : σ → σ} (h : ∀ s, I s → I (g s)) : Agrees I f (modify g : Proc ε' σ PUnit) (modify g) :=
  fun s hs => ⟨rfl, h s hs⟩

theorem Agrees.ite {c : Prop} [Decidable c] {n n' : _} (ht : c → Agrees I f m' m) (he : ¬ c → Agrees I f n' n) :
    Agrees I f (if c then m' else n') (if c then m else n) := by
  split
  · exact ht ‹_›
  · exact he ‹_›

theorem Agrees.bind {g' : α → Proc ε' σ β} {g : α → Proc ε σ β} (hm : Agrees I f m' m)
    (hg : ∀ a, Agrees I f (g' a) (g a)) : Agrees I f (m' >>= g') (m >>= g) := by
  intro s hs
  obtain ⟨hrun, hkept⟩ := hm s hs
  rw [exec_bind, exec_bind, hrun]
  rcases hfirst : exec m s with ⟨e | a, t⟩ <;> rw [hfirst] at hkept
  · exact ⟨rfl, hkept⟩
  · exact hg a t hkept

/-- What reads the state first may rely on `I` for what it has read. -/
theorem Agrees.get_bind {g' : σ → Proc ε' σ β} {g : σ → Proc ε σ β} (h : ∀ s, I s → Agrees I f (g' s) (g s)) :
    Agrees I f ((get : Proc ε' σ σ) >>= g') ((get : Proc ε σ σ) >>= g) := by
  intro s hs
  rw [exec_bind_ok (exec_get s), exec_bind_ok (exec_get s)]
  exact h s hs s hs

end Agrees

end Proc

/-- A sequence of fallible steps that succeeds split into its first step and the rest. -/
theorem bind_eq_ok {ε α β : Type} {m : Except ε α} {f : α → Except ε β} {b : β} (h : m >>= f = .ok b) :
    ∃ a, m = .ok a ∧ f a = .ok b := by
  cases m with
  | error e => cases h
  | ok a => exact ⟨a, rfl, h⟩

end NatTester.Lib
