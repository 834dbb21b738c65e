import NatTester.Lib.Proc

/-!
# Result codes and the `Chk` macros

`hresult.h`, `chkmacros.h`. An `HRESULT` is an `int32_t`; a negative one is a
failure. A function that returns an `HRESULT` through `goto Cleanup` is a
procedure that stops at its first failing step; the state it had changed by then
stays changed. Every non-negative code is the normal outcome, no caller in the
modelled code tells two of them apart.
-/
namespace NatTester.Source
open NatTester.Lib

abbrev HRESULT := Int

/-- The `int32_t` a 32-bit pattern is read as. -/
def hresult (bits : Nat) : HRESULT := if bits < 0x80000000 then bits else (bits : Int) - 0x100000000

/-- `ERRNO_TO_HRESULT(err)`, a failure for every `err`. -/
def ERRNO_TO_HRESULT (err : Int) : HRESULT := hresult (0x88000000 ||| (err % 0x100000000).toNat)

/-- `ERRNOHR`, which converts twice. -/
def ERRNOHR (errno : Int) : HRESULT := ERRNO_TO_HRESULT (ERRNO_TO_HRESULT errno)

def S_OK : HRESULT := 0
def S_FALSE : HRESULT := 1
def E_UNEXPECTED : HRESULT := hresult 0x8000FFFF
def E_OUTOFMEMORY : HRESULT := hresult 0x8007000E
def E_INVALIDARG : HRESULT := hresult 0x80070057
def E_FAIL : HRESULT := hresult 0x80004005

def E_STUNCLIENT_STILL_WAITING : HRESULT := hresult 0x81010001
def E_STUNCLIENT_RESULTS_READY : HRESULT := hresult 0x81010002

def SUCCEEDED (hr : HRESULT) : Bool := 0 ≤ hr
def FAILED (hr : HRESULT) : Bool := hr < 0

@[simp] theorem FAILED_eq_not (hr : HRESULT) : FAILED hr = !SUCCEEDED hr := by
  simp only [FAILED, SUCCEEDED, ← decide_not, Int.not_le]

abbrev Hr (σ α : Type) := Proc HRESULT σ α

variable {σ : Type}

/-- `Chk(hr)` on a code that is already there. -/
def chk (hr : HRESULT) : Hr σ Unit := if FAILED hr then throw hr else pure ()

/-- `ChkIf(cond, hr)` and `ChkIfA(cond, hr)`: the assertion of the latter is compiled out. -/
def chkIf (cond : Prop) [Decidable cond] (hr : HRESULT) : Hr σ Unit :=
  if cond then throw hr else pure ()

theorem exec_chkIf (cond : Prop) [Decidable cond] (hr : HRESULT) (s : σ) :
    Proc.exec (chkIf cond hr) s = if cond then (.error hr, s) else (.ok (), s) := by
  unfold chkIf
  split <;> rfl

@[simp] theorem exec_chkIf_true {cond : Prop} [Decidable cond] (h : cond) (hr : HRESULT) (s : σ) :
    Proc.exec (chkIf cond hr) s = (.error hr, s) := by
  rw [exec_chkIf, if_pos h]

@[simp] theorem exec_chkIf_false {cond : Prop} [Decidable cond] (h : ¬ cond) (hr : HRESULT)
    (s : σ) : Proc.exec (chkIf cond hr) s = (.ok (), s) := by
  rw [exec_chkIf, if_neg h]

theorem exec_chkIf_bind {α : Type} (cond : Prop) [Decidable cond] (hr : HRESULT) (f : Unit → Hr σ α) (s : σ) :
    Proc.exec (chkIf cond hr >>= f) s = if cond then (.error hr, s) else Proc.exec (f ()) s := by
  by_cases h : cond
  · rw [if_pos h, Proc.exec_bind_error (exec_chkIf_true h hr s)]
  · rw [if_neg h, Proc.exec_bind_ok (exec_chkIf_false h hr s)]

theorem keeps_chkIf {I : σ → Prop} {cond : Prop} [Decidable cond] {hr : HRESULT} : Proc.Keeps I (chkIf cond hr) := by
  intro s hs
  rw [exec_chkIf]
  split <;> exact hs

/-- What follows a check is reached only where the check passes. -/
theorem keeps_chkIf_bind {α : Type} {I : σ → Prop} {cond : Prop} [Decidable cond] {hr : HRESULT} {f : Unit → Hr σ α}
    (h : ¬ cond → Proc.Keeps I (f ())) : Proc.Keeps I (chkIf cond hr >>= f) := by
  intro s hs
  rw [exec_chkIf_bind]
  split
  · exact hs
  · next hcond => exact h hcond s hs

theorem ensures_chkIf {cond : Prop} [Decidable cond] {P : σ → Prop} (h : ¬ cond) (hr : HRESULT) :
    Proc.Ensures P (chkIf cond hr) fun _ => P :=
  fun s hs => ⟨(), s, exec_chkIf_false h hr s, hs⟩

/-- The code a function returns for an outcome. -/
def hrOf {α : Type} : Except HRESULT α → HRESULT
  | .ok _ => S_OK
  | .error hr => hr

end NatTester.Source
