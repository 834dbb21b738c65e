import NatTester.Guarantees.Polling
import NatTester.Lib.Machine
import NatTester.Source.PollingDivision
import NatTester.Source.PollingFactory

/-!
# The width of CPoll's table

`InitTable` refuses a table for no entries, and `CPoll::Initialize` does not look at its
result. A client without a table is then initialized all the same, and the next hash is
reduced modulo 0. This happens in no run in which each `Initialize` leaves a width.
-/
namespace NatTester.Guarantees
open NatTester.Lib NatTester.Source CPoll

variable [PollFlags]

/-- The call, stopped where it divides by 0. -/
def PollCall.divided : PollCall → CPoll → Except HashStop Unit × CPoll
  | .add fd eventflags, p => Proc.exec (Dividing.add fd eventflags) p
  | .remove fd, p => Proc.exec (Dividing.remove fd) p
  | .changeEventSet fd eventflags, p => Proc.exec (Dividing.changeEventSet fd eventflags) p
  | .waitForNextEvent event answer, p =>
    -- the table is not looked at
    let done := (PollCall.waitForNextEvent event answer).run p
    (done.1.mapError .stop, done.2)

inductive PollStep where
  | setUp (answers : SetupAnswers) (maxSockets : Nat)
  | close
  | call (call : PollCall)

namespace PollStep

def run : PollStep → CPoll → Except HashStop Unit × CPoll
  | setUp answers maxSockets, p =>
    let done := initializeTable answers maxSockets ⟨p, 1, []⟩
    (if FAILED done.1 then .error (.stop (.code done.1)) else .ok (), done.2.object)
  | close, p =>
    let done := Proc.exec CPoll.close p
    (done.1.mapError .stop, done.2)
  | call c, p => c.divided p

def perform (step : PollStep) (p : CPoll) : CPoll := (step.run p).2

omit [PollFlags] in
/-- `Initialize` is asked for a table it gets, or for none on a client that has one from before. -/
def LeavesWidth (p : CPoll) : PollStep → Prop
  | setUp answers maxSockets =>
    0 < maxSockets ∧ answers.arrays.isSome = true ∨ maxSockets = 0 ∧ 0 < p.hashtable.tsize
  | close => True
  | call _ => True

end PollStep

def pollingMachine : Machine CPoll PollStep := .ofFn (fun p => p = CPoll.new) PollStep.perform

/-- `Initialize` has returned success. -/
def InitializedIn (history : List (Machine.Taken CPoll PollStep)) : Prop :=
  ∃ k ∈ history, ∃ answers maxSockets, k.label = .setUp answers maxSockets ∧ (k.label.run k.before).1 = .ok ()

/-- The step does not divide by 0, and there is a width after it if `Initialize` has returned success by then. -/
def DividesByWidth (history : List (Machine.Taken CPoll PollStep)) (k : Machine.Taken CPoll PollStep) : Prop :=
  (k.label.run k.before).1 ≠ .error .divisionByZero ∧ (InitializedIn (k :: history) → 0 < k.after.hashtable.tsize)

def NoDivisionByZero : List (Machine.Taken CPoll PollStep) → Prop
  | [] => True
  | k :: history => NoDivisionByZero history ∧ DividesByWidth history k

variable {p : CPoll} {history : List (Machine.Taken CPoll PollStep)}

/-! ## The calls -/

/-- With a width, the calls do what they do without divisions. -/
theorem divided_eq (hp : Dividing.HasWidth p) (call : PollCall) :
    call.divided p = ((call.run p).1.mapError .stop, (call.run p).2) ∧ Dividing.HasWidth (call.run p).2 := by
  cases call with
  | add fd eventflags => exact Dividing.add_agrees fd eventflags p hp
  | remove fd => exact Dividing.remove_agrees fd p hp
  | changeEventSet fd eventflags => exact Dividing.changeEventSet_agrees fd eventflags p hp
  | waitForNextEvent event answer =>
    refine ⟨rfl, ?_⟩
    unfold Dividing.HasWidth
    rwa [PollCall.run, (waitForNextEvent_untouched p answer event).table]

theorem divided_uninitialized (h : p.fInitialized = false) (call : PollCall) :
    call.divided p = (.error (.stop (.code E_FAIL)), p) := by
  cases call with
  | add fd eventflags => exact Dividing.add_uninitialized h fd eventflags
  | remove fd => exact Dividing.remove_uninitialized h fd
  | changeEventSet fd eventflags => exact Dividing.changeEventSet_uninitialized h fd eventflags
  | waitForNextEvent event answer =>
    rw [PollCall.divided, PollCall.run, waitForNextEvent, Proc.exec_bind_ok (Proc.exec_get _),
      Proc.exec_bind_error (exec_check_true h _ _)]
    rfl

omit [PollFlags] in
theorem mapError_stop_ne (outcome : Except PollStop Unit) : outcome.mapError HashStop.stop ≠ .error .divisionByZero := by
  cases outcome <;> simp [Except.mapError]

/-! ## The steps -/

/-- What holds between two steps as long as nothing has gone wrong. -/
structure WidthKept (history : List (Machine.Taken CPoll PollStep)) (p : CPoll) : Prop where
  width : InitializedIn history → 0 < p.hashtable.tsize
  initialized : p.fInitialized = true → InitializedIn history

theorem initializedIn_cons {k : Machine.Taken CPoll PollStep} (hk : ∀ answers maxSockets, k.label ≠ .setUp answers maxSockets) :
    InitializedIn (k :: history) ↔ InitializedIn history := by
  constructor
  · intro h
    obtain ⟨k', hmem, answers, maxSockets, hlabel, hok⟩ := h
    rcases List.mem_cons.mp hmem with rfl | hmem
    · exact absurd hlabel (hk answers maxSockets)
    · exact ⟨k', hmem, answers, maxSockets, hlabel, hok⟩
  · intro h
    obtain ⟨k', hmem, hsetUp⟩ := h
    exact ⟨k', List.mem_cons_of_mem k hmem, hsetUp⟩

/-- A step that sets nothing up and leaves `q`. -/
theorem WidthKept.next {q : CPoll} {step : PollStep} (w : WidthKept history p)
    (hstep : ∀ answers maxSockets, step ≠ .setUp answers maxSockets) (hdivides : (step.run p).1 ≠ .error .divisionByZero)
    (hwidth : InitializedIn history → 0 < q.hashtable.tsize) (hinit : q.fInitialized = true → p.fInitialized = true) :
    DividesByWidth history ⟨p, step, q⟩ ∧ WidthKept (⟨p, step, q⟩ :: history) q := by
  have hcons : InitializedIn (⟨p, step, q⟩ :: history) ↔ InitializedIn history := initializedIn_cons hstep
  exact ⟨⟨hdivides, fun h => hwidth (hcons.mp h)⟩, fun h => hwidth (hcons.mp h), fun h => hcons.mpr (w.initialized (hinit h))⟩

theorem WidthKept.close (w : WidthKept history p) :
    DividesByWidth history ⟨p, .close, PollStep.close.perform p⟩ ∧
      WidthKept (⟨p, .close, PollStep.close.perform p⟩ :: history) (PollStep.close.perform p) :=
  w.next (fun _ _ h => PollStep.noConfusion h) (mapError_stop_ne (Proc.exec CPoll.close p).1) w.width fun h => Bool.noConfusion h

theorem WidthKept.call (w : WidthKept history p) (c : PollCall) :
    DividesByWidth history ⟨p, .call c, (PollStep.call c).perform p⟩ ∧
      WidthKept (⟨p, .call c, (PollStep.call c).perform p⟩ :: history) ((PollStep.call c).perform p) := by
  have hlabel : ∀ answers maxSockets, PollStep.call c ≠ .setUp answers maxSockets := fun _ _ h => PollStep.noConfusion h
  have hrun : (PollStep.call c).run p = c.divided p := rfl
  unfold PollStep.perform
  cases hinit : p.fInitialized with
  | false =>
    rw [hrun, divided_uninitialized hinit c]
    refine w.next hlabel ?_ w.width id
    rw [hrun, divided_uninitialized hinit c]
    simp
  | true =>
    obtain ⟨hdivided, hwidth⟩ := divided_eq (w.width (w.initialized hinit)) c
    refine w.next hlabel ?_ (fun _ => ?_) fun _ => hinit
    · rw [hrun, hdivided]
      exact mapError_stop_ne _
    · rw [hrun, hdivided]
      exact hwidth

/-- `Initialize` returns success whatever it leaves, so it has to leave a width. -/
theorem setUp_divides_iff (answers : SetupAnswers) (maxSockets : Nat) :
    DividesByWidth history ⟨p, .setUp answers maxSockets, (PollStep.setUp answers maxSockets).perform p⟩ ↔
      (PollStep.setUp answers maxSockets).LeavesWidth p := by
  have hok : ((PollStep.setUp answers maxSockets).run p).1 = .ok () := rfl
  have hsetUp : InitializedIn
      (⟨p, .setUp answers maxSockets, (PollStep.setUp answers maxSockets).perform p⟩ :: history) :=
    ⟨_, List.mem_cons_self, answers, maxSockets, rfl, hok⟩
  refine Iff.trans ?_ (initHashtable_width answers.arrays maxSockets p.hashtable)
  constructor
  · intro h
    exact h.2 hsetUp
  · intro h
    exact ⟨by simp [hok], fun _ => h⟩

theorem WidthKept.setUp {answers : SetupAnswers} {maxSockets : Nat}
    (h : (PollStep.setUp answers maxSockets).LeavesWidth p) :
    WidthKept (⟨p, .setUp answers maxSockets, (PollStep.setUp answers maxSockets).perform p⟩ :: history)
      ((PollStep.setUp answers maxSockets).perform p) :=
  ⟨fun _ => (initHashtable_width answers.arrays maxSockets p.hashtable).mpr h,
    fun _ => ⟨_, List.mem_cons_self, answers, maxSockets, rfl, rfl⟩⟩

/-- What one step needs, and what it keeps then. -/
theorem WidthKept.step (w : WidthKept history p) (step : PollStep) :
    (DividesByWidth history ⟨p, step, step.perform p⟩ ↔ step.LeavesWidth p) ∧
      (step.LeavesWidth p → WidthKept (⟨p, step, step.perform p⟩ :: history) (step.perform p)) := by
  cases step with
  | setUp answers maxSockets => exact ⟨setUp_divides_iff answers maxSockets, WidthKept.setUp⟩
  | close => exact ⟨iff_of_true w.close.1 trivial, fun _ => w.close.2⟩
  | call c => exact ⟨iff_of_true (w.call c).1 trivial, fun _ => (w.call c).2⟩

theorem new_widthKept : WidthKept [] CPoll.new :=
  ⟨fun ⟨_, hk, _⟩ => absurd hk List.not_mem_nil, fun h => Bool.noConfusion h⟩

/-- **In a run no hash is reduced modulo 0, and the width is positive once `Initialize` has returned success, exactly
if each `Initialize` leaves a width.** -/
theorem no_division_by_zero_iff (run : pollingMachine.Run history p) :
    NoDivisionByZero history ↔ ∀ k ∈ history, k.label.LeavesWidth k.before := by
  refine (run.invariant (I := fun history p =>
    (NoDivisionByZero history ↔ ∀ k ∈ history, k.label.LeavesWidth k.before) ∧
      (NoDivisionByZero history → WidthKept history p)) ?_ ?_).1
  · rintro p rfl
    exact ⟨iff_of_true trivial (by simp), fun _ => new_widthKept⟩
  · rintro history p step q ⟨hiff, hwidth⟩ rfl
    constructor
    · rw [NoDivisionByZero, List.forall_mem_cons, ← hiff, and_comm]
      exact and_congr_left fun h => ((hwidth h).step step).1
    · intro hall
      obtain ⟨h, hdivides⟩ := hall
      exact ((hwidth h).step step).2 (((hwidth h).step step).1.mp hdivides)

omit [PollFlags] in
/-- A table for two sockets, and one of them added and removed. -/
theorem no_division_by_zero_iff_pair :
    let _ := PollFlags.linux
    NoDivisionByZero
      (Machine.stepsOf PollStep.perform CPoll.new
        [.setUp ⟨true, .ok 5, true, some unwritten⟩ 2, .call (.add 3 IPOLLING_READ), .call (.remove 3)] ++ []) := by
  intro _
  refine (no_division_by_zero_iff (Machine.run_stepsOf _ (.start rfl))).mpr ?_
  simp [Machine.stepsOf, PollStep.LeavesWidth]

omit [PollFlags] in
/-- `Initialize(0)` succeeds, and the `Add` after it divides by 0. -/
theorem division_by_zero_reached :
    let _ := PollFlags.linux
    let initialized := (PollStep.setUp ⟨true, .ok 5, true, some unwritten⟩ 0).run CPoll.new
    initialized.1 = .ok () ∧ initialized.2.hashtable.tsize = 0 ∧
      ((PollStep.call (.add 3 IPOLLING_READ)).run initialized.2).1 = .error .divisionByZero ∧
      ¬∀ history p, pollingMachine.Run history p → NoDivisionByZero history := by
  intro _ initialized
  have hwidth : initialized.2.hashtable.tsize = 0 := rfl
  refine ⟨rfl, hwidth, rfl, fun hall => ?_⟩
  have hrun : pollingMachine.Run [⟨CPoll.new, .setUp ⟨true, .ok 5, true, some unwritten⟩ 0, initialized.2⟩] initialized.2 :=
    (Machine.Run.start rfl).step rfl
  have hpositive : 0 < initialized.2.hashtable.tsize :=
    (hall _ _ hrun).2.2 ⟨_, List.mem_cons_self, _, _, rfl, rfl⟩
  omega

end NatTester.Guarantees
