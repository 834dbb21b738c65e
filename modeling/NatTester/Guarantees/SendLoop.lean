import NatTester.Client.Outcomes
import NatTester.Guarantees.OwnRequest

/-!
# The send loop ends, and keeps to its attempts and its timer

The loop of `GetNextMessage` has no counter of its own: two turns bring it past a
test. Over a run a test sends no more than its attempts, two messages are a timeout
apart on a clock that wraps, and ready results stay as they are.
-/
namespace NatTester.Guarantees
open NatTester.Lib NatTester.Source NatTester.Client IStunClientTest

section SendLoop
variable [Platform] {config : StunClientLogicConfig} {history : List (Machine.Taken CStunClientLogic ClientCall)}
  {l : CStunClientLogic}

/-- The loop takes two turns a test at most, and one to find the results ready. -/
def LoopEnds (l : CStunClientLogic) : Prop :=
  ∀ source spMsg time, ∃ outcome after,
    l.turns source spMsg time (2 * (l.testlist.length - l.nTestIndex) + 1) = (some outcome, after) ∧
    (MAX_STUN_MESSAGE_SIZE ≤ spMsg.allocatedSize →
      Proc.exec (CStunClientLogic.getNextMessage source spMsg time) l = (outcome, after))

/-- Behind the results `ready`, the call of a step finds the results ready and leaves them. -/
structure StaysReady (ready : StunClientResults) (k : Machine.Taken CStunClientLogic ClientCall) : Prop where
  getNextMessage : ∀ source spMsg time, k.label = .getNextMessage source spMsg time →
    MAX_STUN_MESSAGE_SIZE ≤ spMsg.allocatedSize →
    (Proc.exec (CStunClientLogic.getNextMessage source spMsg time) k.before).1 = .error E_STUNCLIENT_RESULTS_READY
  processResponse : ∀ spMsg addrRemote addrLocal, k.label = .processResponse spMsg addrRemote addrLocal →
    ∃ hr, (Proc.exec (CStunClientLogic.processResponse spMsg addrRemote addrLocal) k.before).1 = .error hr
  results : k.after.results = ready

theorem loopEnds (h : LogicInv config l) : LoopEnds l := by
  intro source spMsg time
  have hleft := turnsLeft_le l
  obtain ⟨outcome, hsome⟩ := turns_returns source spMsg time (l := l)
    (show turnsLeft l < 2 * (l.testlist.length - l.nTestIndex) + 1 by omega)
  have hturns : l.turns source spMsg time (2 * (l.testlist.length - l.nTestIndex) + 1) =
      (some outcome, (l.turns source spMsg time (2 * (l.testlist.length - l.nTestIndex) + 1)).2) := by
    rw [← hsome]
  refine ⟨outcome, _, hturns, ?_⟩
  intro hroom
  rcases getNextMessage_cases source spMsg time h.initialized with ⟨hsmall, -⟩ | ⟨-, outcome', after, hbound, hrun⟩
  · exact absurd hroom (Nat.not_le.mpr hsmall)
  · have hmore := turns_mono source spMsg time hturns
      (show 2 * (l.testlist.length - l.nTestIndex) + 1 ≤ l.turnBound by unfold CStunClientLogic.turnBound; omega)
    rw [hbound] at hmore
    cases hmore
    exact hrun

/-- Only at the end of the tests are the results ready. -/
theorem ready_finished (h : LogicInv config l) (hsent : SentInv config history l) {source : RandomSource} {spMsg : CBuffer}
    {time : UInt32} {after : CStunClientLogic}
    (hready : Proc.exec (CStunClientLogic.getNextMessage source spMsg time) l = (.error E_STUNCLIENT_RESULTS_READY, after)) :
    after.current = none := by
  rcases getNextMessage_cases source spMsg time h.initialized with ⟨-, hrun⟩ | ⟨hroom, -⟩
  · have hcode := congrArg Prod.fst (hready.symm.trans hrun)
    exact absurd (Except.error.inj hcode) (by decide)
  · obtain ⟨outcome, last, after', -, -, hleave, hrun⟩ := hsent.getNextMessage_last h source hroom time
    rw [hready] at hrun
    cases hrun
    rcases turn_leave hleave with ⟨-, hnone, rfl⟩ | ⟨hcode, -⟩ | ⟨outgoing, s, hcode, -⟩
    · exact hnone
    · exact absurd (Except.error.inj hcode) (by decide)
    · cases hcode

/-- A finished client goes through the rest of a run unchanged. -/
theorem run_finished {later earlier : List (Machine.Taken CStunClientLogic ClientCall)}
    {k : Machine.Taken CStunClientLogic ClientCall} (hrun : (client config).Run (later ++ k :: earlier) l)
    (hdone : k.after.current = none) :
    l = k.after ∧ ∀ k' ∈ later, k'.before = k.after ∧ k'.after = k.after := by
  induction later generalizing l with
  | nil =>
    cases hrun with
    | step run step => exact ⟨rfl, List.forall_mem_nil _⟩
  | cons last later ih =>
    cases hrun with
    | @step _ before _ call run step =>
      obtain ⟨rfl, hlater⟩ := ih run
      obtain ⟨hinv, -⟩ := run_sentInv run
      have hsame : l = k.after := step.trans (call_finished hinv hdone call)
      refine ⟨hsame, ?_⟩
      intro k' hk'
      rcases List.mem_cons.mp hk' with rfl | hk'
      · exact ⟨rfl, hsame⟩
      · exact hlater k' hk'

/-- In every run: the loop ends in time, no test sends more often than its attempts, two
messages of a test are the timeout apart, a timed-out test is completed, and behind
ready results nothing changes. -/
theorem send_loop_bounded (hrun : (client config).Run history l) :
    LoopEnds l ∧
    (∀ i, (sendings i history).length ≤ (CStunClientLogic.withDefaults config).uMaxAttempts.toNat) ∧
    (∀ i, (sendings i history).IsChain (Spaced (CStunClientLogic.withDefaults config).timeoutSeconds)) ∧
    (∀ s, isCompleted (notifyTimeout s) = true) ∧
    ∀ later k earlier source spMsg time, history = later ++ k :: earlier → k.label = .getNextMessage source spMsg time →
      (Proc.exec (CStunClientLogic.getNextMessage source spMsg time) k.before).1 = .error E_STUNCLIENT_RESULTS_READY →
      l.results = k.after.results ∧ ∀ k' ∈ later, StaysReady k.after.results k' := by
  obtain ⟨hinv, hsent⟩ := run_sentInv hrun
  refine ⟨loopEnds hinv, ?_, hsent.spaced, notifyTimeout_completed, ?_⟩
  · intro i
    rcases Nat.lt_trichotomy i l.nTestIndex with hpast | rfl | hahead
    · exact hsent.past i hpast
    · rw [← hsent.count]
      exact hsent.bounded
    · rw [hsent.ahead i hahead]
      exact Nat.zero_le _
  · intro later k earlier source spMsg time hsplit hlabel hready
    subst hsplit
    obtain ⟨hearlier, hstep, hafter⟩ := hrun.split
    obtain ⟨before, label, after⟩ := k
    obtain rfl : label = .getNextMessage source spMsg time := hlabel
    have hreturned : Proc.exec (CStunClientLogic.getNextMessage source spMsg time) before =
        (.error E_STUNCLIENT_RESULTS_READY, after) := Prod.ext hready hstep.symm
    obtain ⟨hbefore, hbeforeSent⟩ := run_sentInv hearlier
    have hdone := ready_finished hbefore hbeforeSent hreturned
    obtain ⟨hlast, hlater⟩ := run_finished hrun hdone
    obtain ⟨hafterInv, -⟩ := run_sentInv hafter
    refine ⟨congrArg CStunClientLogic.results hlast, ?_⟩
    intro k' hk'
    obtain ⟨hsame, hkept⟩ := hlater k' hk'
    refine ⟨?_, ?_, congrArg CStunClientLogic.results hkept⟩
    · intro source' spMsg' time' _ hroom
      rw [hsame, getNextMessage_finished hafterInv hdone source' hroom time']
    · intro spMsg' addrRemote addrLocal _
      obtain ⟨hr, hexec⟩ := processResponse_finished hdone spMsg' addrRemote addrLocal
      exact ⟨hr, by rw [hsame, hexec]⟩

end SendLoop

/-! ## A run of the binding test that times out -/

def bindingConfig : StunClientLogicConfig := { fullConfig with fBehaviorTest := false, fFilteringTest := false }

theorem bindingConfig_initialized : Initialized bindingConfig (fresh bindingConfig) := ⟨bindingConfig, false, rfl⟩

/-- The request of the binding test. -/
def requestCall : ClientCall := .getNextMessage (constantSource 1) sendBuffer 5

/-- Three seconds later. -/
def timeoutCall : ClientCall := .getNextMessage (constantSource 1) sendBuffer 3005

set_option maxRecDepth 8000 in
/-- Ready results, and a call with a buffer that is too small. -/
theorem send_loop_refused :
    let _ := Platform.armeabi
    ∃ history l, (client bindingConfig).Run history l ∧
      ∃ later k earlier source spMsg time, history = later ++ k :: earlier ∧
        k.label = .getNextMessage source spMsg time ∧
        (Proc.exec (CStunClientLogic.getNextMessage source spMsg time) k.before).1 = .error E_STUNCLIENT_RESULTS_READY ∧
        ∃ k' ∈ later, ∃ source' spMsg' time', k'.label = .getNextMessage source' spMsg' time' ∧
          (Proc.exec (CStunClientLogic.getNextMessage source' spMsg' time') k'.before).1 ≠
            .error E_STUNCLIENT_RESULTS_READY := by
  intro platform
  have hready : (Proc.exec (CStunClientLogic.getNextMessage (constantSource 1) sendBuffer 3005)
      (requestCall.run (fresh bindingConfig))).1 = .error E_STUNCLIENT_RESULTS_READY := by decide
  have hrun : (client bindingConfig).Run [⟨fresh bindingConfig, requestCall, requestCall.run (fresh bindingConfig)⟩]
      (requestCall.run (fresh bindingConfig)) := (Machine.Run.start bindingConfig_initialized).step rfl
  generalize requestCall.run (fresh bindingConfig) = sent at hready hrun
  have hrun' : (client bindingConfig).Run (⟨sent, timeoutCall, timeoutCall.run sent⟩ :: _) _ := hrun.step rfl
  generalize timeoutCall.run sent = done at hrun'
  have hrun'' : (client bindingConfig).Run (⟨done, refusedCall, refusedCall.run done⟩ :: _) _ := hrun'.step rfl
  refine ⟨_, _, hrun'', [⟨done, refusedCall, refusedCall.run done⟩], _, _, _, _, _, rfl, rfl, hready, _,
    List.mem_singleton_self _, _, _, _, rfl, ?_⟩
  obtain ⟨hinv, -⟩ := run_sentInv hrun'
  rcases getNextMessage_cases (constantSource 1) (CBuffer.initNoAlloc [0]) 5 hinv.initialized with ⟨-, hrefused⟩ | ⟨hroom, -⟩
  · rw [hrefused]
    intro hsame
    exact absurd (Except.error.inj hsame) (by decide)
  · exact absurd hroom (by decide)

/-- A request, and the timeout of the test. -/
theorem send_loop_bounded_timeout :
    let _ := Platform.armeabi
    ∃ history l, (client bindingConfig).Run history l ∧ history ≠ [] ∧ LoopEnds l ∧
      ∀ i, (sendings i history).length ≤ 1 := by
  intro platform
  obtain ⟨history, hrun⟩ := run_call (runCalls_reachable bindingConfig_initialized [requestCall]) timeoutCall
  obtain ⟨hends, hbounded, -⟩ := send_loop_bounded hrun
  exact ⟨_, _, hrun, List.cons_ne_nil _ _, hends, hbounded⟩

end NatTester.Guarantees
