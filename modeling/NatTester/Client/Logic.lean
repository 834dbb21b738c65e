import NatTester.Client.Results
import NatTester.Lib.Machine

/-!
# The client as a machine

Its steps are the calls of `GetNextMessage` and `ProcessResponse`, with any clock
and any message. The loop of `GetNextMessage` is inverted once, turn by turn; the
invariant of the client is proved for a turn, then for the loop and for a call.
-/
namespace NatTester.Client
open NatTester.Lib NatTester.Source IStunClientTest CStunClientLogic

/-- The id of the message a test sends next. -/
def requestTransid (source : RandomSource) (transid : StunTransactionId) : StunTransactionId :=
  if transid.isValid then transid else source.transactionId

/-- Where a test sends its messages. -/
def destination (s : TestState) : CSocketAddress :=
  match s.test.testClass with
  | .basicBindingTest => s.config.addrServer
  | .behaviorTest fIsTest3 => if fIsTest3 = false then s.results.addrAP else s.results.addrAA
  | .filteringTest _ => s.config.addrServer

/-- What a test asks the server to change. -/
def requestedChange : TestClass → StunChangeRequestAttribute
  | .basicBindingTest => ⟨false, false⟩
  | .behaviorTest _ => ⟨false, false⟩
  | .filteringTest fIsTest3 => if fIsTest3 = false then ⟨true, true⟩ else ⟨false, true⟩

def withTransid (transid : StunTransactionId) (s : TestState) : TestState :=
  { s with test := { s.test with transid } }

section Messages
variable [Platform]
open CStunMessageBuilder

theorem exec_startBindingRequest (source : RandomSource) (transid : StunTransactionId) (b : CStunMessageBuilder) :
    Proc.exec (CStunClientTestBase.startBindingRequest source transid) b =
      (.ok (requestTransid source transid),
        (Proc.exec (addTransactionId (requestTransid source transid)) (Proc.exec addBindingRequestHeader b).2).2) := by
  unfold CStunClientTestBase.startBindingRequest requestTransid
  rw [Proc.exec_bind_ok (Proc.exec_ignore ..), Proc.exec_ite]
  split
  · rw [Proc.exec_bind_ok (Proc.exec_ignore ..), Proc.exec_pure]
  · rw [Proc.exec_bind_ok (Proc.exec_ignore ..), Proc.exec_pure, addRandomTransactionId, Proc.exec_bind]
    rcases Proc.exec (addTransactionId source.transactionId) (Proc.exec addBindingRequestHeader b).2 with ⟨_ | _, _⟩ <;>
      rfl

/-- The message `GetMessage` writes. -/
def requestBuilder (source : RandomSource) (transid : StunTransactionId) (change : StunChangeRequestAttribute) :
    Hr CStunMessageBuilder Unit := do
  Proc.ignore addBindingRequestHeader
  Proc.ignore (addTransactionId (requestTransid source transid))
  Proc.ignore (addChangeRequest change)
  Proc.ignore fixLengthField

theorem exec_buildRequest (source : RandomSource) (transid : StunTransactionId) (change : StunChangeRequestAttribute)
    (b : CStunMessageBuilder) :
    Proc.exec (CStunClientTestBase.buildRequest source transid change) b =
      (.ok (requestTransid source transid), (Proc.exec (requestBuilder source transid change) b).2) := by
  unfold CStunClientTestBase.buildRequest requestBuilder
  rw [Proc.exec_bind_ok (exec_startBindingRequest ..), Proc.exec_bind_ok (Proc.exec_ignore ..),
    Proc.exec_bind_ok (Proc.exec_ignore ..), Proc.exec_pure, Proc.exec_bind_ok (Proc.exec_ignore ..),
    Proc.exec_bind_ok (Proc.exec_ignore ..), Proc.exec_bind_ok (Proc.exec_ignore ..), Proc.exec_ignore]

/-- The message in the buffer of the caller. -/
def writtenTo (source : RandomSource) (spMsg : CBuffer) (s : TestState) : CBuffer :=
  (Proc.exec (requestBuilder source s.test.transid (requestedChange s.test.testClass))
    (newOn spMsg)).2.stream.sharedBuffer.getD spMsg

theorem exec_getMessage_base (source : RandomSource) (spMsg : CBuffer) (change : StunChangeRequestAttribute)
    (addrDest : CSocketAddress) (s : TestState) :
    Proc.exec (CStunClientTestBase.getMessage change addrDest source spMsg) s =
      (.ok ⟨(Proc.exec (requestBuilder source s.test.transid change) (newOn spMsg)).2.stream.sharedBuffer.getD spMsg,
        addrDest⟩, withTransid (requestTransid source s.test.transid) s) := by
  unfold CStunClientTestBase.getMessage
  rw [Proc.exec_bind_ok (Proc.exec_get s), exec_buildRequest]
  generalize Proc.exec (requestBuilder source s.test.transid change) (newOn spMsg) = built
  simp only
  rw [Proc.exec_bind_ok (Proc.exec_set ..), Proc.exec_pure, withTransid]

theorem exec_getMessage (source : RandomSource) (spMsg : CBuffer) (s : TestState) :
    Proc.exec (IStunClientTest.getMessage source spMsg) s =
      (.ok ⟨writtenTo source spMsg s, destination s⟩, withTransid (requestTransid source s.test.transid) s) := by
  unfold IStunClientTest.getMessage writtenTo destination
  rw [Proc.exec_bind_ok (Proc.exec_get s)]
  cases s.test.testClass with
  | basicBindingTest =>
    simp only [CBasicBindingTest.getMessage, requestedChange]
    rw [Proc.exec_bind_ok (Proc.exec_get s), exec_getMessage_base]
  | behaviorTest fIsTest3 =>
    simp only [CBehaviorTest.getMessage, requestedChange]
    rw [Proc.exec_bind_ok (Proc.exec_get s), exec_getMessage_base]
  | filteringTest fIsTest3 =>
    simp only [CFilteringTest.getMessage, requestedChange]
    rw [Proc.exec_bind_ok (Proc.exec_get s), exec_getMessage_base]

end Messages

/-! ## The turns of the loop -/

/-- The client once the early check of the current test has been made. -/
def checked (l : CStunClientLogic) (s : TestState) : CStunClientLogic :=
  { l.put (l.preCheck s) with fPreCheckRunOnTest := true }

/-- The client once the current test has written a message. -/
def afterSend (source : RandomSource) (time : UInt32) (l : CStunClientLogic) (s : TestState) : CStunClientLogic :=
  { (checked l s).put (withTransid (requestTransid source (l.preCheck s).test.transid) (l.preCheck s)) with
    sendCount := l.sendCount + 1
    timeLastMessageSent := time }

/-- What one turn does. -/
inductive TurnTaken [Platform] (source : RandomSource) (spMsg : CBuffer) (time : UInt32) (l : CStunClientLogic) :
    Turn × CStunClientLogic → Prop
  | finished (current : l.current = none) :
    TurnTaken source spMsg time l (.leave (.error E_STUNCLIENT_RESULTS_READY), l)
  | skipped {s : TestState} (current : l.current = some s)
      (passed : isCompleted (l.preCheck s) = true ∨ isReadyToRun (l.preCheck s) = false) :
    TurnTaken source spMsg time l (.again, (checked l s).nextTest)
  | waited {s : TestState} (current : l.current = some s) (ready : isReadyToRun (l.preCheck s) = true)
      (waiting : l.waiting time = true) :
    TurnTaken source spMsg time l (.leave (.error E_STUNCLIENT_STILL_WAITING), checked l s)
  | timedOut {s : TestState} (current : l.current = some s) (ready : isReadyToRun (l.preCheck s) = true)
      (elapsed : l.waiting time = false) (attempts : l.config.uMaxAttempts ≤ l.sendCount) :
    TurnTaken source spMsg time l (.again, (checked l s).put (notifyTimeout (l.preCheck s)))
  | sent {s : TestState} (current : l.current = some s) (ready : isReadyToRun (l.preCheck s) = true)
      (elapsed : l.waiting time = false) (attempts : l.sendCount < l.config.uMaxAttempts) :
    TurnTaken source spMsg time l
      (.leave (.ok ⟨writtenTo source spMsg (l.preCheck s), destination (l.preCheck s)⟩), afterSend source time l s)

section Loop
variable [Platform] (source : RandomSource) (spMsg : CBuffer) (time : UInt32)

theorem turn_taken (l : CStunClientLogic) : TurnTaken source spMsg time l (l.turn source spMsg time) := by
  unfold turn
  split
  case h_1 hnone => exact .finished hnone
  case h_2 s hsome =>
    change TurnTaken source spMsg time l
      (if isCompleted (l.preCheck s) = true ∨ isReadyToRun (l.preCheck s) = false then (.again, (checked l s).nextTest)
       else if (checked l s).waiting time = true then (.leave (.error E_STUNCLIENT_STILL_WAITING), checked l s)
       else if (checked l s).sendCount ≥ (checked l s).config.uMaxAttempts then
        (.again, (checked l s).put (notifyTimeout (l.preCheck s)))
       else (checked l s).send source spMsg time (l.preCheck s))
    by_cases hover : isCompleted (l.preCheck s) = true ∨ isReadyToRun (l.preCheck s) = false
    · rw [if_pos hover]
      exact .skipped hsome hover
    · have hready : isReadyToRun (l.preCheck s) = true := by
        simpa using fun hf => hover (.inr hf)
      rw [if_neg hover]
      split
      next hwaiting => exact .waited hsome hready hwaiting
      next hnot =>
        have helapsed : l.waiting time = false := Bool.not_eq_true _ ▸ hnot
        split
        next hattempts => exact .timedOut hsome hready helapsed hattempts
        next hattempts =>
          rw [send, exec_getMessage]
          exact .sent hsome hready helapsed (UInt32.not_le.mp hattempts)

variable {source spMsg time}

/-- An invariant of the turns holds where the loop ends, and its last turn was taken under it. -/
theorem turns_invariant {I : CStunClientLogic → Prop} (hturn : ∀ l, I l → I (l.turn source spMsg time).2) (fuel : Nat)
    {l : CStunClientLogic} (h : I l) :
    I (l.turns source spMsg time fuel).2 ∧
      ∀ outcome, (l.turns source spMsg time fuel).1 = some outcome →
        ∃ last, I last ∧ last.turn source spMsg time = (.leave outcome, (l.turns source spMsg time fuel).2) := by
  induction fuel generalizing l with
  | zero => exact ⟨h, by simp [turns]⟩
  | succ fuel ih =>
    have hnext := hturn l h
    rw [turns]
    cases hl : l.turn source spMsg time with
    | mk kind t =>
      rw [hl] at hnext
      cases kind with
      | again => exact ih hnext
      | leave outcome =>
        refine ⟨hnext, fun o ho => ⟨l, h, ?_⟩⟩
        rw [hl]
        cases ho
        rfl

/-- What the turns before the last one preserve holds when the last one is taken. -/
theorem turns_last {I : CStunClientLogic → Prop} (hagain : ∀ l t, I l → l.turn source spMsg time = (.again, t) → I t)
    (fuel : Nat) {l after : CStunClientLogic} {outcome : Except HRESULT Outgoing} (h : I l)
    (hturns : l.turns source spMsg time fuel = (some outcome, after)) :
    ∃ last, I last ∧ last.turn source spMsg time = (.leave outcome, after) := by
  induction fuel generalizing l with
  | zero => cases hturns
  | succ fuel ih =>
    rw [turns] at hturns
    cases hl : l.turn source spMsg time with
    | mk kind t =>
      rw [hl] at hturns
      cases kind with
      | again => exact ih (hagain l t h hl) hturns
      | leave result =>
        cases hturns
        exact ⟨l, h, hl⟩

end Loop

/-! ## The position in the list of tests -/

theorem testClasses_basic {config : StunClientLogicConfig} {i : Nat} :
    (testClasses config)[i]? = some .basicBindingTest ↔ i = 0 := by
  unfold testClasses
  cases config.fBehaviorTest <;> cases config.fFilteringTest <;> rcases i with _ | _ | _ | _ | _ | i <;> simp

theorem testClasses_behavior {config : StunClientLogicConfig} {i : Nat} {fIsTest3 : Bool}
    (h : (testClasses config)[i]? = some (.behaviorTest fIsTest3)) :
    config.fBehaviorTest = true ∧ i = if fIsTest3 then 2 else 1 := by
  unfold testClasses at h
  cases hb : config.fBehaviorTest <;> cases hf : config.fFilteringTest <;> rw [hb, hf] at h <;>
    rcases i with _ | _ | _ | _ | _ | i <;> simp at h ⊢ <;> simp [← h]

theorem testClasses_filtering {config : StunClientLogicConfig} {i : Nat} {fIsTest3 : Bool}
    (h : (testClasses config)[i]? = some (.filteringTest fIsTest3)) : config.fFilteringTest = true := by
  unfold testClasses at h
  cases hb : config.fBehaviorTest <;> cases hf : config.fFilteringTest <;> rw [hb, hf] at h <;>
    rcases i with _ | _ | _ | _ | _ | i <;> simp at h ⊢

theorem testClasses_first {config : StunClientLogicConfig} (h : config.fBehaviorTest = true) :
    (testClasses config)[1]? = some (.behaviorTest false) := by
  simp [testClasses, h]

/-- The filtering tests come last, test 3 after test 2. -/
theorem testClasses_filtering_last {config : StunClientLogicConfig} (h : config.fFilteringTest = true) :
    ∃ i, (testClasses config)[i]? = some (.filteringTest false) ∧
      (testClasses config)[i + 1]? = some (.filteringTest true) := by
  unfold testClasses
  cases config.fBehaviorTest with
  | false => exact ⟨1, by simp [h], by simp [h]⟩
  | true => exact ⟨3, by simp [h], by simp [h]⟩

section Position
variable {l : CStunClientLogic} {s t : TestState}

theorem current_eq_some :
    l.current = some s ↔ s.config = l.config ∧ s.results = l.results ∧ l.testlist[l.nTestIndex]? = some s.test := by
  obtain ⟨config, results, test⟩ := s
  simp only [current, Option.map_eq_some_iff, TestState.mk.injEq]
  constructor
  · rintro ⟨_, htest, rfl, rfl, rfl⟩
    exact ⟨rfl, rfl, htest⟩
  · rintro ⟨rfl, rfl, htest⟩
    exact ⟨test, htest, rfl, rfl, rfl⟩

theorem current_lt (h : l.current = some s) : l.nTestIndex < l.testlist.length := by
  obtain ⟨-, -, htest⟩ := current_eq_some.mp h
  exact (List.getElem?_eq_some_iff.mp htest).1

theorem current_put (h : l.current = some s) (hconfig : t.config = s.config) : (l.put t).current = some t := by
  have hlt := current_lt h
  obtain ⟨hc, -, -⟩ := current_eq_some.mp h
  refine current_eq_some.mpr ⟨hconfig.trans hc, rfl, ?_⟩
  rw [put, List.getElem?_set_self hlt]

theorem put_classes (h : l.current = some s) (hclass : t.test.testClass = s.test.testClass) :
    (l.put t).testlist.map (·.testClass) = l.testlist.map (·.testClass) := by
  obtain ⟨-, -, htest⟩ := current_eq_some.mp h
  refine List.ext_getElem? fun i => ?_
  rw [put, List.map_set, hclass, List.getElem?_set, List.length_map, List.getElem?_map]
  split
  · subst i
    rw [htest, if_pos (current_lt h)]
    rfl
  · rfl

theorem sameTest_preCheck (l : CStunClientLogic) (s : TestState) : SameTest s (l.preCheck s) := by
  unfold preCheck
  split
  · exact sameTest_preRunCheck s
  · exact .refl s

theorem current_checked (h : l.current = some s) : (checked l s).current = some (l.preCheck s) :=
  current_put h (sameTest_preCheck l s).config

theorem current_afterSend (source : RandomSource) (time : UInt32) (h : l.current = some s) :
    (afterSend source time l s).current =
      some (withTransid (requestTransid source (l.preCheck s).test.transid) (l.preCheck s)) := by
  have hput := current_put (t := withTransid (requestTransid source (l.preCheck s).test.transid) (l.preCheck s))
    (current_checked h) rfl
  exact hput

end Position

/-! ## The loop ends -/

/-- The turns left: two for every test that has not been passed, one less once it is completed. -/
def turnsLeft (l : CStunClientLogic) : Nat :=
  match l.current with
  | none => 0
  | some s => 2 * (l.testlist.length - l.nTestIndex) - (if isCompleted s then 1 else 0)

theorem isCompleted_preRunCheck {s : TestState} (h : isCompleted s = true) : isCompleted (preRunCheck s) = true := by
  unfold preRunCheck
  split
  · exact h
  · unfold CBehaviorTest.preRunCheck
    split
    · split
      · rfl
      · exact h
    · exact h
  · unfold CFilteringTest.preRunCheck
    split
    · split
      · rfl
      · exact h
    · exact h

theorem not_completed_of_ready {s : TestState} (h : isReadyToRun s = true) : isCompleted s = false := by
  unfold isReadyToRun at h
  unfold isCompleted CStunClientTestBase.isCompleted
  split at h
  · simpa [CBasicBindingTest.isReadyToRun] using h
  · simp only [CBehaviorTest.isReadyToRun] at h
    split at h <;> simp_all
  · simp only [CFilteringTest.isReadyToRun, Bool.and_eq_true, Bool.not_eq_true'] at h
    exact h.1.1.1.1

theorem not_completed_before {l : CStunClientLogic} {s : TestState} (h : isReadyToRun (l.preCheck s) = true) :
    isCompleted s = false := by
  have hnot := not_completed_of_ready h
  by_contra hne
  have hcompleted : isCompleted s = true := by simpa using hne
  unfold preCheck at hnot
  split at hnot
  · rw [isCompleted_preRunCheck hcompleted] at hnot
    cases hnot
  · rw [hcompleted] at hnot
    cases hnot

theorem turnsLeft_le (l : CStunClientLogic) : turnsLeft l ≤ 2 * (l.testlist.length - l.nTestIndex) := by
  unfold turnsLeft
  split <;> omega

section Loop
variable [Platform] (source : RandomSource) (spMsg : CBuffer) (time : UInt32)

/-- Every turn that goes on brings the end nearer. -/
theorem turn_again {l t : CStunClientLogic} (h : l.turn source spMsg time = (.again, t)) :
    turnsLeft t < turnsLeft l := by
  have htaken := turn_taken source spMsg time l
  rw [h] at htaken
  cases htaken with
  | @skipped s hcurrent _ =>
    have hlt := current_lt hcurrent
    have hle := turnsLeft_le (checked l s).nextTest
    have hlen : (checked l s).nextTest.testlist.length = l.testlist.length := List.length_set ..
    have hindex : (checked l s).nextTest.nTestIndex = l.nTestIndex + 1 := rfl
    rw [hlen, hindex] at hle
    have hl : turnsLeft l = 2 * (l.testlist.length - l.nTestIndex) - (if isCompleted s then 1 else 0) := by
      rw [turnsLeft, hcurrent]
    rw [hl]
    split <;> omega
  | @timedOut s hcurrent hready =>
    have hlt := current_lt hcurrent
    have hnot := not_completed_before hready
    have hl : turnsLeft l = 2 * (l.testlist.length - l.nTestIndex) := by
      rw [turnsLeft, hcurrent]
      simp [hnot]
    have hdone : ((checked l s).put (notifyTimeout (l.preCheck s))).current = some (notifyTimeout (l.preCheck s)) :=
      current_put (current_checked hcurrent) (sameTest_notifyTimeout _).config
    have hlen : ((checked l s).put (notifyTimeout (l.preCheck s))).testlist.length = l.testlist.length := by
      simp [put, checked]
    have hindex : ((checked l s).put (notifyTimeout (l.preCheck s))).nTestIndex = l.nTestIndex := rfl
    rw [hl, turnsLeft, hdone]
    simp only [notifyTimeout_completed, if_true, hlen, hindex]
    omega

/-- The loop of `GetNextMessage` ends. -/
theorem turns_returns {fuel : Nat} {l : CStunClientLogic} (h : turnsLeft l < fuel) :
    ∃ outcome, (l.turns source spMsg time fuel).1 = some outcome := by
  induction fuel generalizing l with
  | zero => omega
  | succ fuel ih =>
    rw [turns]
    cases hl : l.turn source spMsg time with
    | mk kind t =>
      cases kind with
      | again =>
        have hless := turn_again source spMsg time hl
        exact ih (by omega)
      | leave outcome => exact ⟨outcome, rfl⟩

/-- More turns than it takes make no difference. -/
theorem turns_mono {n m : Nat} {l t : CStunClientLogic} {outcome : Except HRESULT Outgoing}
    (h : l.turns source spMsg time n = (some outcome, t)) (hle : n ≤ m) :
    l.turns source spMsg time m = (some outcome, t) := by
  induction n generalizing l m with
  | zero => cases h
  | succ n ih =>
    obtain ⟨m, rfl⟩ : ∃ k, m = k + 1 := ⟨m - 1, by omega⟩
    rw [turns] at h ⊢
    cases hl : l.turn source spMsg time with
    | mk kind u =>
      rw [hl] at h
      cases kind with
      | again => exact ih h (Nat.le_of_succ_le_succ hle)
      | leave result => exact h

omit [Platform] in
theorem turnsLeft_lt_bound (l : CStunClientLogic) : turnsLeft l < l.turnBound := by
  have hle := turnsLeft_le l
  unfold turnBound
  omega

end Loop

end NatTester.Client
