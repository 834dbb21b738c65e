import NatTester.Source.StunClientLogic

/-!
# What a test does to the results

A reply to a test has one of three effects, by the class of the test. Every
operation of a test keeps the results consistent, given what the client has
checked before it calls the operation.
-/
namespace NatTester.Client
open NatTester.Lib NatTester.Source IStunClientTest

/-- The message is whole and carries the transaction id of the test; `reader` has read it. -/
def RepliesTo [Platform] (test : CStunClientTest) (spMsg : CBuffer) (reader : CStunMessageReader) : Prop :=
  CStunMessageReader.addBytes spMsg.contents CStunMessageReader.new = (.bodyValidated, reader) ∧
    reader.getTransactionId = test.transid

/-- The mapped address a reply carries. -/
def mappedOf (reader : CStunMessageReader) : Except HRESULT CSocketAddress :=
  match reader.getXorMappedAddress with
  | .ok addrMapped => .ok addrMapped
  | .error _ => reader.getMappedAddress

theorem exec_mappedAddress (reader : CStunMessageReader) (s : TestState) :
    Proc.exec (CStunClientTestBase.mappedAddress reader) s = (mappedOf reader, s) := by
  unfold CStunClientTestBase.mappedAddress mappedOf
  cases reader.getXorMappedAddress with
  | ok addrMapped => rfl
  | error _ =>
    cases reader.getMappedAddress with
    | ok addrMapped => rfl
    | error hr => rfl

/-- What an accepted reply does. -/
inductive Effect [Platform] (spMsg : CBuffer) (addrLocal : CSocketAddress) (s : TestState) : TestState → Prop
  | binding {reader : CStunMessageReader} {addrMapped : CSocketAddress}
      (testClass : s.test.testClass = .basicBindingTest) (replies : RepliesTo s.test spMsg reader)
      (mapped : mappedOf reader = .ok addrMapped) :
      Effect spMsg addrLocal s (CBasicBindingTest.recordBinding addrLocal addrMapped reader.getOtherAddress s)
  | behavior {reader : CStunMessageReader} {addrMapped : CSocketAddress} {fIsTest3 : Bool}
      (testClass : s.test.testClass = .behaviorTest fIsTest3) (replies : RepliesTo s.test spMsg reader)
      (mapped : mappedOf reader = .ok addrMapped) :
      Effect spMsg addrLocal s (CBehaviorTest.recordMapping fIsTest3 addrMapped s)
  | filtering {reader : CStunMessageReader} {fIsTest3 : Bool}
      (testClass : s.test.testClass = .filteringTest fIsTest3) (replies : RepliesTo s.test spMsg reader) :
      Effect spMsg addrLocal s (CFilteringTest.recordReply fIsTest3 s)

section Responses
variable [Platform] {spMsg : CBuffer} {addrRemote addrLocal : CSocketAddress} {s t : TestState}

theorem exec_basicReaderValidation (spMsg : CBuffer) (s : TestState) :
    (∃ reader, RepliesTo s.test spMsg reader ∧
      Proc.exec (CStunClientTestBase.basicReaderValidation spMsg) s = (.ok reader, s)) ∨
    ((∀ reader, ¬ RepliesTo s.test spMsg reader) ∧
      Proc.exec (CStunClientTestBase.basicReaderValidation spMsg) s = (.error E_FAIL, s)) := by
  unfold CStunClientTestBase.basicReaderValidation RepliesTo
  rw [Proc.exec_bind_ok (Proc.exec_get s)]
  generalize CStunMessageReader.addBytes spMsg.contents CStunMessageReader.new = added
  obtain ⟨state, reader⟩ := added
  by_cases hstate : state = .bodyValidated
  · rw [Proc.exec_bind_ok (exec_chkIf_false (not_not.mpr hstate) ..)]
    by_cases htransid : reader.getTransactionId = s.test.transid
    · rw [Proc.exec_bind_ok (exec_chkIf_false (not_not.mpr htransid) ..)]
      exact .inl ⟨reader, ⟨by rw [hstate], htransid⟩, rfl⟩
    · rw [Proc.exec_bind_error (exec_chkIf_true htransid ..)]
      refine .inr ⟨?_, rfl⟩
      rintro _ ⟨heq, h⟩
      cases heq
      exact htransid h
  · rw [Proc.exec_bind_error (exec_chkIf_true hstate ..)]
    refine .inr ⟨?_, rfl⟩
    rintro _ ⟨heq, -⟩
    cases heq
    exact hstate rfl

/-- A reply is read for its mapped address, and the address is recorded. -/
theorem exec_recorded (spMsg : CBuffer) (record : CStunMessageReader → CSocketAddress → TestState → TestState)
    (s : TestState) :
    let m : Hr TestState Unit := do
      let reader ← CStunClientTestBase.basicReaderValidation spMsg
      let addrMapped ← CStunClientTestBase.mappedAddress reader
      modify (record reader addrMapped)
    (∃ hr, Proc.exec m s = (.error hr, s)) ∨
      ∃ reader addrMapped, RepliesTo s.test spMsg reader ∧ mappedOf reader = .ok addrMapped ∧
        Proc.exec m s = (.ok (), record reader addrMapped s) := by
  intro m
  simp only [m]
  rcases exec_basicReaderValidation spMsg s with ⟨reader, hreplies, hrun⟩ | ⟨-, hrun⟩
  · have hmapped := exec_mappedAddress reader s
    rw [Proc.exec_bind_ok hrun]
    cases hof : mappedOf reader with
    | error hr =>
      rw [hof] at hmapped
      rw [Proc.exec_bind_error hmapped]
      exact .inl ⟨hr, rfl⟩
    | ok addrMapped =>
      rw [hof] at hmapped
      rw [Proc.exec_bind_ok hmapped]
      exact .inr ⟨reader, addrMapped, hreplies, hof, Proc.exec_modify ..⟩
  · rw [Proc.exec_bind_error hrun]
    exact .inl ⟨E_FAIL, rfl⟩

/-- A reply is turned down and changes nothing, or it has its effect. -/
theorem exec_processResponse (spMsg : CBuffer) (addrRemote addrLocal : CSocketAddress) (s : TestState) :
    (∃ hr, Proc.exec (processResponse spMsg addrRemote addrLocal) s = (.error hr, s)) ∨
      ∃ t, Proc.exec (processResponse spMsg addrRemote addrLocal) s = (.ok (), t) ∧ Effect spMsg addrLocal s t := by
  unfold processResponse
  rw [Proc.exec_bind_ok (Proc.exec_get s)]
  cases hclass : s.test.testClass with
  | basicBindingTest =>
    rcases exec_recorded spMsg (fun reader addrMapped =>
      CBasicBindingTest.recordBinding addrLocal addrMapped reader.getOtherAddress) s with
      ⟨hr, hrun⟩ | ⟨reader, addrMapped, hreplies, hmapped, hrun⟩
    · exact .inl ⟨hr, hrun⟩
    · exact .inr ⟨_, hrun, .binding hclass hreplies hmapped⟩
  | behaviorTest fIsTest3 =>
    rcases exec_recorded spMsg (fun _ => CBehaviorTest.recordMapping fIsTest3) s with
      ⟨hr, hrun⟩ | ⟨reader, addrMapped, hreplies, hmapped, hrun⟩
    · exact .inl ⟨hr, hrun⟩
    · exact .inr ⟨_, hrun, .behavior hclass hreplies hmapped⟩
  | filteringTest fIsTest3 =>
    simp only [CFilteringTest.processResponse]
    rcases exec_basicReaderValidation spMsg s with ⟨reader, hreplies, hrun⟩ | ⟨-, hrun⟩
    · rw [Proc.exec_bind_ok hrun]
      exact .inr ⟨_, Proc.exec_modify .., .filtering hclass hreplies⟩
    · rw [Proc.exec_bind_error hrun]
      exact .inl ⟨E_FAIL, rfl⟩

/-- A filtering test takes every reply. -/
theorem exec_processResponse_filtering (addrRemote addrLocal : CSocketAddress) {fIsTest3 : Bool}
    {reader : CStunMessageReader} (hclass : s.test.testClass = .filteringTest fIsTest3)
    (hreplies : RepliesTo s.test spMsg reader) :
    Proc.exec (processResponse spMsg addrRemote addrLocal) s = (.ok (), CFilteringTest.recordReply fIsTest3 s) := by
  unfold processResponse
  rw [Proc.exec_bind_ok (Proc.exec_get s), hclass]
  simp only [CFilteringTest.processResponse]
  rcases exec_basicReaderValidation spMsg s with ⟨_, -, hrun⟩ | ⟨hnone, -⟩
  · rw [Proc.exec_bind_ok hrun, Proc.exec_modify]
  · exact absurd hreplies (hnone reader)

theorem RepliesTo.size_ne_zero {test : CStunClientTest} {reader : CStunMessageReader}
    (h : RepliesTo test spMsg reader) : spMsg.size ≠ 0 := by
  intro hzero
  have hread := h.1
  rw [CBuffer.contents, hzero, List.take_zero] at hread
  cases hread

end Responses

/-! ## What stays the same -/

/-- An operation on a test leaves its identity alone, and the success of the other kind of test. -/
structure SameTest (s t : TestState) : Prop where
  config : t.config = s.config
  testClass : t.test.testClass = s.test.testClass
  transid : t.test.transid = s.test.transid
  behavior : (∀ fIsTest3, s.test.testClass ≠ .behaviorTest fIsTest3) →
    t.results.fBehaviorTestSuccess = s.results.fBehaviorTestSuccess
  filtering : (∀ fIsTest3, s.test.testClass ≠ .filteringTest fIsTest3) →
    t.results.fFilteringTestSuccess = s.results.fFilteringTestSuccess

theorem SameTest.refl (s : TestState) : SameTest s s := ⟨rfl, rfl, rfl, fun _ => rfl, fun _ => rfl⟩

section Complete
variable {s : TestState} {results : StunClientResults} {fIsTest3 : Bool}

theorem sameTest_complete (hbehavior : results.fBehaviorTestSuccess = s.results.fBehaviorTestSuccess)
    (hfiltering : results.fFilteringTestSuccess = s.results.fFilteringTestSuccess) :
    SameTest s (s.complete.setResults results) :=
  ⟨rfl, rfl, rfl, fun _ => hbehavior, fun _ => hfiltering⟩

theorem sameTest_behavior (hclass : s.test.testClass = .behaviorTest fIsTest3)
    (hfiltering : results.fFilteringTestSuccess = s.results.fFilteringTestSuccess) :
    SameTest s (s.complete.setResults results) :=
  ⟨rfl, rfl, rfl, fun hnot => absurd hclass (hnot _), fun _ => hfiltering⟩

theorem sameTest_filtering (hclass : s.test.testClass = .filteringTest fIsTest3)
    (hbehavior : results.fBehaviorTestSuccess = s.results.fBehaviorTestSuccess) :
    SameTest s (s.complete.setResults results) :=
  ⟨rfl, rfl, rfl, fun _ => hbehavior, fun hnot => absurd hclass (hnot _)⟩

end Complete

theorem sameTest_preRunCheck (s : TestState) : SameTest s (preRunCheck s) := by
  unfold preRunCheck
  cases hclass : s.test.testClass with
  | basicBindingTest => exact .refl s
  | behaviorTest fIsTest3 =>
    simp only [CBehaviorTest.preRunCheck]
    split
    · split
      · exact sameTest_behavior hclass rfl
      · exact .refl s
    · exact .refl s
  | filteringTest fIsTest3 =>
    simp only [CFilteringTest.preRunCheck]
    split
    · split
      · exact sameTest_filtering hclass rfl
      · exact .refl s
    · exact .refl s

theorem sameTest_notifyTimeout (s : TestState) : SameTest s (notifyTimeout s) := by
  unfold notifyTimeout
  cases hclass : s.test.testClass with
  | basicBindingTest => exact sameTest_complete rfl rfl
  | behaviorTest fIsTest3 => exact sameTest_behavior hclass rfl
  | filteringTest fIsTest3 =>
    simp only [CFilteringTest.notifyTimeout]
    split
    · exact sameTest_filtering hclass rfl
    · exact @sameTest_complete s s.results rfl rfl

theorem notifyTimeout_completed (s : TestState) : isCompleted (notifyTimeout s) = true := by
  unfold notifyTimeout
  split
  · rfl
  · rfl
  · unfold CFilteringTest.notifyTimeout
    split <;> rfl

theorem Effect.sameTest [Platform] {spMsg : CBuffer} {addrLocal : CSocketAddress} {s t : TestState}
    (h : Effect spMsg addrLocal s t) : SameTest s t ∧ isCompleted t = true := by
  cases h with
  | binding =>
    unfold CBasicBindingTest.recordBinding CBasicBindingTest.recordOther
    split <;> exact ⟨sameTest_complete rfl rfl, rfl⟩
  | behavior hclass =>
    unfold CBehaviorTest.recordMapping
    split
    · exact ⟨sameTest_behavior hclass rfl, rfl⟩
    · split <;> exact ⟨sameTest_behavior hclass rfl, rfl⟩
  | filtering hclass =>
    unfold CFilteringTest.recordReply
    split <;> exact ⟨sameTest_filtering hclass rfl, rfl⟩

end NatTester.Client
