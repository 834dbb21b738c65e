import NatTester.Client.Tests

/-!
# Consistent results

The verdicts agree with the flags and with the addresses recorded beside them.
Two facts are carried along that no verdict shows: a mapping for AP that decided
nothing differs from the mapped address, and no reply has been counted as long as
filtering is undecided.
-/
namespace NatTester.Client
open NatTester.Lib NatTester.Source IStunClientTest

/-- What the verdicts of the results rest on. -/
structure Consistent (config : StunClientLogicConfig) (r : StunClientResults) : Prop where
  behavior : r.fBehaviorTestSuccess = true ↔ r.behavior ≠ .unknownBehavior
  filtering : r.fFilteringTestSuccess = true ↔ r.filtering ≠ .unknownFiltering
  binding : r.fBehaviorTestSuccess = true ∨ r.fFilteringTestSuccess = true → r.fBindingTestSuccess = true
  isDirect : r.fBindingTestSuccess = true → r.fIsDirect = r.addrLocal.isSameIP_and_Port r.addrMapped
  otherAddress : r.fHasOtherAddress = true →
    r.addrPA = config.addrServer.setPort r.addrAA.getPort ∧ r.addrAP = r.addrAA.setPort config.addrServer.getPort
  direct : r.behavior = .directMapping → r.fIsDirect = true
  endpointIndependent : r.behavior = .endpointIndependentMapping →
    r.fIsDirect = false ∧ r.addrMappingAP.isSameIP_and_Port r.addrMapped = true
  addressDependent : r.behavior = .addressDependentMapping →
    r.addrMappingAP.isSameIP_and_Port r.addrMapped = false ∧ r.addrMappingAA.isSameIP_and_Port r.addrMappingAP = true
  addressAndPortDependent : r.behavior = .addressAndPortDependentMapping →
    r.addrMappingAP.isSameIP_and_Port r.addrMapped = false ∧ r.addrMappingAA.isSameIP_and_Port r.addrMappingAP = false
  noDirectFiltering : r.filtering ≠ .directConnectionFiltering
  endpointIndependentFiltering : r.filtering = .endpointIndependentFiltering →
    r.fIsDirect = true ∨ r.fGotTest2Response = true
  addressDependentFiltering : r.filtering = .addressDependentFiltering →
    r.fGotTest3Response = true ∧ r.fGotTest2Response = false
  addressAndPortDependentFiltering : r.filtering = .addressAndPortDependentFiltering →
    r.fGotTest2Response = false ∧ r.fGotTest3Response = false

structure ResultsInv (config : StunClientLogicConfig) (r : StunClientResults) : Prop where
  consistent : Consistent config r
  mapping : r.fBehaviorTestSuccess = false → r.addrMappingAP.isIPAddressZero = false →
    r.addrMappingAP.isSameIP_and_Port r.addrMapped = false
  replies : r.fFilteringTestSuccess = false → r.fGotTest2Response = false ∧ r.fGotTest3Response = false

/-- The results as long as the binding test has not been left. -/
structure Untouched (r : StunClientResults) : Prop where
  behavior : r.fBehaviorTestSuccess = false
  filtering : r.fFilteringTestSuccess = false
  mappingAP : r.addrMappingAP.isIPAddressZero = true

section Verdicts
variable {config : StunClientLogicConfig} {r : StunClientResults}

theorem Consistent.unknownBehavior (h : Consistent config r) (hfail : r.fBehaviorTestSuccess = false) :
    r.behavior = .unknownBehavior := by
  by_contra hne
  rw [h.behavior.mpr hne] at hfail
  cases hfail

theorem Consistent.unknownFiltering (h : Consistent config r) (hfail : r.fFilteringTestSuccess = false) :
    r.filtering = .unknownFiltering := by
  by_contra hne
  rw [h.filtering.mpr hne] at hfail
  cases hfail

theorem resultsInv_init (config : StunClientLogicConfig) : ResultsInv config StunClientResults.init := by
  refine ⟨?_, fun _ hzero => ?_, fun _ => ⟨rfl, rfl⟩⟩
  · constructor <;> simp [StunClientResults.init]
  · cases hzero

theorem untouched_init : Untouched StunClientResults.init := ⟨rfl, rfl, rfl⟩

/-- What the results must hold for a verdict on the mapping. -/
def BehaviorEvidence (r : StunClientResults) : NatBehavior → Prop
  | .unknownBehavior => False
  | .directMapping => r.fIsDirect = true
  | .endpointIndependentMapping => r.fIsDirect = false ∧ r.addrMappingAP.isSameIP_and_Port r.addrMapped = true
  | .addressDependentMapping =>
    r.addrMappingAP.isSameIP_and_Port r.addrMapped = false ∧ r.addrMappingAA.isSameIP_and_Port r.addrMappingAP = true
  | .addressAndPortDependentMapping =>
    r.addrMappingAP.isSameIP_and_Port r.addrMapped = false ∧ r.addrMappingAA.isSameIP_and_Port r.addrMappingAP = false

/-- What the results must hold for a verdict on the filtering; there is none for a direct connection. -/
def FilteringEvidence (r : StunClientResults) : NatFiltering → Prop
  | .unknownFiltering => False
  | .directConnectionFiltering => False
  | .endpointIndependentFiltering => r.fIsDirect = true ∨ r.fGotTest2Response = true
  | .addressDependentFiltering => r.fGotTest3Response = true ∧ r.fGotTest2Response = false
  | .addressAndPortDependentFiltering => r.fGotTest2Response = false ∧ r.fGotTest3Response = false

/-- A verdict on the mapping, with the addresses that bear it out. -/
theorem ResultsInv.decideBehavior (h : ResultsInv config r) (hbinding : r.fBindingTestSuccess = true)
    (behavior : NatBehavior) {addrMappingAP addrMappingAA : CSocketAddress}
    (hevidence : BehaviorEvidence { r with addrMappingAP, addrMappingAA } behavior) :
    ResultsInv config { r with fBehaviorTestSuccess := true, behavior, addrMappingAP, addrMappingAA } := by
  have hdecided : behavior ≠ .unknownBehavior := by
    rintro rfl
    exact hevidence
  refine ⟨?_, fun htrue => Bool.noConfusion htrue, h.replies⟩
  exact { h.consistent with
    behavior := ⟨fun _ => hdecided, fun _ => rfl⟩
    binding := fun _ => hbinding
    direct := fun (hverdict : behavior = _) => by rwa [hverdict] at hevidence
    endpointIndependent := fun (hverdict : behavior = _) => by rwa [hverdict] at hevidence
    addressDependent := fun (hverdict : behavior = _) => by rwa [hverdict] at hevidence
    addressAndPortDependent := fun (hverdict : behavior = _) => by rwa [hverdict] at hevidence }

/-- A verdict on the filtering, with the replies that bear it out. -/
theorem ResultsInv.decideFiltering (h : ResultsInv config r) (hbinding : r.fBindingTestSuccess = true)
    (filtering : NatFiltering) {fGotTest2Response fGotTest3Response : Bool}
    (hevidence : FilteringEvidence { r with fGotTest2Response, fGotTest3Response } filtering) :
    ResultsInv config { r with fFilteringTestSuccess := true, filtering, fGotTest2Response, fGotTest3Response } := by
  have hdecided : filtering ≠ .unknownFiltering := by
    rintro rfl
    exact hevidence
  refine ⟨?_, h.mapping, fun htrue => Bool.noConfusion htrue⟩
  exact { h.consistent with
    filtering := ⟨fun _ => hdecided, fun _ => rfl⟩
    binding := fun _ => hbinding
    noDirectFiltering := fun (hverdict : filtering = _) => by rwa [hverdict] at hevidence
    endpointIndependentFiltering := fun (hverdict : filtering = _) => by rwa [hverdict] at hevidence
    addressDependentFiltering := fun (hverdict : filtering = _) => by rwa [hverdict] at hevidence
    addressAndPortDependentFiltering := fun (hverdict : filtering = _) => by rwa [hverdict] at hevidence }

end Verdicts

section Operations
variable {s : TestState} (h : ResultsInv s.config s.results)
include h

/-- Before the first message a test may only conclude what a direct connection implies. -/
theorem resultsInv_preRunCheck : ResultsInv s.config (preRunCheck s).results := by
  unfold preRunCheck
  split
  · exact h
  · unfold CBehaviorTest.preRunCheck
    split
    · split
      case isTrue hdirect =>
        obtain ⟨hbinding, hdirect⟩ := hdirect
        exact h.decideBehavior hbinding .directMapping hdirect
      case isFalse => exact h
    · exact h
  · unfold CFilteringTest.preRunCheck
    split
    · split
      case isTrue hdirect =>
        obtain ⟨hbinding, hdirect⟩ := hdirect
        exact h.decideFiltering hbinding .endpointIndependentFiltering (.inl hdirect)
      case isFalse => exact h
    · exact h

/-- A test that was ready to run has decided nothing, and a timeout decides no more than silence allows. -/
theorem resultsInv_notifyTimeout (hready : isReadyToRun s = true)
    (huntouched : s.test.testClass = .basicBindingTest → Untouched s.results) :
    ResultsInv s.config (notifyTimeout s).results := by
  cases hclass : s.test.testClass with
  | basicBindingTest =>
    obtain ⟨hbehavior, hfiltering, -⟩ := huntouched hclass
    simp only [notifyTimeout, hclass]
    refine ⟨?_, h.mapping, h.replies⟩
    exact { h.consistent with
      binding := by simp [TestState.setResults, CBasicBindingTest.notifyTimeout, hbehavior, hfiltering]
      isDirect := fun hfalse => Bool.noConfusion hfalse }
  | behaviorTest fIsTest3 =>
    simp only [isReadyToRun, hclass, CBehaviorTest.isReadyToRun] at hready
    have hfail : s.results.fBehaviorTestSuccess = false := by
      cases fIsTest3 <;> simp_all
    have hunknown := h.consistent.unknownBehavior hfail
    simp only [notifyTimeout, hclass]
    refine ⟨?_, fun _ => h.mapping hfail, h.replies⟩
    exact { h.consistent with
      behavior := by simp [TestState.setResults, CBehaviorTest.notifyTimeout, hunknown]
      binding := fun hor => h.consistent.binding (hor.imp_left fun hfalse => Bool.noConfusion hfalse) }
  | filteringTest fIsTest3 =>
    simp only [isReadyToRun, hclass, CFilteringTest.isReadyToRun, Bool.and_eq_true, Bool.not_eq_true'] at hready
    obtain ⟨⟨⟨⟨-, hbinding⟩, -⟩, hfail⟩, -⟩ := hready
    obtain ⟨htest2, htest3⟩ := h.replies hfail
    simp only [notifyTimeout, hclass, CFilteringTest.notifyTimeout]
    cases fIsTest3 with
    | false => exact h
    | true => exact h.decideFiltering hbinding .addressAndPortDependentFiltering ⟨htest2, htest3⟩

theorem resultsInv_recordBinding (huntouched : Untouched s.results) (addrLocal addrMapped : CSocketAddress)
    (addrOther : Except HRESULT CSocketAddress) :
    ResultsInv s.config (CBasicBindingTest.recordBinding addrLocal addrMapped addrOther s).results := by
  obtain ⟨hbehavior, hfiltering, hzero⟩ := huntouched
  have hunknown := h.consistent.unknownBehavior hbehavior
  have hunfiltered := h.consistent.unknownFiltering hfiltering
  unfold CBasicBindingTest.recordBinding CBasicBindingTest.recordOther
  cases addrOther with
  | error _ =>
    refine ⟨?_, fun _ hnonzero => ?_, h.replies⟩
    · constructor <;> simp [TestState.setResults, hbehavior, hunknown, hfiltering, hunfiltered]
    · exact absurd (hzero.symm.trans hnonzero) (by decide)
  | ok addrOther =>
    refine ⟨?_, fun _ hnonzero => ?_, h.replies⟩
    · constructor <;> simp [TestState.setResults, CSocketAddress.getPort, hbehavior, hunknown, hfiltering, hunfiltered]
    · exact absurd (hzero.symm.trans hnonzero) (by decide)

/-- Test 2 concludes from a mapping that stays, test 3 from one that does not. -/
theorem resultsInv_recordMapping {fIsTest3 : Bool} (hclass : s.test.testClass = .behaviorTest fIsTest3)
    (hready : isReadyToRun s = true) (hdirect : fIsTest3 = false → s.results.fIsDirect = false)
    (addrMapped : CSocketAddress) : ResultsInv s.config (CBehaviorTest.recordMapping fIsTest3 addrMapped s).results := by
  simp only [isReadyToRun, hclass, CBehaviorTest.isReadyToRun] at hready
  unfold CBehaviorTest.recordMapping
  cases fIsTest3 with
  | true =>
    simp only [if_true, Bool.and_eq_true, Bool.not_eq_true'] at hready
    obtain ⟨⟨⟨⟨-, hbinding⟩, -⟩, hfail⟩, hnonzero⟩ := hready
    have hdiffers := h.mapping hfail hnonzero
    rw [if_pos rfl]
    by_cases hsame : addrMapped.isSameIP_and_Port s.results.addrMappingAP = true
    · simp only [if_pos hsame]
      exact h.decideBehavior hbinding .addressDependentMapping ⟨hdiffers, hsame⟩
    · simp only [if_neg hsame]
      exact h.decideBehavior hbinding .addressAndPortDependentMapping ⟨hdiffers, Bool.eq_false_iff.mpr hsame⟩
  | false =>
    simp only [Bool.false_eq_true, if_false, Bool.and_eq_true, Bool.not_eq_true'] at hready
    obtain ⟨⟨⟨-, hbinding⟩, -⟩, hfail⟩ := hready
    have hunknown := h.consistent.unknownBehavior hfail
    simp only [Bool.false_eq_true, if_false]
    by_cases hsame : addrMapped.isSameIP_and_Port s.results.addrMapped = true
    · simp only [if_pos hsame]
      exact h.decideBehavior hbinding .endpointIndependentMapping ⟨hdirect rfl, hsame⟩
    · simp only [if_neg hsame]
      refine ⟨?_, fun _ _ => Bool.eq_false_iff.mpr hsame, h.replies⟩
      exact { h.consistent with
        endpointIndependent := by simp [TestState.setResults, hunknown]
        addressDependent := by simp [TestState.setResults, hunknown]
        addressAndPortDependent := by simp [TestState.setResults, hunknown] }

theorem resultsInv_recordReply {fIsTest3 : Bool} (hclass : s.test.testClass = .filteringTest fIsTest3)
    (hready : isReadyToRun s = true) : ResultsInv s.config (CFilteringTest.recordReply fIsTest3 s).results := by
  simp only [isReadyToRun, hclass, CFilteringTest.isReadyToRun, Bool.and_eq_true, Bool.not_eq_true'] at hready
  obtain ⟨⟨⟨⟨-, hbinding⟩, -⟩, -⟩, htest2⟩ := hready
  unfold CFilteringTest.recordReply
  cases fIsTest3 with
  | true => exact h.decideFiltering hbinding .addressDependentFiltering ⟨rfl, htest2⟩
  | false => exact h.decideFiltering hbinding .endpointIndependentFiltering (.inr rfl)

/-- What a reply decides, it records the evidence for. -/
theorem resultsInv_effect [Platform] {t : TestState} {spMsg : CBuffer} {addrLocal : CSocketAddress}
    (heffect : Effect spMsg addrLocal s t)
    (hready : s.test.testClass ≠ .basicBindingTest → isReadyToRun s = true)
    (huntouched : s.test.testClass = .basicBindingTest → Untouched s.results)
    (hdirect : s.test.testClass = .behaviorTest false → s.results.fIsDirect = false) :
    ResultsInv s.config t.results := by
  cases heffect with
  | binding hclass _ _ => exact resultsInv_recordBinding h (huntouched hclass) _ _ _
  | behavior hclass _ _ =>
    exact resultsInv_recordMapping h hclass (hready (by simp [hclass])) (fun htest2 => hdirect (htest2 ▸ hclass)) _
  | filtering hclass _ => exact resultsInv_recordReply h hclass (hready (by simp [hclass]))

end Operations

end NatTester.Client
