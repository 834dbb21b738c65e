import NatTester.Network.Plan

/-!
# Where the plan leads

The tests of the plan in a closed form. The behavior tests come to the behavior of
the NAT. The filtering tests come to what it lets in after the behavior tests,
which have sent datagrams to the alternate addresses of the server themselves.
-/
namespace NatTester.Network
open NatTester.Lib NatTester.Source NatTester.Client IStunClientTest CStunClientLogic

namespace World
variable {w : World} {config : StunClientLogicConfig} {r : StunClientResults} {sent : List CSocketAddress}

/-- The NAT lets a server answer from where it was asked. -/
theorem lets_asked {testClass : TestClass}
    (h : w.server.address (answeringRole testClass) = w.server.target testClass) :
    w.lets (w.server.target testClass :: sent) testClass = true := by
  refine w.rule.passes_contacted ?_
  rw [h, contacted]
  exact List.mem_filter.mpr ⟨List.mem_cons_self, decide_eq_true rfl⟩

/-! ## The binding test -/

variable (w config) in
/-- The results of the binding test. -/
def bound : StunClientResults :=
  { StunClientResults.init with
    fBindingTestSuccess := true
    fIsDirect := w.addrLocal.isSameIP_and_Port (w.nat (w.server.address .rolePP))
    addrLocal := w.addrLocal
    addrMapped := w.nat (w.server.address .rolePP)
    fHasOtherAddress := true
    addrAA := w.server.address .roleAA
    addrPA := config.addrServer.setPort (w.server.address .roleAA).getPort
    addrAP := (w.server.address .roleAA).setPort config.addrServer.getPort }

theorem conduct_binding : w.conduct config Trial.start .basicBindingTest =
    ⟨w.bound config, [w.server.address .rolePP]⟩ := by
  have hlets : w.lets (w.server.target .basicBindingTest :: Trial.start.contacted) .basicBindingTest = true :=
    lets_asked rfl
  unfold conduct
  simp only [hlets]
  rfl

/-! ## The behavior tests -/

/-- Behavior test 3 is not made once the behavior is decided. -/
theorem conduct_behaviorTest3_decided (hdecided : r.fBehaviorTestSuccess = true) :
    w.conduct config ⟨r, sent⟩ (.behaviorTest true) = ⟨r, sent⟩ := by
  simp [conduct, begun, preRunCheck, CBehaviorTest.preRunCheck, isReadyToRun, CBehaviorTest.isReadyToRun, hdecided,
    CStunClientTest.init]

section Behavior
variable (hbinding : r.fBindingTestSuccess = true) (hother : r.fHasOtherAddress = true)
  (hundecided : r.fBehaviorTestSuccess = false)
include hbinding

/-- A direct connection is found without a request. -/
theorem conduct_behavior_direct (hdirect : r.fIsDirect = true) :
    w.conduct config (w.conduct config ⟨r, sent⟩ (.behaviorTest false)) (.behaviorTest true) =
      ⟨{ r with behavior := .directMapping, fBehaviorTestSuccess := true }, sent⟩ := by
  simp [conduct, begun, preRunCheck, CBehaviorTest.preRunCheck, isReadyToRun, CBehaviorTest.isReadyToRun, hbinding,
    hdirect, TestState.complete, TestState.setResults, CStunClientTest.init]

include hother hundecided

/-- Behavior test 2 is answered by the address with the other IP. -/
theorem conduct_behaviorTest2 (hindirect : r.fIsDirect = false) : w.conduct config ⟨r, sent⟩ (.behaviorTest false) =
    ⟨if w.nat (w.server.address .roleAP) = r.addrMapped then
      { r with
        addrMappingAP := w.nat (w.server.address .roleAP)
        fBehaviorTestSuccess := true
        behavior := .endpointIndependentMapping }
      else { r with addrMappingAP := w.nat (w.server.address .roleAP) }, w.server.address .roleAP :: sent⟩ := by
  have hlets : w.lets (w.server.address .roleAP :: sent) (.behaviorTest false) = true :=
    lets_asked rfl
  simp [conduct, begun, preRunCheck, CBehaviorTest.preRunCheck, isReadyToRun, CBehaviorTest.isReadyToRun, hbinding,
    hother, hundecided, hindirect, CStunClientTest.init, hlets, answered, CBehaviorTest.recordMapping,
    CSocketAddress.isSameIP_and_Port_iff, StunServer.target, apply_ite TestState.results, TestState.complete,
    TestState.setResults]

/-- Behavior test 3 is answered by the address with the other IP and the other port. -/
theorem conduct_behaviorTest3 (hnonzero : r.addrMappingAP.isIPAddressZero = false) :
    w.conduct config ⟨r, sent⟩ (.behaviorTest true) =
      ⟨{ r with
        addrMappingAA := w.nat (w.server.address .roleAA)
        fBehaviorTestSuccess := true
        behavior :=
          if w.nat (w.server.address .roleAA) = r.addrMappingAP then .addressDependentMapping
          else .addressAndPortDependentMapping }, w.server.address .roleAA :: sent⟩ := by
  have hlets : w.lets (w.server.address .roleAA :: sent) (.behaviorTest true) = true :=
    lets_asked rfl
  simp [conduct, begun, preRunCheck, CBehaviorTest.preRunCheck, isReadyToRun, CBehaviorTest.isReadyToRun, hbinding,
    hother, hundecided, CStunClientTest.init, hlets, answered, CBehaviorTest.recordMapping,
    CSocketAddress.isSameIP_and_Port_iff, StunServer.target, TestState.complete, TestState.setResults, hnonzero]

end Behavior

/-! ## The filtering tests -/

/-- Filtering test 3 is not made once the filtering is decided. -/
theorem conduct_filteringTest3_decided (hdecided : r.fFilteringTestSuccess = true) :
    w.conduct config ⟨r, sent⟩ (.filteringTest true) = ⟨r, sent⟩ := by
  simp [conduct, begun, preRunCheck, CFilteringTest.preRunCheck, isReadyToRun, CFilteringTest.isReadyToRun, hdecided,
    CStunClientTest.init]

section Filtering
variable (hbinding : r.fBindingTestSuccess = true) (hother : r.fHasOtherAddress = true)
  (hundecided : r.fFilteringTestSuccess = false) (hsilent : r.fGotTest2Response = false)
include hbinding

/-- A direct connection counts as endpoint independent. -/
theorem conduct_filtering_direct (hdirect : r.fIsDirect = true) :
    w.conduct config (w.conduct config ⟨r, sent⟩ (.filteringTest false)) (.filteringTest true) =
      ⟨{ r with filtering := .endpointIndependentFiltering, fFilteringTestSuccess := true }, sent⟩ := by
  simp [conduct, begun, preRunCheck, CFilteringTest.preRunCheck, isReadyToRun, CFilteringTest.isReadyToRun, hbinding,
    hdirect, TestState.complete, TestState.setResults, CStunClientTest.init]

include hother hundecided hsilent

theorem conduct_filteringTest2 (hindirect : r.fIsDirect = false) :
    w.conduct config ⟨r, sent⟩ (.filteringTest false) =
      ⟨if w.lets (w.server.address .rolePP :: sent) (.filteringTest false) then
        { r with
          fGotTest2Response := true
          fFilteringTestSuccess := true
          filtering := .endpointIndependentFiltering }
        else r, w.server.address .rolePP :: sent⟩ := by
  simp [conduct, begun, preRunCheck, CFilteringTest.preRunCheck, isReadyToRun, CFilteringTest.isReadyToRun, hbinding,
    hother, hundecided, hsilent, hindirect, CStunClientTest.init, answered, CFilteringTest.recordReply,
    notifyTimeout, CFilteringTest.notifyTimeout, StunServer.target, apply_ite TestState.results, TestState.complete,
    TestState.setResults]

theorem conduct_filteringTest3 :
    w.conduct config ⟨r, sent⟩ (.filteringTest true) =
      ⟨if w.lets (w.server.address .rolePP :: sent) (.filteringTest true) then
        { r with
          fGotTest3Response := true
          fFilteringTestSuccess := true
          filtering := .addressDependentFiltering }
        else
          { r with
            fFilteringTestSuccess := true
            filtering := .addressAndPortDependentFiltering }, w.server.address .rolePP :: sent⟩ := by
  simp [conduct, begun, preRunCheck, CFilteringTest.preRunCheck, isReadyToRun, CFilteringTest.isReadyToRun, hbinding,
    hother, hundecided, hsilent, CStunClientTest.init, answered, CFilteringTest.recordReply, notifyTimeout,
    CFilteringTest.notifyTimeout, StunServer.target, apply_ite TestState.results, TestState.complete,
    TestState.setResults]

end Filtering

/-! ## The whole plan -/

variable (w config) in
/-- Where the behavior tests have sent requests from the address the binding test found. -/
def probed : List CSocketAddress :=
  if config.fBehaviorTest then
    if w.nat (w.server.address .roleAP) = w.nat (w.server.address .rolePP) then [w.server.address .roleAP]
    else if w.nat (w.server.address .roleAA) = w.nat (w.server.address .rolePP) then [w.server.address .roleAA]
    else []
  else []

variable (w config) in
/-- The filtering that shows once the behavior tests have been made. -/
def shownFiltering : NatFiltering :=
  if w.nat (w.server.address .rolePP) = w.addrLocal then .endpointIndependentFiltering
  else if w.rule.passes (w.server.address .rolePP :: w.probed config) (w.server.address .roleAA) then
    .endpointIndependentFiltering
  else if w.rule.passes (w.server.address .rolePP :: w.probed config) (w.server.address .rolePA) then
    .addressDependentFiltering
  else .addressAndPortDependentFiltering

/-- The results of the plan. -/
structure Verdicts (w : World) (config : StunClientLogicConfig) (r : StunClientResults) : Prop where
  binding : r.fBindingTestSuccess = true
  addrLocal : r.addrLocal = w.addrLocal
  mapped : r.addrMapped = w.nat (w.server.address .rolePP)
  behaviorAsked : r.fBehaviorTestSuccess = config.fBehaviorTest
  behavior : config.fBehaviorTest = true → r.behavior = w.server.natBehavior w.nat w.addrLocal
  filtering : config.fFilteringTest = true → r.fFilteringTestSuccess = true ∧ r.filtering = w.shownFiltering config

theorem plan_eq : w.plan config =
    (if config.fFilteringTest then [TestClass.filteringTest false, .filteringTest true] else []).foldl (w.conduct config)
      ((if config.fBehaviorTest then [TestClass.behaviorTest false, .behaviorTest true] else []).foldl (w.conduct config)
        ⟨w.bound config, [w.server.address .rolePP]⟩) := by
  rw [plan, testClasses, List.foldl_append, List.foldl_append, List.foldl_cons, List.foldl_nil, conduct_binding]

/-- What the behavior tests leave to the filtering tests. -/
structure Behaved (w : World) (config : StunClientLogicConfig) (trial : Trial) : Prop where
  binding : trial.results.fBindingTestSuccess = true
  isDirect : trial.results.fIsDirect = decide (w.nat (w.server.address .rolePP) = w.addrLocal)
  addrLocal : trial.results.addrLocal = w.addrLocal
  mapped : trial.results.addrMapped = w.nat (w.server.address .rolePP)
  other : trial.results.fHasOtherAddress = true
  behaviorAsked : trial.results.fBehaviorTestSuccess = config.fBehaviorTest
  behavior : config.fBehaviorTest = true → trial.results.behavior = w.server.natBehavior w.nat w.addrLocal
  undecided : trial.results.fFilteringTestSuccess = false
  silent : trial.results.fGotTest2Response = false
  contacted : w.nat (w.server.address .rolePP) ≠ w.addrLocal → ∀ addr,
    addr ∈ w.contacted trial.contacted (w.nat (w.server.address .rolePP)) ↔
      addr ∈ w.server.address .rolePP :: w.probed config

variable (w config) in
theorem bound_isDirect : (w.bound config).fIsDirect = decide (w.nat (w.server.address .rolePP) = w.addrLocal) := by
  rw [Bool.eq_iff_iff, decide_eq_true_iff, eq_comm (a := w.nat _)]
  exact CSocketAddress.isSameIP_and_Port_iff

theorem behaved_untested (hasked : config.fBehaviorTest = false) :
    w.Behaved config ⟨w.bound config, [w.server.address .rolePP]⟩ where
  binding := rfl
  isDirect := w.bound_isDirect config
  addrLocal := rfl
  mapped := rfl
  other := rfl
  behaviorAsked := hasked.symm
  behavior := fun htrue => by cases hasked.symm.trans htrue
  undecided := rfl
  silent := rfl
  contacted := fun _ addr => by simp [World.contacted, probed, hasked]

theorem behaved_tested (hasked : config.fBehaviorTest = true)
    (hnonzero : (w.nat (w.server.address .roleAP)).isIPAddressZero = false) :
    w.Behaved config
      (w.conduct config (w.conduct config ⟨w.bound config, [w.server.address .rolePP]⟩ (.behaviorTest false))
        (.behaviorTest true)) := by
  have hisDirect := w.bound_isDirect config
  by_cases hdirect : w.nat (w.server.address .rolePP) = w.addrLocal
  · rw [decide_eq_true hdirect] at hisDirect
    rw [conduct_behavior_direct rfl hisDirect]
    refine ⟨rfl, w.bound_isDirect config, rfl, rfl, rfl, hasked.symm, fun _ => ?_, rfl, rfl, fun hnot => absurd hdirect hnot⟩
    rw [StunServer.natBehavior, if_pos hdirect]
  · rw [decide_eq_false hdirect] at hisDirect
    rw [conduct_behaviorTest2 rfl rfl rfl hisDirect]
    by_cases hAP : w.nat (w.server.address .roleAP) = w.nat (w.server.address .rolePP)
    · rw [if_pos (show _ = (w.bound config).addrMapped from hAP), conduct_behaviorTest3_decided rfl]
      refine ⟨rfl, w.bound_isDirect config, rfl, rfl, rfl, hasked.symm, fun _ => ?_, rfl, rfl, fun _ addr => ?_⟩
      · rw [StunServer.natBehavior, if_neg hdirect, if_pos hAP]
      · simp [World.contacted, probed, hasked, hAP, or_comm]
    · rw [if_neg (show ¬ _ = (w.bound config).addrMapped from hAP), conduct_behaviorTest3 rfl rfl rfl hnonzero]
      refine ⟨rfl, w.bound_isDirect config, rfl, rfl, rfl, hasked.symm, fun _ => ?_, rfl, rfl, fun _ addr => ?_⟩
      · rw [StunServer.natBehavior, if_neg hdirect, if_neg hAP]
      · by_cases hAA : w.nat (w.server.address .roleAA) = w.nat (w.server.address .rolePP)
        · simp [World.contacted, probed, hasked, hAP, hAA, or_comm]
        · simp [World.contacted, probed, hasked, hAP, hAA]

variable (config) in
theorem behaved (hnonzero : ∀ addr, (w.nat addr).isIPAddressZero = false) :
    w.Behaved config
      ((if config.fBehaviorTest then [TestClass.behaviorTest false, .behaviorTest true] else []).foldl (w.conduct config)
        ⟨w.bound config, [w.server.address .rolePP]⟩) := by
  cases hasked : config.fBehaviorTest with
  | false => exact behaved_untested hasked
  | true => exact behaved_tested hasked (hnonzero _)

/-- The filtering tests ask at the primary address once more. -/
theorem lets_behaved {trial : Trial} (h : w.Behaved config trial)
    (hindirect : w.nat (w.server.address .rolePP) ≠ w.addrLocal) (fIsTest3 : Bool) {contacted : List CSocketAddress}
    (hsame : ∀ addr, addr ∈ contacted ↔ addr ∈ w.server.address .rolePP :: trial.contacted) :
    w.lets contacted (.filteringTest fIsTest3) =
      w.rule.passes (w.server.address .rolePP :: w.probed config)
        (w.server.address (answeringRole (.filteringTest fIsTest3))) := by
  refine w.rule.passes_congr (fun addr => ?_) _
  have hcontacted := h.contacted hindirect addr
  rw [World.contacted, List.mem_filter] at hcontacted ⊢
  rw [hsame, ← hcontacted, List.mem_cons]
  constructor
  · rintro ⟨rfl | hmem, hnat⟩
    · exact hcontacted.mpr List.mem_cons_self
    · exact ⟨hmem, hnat⟩
  · exact fun hmem => ⟨.inr hmem.1, hmem.2⟩

theorem plan_verdicts (hnonzero : ∀ addr, (w.nat addr).isIPAddressZero = false) :
    Verdicts w config (w.plan config).results := by
  have hbehaved := behaved config hnonzero
  rw [plan_eq]
  generalize (if config.fBehaviorTest then [TestClass.behaviorTest false, .behaviorTest true] else []).foldl
    (w.conduct config) ⟨w.bound config, [w.server.address .rolePP]⟩ = trial at hbehaved
  cases hasked : config.fFilteringTest with
  | false =>
    exact ⟨hbehaved.binding, hbehaved.addrLocal, hbehaved.mapped, hbehaved.behaviorAsked, hbehaved.behavior,
      fun htrue => by cases hasked.symm.trans htrue⟩
  | true =>
    obtain ⟨r, sent⟩ := trial
    change Verdicts w config
      (w.conduct config (w.conduct config ⟨r, sent⟩ (.filteringTest false)) (.filteringTest true)).results
    have hisDirect := hbehaved.isDirect
    by_cases hdirect : w.nat (w.server.address .rolePP) = w.addrLocal
    · rw [decide_eq_true hdirect] at hisDirect
      rw [conduct_filtering_direct hbehaved.binding hisDirect]
      refine ⟨hbehaved.binding, hbehaved.addrLocal, hbehaved.mapped, hbehaved.behaviorAsked, hbehaved.behavior,
        fun _ => ⟨rfl, ?_⟩⟩
      rw [shownFiltering, if_pos hdirect]
    · rw [decide_eq_false hdirect] at hisDirect
      have htest2 : w.lets (w.server.address .rolePP :: sent) (.filteringTest false) =
          w.rule.passes (w.server.address .rolePP :: w.probed config) (w.server.address .roleAA) :=
        lets_behaved hbehaved hdirect false fun addr => Iff.rfl
      have htest3 : w.lets (w.server.address .rolePP :: w.server.address .rolePP :: sent) (.filteringTest true) =
          w.rule.passes (w.server.address .rolePP :: w.probed config) (w.server.address .rolePA) :=
        lets_behaved hbehaved hdirect true fun addr => by simp
      rw [conduct_filteringTest2 hbehaved.binding hbehaved.other hbehaved.undecided hbehaved.silent hisDirect]
      by_cases hlets2 : w.lets (w.server.address .rolePP :: sent) (.filteringTest false) = true
      · rw [if_pos hlets2, conduct_filteringTest3_decided rfl]
        refine ⟨hbehaved.binding, hbehaved.addrLocal, hbehaved.mapped, hbehaved.behaviorAsked, hbehaved.behavior,
          fun _ => ⟨rfl, ?_⟩⟩
        rw [shownFiltering, if_neg hdirect, if_pos (htest2.symm.trans hlets2)]
      · rw [if_neg hlets2,
          conduct_filteringTest3 hbehaved.binding hbehaved.other hbehaved.undecided hbehaved.silent]
        rw [htest2] at hlets2
        by_cases hlets3 :
            w.lets (w.server.address .rolePP :: w.server.address .rolePP :: sent) (.filteringTest true) = true
        · rw [if_pos hlets3]
          refine ⟨hbehaved.binding, hbehaved.addrLocal, hbehaved.mapped, hbehaved.behaviorAsked, hbehaved.behavior,
            fun _ => ⟨rfl, ?_⟩⟩
          rw [shownFiltering, if_neg hdirect, if_neg hlets2, if_pos (htest3.symm.trans hlets3)]
        · rw [if_neg hlets3]
          refine ⟨hbehaved.binding, hbehaved.addrLocal, hbehaved.mapped, hbehaved.behaviorAsked, hbehaved.behavior,
            fun _ => ⟨rfl, ?_⟩⟩
          rw [htest3] at hlets3
          rw [shownFiltering, if_neg hdirect, if_neg hlets2, if_neg hlets3]

/-! ## The filtering that shows -/

/-- The filtering of the NAT shows after the behavior tests: there is a filter to see only where the
connection is not direct, which is taken for one without, and where they have not opened a way for the
answers that the filtering tests wait for. -/
def FilteringShows (w : World) : Prop :=
  match w.rule with
  | .endpointIndependent => True
  | .addressDependent =>
    w.nat (w.server.address .rolePP) ≠ w.addrLocal ∧
      w.nat (w.server.address .roleAP) ≠ w.nat (w.server.address .rolePP) ∧
      w.nat (w.server.address .roleAA) ≠ w.nat (w.server.address .rolePP)
  | .addressAndPortDependent =>
    w.nat (w.server.address .rolePP) ≠ w.addrLocal ∧
      (w.nat (w.server.address .roleAP) = w.nat (w.server.address .rolePP) ∨
        w.nat (w.server.address .roleAA) ≠ w.nat (w.server.address .rolePP))

/-- Two sockets of the server share their IP. -/
def sharesIP (a b : SocketRole) : Bool := a = b ∨ a.swapPort = b

theorem isSameIP_address {server : StunServer} (h : server.Distinct) (a b : SocketRole) :
    (server.address a).isSameIP (server.address b) = sharesIP a b := by
  obtain ⟨hips, -⟩ := h
  have hips' := Ne.symm hips
  cases a <;> cases b <;>
    simp [CSocketAddress.isSameIP, StunServer.address, CSocketAddress.setPort, server.family, hips, hips'] <;> decide

/-- What a NAT lets in of a server that was asked on some of its sockets. -/
theorem passes_address {server : StunServer} (h : server.Distinct) (rule : FilterRule) (asked : List SocketRole)
    (role : SocketRole) :
    rule.passes (asked.map server.address) (server.address role) =
      match rule with
      | .endpointIndependent => true
      | .addressDependent => asked.any fun a => sharesIP a role
      | .addressAndPortDependent => decide (role ∈ asked) := by
  cases rule with
  | endpointIndependent => rfl
  | addressDependent =>
    rw [FilterRule.passes, List.any_map]
    exact congrArg asked.any (funext fun a => isSameIP_address h a role)
  | addressAndPortDependent =>
    rw [FilterRule.passes, Bool.eq_iff_iff, List.any_eq_true, decide_eq_true_iff]
    constructor
    · rintro ⟨addr, hmem, hsame⟩
      obtain ⟨a, ha, rfl⟩ := List.mem_map.mp hmem
      obtain rfl := h.role_eq (CSocketAddress.isSameIP_and_Port_iff.mp hsame)
      exact ha
    · exact fun hmem => ⟨_, List.mem_map_of_mem hmem, CSocketAddress.isSameIP_and_Port_iff.mpr rfl⟩

/-- The filtering of a NAT that lets in what it has let in for the sockets asked. -/
theorem shownFiltering_of_asked (hdistinct : w.server.Distinct)
    (hindirect : w.nat (w.server.address .rolePP) ≠ w.addrLocal) {asked : List SocketRole}
    (hasked : w.server.address .rolePP :: w.probed config = asked.map w.server.address) :
    w.shownFiltering config = w.rule.filtering ↔
      match w.rule with
      | .endpointIndependent => True
      | .addressDependent => asked.any (fun a => sharesIP a .roleAA) = false ∧
          asked.any (fun a => sharesIP a .rolePA) = true
      | .addressAndPortDependent => .roleAA ∉ asked ∧ .rolePA ∉ asked := by
  rw [shownFiltering, if_neg hindirect, hasked, passes_address hdistinct, passes_address hdistinct]
  cases w.rule with
  | endpointIndependent => simp [FilterRule.filtering]
  | addressDependent =>
    simp only [FilterRule.filtering]
    split <;> simp_all
  | addressAndPortDependent =>
    simp only [FilterRule.filtering]
    split <;> simp_all

theorem shownFiltering_eq_iff (hdistinct : w.server.Distinct) (hasked : config.fBehaviorTest = true) :
    w.shownFiltering config = w.rule.filtering ↔ w.FilteringShows := by
  unfold FilteringShows
  by_cases hdirect : w.nat (w.server.address .rolePP) = w.addrLocal
  · rw [shownFiltering, if_pos hdirect]
    cases w.rule <;> simp [FilterRule.filtering, hdirect]
  · by_cases hAP : w.nat (w.server.address .roleAP) = w.nat (w.server.address .rolePP)
    · have hprobed : w.server.address .rolePP :: w.probed config = [SocketRole.rolePP, .roleAP].map w.server.address := by
        simp [probed, hasked, hAP]
      rw [shownFiltering_of_asked hdistinct hdirect hprobed]
      cases w.rule with
      | endpointIndependent => exact Iff.rfl
      | addressDependent => simp [hAP, sharesIP, SocketRole.swapPort, SocketRole.ofNumber, SocketRole.number]
      | addressAndPortDependent => simp [hdirect, hAP]
    · by_cases hAA : w.nat (w.server.address .roleAA) = w.nat (w.server.address .rolePP)
      · have hprobed : w.server.address .rolePP :: w.probed config = [SocketRole.rolePP, .roleAA].map w.server.address := by
          simp [probed, hasked, hAP, hAA]
        rw [shownFiltering_of_asked hdistinct hdirect hprobed]
        cases w.rule with
        | endpointIndependent => exact Iff.rfl
        | addressDependent => simp [hAA, sharesIP]
        | addressAndPortDependent => simp [hAP, hAA]
      · have hprobed : w.server.address .rolePP :: w.probed config = [SocketRole.rolePP].map w.server.address := by
          simp [probed, hasked, hAP, hAA]
        rw [shownFiltering_of_asked hdistinct hdirect hprobed]
        cases w.rule with
        | endpointIndependent => exact Iff.rfl
        | addressDependent =>
          simp [hdirect, hAP, hAA, sharesIP, SocketRole.swapPort, SocketRole.ofNumber, SocketRole.number]
        | addressAndPortDependent => simp [hdirect, hAP, hAA]

end World

end NatTester.Network
