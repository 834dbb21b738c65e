import NatTester.Network.World

/-!
# The tests, one after the other

What a client is meant to find out on a network that loses nothing: every test is
conducted in one go, on the results of the ones before. It is answered, or its
timeout passes where the NAT lets no answer in. `plan` knows of no attempts, no
clock and no transaction ids.
-/
namespace NatTester.Network
open NatTester.Lib NatTester.Source NatTester.Client IStunClientTest CStunClientLogic

/-- The results so far, and where requests have been sent. -/
structure Trial where
  results : StunClientResults
  contacted : List CSocketAddress

def Trial.start : Trial := ⟨StunClientResults.init, []⟩

namespace World
variable (w : World) (config : StunClientLogicConfig)

/-- The NAT lets the answer to a test in. -/
def lets (sent : List CSocketAddress) (testClass : TestClass) : Bool :=
  w.rule.passes (w.contacted sent (w.nat (w.server.target testClass))) (w.server.address (answeringRole testClass))

/-- What the answer makes of the test. -/
def answered (s : TestState) : TestState :=
  match s.test.testClass with
  | .basicBindingTest =>
    CBasicBindingTest.recordBinding w.addrLocal (w.nat (w.server.address .rolePP)) (.ok (w.server.address .roleAA)) s
  | .behaviorTest fIsTest3 =>
    CBehaviorTest.recordMapping fIsTest3 (w.nat (w.server.target (.behaviorTest fIsTest3))) s
  | .filteringTest fIsTest3 => CFilteringTest.recordReply fIsTest3 s

/-- A test when its turn has come and it has been given its early chance. -/
def begun (trial : Trial) (testClass : TestClass) : TestState :=
  preRunCheck ⟨withDefaults config, trial.results, CStunClientTest.init testClass⟩

def conduct (trial : Trial) (testClass : TestClass) : Trial :=
  let s := begun config trial testClass
  if isReadyToRun s then
    let contacted := w.server.target testClass :: trial.contacted
    ⟨(if w.lets contacted testClass then w.answered s else notifyTimeout s).results, contacted⟩
  else ⟨s.results, trial.contacted⟩

/-- The trial before the test at the position. -/
def trialAt (i : Nat) : Trial := ((testClasses config).take i).foldl (w.conduct config) Trial.start

/-- All tests. -/
def plan : Trial := (testClasses config).foldl (w.conduct config) Trial.start

/-! ## The trials -/

variable {w : World} {config : StunClientLogicConfig}

theorem trialAt_succ {i : Nat} {testClass : TestClass} (h : (testClasses config)[i]? = some testClass) :
    w.trialAt config (i + 1) = w.conduct config (w.trialAt config i) testClass := by
  rw [trialAt, List.take_add_one, h, Option.toList_some, List.foldl_append]
  rfl

theorem trialAt_end {i : Nat} (h : (testClasses config).length ≤ i) : w.trialAt config i = w.plan config := by
  rw [trialAt, List.take_of_length_le h, plan]

theorem lets_congr {sent sent' : List CSocketAddress} (h : ∀ addr, addr ∈ sent ↔ addr ∈ sent') (testClass : TestClass) :
    w.lets sent testClass = w.lets sent' testClass := by
  refine w.rule.passes_congr (fun addr => ?_) _
  rw [contacted, contacted, List.mem_filter, List.mem_filter, h]

theorem begun_same (config : StunClientLogicConfig) (trial : Trial) (testClass : TestClass) :
    (begun config trial testClass).config = withDefaults config ∧
      (begun config trial testClass).test.testClass = testClass := by
  have hsame := sameTest_preRunCheck ⟨withDefaults config, trial.results, CStunClientTest.init testClass⟩
  exact ⟨hsame.config, hsame.testClass⟩

/-! ## Where the requests go -/

/-- The other addresses of the server, once one is known. -/
def KnowsOther (w : World) (results : StunClientResults) : Prop :=
  results.fHasOtherAddress = true →
    results.addrAP = w.server.address .roleAP ∧ results.addrAA = w.server.address .roleAA

theorem KnowsOther.preRunCheck {s : TestState} (h : w.KnowsOther s.results) : w.KnowsOther (preRunCheck s).results := by
  unfold IStunClientTest.preRunCheck
  split
  · exact h
  · unfold CBehaviorTest.preRunCheck
    split
    · split <;> exact h
    · exact h
  · unfold CFilteringTest.preRunCheck
    split
    · split <;> exact h
    · exact h

theorem KnowsOther.notifyTimeout {s : TestState} (h : w.KnowsOther s.results) :
    w.KnowsOther (notifyTimeout s).results := by
  unfold IStunClientTest.notifyTimeout
  split
  · exact h
  · exact h
  · unfold CFilteringTest.notifyTimeout
    split <;> exact h

theorem KnowsOther.answered {s : TestState} (h : w.KnowsOther s.results)
    (haddress : s.config.addrServer = w.server.addrPrimary) : w.KnowsOther (w.answered s).results := by
  unfold World.answered
  split
  · intro _
    refine ⟨?_, rfl⟩
    change (w.server.address .roleAA).setPort s.config.addrServer.getPort = _
    rw [haddress]
    rfl
  · unfold CBehaviorTest.recordMapping
    split
    · exact h
    · split <;> exact h
  · unfold CFilteringTest.recordReply
    split <;> exact h

theorem KnowsOther.conduct {trial : Trial} (h : w.KnowsOther trial.results)
    (haddress : config.addrServer = w.server.addrPrimary) (testClass : TestClass) :
    w.KnowsOther (w.conduct config trial testClass).results := by
  have hbegun : w.KnowsOther (begun config trial testClass).results := KnowsOther.preRunCheck h
  have hserver : (begun config trial testClass).config.addrServer = w.server.addrPrimary := by
    rw [(begun_same config trial testClass).1]
    exact haddress
  unfold World.conduct
  simp only
  split
  · simp only
    split
    · exact hbegun.answered hserver
    · exact hbegun.notifyTimeout
  · exact hbegun

theorem trialAt_knowsOther (haddress : config.addrServer = w.server.addrPrimary) (i : Nat) :
    w.KnowsOther (w.trialAt config i).results := by
  rw [trialAt]
  generalize (testClasses config).take i = classes
  have hstart : w.KnowsOther Trial.start.results := fun hfalse => by cases hfalse
  generalize Trial.start = trial at hstart
  induction classes generalizing trial with
  | nil => exact hstart
  | cons testClass classes ih => exact ih _ (hstart.conduct haddress testClass)

/-- A test that is ready sends to the address it is about. -/
theorem destination_begun (haddress : config.addrServer = w.server.addrPrimary) {trial : Trial} {testClass : TestClass}
    (hknows : w.KnowsOther trial.results) (hready : isReadyToRun (begun config trial testClass) = true) :
    destination (begun config trial testClass) = w.server.target testClass := by
  obtain ⟨hconfig, hclass⟩ := begun_same config trial testClass
  have hserver : (begun config trial testClass).config.addrServer = w.server.addrPrimary := by
    rw [hconfig]
    exact haddress
  have hknows : w.KnowsOther (begun config trial testClass).results := KnowsOther.preRunCheck hknows
  generalize begun config trial testClass = s at hready hclass hserver hknows
  subst hclass
  unfold destination StunServer.target
  cases hclass : s.test.testClass with
  | basicBindingTest => exact hserver
  | behaviorTest fIsTest3 =>
    have hother : s.results.fHasOtherAddress = true := by
      simp only [isReadyToRun, hclass, CBehaviorTest.isReadyToRun] at hready
      cases fIsTest3 <;> simp_all
    cases fIsTest3 with
    | false => exact (hknows hother).1
    | true => exact (hknows hother).2
  | filteringTest fIsTest3 => exact hserver

end World

end NatTester.Network
