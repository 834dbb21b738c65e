import NatTester.Client.Runs

/-!
# The results of every run are consistent

Whatever messages arrive, from wherever, and whatever the clock says, the flags
and the verdicts of the results agree with each other and with the addresses and
the replies recorded beside them.
-/
namespace NatTester.Guarantees
open NatTester.Lib NatTester.Source NatTester.Client

/-- What the results say about themselves, and what they keep quiet about. -/
structure SoundResults (config : StunClientLogicConfig) (r : StunClientResults) : Prop where
  consistent : Consistent config r
  noBehavior : config.fBehaviorTest = false → r.behavior = .unknownBehavior
  noFiltering : config.fFilteringTest = false → r.filtering = .unknownFiltering

/-- After any calls in any order the results are sound, and once they are ready they are final. -/
theorem results_consistent [Platform] {config : StunClientLogicConfig} {start : CStunClientLogic}
    (h : Initialized config start) (calls : List ClientCall) :
    SoundResults config (runCalls calls start).results ∧
      ((runCalls calls start).current = none → ∀ later, runCalls later (runCalls calls start) = runCalls calls start) := by
  obtain ⟨hinv, -⟩ := client_inv (runCalls_reachable h calls)
  have hconsistent : Consistent config (runCalls calls start).results := by
    have hown := hinv.results.consistent
    rw [hinv.config_eq] at hown
    exact { hown with otherAddress := hown.otherAddress }
  exact ⟨⟨hconsistent, fun hoff => hconsistent.unknownBehavior (hinv.noBehavior hoff),
    fun hoff => hconsistent.unknownFiltering (hinv.noFiltering hoff)⟩, fun hdone => runCalls_finished hinv hdone⟩

/-- A run of all tests against a server at 0.0.0.1:3478. -/
def fullConfig : StunClientLogicConfig where
  addrServer := CSocketAddress.ofIp4 1 3478
  fTimeoutIsInstant := false
  timeoutSeconds := 0
  uMaxAttempts := 1
  fBehaviorTest := true
  fFilteringTest := true

/-- The client `Initialize` makes of a configuration it accepts. -/
def fresh (config : StunClientLogicConfig) : CStunClientLogic where
  config := CStunClientLogic.withDefaults config
  results := StunClientResults.init
  fInitialized := true
  timeLastMessageSent := 0
  sendCount := 0
  fPreCheckRunOnTest := false
  testlist := (CStunClientLogic.testClasses config).map CStunClientTest.init
  nTestIndex := 0

theorem fullConfig_initialized : Initialized fullConfig (fresh fullConfig) := ⟨fullConfig, false, rfl⟩

/-- Random numbers that are all `n`. -/
def constantSource (n : Nat) : RandomSource := ⟨fun _ => n, StunTransactionId.zero⟩

/-- The transaction id drawn from `constantSource n`, as it is on the wire. -/
def wireId (n : UInt8) : Bytes := [0x21, 0x12, 0xA4, 0x42, n, n, n, n, n, n, n, n, 0, 0, 0, 0]

/-- A Binding success response: mapped address 0.0.0.9:9, other address 0.0.0.2:3479. -/
def bindingReply (n : UInt8) : CBuffer :=
  CBuffer.initNoAlloc ([0x01, 0x01, 0x00, 0x18] ++ wireId n ++
    [0x00, 0x01, 0x00, 0x08, 0, 1, 0, 9, 0, 0, 0, 9, 0x80, 0x2C, 0x00, 0x08, 0, 1, 0x0D, 0x97, 0, 0, 0, 2])

/-- A buffer for the messages of the client. -/
def sendBuffer : CBuffer := CBuffer.initNoAlloc (List.replicate 800 0)

/-- All tests: each one that is made is answered, from where it has asked for. -/
def callsToAnswers : List ClientCall :=
  [.getNextMessage (constantSource 1) sendBuffer 5,
    .processResponse (bindingReply 1) fullConfig.addrServer CSocketAddress.zero,
    .getNextMessage (constantSource 2) sendBuffer 5,
    .processResponse (bindingReply 2) (CSocketAddress.ofIp4 2 3478) CSocketAddress.zero,
    .getNextMessage (constantSource 3) sendBuffer 5,
    .processResponse (bindingReply 3) (CSocketAddress.ofIp4 2 3479) CSocketAddress.zero,
    .getNextMessage (constantSource 4) sendBuffer 5]

set_option maxRecDepth 8000 in
/-- A run that comes to both verdicts, and stays with them. -/
theorem results_consistent_answered :
    let _ := Platform.armeabi
    let l := runCalls callsToAnswers (fresh fullConfig)
    SoundResults fullConfig l.results ∧ (∀ later, runCalls later l = l) ∧
      l.results.behavior = .endpointIndependentMapping ∧ l.results.filtering = .endpointIndependentFiltering := by
  intro platform l
  have hdone : (runCalls callsToAnswers (fresh fullConfig)).current = none := by decide
  obtain ⟨hsound, hfinal⟩ := results_consistent fullConfig_initialized callsToAnswers
  exact ⟨hsound, hfinal hdone, by decide, by decide⟩

end NatTester.Guarantees
