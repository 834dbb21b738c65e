import NatTester.Source.StunClientTests

/-!
# CStunClientLogic

`stunclientlogic.cpp`. The five test objects are members of the client and
`_testlist` points at those in use; here the list holds the objects. The clock is
a `uint32_t` of milliseconds and wraps around.
-/
namespace NatTester.Source
open NatTester.Lib

structure CStunClientLogic where
  config : StunClientLogicConfig
  results : StunClientResults
  fInitialized : Bool
  timeLastMessageSent : UInt32
  sendCount : UInt32
  fPreCheckRunOnTest : Bool
  testlist : List CStunClientTest
  nTestIndex : Nat
  deriving DecidableEq, Repr

/-- How a turn of the loop of `GetNextMessage` ends. -/
inductive Turn where
  | again
  | leave (outcome : Except HRESULT Outgoing)

namespace CStunClientLogic
open IStunClientTest

/-- `CStunClientLogic()`; `_config` and `_fPreCheckRunOnTest` are set by `Initialize`. -/
def new (config : StunClientLogicConfig) (fPreCheckRunOnTest : Bool) : CStunClientLogic where
  config
  results := StunClientResults.init
  fInitialized := false
  timeLastMessageSent := 0
  sendCount := 0
  fPreCheckRunOnTest
  testlist := []
  nTestIndex := 0

/-- The defaults of the timeout and of the number of attempts. -/
def withDefaults (config : StunClientLogicConfig) : StunClientLogicConfig :=
  { config with
    timeoutSeconds :=
      if config.fTimeoutIsInstant then 0 else if config.timeoutSeconds = 0 then 3 else config.timeoutSeconds
    uMaxAttempts := if config.uMaxAttempts ≤ 0 then 2 else config.uMaxAttempts }

/-- The tests of a run, in their order. -/
def testClasses (config : StunClientLogicConfig) : List TestClass :=
  [.basicBindingTest] ++
    (if config.fBehaviorTest then [.behaviorTest false, .behaviorTest true] else []) ++
    (if config.fFilteringTest then [.filteringTest false, .filteringTest true] else [])

/-- `Initialize` -/
def initializeClient (config : StunClientLogicConfig) : Hr CStunClientLogic Unit := do
  let l ← get
  chkIf (l.fInitialized = true) E_UNEXPECTED
  chkIf (config.addrServer.isIPAddressZero = true) E_INVALIDARG
  chkIf (config.addrServer.getPort = 0) E_INVALIDARG
  set
    { l with
      config := withDefaults config
      fInitialized := true
      nTestIndex := 0
      testlist := (testClasses config).map CStunClientTest.init
      fPreCheckRunOnTest := false
      timeLastMessageSent := 0 }

/-- `_testlist[_nTestIndex]`, with what it points at. -/
def current (l : CStunClientLogic) : Option TestState :=
  l.testlist[l.nTestIndex]?.map fun test => ⟨l.config, l.results, test⟩

/-- What a test has written, to itself and to the results. -/
def put (s : TestState) (l : CStunClientLogic) : CStunClientLogic :=
  { l with results := s.results, testlist := l.testlist.set l.nTestIndex s.test }

def nextTest (l : CStunClientLogic) : CStunClientLogic :=
  { l with nTestIndex := l.nTestIndex + 1, sendCount := 0, fPreCheckRunOnTest := false }

/-- An early chance for the test to complete, on the results of the one before. -/
def preCheck (s : TestState) (l : CStunClientLogic) : TestState :=
  if l.fPreCheckRunOnTest = false then IStunClientTest.preRunCheck s else s

/-- The message goes out, unless the test fails to make one. -/
def send [Platform] (source : RandomSource) (spMsg : CBuffer) (timeCurrentMilliseconds : UInt32) (s : TestState)
    (l : CStunClientLogic) : Turn × CStunClientLogic :=
  match Proc.exec (IStunClientTest.getMessage source spMsg) s with
  | (.error hr, s) => (.leave (.error hr), l.put s)
  | (.ok outgoing, s) =>
    (.leave (.ok outgoing),
      { l.put s with sendCount := l.sendCount + 1, timeLastMessageSent := timeCurrentMilliseconds })

/-- Fewer seconds than the timeout since the last message; the difference wraps. -/
def waiting (timeCurrentMilliseconds : UInt32) (l : CStunClientLogic) : Bool :=
  (timeCurrentMilliseconds - l.timeLastMessageSent) / 1000 < l.config.timeoutSeconds ∧ l.sendCount ≠ 0

/-- One turn of the loop of `GetNextMessage`. -/
def turn [Platform] (source : RandomSource) (spMsg : CBuffer) (timeCurrentMilliseconds : UInt32)
    (l : CStunClientLogic) : Turn × CStunClientLogic :=
  match l.current with
  | none => (.leave (.error E_STUNCLIENT_RESULTS_READY), l)
  | some s =>
    let s := l.preCheck s
    let l := { l.put s with fPreCheckRunOnTest := true }
    if isCompleted s ∨ isReadyToRun s = false then (.again, l.nextTest)
    else if l.waiting timeCurrentMilliseconds then (.leave (.error E_STUNCLIENT_STILL_WAITING), l)
    else if l.sendCount ≥ l.config.uMaxAttempts then (.again, l.put (notifyTimeout s))
    else l.send source spMsg timeCurrentMilliseconds s

/-- The loop; `none` if it takes more turns than `fuel`. -/
def turns [Platform] (source : RandomSource) (spMsg : CBuffer) (timeCurrentMilliseconds : UInt32) :
    Nat → CStunClientLogic → Option (Except HRESULT Outgoing) × CStunClientLogic
  | 0, l => (none, l)
  | fuel + 1, l =>
    match l.turn source spMsg timeCurrentMilliseconds with
    | (.leave outcome, l) => (some outcome, l)
    | (.again, l) => turns source spMsg timeCurrentMilliseconds fuel l

/-- A test takes two turns at most before the next one is looked at. -/
def turnBound (l : CStunClientLogic) : Nat := 2 * l.testlist.length + 1

def getNextMessage [Platform] (source : RandomSource) (spMsg : CBuffer) (timeCurrentMilliseconds : UInt32) :
    Hr CStunClientLogic Outgoing := do
  let l ← get
  chkIf (l.fInitialized = false) E_FAIL
  chkIf (spMsg.allocatedSize = 0) E_INVALIDARG
  chkIf (spMsg.allocatedSize < MAX_STUN_MESSAGE_SIZE) E_INVALIDARG
  let done := l.turns source spMsg timeCurrentMilliseconds l.turnBound
  set done.2
  match done.1 with
  | some (.ok outgoing) => pure outgoing
  | some (.error hr) => throw hr
  | none => throw E_FAIL

def processResponse [Platform] (spMsg : CBuffer) (addrRemote addrLocal : CSocketAddress) : Hr CStunClientLogic Unit := do
  let l ← get
  chkIf (l.fInitialized = false) E_FAIL
  chkIf (spMsg.size = 0) E_INVALIDARG
  match l.current with
  | none => throw E_UNEXPECTED
  | some s => do
    -- a response to a test that is already completed
    chkIf (isCompleted s = true) E_UNEXPECTED
    let done := Proc.exec (IStunClientTest.processResponse spMsg addrRemote addrLocal) s
    set (l.put done.2)
    match done.1 with
    | .ok _ => pure ()
    | .error hr => throw hr

def getResults : Hr CStunClientLogic StunClientResults := do
  let l ← get
  pure l.results

end CStunClientLogic

end NatTester.Source
