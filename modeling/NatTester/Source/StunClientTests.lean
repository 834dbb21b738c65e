import NatTester.Source.StunBuilder
import NatTester.Source.StunReader

/-!
# The tests of the client

`stunclienttests.cpp`, with the configuration and the results of
`stunclientlogic.h`. A test writes to its own members and to the results it
shares with the other tests; its methods run on both. `_fInit` is only asserted
on, and `errorBitmask` is read nowhere; both are left out.
-/
namespace NatTester.Source
open NatTester.Lib

structure StunClientLogicConfig where
  addrServer : CSocketAddress
  fTimeoutIsInstant : Bool
  timeoutSeconds : UInt32
  uMaxAttempts : UInt32
  fBehaviorTest : Bool
  fFilteringTest : Bool
  deriving DecidableEq, Repr

/-- `enum NatBehavior` -/
inductive NatBehavior where
  | unknownBehavior | directMapping | endpointIndependentMapping | addressDependentMapping
  | addressAndPortDependentMapping
  deriving DecidableEq, Repr

/-- `enum NatFiltering` -/
inductive NatFiltering where
  | unknownFiltering | directConnectionFiltering | endpointIndependentFiltering | addressDependentFiltering
  | addressAndPortDependentFiltering
  deriving DecidableEq, Repr

structure StunClientResults where
  fBindingTestSuccess : Bool
  fIsDirect : Bool
  addrLocal : CSocketAddress
  addrMapped : CSocketAddress
  fHasOtherAddress : Bool
  addrPA : CSocketAddress
  addrAP : CSocketAddress
  addrAA : CSocketAddress
  fBehaviorTestSuccess : Bool
  behavior : NatBehavior
  addrMappingAP : CSocketAddress
  addrMappingAA : CSocketAddress
  fFilteringTestSuccess : Bool
  filtering : NatFiltering
  fGotTest2Response : Bool
  fGotTest3Response : Bool
  deriving DecidableEq, Repr

/-- `Init()` -/
def StunClientResults.init : StunClientResults where
  fBindingTestSuccess := false
  fIsDirect := false
  addrLocal := CSocketAddress.zero
  addrMapped := CSocketAddress.zero
  fHasOtherAddress := false
  addrPA := CSocketAddress.zero
  addrAP := CSocketAddress.zero
  addrAA := CSocketAddress.zero
  fBehaviorTestSuccess := false
  behavior := .unknownBehavior
  addrMappingAP := CSocketAddress.zero
  addrMappingAA := CSocketAddress.zero
  fFilteringTestSuccess := false
  filtering := .unknownFiltering
  fGotTest2Response := false
  fGotTest3Response := false

/-- The class of a test object, with its `_fIsTest3`. -/
inductive TestClass where
  | basicBindingTest
  | behaviorTest (fIsTest3 : Bool)
  | filteringTest (fIsTest3 : Bool)
  deriving DecidableEq, Repr

/-- A test object. -/
structure CStunClientTest where
  testClass : TestClass
  fCompleted : Bool
  transid : StunTransactionId
  deriving DecidableEq, Repr

/-- `Init`, and `RunAsTest3` for the classes that have it. -/
def CStunClientTest.init (testClass : TestClass) : CStunClientTest := ⟨testClass, false, StunTransactionId.zero⟩

/-- A test and what `_pConfig` and `_pResults` of it point at. -/
structure TestState where
  config : StunClientLogicConfig
  results : StunClientResults
  test : CStunClientTest
  deriving DecidableEq, Repr

namespace TestState

def complete (s : TestState) : TestState := { s with test := { s.test with fCompleted := true } }

def setResults (results : StunClientResults) (s : TestState) : TestState := { s with results }

end TestState

/-- A message for the network: the buffer of the caller and `*pAddrDest`. -/
structure Outgoing where
  spMsg : CBuffer
  addrDest : CSocketAddress
  deriving DecidableEq, Repr

namespace CStunClientTestBase

def isCompleted (s : TestState) : Bool := s.test.fCompleted

def preRunCheck (s : TestState) : TestState := s

section Request
variable [Platform]
open CStunMessageBuilder

/-- The transaction id is drawn for the first message and kept for the ones after it. -/
def startBindingRequest (source : RandomSource) (transid : StunTransactionId) :
    Hr CStunMessageBuilder StunTransactionId := do
  Proc.ignore addBindingRequestHeader
  if transid.isValid then do
    Proc.ignore (addTransactionId transid)
    pure transid
  else do
    Proc.ignore (addRandomTransactionId source)
    pure source.transactionId

/-- A Binding request with a CHANGE-REQUEST. -/
def buildRequest (source : RandomSource) (transid : StunTransactionId) (change : StunChangeRequestAttribute) :
    Hr CStunMessageBuilder StunTransactionId := do
  let transid ← startBindingRequest source transid
  Proc.ignore (addChangeRequest change)
  Proc.ignore fixLengthField
  pure transid

/-- The body of every `GetMessage`: the builder writes to the buffer of the caller. -/
def getMessage (change : StunChangeRequestAttribute) (addrDest : CSocketAddress) (source : RandomSource)
    (spMsg : CBuffer) : Hr TestState Outgoing := do
  let s ← get
  let built := Proc.exec (buildRequest source s.test.transid change) (CStunMessageBuilder.newOn spMsg)
  match built.1 with
  | .error hr => throw hr
  | .ok transid => do
    set { s with test := { s.test with transid } }
    pure ⟨built.2.stream.sharedBuffer.getD spMsg, addrDest⟩

end Request

/-- The message is whole and is a reply to the request of this test. -/
def basicReaderValidation [Platform] (spMsg : CBuffer) : Hr TestState CStunMessageReader := do
  let s ← get
  let added := CStunMessageReader.addBytes spMsg.contents CStunMessageReader.new
  chkIf (added.1 ≠ .bodyValidated) E_FAIL
  chkIf (added.2.getTransactionId ≠ s.test.transid) E_FAIL
  pure added.2

/-- `GetXorMappedAddress`, and `GetMappedAddress` where that fails. -/
def mappedAddress (reader : CStunMessageReader) : Hr TestState CSocketAddress :=
  match reader.getXorMappedAddress with
  | .ok addrMapped => pure addrMapped
  | .error _ =>
    match reader.getMappedAddress with
    | .ok addrMapped => pure addrMapped
    | .error hr => throw hr

end CStunClientTestBase

namespace CBasicBindingTest
open CStunClientTestBase

/-- It can always run if it has not run already. -/
def isReadyToRun (s : TestState) : Bool := !s.test.fCompleted

def getMessage [Platform] (source : RandomSource) (spMsg : CBuffer) : Hr TestState Outgoing := do
  let s ← get
  -- a blank CHANGE-REQUEST, which some servers insist on
  CStunClientTestBase.getMessage ⟨false, false⟩ s.config.addrServer source spMsg

/-- The other addresses of the server, once it has named one. -/
def recordOther (config : StunClientLogicConfig) (addrOther : Except HRESULT CSocketAddress)
    (results : StunClientResults) : StunClientResults :=
  match addrOther with
  | .error _ => { results with fHasOtherAddress := false }
  | .ok addrOther =>
    { results with
      fHasOtherAddress := true
      addrAA := addrOther
      addrPA := config.addrServer.setPort addrOther.getPort
      addrAP := addrOther.setPort config.addrServer.getPort }

def recordBinding (addrLocal addrMapped : CSocketAddress) (addrOther : Except HRESULT CSocketAddress)
    (s : TestState) : TestState :=
  s.complete.setResults (recordOther s.config addrOther
    { s.results with
      fBindingTestSuccess := true
      fIsDirect := addrLocal.isSameIP_and_Port addrMapped
      addrLocal
      addrMapped })

def processResponse [Platform] (spMsg : CBuffer) (_addrRemote addrLocal : CSocketAddress) : Hr TestState Unit := do
  let reader ← basicReaderValidation spMsg
  let addrMapped ← mappedAddress reader
  modify (recordBinding addrLocal addrMapped reader.getOtherAddress)

def notifyTimeout (s : TestState) : TestState :=
  s.complete.setResults { s.results with fBindingTestSuccess := false }

end CBasicBindingTest

namespace CBehaviorTest
open CStunClientTestBase

/-- A direct connection leaves nothing to test. -/
def preRunCheck (fIsTest3 : Bool) (s : TestState) : TestState :=
  if fIsTest3 = false then
    if s.results.fBindingTestSuccess ∧ s.results.fIsDirect then
      s.complete.setResults { s.results with behavior := .directMapping, fBehaviorTestSuccess := true }
    else s
  else s

def isReadyToRun (fIsTest3 : Bool) (s : TestState) : Bool :=
  let fRet := !s.test.fCompleted && s.results.fBindingTestSuccess && s.results.fHasOtherAddress &&
    !s.results.fBehaviorTestSuccess
  -- test 2 has to have succeeded before test 3
  if fIsTest3 then fRet && !s.results.addrMappingAP.isIPAddressZero else fRet

def getMessage [Platform] (fIsTest3 : Bool) (source : RandomSource) (spMsg : CBuffer) : Hr TestState Outgoing := do
  let s ← get
  CStunClientTestBase.getMessage ⟨false, false⟩
    (if fIsTest3 = false then s.results.addrAP else s.results.addrAA) source spMsg

def recordMapping (fIsTest3 : Bool) (addrMapped : CSocketAddress) (s : TestState) : TestState :=
  if fIsTest3 then
    s.complete.setResults
      { s.results with
        addrMappingAA := addrMapped
        fBehaviorTestSuccess := true
        behavior :=
          if addrMapped.isSameIP_and_Port s.results.addrMappingAP then .addressDependentMapping
          else .addressAndPortDependentMapping }
  else if addrMapped.isSameIP_and_Port s.results.addrMapped then
    s.complete.setResults
      { s.results with
        addrMappingAP := addrMapped
        fBehaviorTestSuccess := true
        behavior := .endpointIndependentMapping }
  else s.complete.setResults { s.results with addrMappingAP := addrMapped }

def processResponse [Platform] (fIsTest3 : Bool) (spMsg : CBuffer) (_addrRemote _addrLocal : CSocketAddress) :
    Hr TestState Unit := do
  let reader ← basicReaderValidation spMsg
  let addrMapped ← mappedAddress reader
  modify (recordMapping fIsTest3 addrMapped)

def notifyTimeout (s : TestState) : TestState :=
  s.complete.setResults { s.results with fBehaviorTestSuccess := false }

end CBehaviorTest

namespace CFilteringTest
open CStunClientTestBase

/-- A direct connection counts as endpoint independent. -/
def preRunCheck (fIsTest3 : Bool) (s : TestState) : TestState :=
  if fIsTest3 = false then
    if s.results.fBindingTestSuccess ∧ s.results.fIsDirect then
      s.complete.setResults
        { s.results with filtering := .endpointIndependentFiltering, fFilteringTestSuccess := true }
    else s
  else s

def isReadyToRun (s : TestState) : Bool :=
  !s.test.fCompleted && s.results.fBindingTestSuccess && s.results.fHasOtherAddress &&
    !s.results.fFilteringTestSuccess && !s.results.fGotTest2Response

def getMessage [Platform] (fIsTest3 : Bool) (source : RandomSource) (spMsg : CBuffer) : Hr TestState Outgoing := do
  let s ← get
  CStunClientTestBase.getMessage (if fIsTest3 = false then ⟨true, true⟩ else ⟨false, true⟩) s.config.addrServer
    source spMsg

def recordReply (fIsTest3 : Bool) (s : TestState) : TestState :=
  if fIsTest3 then
    s.complete.setResults
      { s.results with
        fGotTest3Response := true
        fFilteringTestSuccess := true
        filtering := .addressDependentFiltering }
  else
    s.complete.setResults
      { s.results with
        fGotTest2Response := true
        fFilteringTestSuccess := true
        filtering := .endpointIndependentFiltering }

/-- Nothing in the reply is looked at but its transaction id. -/
def processResponse [Platform] (fIsTest3 : Bool) (spMsg : CBuffer) (_addrRemote _addrLocal : CSocketAddress) :
    Hr TestState Unit := do
  let _ ← basicReaderValidation spMsg
  modify (recordReply fIsTest3)

/-- No reply to test 3 implies none to test 2, which test 3 would not have followed. -/
def notifyTimeout (fIsTest3 : Bool) (s : TestState) : TestState :=
  if fIsTest3 then
    s.complete.setResults
      { s.results with fFilteringTestSuccess := true, filtering := .addressAndPortDependentFiltering }
  else s.complete

end CFilteringTest

/-! ## The virtual methods -/

namespace IStunClientTest

def preRunCheck (s : TestState) : TestState :=
  match s.test.testClass with
  | .basicBindingTest => CStunClientTestBase.preRunCheck s
  | .behaviorTest fIsTest3 => CBehaviorTest.preRunCheck fIsTest3 s
  | .filteringTest fIsTest3 => CFilteringTest.preRunCheck fIsTest3 s

def isReadyToRun (s : TestState) : Bool :=
  match s.test.testClass with
  | .basicBindingTest => CBasicBindingTest.isReadyToRun s
  | .behaviorTest fIsTest3 => CBehaviorTest.isReadyToRun fIsTest3 s
  | .filteringTest _ => CFilteringTest.isReadyToRun s

def isCompleted (s : TestState) : Bool := CStunClientTestBase.isCompleted s

def getMessage [Platform] (source : RandomSource) (spMsg : CBuffer) : Hr TestState Outgoing := do
  let s ← get
  match s.test.testClass with
  | .basicBindingTest => CBasicBindingTest.getMessage source spMsg
  | .behaviorTest fIsTest3 => CBehaviorTest.getMessage fIsTest3 source spMsg
  | .filteringTest fIsTest3 => CFilteringTest.getMessage fIsTest3 source spMsg

def processResponse [Platform] (spMsg : CBuffer) (addrRemote addrLocal : CSocketAddress) : Hr TestState Unit := do
  let s ← get
  match s.test.testClass with
  | .basicBindingTest => CBasicBindingTest.processResponse spMsg addrRemote addrLocal
  | .behaviorTest fIsTest3 => CBehaviorTest.processResponse fIsTest3 spMsg addrRemote addrLocal
  | .filteringTest fIsTest3 => CFilteringTest.processResponse fIsTest3 spMsg addrRemote addrLocal

def notifyTimeout (s : TestState) : TestState :=
  match s.test.testClass with
  | .basicBindingTest => CBasicBindingTest.notifyTimeout s
  | .behaviorTest _ => CBehaviorTest.notifyTimeout s
  | .filteringTest fIsTest3 => CFilteringTest.notifyTimeout fIsTest3 s

end IStunClientTest

end NatTester.Source
