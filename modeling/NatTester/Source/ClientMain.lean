import NatTester.Source.StunClientTests

/-!
# The report of the client

`DumpResults` of `clientmain.cpp`. What it prints is the list of its calls of
`LogMsg(LL_ALWAYS, ...)`, which no log level suppresses. `inet_ntop` is the one
of the host.
-/
namespace NatTester.Source

/-- A call of `LogMsg`: the format and the string put in for its `%s`. -/
structure LogMsg where
  pszFormat : String
  argument : String
  deriving DecidableEq, Repr

def natBehaviorToString : NatBehavior → String
  | .unknownBehavior => "Unknown Behavior"
  | .directMapping => "Direct Mapping"
  | .endpointIndependentMapping => "Endpoint Independent Mapping"
  | .addressDependentMapping => "Address Dependent Mapping"
  | .addressAndPortDependentMapping => "Address and Port Dependent Mapping"

def natFilteringToString : NatFiltering → String
  | .unknownFiltering => "Unknown Behavior"
  | .directConnectionFiltering => "Direct Mapping"
  | .endpointIndependentFiltering => "Endpoint Independent Filtering"
  | .addressDependentFiltering => "Address Dependent Filtering"
  | .addressAndPortDependentFiltering => "Address and Port Dependent Filtering"

/-- `ToStringBuffer`, into a buffer that takes either family. -/
def CSocketAddress.toStringBuffer (inet_ntop : AddressFamily → Bytes → String) (a : CSocketAddress) : String :=
  inet_ntop a.family a.ip ++ ":" ++ toString a.getPort.toNat

/-- `fSuccess ? "success" : "fail"` -/
def successOrFail (fSuccess : Bool) : String := if fSuccess then "success" else "fail"

def dumpBinding (inet_ntop : AddressFamily → Bytes → String) (results : StunClientResults) : List LogMsg :=
  ⟨"Binding test: %s", successOrFail results.fBindingTestSuccess⟩ ::
    if results.fBindingTestSuccess then
      [⟨"Local address: %s", results.addrLocal.toStringBuffer inet_ntop⟩,
        ⟨"Mapped address: %s", results.addrMapped.toStringBuffer inet_ntop⟩]
    else []

/-- The lines on a test that was asked for: its outcome, and its kind if it succeeded. -/
def dumpTest (fTest fSuccess : Bool) (outcomeFormat kindFormat kind : String) : List LogMsg :=
  if fTest then
    ⟨outcomeFormat, successOrFail fSuccess⟩ :: if fSuccess then [⟨kindFormat, kind⟩] else []
  else []

def dumpBehavior (config : StunClientLogicConfig) (results : StunClientResults) : List LogMsg :=
  dumpTest config.fBehaviorTest results.fBehaviorTestSuccess "Behavior test: %s" "Nat behavior: %s"
    (natBehaviorToString results.behavior)

/-- The success of the behavior test is looked at here too. -/
def dumpFiltering (config : StunClientLogicConfig) (results : StunClientResults) : List LogMsg :=
  dumpTest config.fFilteringTest results.fBehaviorTestSuccess "Filtering test: %s" "Nat filtering: %s"
    (natFilteringToString results.filtering)

def dumpResults (inet_ntop : AddressFamily → Bytes → String) (config : StunClientLogicConfig)
    (results : StunClientResults) : List LogMsg :=
  dumpBinding inet_ntop results ++ dumpBehavior config results ++ dumpFiltering config results

end NatTester.Source
