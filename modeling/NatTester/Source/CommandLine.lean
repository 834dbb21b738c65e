import NatTester.Source.StringHelper
import NatTester.Source.StunClientTests

/-!
# The command line of the client

`CreateConfigFromCommandLine` of `clientmain.cpp`, with what it uses of
`resolvehostname.cpp` and `adapters.cpp`. The options are the texts
`cmdlineparser.cpp` has stored; what is only logged is left out.
-/
namespace NatTester.Source
open NatTester.Lib

/-- The options `CreateConfigFromCommandLine` looks at. -/
structure ClientCmdLineArgs where
  strRemoteServer : String
  strRemotePort : String
  strLocalAddr : String
  strLocalPort : String
  strMode : String
  strFamily : String
  strProtocol : String
  deriving DecidableEq, Repr

/-- `SOCK_DGRAM`, `SOCK_STREAM` -/
inductive SockType where
  | dgram | stream
  deriving DecidableEq, Repr

structure ClientSocketConfig where
  family : AddressFamily
  socktype : SockType
  addrLocal : CSocketAddress
  deriving DecidableEq, Repr

/-- `ifaddrs`; `none` is NULL or an address of another kind. -/
structure Adapter where
  ifa_name : String
  ifa_addr : Option CSocketAddress

/-- The host: its resolver, its adapters and `inet_pton`. Failures carry the code. -/
structure Host where
  getaddrinfo : String → AddressFamily → Except Int (List CSocketAddress)
  getifaddrs : Except Int (List Adapter)
  inet_pton : AddressFamily → String → Option Bytes

/-! ## Addresses -/

/-- `ResolveHostName(pszHostName, family, false, &addr)`: the first address found. -/
def resolveHostName (host : Host) (pszHostName : String) (family : AddressFamily) : Except HRESULT CSocketAddress :=
  let strHostName := trim pszHostName
  if strHostName = "" then .error E_INVALIDARG
  else
    match host.getaddrinfo strHostName family with
    | .error ret => .error (ERRNO_TO_HRESULT ret)
    | .ok [] => .error E_FAIL
    | .ok (addr :: _) => .ok addr

/-- `ResolveHostName`, and the names it has asked the resolver for by then. -/
def resolveHostNameLookups (host : Host) (pszHostName : String) (family : AddressFamily) :
    Except HRESULT CSocketAddress × List String :=
  let strHostName := trim pszHostName
  if strHostName = "" then (.error E_INVALIDARG, [])
  else
    (match host.getaddrinfo strHostName family with
      | .error ret => .error (ERRNO_TO_HRESULT ret)
      | .ok [] => .error E_FAIL
      | .ok (addr :: _) => .ok addr,
      [strHostName])

theorem resolveHostNameLookups_fst (host : Host) (pszHostName : String) (family : AddressFamily) :
    (resolveHostNameLookups host pszHostName family).1 = resolveHostName host pszHostName family := by
  unfold resolveHostNameLookups resolveHostName
  dsimp only
  split <;> rfl

/-- The first adapter of the family that passes a test. -/
def findAdapter (family : AddressFamily) (accept : String → CSocketAddress → Bool) (pList : List Adapter) :
    Option CSocketAddress :=
  pList.findSome? fun pAdapter =>
    pAdapter.ifa_addr.filter fun addr => decide (addr.family = family) && accept pAdapter.ifa_name addr

/-- By the name of the adapter, and else by its address. -/
def getSocketAddressForAdapter (host : Host) (family : AddressFamily) (pszAdapterName : String) (port : UInt16) :
    Except HRESULT CSocketAddress :=
  if pszAdapterName = "" then .error E_INVALIDARG
  else
    match host.getifaddrs with
    | .error errno => .error (ERRNOHR errno)
    | .ok pList =>
      let byName := findAdapter family (fun ifa_name _ => ifa_name = pszAdapterName) pList
      let byAddress := (host.inet_pton family pszAdapterName).bind fun addrbytes =>
        findAdapter family (fun _ addr => addr.ip = addrbytes) pList
      match byName.orElse fun _ => byAddress with
      | none => .error E_FAIL
      | some addr => .ok (addr.setPort port)

/-! ## The options -/

section Options
variable [Platform]

def familyOption (strFamily : String) : Except HRESULT AddressFamily :=
  if isNullOrEmpty strFamily then .ok .inet
  else if atoi strFamily = 4 then .ok .inet
  else if atoi strFamily = 6 then .ok .inet6
  else .error E_INVALIDARG

/-- `fTCP` -/
def protocolOption (strProtocol : String) : Except HRESULT Bool :=
  let strProtocol := toLower strProtocol
  if isNullOrEmpty strProtocol then .ok false
  else if strProtocol ≠ "udp" ∧ strProtocol ≠ "tcp" then .error E_INVALIDARG
  else .ok (strProtocol = "tcp")

/-- The remote or the local port, or what it is without the option. -/
def portOption (strPort : String) (without : UInt16) : Except HRESULT UInt16 :=
  if isNullOrEmpty strPort then .ok without
  else
    match validateNumberString strPort 1 0xffff with
    | none => .error E_INVALIDARG
    | some nPort => .ok (UInt16.ofNat nPort.toNat)

/-- `ResolveHostName` and `GetSocketAddressForAdapter`, as the options call them. -/
structure AddressLookup where
  resolveHostName : String → AddressFamily → Except HRESULT CSocketAddress
  getSocketAddressForAdapter : AddressFamily → String → UInt16 → Except HRESULT CSocketAddress

def serverOption (lookup : AddressLookup) (strRemoteServer : String) (family : AddressFamily) :
    Except HRESULT CSocketAddress :=
  if isNullOrEmpty strRemoteServer then .error E_INVALIDARG else lookup.resolveHostName strRemoteServer family

def localAddrOption (lookup : AddressLookup) (strLocalAddr : String) (family : AddressFamily) (localport : UInt16) :
    Except HRESULT CSocketAddress :=
  if isNullOrEmpty strLocalAddr then
    match family with
    | .inet6 => .ok (CSocketAddress.ofIp6 (List.replicate 16 0) localport)
    | .inet => .ok (CSocketAddress.ofIp4 0 localport)
  else lookup.getSocketAddressForAdapter family strLocalAddr localport

/-- A mode that is neither `full` nor `basic` is logged and taken for `basic`. -/
def fullMode (strMode : String) : Bool := toLower strMode = "full"

/-- `CreateConfigFromCommandLine` on the results of the two functions that look addresses up. -/
def createConfigWith (lookup : AddressLookup) (args : ClientCmdLineArgs) :
    Except HRESULT (StunClientLogicConfig × ClientSocketConfig) := do
  let family ← familyOption args.strFamily
  let fTCP ← protocolOption args.strProtocol
  let remoteport ← portOption args.strRemotePort DEFAULT_STUN_PORT
  let addrServer ← serverOption lookup args.strRemoteServer family
  let localport ← portOption args.strLocalPort 0
  let addrLocal ← localAddrOption lookup args.strLocalAddr family localport
  pure
    ({  addrServer := addrServer.setPort remoteport
        fTimeoutIsInstant := false
        timeoutSeconds := 0
        uMaxAttempts := if fTCP then 1 else 0
        fBehaviorTest := fullMode args.strMode
        -- a filtering test is impossible in TCP
        fFilteringTest := fullMode args.strMode && !fTCP },
      { family, socktype := if fTCP then .stream else .dgram, addrLocal })

def createConfigFromCommandLine (host : Host) (args : ClientCmdLineArgs) :
    Except HRESULT (StunClientLogicConfig × ClientSocketConfig) :=
  createConfigWith ⟨resolveHostName host, getSocketAddressForAdapter host⟩ args

end Options

/-! ## What a configuration for TCP says -/

variable [Platform] {host : Host} {args : ClientCmdLineArgs} {config : StunClientLogicConfig} {socketconfig : ClientSocketConfig}

omit [Platform] in
theorem protocolOption_tcp {strProtocol : String} (htcp : toLower strProtocol = "tcp") :
    protocolOption strProtocol = .ok true := by
  simp [protocolOption, htcp, isNullOrEmpty]

theorem portOption_eq (strPort : String) (without : UInt16) :
    portOption strPort without =
      if strPort = "" then .ok without
      else if 1 ≤ atoi strPort ∧ atoi strPort ≤ 0xffff then .ok (UInt16.ofNat (atoi strPort).toNat)
      else .error E_INVALIDARG := by
  unfold portOption
  rw [validateNumberString_eq]
  by_cases hempty : strPort = ""
  · simp [isNullOrEmpty, hempty]
  by_cases hrange : 1 ≤ atoi strPort ∧ atoi strPort ≤ 0xffff
  · simp [isNullOrEmpty, hempty, hrange]
  · simp only [isNullOrEmpty, hempty, hrange, decide_false, Bool.false_eq_true, if_false, and_false]

theorem portOption_ne_zero {strPort : String} {without port : UInt16} (hwithout : without ≠ 0)
    (h : portOption strPort without = .ok port) : port ≠ 0 := by
  rw [portOption_eq] at h
  split at h
  · cases h
    exact hwithout
  split at h
  next hrange =>
    cases h
    intro hzero
    have hnat := congrArg UInt16.toNat hzero
    rw [UInt16.toNat_ofNat_of_lt' (show _ < 65536 by omega)] at hnat
    change (atoi strPort).toNat = 0 at hnat
    omega
  · cases h

/-- The defaults of the timeout and of the attempts, in a configuration for TCP. -/
structure TcpConfig (config : StunClientLogicConfig) : Prop where
  fTimeoutIsInstant : config.fTimeoutIsInstant = false
  timeoutSeconds : config.timeoutSeconds = 0
  uMaxAttempts : config.uMaxAttempts = 1
  port : config.addrServer.getPort ≠ 0

theorem createConfig_tcp (h : createConfigFromCommandLine host args = .ok (config, socketconfig))
    (htcp : toLower args.strProtocol = "tcp") : TcpConfig config ∧ socketconfig.socktype = .stream := by
  unfold createConfigFromCommandLine createConfigWith at h
  obtain ⟨family, -, h⟩ := bind_eq_ok h
  obtain ⟨fTCP, hprotocol, h⟩ := bind_eq_ok h
  obtain ⟨remoteport, hport, h⟩ := bind_eq_ok h
  obtain ⟨addrServer, -, h⟩ := bind_eq_ok h
  obtain ⟨localport, -, h⟩ := bind_eq_ok h
  obtain ⟨addrLocal, -, h⟩ := bind_eq_ok h
  rw [protocolOption_tcp htcp] at hprotocol
  cases hprotocol
  cases h
  exact ⟨⟨rfl, rfl, rfl, portOption_ne_zero (by decide) hport⟩, rfl⟩

end NatTester.Source
