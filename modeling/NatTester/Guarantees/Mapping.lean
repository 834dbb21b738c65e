import NatTester.Guarantees.Filtering
import NatTester.Guarantees.RequestHandler
import NatTester.Network.Invariant

/-!
# The mapping verdict is right

Against a server with four addresses and through a NAT with one mapping for each
destination, the client comes to no behavior or to the behavior of the NAT,
whatever the network loses, delays, repeats or reorders.
-/
namespace NatTester.Guarantees
open NatTester.Lib NatTester.Source NatTester.Wire NatTester.Client NatTester.Network NatTester.Handler
  CStunRequestHandler CStunMessageReader

section Mapping
variable [Platform] [Digests] {server : StunServer} {nat : CSocketAddress → CSocketAddress}
  {addrLocal : CSocketAddress} {config : StunClientLogicConfig} {s : NetworkState}

/-- In every state the network can reach the client has no verdict or the right one. -/
theorem behavior_is_natBehavior (haddress : config.addrServer = server.address .rolePP)
    (h : (network server nat addrLocal config).Reachable s) :
    s.client.results.behavior = .unknownBehavior ∨
      s.client.results.behavior = server.natBehavior nat addrLocal :=
  (network_inv haddress h).facts.behavior

/-! ## A run without losses -/

variable (server nat) in
/-- A request as the server receives it on the socket of a role. -/
def receivedOn (role : SocketRole) (request : Datagram) : StunMessageIn :=
  ⟨role, server.address role, nat request.addrDest, (addBytes request.bytes CStunMessageReader.new).2, false⟩

variable (server nat) in
/-- What the server makes of it. -/
def servedOn (role : SocketRole) (request : Datagram) : Except HRESULT Unit × StunMessageOut :=
  Proc.exec (processRequest (receivedOn server nat role request) server.addressSet none) (emptyAnswer 800)

/-- The next message of the client, in a buffer of 800 bytes. -/
def sends (source : RandomSource) (time : UInt32) (l : CStunClientLogic) : Except HRESULT Outgoing × CStunClientLogic :=
  Proc.exec (CStunClientLogic.getNextMessage source sendBuffer time) l

variable (server nat addrLocal) in
/-- The client after its next message has been served and the reply delivered. -/
def exchange (source : RandomSource) (time : UInt32) (role : SocketRole) (request : Datagram) (l : CStunClientLogic) :
    CStunClientLogic :=
  (Proc.exec (CStunClientLogic.processResponse (servedOn server nat role request).2.spBufferOut (server.address role)
    addrLocal) (sends source time l).2).2

/-- A request is sent, served and answered with no message in between. -/
theorem reachable_exchange (h : (network server nat addrLocal config).Reachable s) (source : RandomSource)
    (time : UInt32) (role : SocketRole) (request : Datagram)
    (hsent : request ∈ departing (sends source time s.client).1) (hdistinct : DistinctIds (sends source time s.client).2)
    (hrole : server.address role = request.addrDest) (hserved : (servedOn server nat role request).1 = .ok ()) :
    ∃ t, (network server nat addrLocal config).Reachable t ∧
      t.client = exchange server nat addrLocal source time role request s.client := by
  have hreceives : Receives server nat request (receivedOn server nat role request) :=
    ⟨hrole, rfl, rfl, none, CStunMessageReader.new, fresh_new, rfl, rfl⟩
  rw [exchange]
  generalize hserve : servedOn server nat role request = served at hserved
  generalize hnext : sends source time s.client = sent at hsent hdistinct
  obtain ⟨outcome, after⟩ := sent
  obtain ⟨result, out⟩ := served
  obtain rfl : result = .ok () := hserved
  have hone : NetworkStep server nat addrLocal s (.next source sendBuffer time)
      ⟨after, departing outcome ++ s.requests, s.replies⟩ := .next hnext hdistinct
  have htwo : NetworkStep server nat addrLocal ⟨after, departing outcome ++ s.requests, s.replies⟩
      (.serve request (receivedOn server nat role request) (emptyAnswer 800))
      ⟨after, departing outcome ++ s.requests, out.spBufferOut.contents :: s.replies⟩ :=
    .serve (List.mem_append_left _ hsent) hreceives hserve
  have hthree : NetworkStep server nat addrLocal
      ⟨after, departing outcome ++ s.requests, out.spBufferOut.contents :: s.replies⟩
      (.deliver out.spBufferOut.contents out.spBufferOut (server.address role)) _ := .deliver List.mem_cons_self rfl
  exact ⟨_, ((h.step hone).step htwo).step hthree, rfl⟩

end Mapping

/-- A server at 0.0.0.1:3478 and 0.0.0.2:3479. -/
def smallServer : StunServer :=
  ⟨CSocketAddress.ofIp4 1 3478, CSocketAddress.ofIp4 2 3479, by decide, by decide, by decide, by decide, by decide⟩

/-- A NAT with one mapping for all destinations. -/
def coneNat (_ : CSocketAddress) : CSocketAddress := CSocketAddress.ofIp4 9 9

/-- The Binding request with the id drawn from `constantSource n`. -/
def requestTo (n : UInt8) (addrDest : CSocketAddress) : Datagram :=
  ⟨[0x00, 0x01, 0x00, 0x08] ++ wireId n ++ [0x00, 0x03, 0x00, 0x04, 0, 0, 0, 0], addrDest⟩

/-- The client once its binding test is answered. -/
def boundClient : CStunClientLogic :=
  @exchange Platform.armeabi requestDigests smallServer coneNat CSocketAddress.zero (constantSource 1) 5 .rolePP
    (requestTo 1 (smallServer.address .rolePP)) (fresh fullConfig)

set_option maxRecDepth 8000 in
/-- The binding test and behavior test 2 are answered, and the verdict is the mapping of the NAT. -/
theorem behavior_is_natBehavior_cone :
    let _ := Platform.armeabi
    let _ := requestDigests
    ∃ s, (network smallServer coneNat CSocketAddress.zero fullConfig).Reachable s ∧
      s.client.results.behavior = .endpointIndependentMapping ∧
      (s.client.results.behavior = .unknownBehavior ∨
        s.client.results.behavior = smallServer.natBehavior coneNat CSocketAddress.zero) := by
  have hfirst : requestTo 1 (smallServer.address .rolePP) ∈
        departing (@sends Platform.armeabi (constantSource 1) 5 (fresh fullConfig)).1 ∧
      DistinctIds (@sends Platform.armeabi (constantSource 1) 5 (fresh fullConfig)).2 := by decide
  have hsecond : requestTo 2 (smallServer.address .roleAP) ∈
        departing (@sends Platform.armeabi (constantSource 2) 6 boundClient).1 ∧
      DistinctIds (@sends Platform.armeabi (constantSource 2) 6 boundClient).2 := by decide
  have hserved : (@servedOn Platform.armeabi requestDigests smallServer coneNat .rolePP
        (requestTo 1 (smallServer.address .rolePP))).1 = .ok () ∧
      (@servedOn Platform.armeabi requestDigests smallServer coneNat .roleAP
        (requestTo 2 (smallServer.address .roleAP))).1 = .ok () := by decide
  have hverdict : (@exchange Platform.armeabi requestDigests smallServer coneNat CSocketAddress.zero (constantSource 2)
      6 .roleAP (requestTo 2 (smallServer.address .roleAP)) boundClient).results.behavior =
      .endpointIndependentMapping := by decide
  intro platform digests
  have hstart : (network smallServer coneNat CSocketAddress.zero fullConfig).Reachable ⟨fresh fullConfig, [], []⟩ :=
    .start ⟨fullConfig_initialized, rfl, rfl⟩
  obtain ⟨s, hs, hclient⟩ := reachable_exchange hstart (constantSource 1) 5 .rolePP _ hfirst.1 hfirst.2 rfl hserved.1
  change s.client = boundClient at hclient
  rw [← hclient] at hsecond hverdict
  obtain ⟨t, ht, hfinal⟩ := reachable_exchange hs (constantSource 2) 6 .roleAP _ hsecond.1 hsecond.2 rfl hserved.2
  exact ⟨t, ht, (congrArg (·.results.behavior) hfinal).trans hverdict, behavior_is_natBehavior rfl ht⟩

end NatTester.Guarantees
