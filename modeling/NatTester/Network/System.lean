import NatTester.Client.Requests

/-!
# The client, a NAT and a server

A server with two IPs and two ports answers Binding requests over UDP. The NAT
maps the client to one address for each destination. The network keeps every
message that was ever sent and hands over any of them at any time, so messages
are lost, late, repeated and out of order as the schedule pleases.
-/
namespace NatTester.Network
open NatTester.Lib NatTester.Source NatTester.Wire NatTester.Client CStunRequestHandler CStunMessageReader

/-- The addresses of a server: its primary and its alternate IP and port. -/
structure StunServer where
  addrPrimary : CSocketAddress
  addrAlternate : CSocketAddress
  family : addrAlternate.family = addrPrimary.family
  primaryIP : addrPrimary.isIPAddressZero = false
  alternateIP : addrAlternate.isIPAddressZero = false
  primaryPort : addrPrimary.getPort ≠ 0
  alternatePort : addrAlternate.getPort ≠ 0

namespace StunServer

def address (server : StunServer) : SocketRole → CSocketAddress
  | .rolePP => server.addrPrimary
  | .rolePA => server.addrPrimary.setPort server.addrAlternate.getPort
  | .roleAP => server.addrAlternate.setPort server.addrPrimary.getPort
  | .roleAA => server.addrAlternate

def addressSet (server : StunServer) : TransportAddressSet := ⟨fun role => ⟨server.address role, true⟩⟩

theorem address_nonzero (server : StunServer) (role : SocketRole) : (server.address role).isIPAddressZero = false := by
  cases role with
  | rolePP => exact server.primaryIP
  | rolePA => exact server.primaryIP
  | roleAP => exact server.alternateIP
  | roleAA => exact server.alternateIP

/-- The other address of the primary one is the alternate one, whichever role the primary address has. -/
theorem address_other {server : StunServer} {role : SocketRole} (h : server.address role = server.addrPrimary) :
    server.address role.swapPort.swapIP = server.addrAlternate := by
  cases role with
  | rolePP => rfl
  | rolePA =>
    change server.addrAlternate.setPort server.addrPrimary.getPort = _
    rw [← h]
    rfl
  | roleAP =>
    change server.addrPrimary.setPort server.addrAlternate.getPort = _
    rw [← h]
    rfl
  | roleAA => exact h.symm

/-- Where the requests of a test go. -/
def target (server : StunServer) : TestClass → CSocketAddress
  | .basicBindingTest => server.address .rolePP
  | .behaviorTest fIsTest3 => if fIsTest3 then server.address .roleAA else server.address .roleAP
  | .filteringTest _ => server.address .rolePP

/-- The behavior of a NAT, as the mappings for the addresses of a server show it. -/
def natBehavior (server : StunServer) (nat : CSocketAddress → CSocketAddress) (addrLocal : CSocketAddress) :
    NatBehavior :=
  if nat (server.address .rolePP) = addrLocal then .directMapping
  else if nat (server.address .roleAP) = nat (server.address .rolePP) then .endpointIndependentMapping
  else if nat (server.address .roleAA) = nat (server.address .roleAP) then .addressDependentMapping
  else .addressAndPortDependentMapping

end StunServer

/-- A request on its way to the server. -/
structure Datagram where
  bytes : Bytes
  addrDest : CSocketAddress
  deriving DecidableEq

structure NetworkState where
  client : CStunClientLogic
  requests : List Datagram
  replies : List Bytes

/-- The request that leaves the client with a call of `GetNextMessage`, if any. -/
def departing : Except HRESULT Outgoing → List Datagram
  | .ok outgoing => [⟨outgoing.spMsg.contents, outgoing.addrDest⟩]
  | .error _ => []

/-- Two tests that have drawn a transaction id have drawn different ones. -/
def DistinctIds (l : CStunClientLogic) : Prop :=
  l.testlist.Pairwise fun a b => a.transid.isValid = true → a.transid ≠ b.transid

instance (l : CStunClientLogic) : Decidable (DistinctIds l) := inferInstanceAs (Decidable (List.Pairwise _ _))

inductive NetworkEvent where
  | next (source : RandomSource) (spMsg : CBuffer) (timeCurrentMilliseconds : UInt32)
  | serve (request : Datagram) (msgIn : StunMessageIn) (msgOut : StunMessageOut)
  | deliver (reply : Bytes) (spMsg : CBuffer) (addrRemote : CSocketAddress)

section Steps
variable [Platform] [Digests] (server : StunServer) (nat : CSocketAddress → CSocketAddress)
  (addrLocal : CSocketAddress)

omit [Digests] in
/-- The server receives a request on the socket it was sent to, from where the NAT sends it. -/
structure Receives (request : Datagram) (msgIn : StunMessageIn) : Prop where
  role : server.address msgIn.socketrole = request.addrDest
  source : msgIn.addrRemote = nat request.addrDest
  datagram : msgIn.fConnectionOriented = false
  reader : ∃ cap r₀, Fresh cap r₀ ∧ r₀.fAllowLegacyFormat = true ∧ msgIn.reader = (addBytes request.bytes r₀).2

inductive NetworkStep : NetworkState → NetworkEvent → NetworkState → Prop
  | next {s : NetworkState} {source : RandomSource} {spMsg : CBuffer} {time : UInt32}
      {outcome : Except HRESULT Outgoing} {client : CStunClientLogic}
      (run : Proc.exec (CStunClientLogic.getNextMessage source spMsg time) s.client = (outcome, client))
      (distinct : DistinctIds client) :
      NetworkStep s (.next source spMsg time) ⟨client, departing outcome ++ s.requests, s.replies⟩
  | serve {s : NetworkState} {request : Datagram} {msgIn : StunMessageIn} {msgOut out : StunMessageOut}
      (sent : request ∈ s.requests) (receives : Receives server nat request msgIn)
      (run : Proc.exec (processRequest msgIn server.addressSet none) msgOut = (.ok (), out)) :
      NetworkStep s (.serve request msgIn msgOut) ⟨s.client, s.requests, out.spBufferOut.contents :: s.replies⟩
  | deliver {s : NetworkState} {reply : Bytes} {spMsg : CBuffer} {addrRemote : CSocketAddress}
      (sent : reply ∈ s.replies) (contents : spMsg.contents = reply) :
      NetworkStep s (.deliver reply spMsg addrRemote)
        ⟨(Proc.exec (CStunClientLogic.processResponse spMsg addrRemote addrLocal) s.client).2, s.requests, s.replies⟩

/-- The client starts with an accepted configuration, the network with no messages. -/
def network (config : StunClientLogicConfig) : Machine NetworkState NetworkEvent where
  init s := Initialized config s.client ∧ s.requests = [] ∧ s.replies = []
  step := NetworkStep server nat addrLocal

end Steps

end NatTester.Network
