import NatTester.Handler.Route
import NatTester.Network.Session

/-!
# A network that loses nothing

Between the client and the server there is a NAT, with one mapping for each
destination and a rule for what it lets in. Nothing else is lost: in the turn of
the loop that sends a request the answer of the server comes, unless the NAT
filters it.
-/
namespace NatTester.Network
open NatTester.Lib NatTester.Source NatTester.Wire NatTester.Handler NatTester.Client CStunRequestHandler
  CStunMessageReader

/-- What a NAT lets in to an address it has mapped, by where datagrams were sent from that address. -/
inductive FilterRule where
  | endpointIndependent | addressDependent | addressAndPortDependent
  deriving DecidableEq, Repr

namespace FilterRule

def passes (rule : FilterRule) (contacted : List CSocketAddress) (source : CSocketAddress) : Bool :=
  match rule with
  | .endpointIndependent => true
  | .addressDependent => contacted.any fun addr => addr.isSameIP source
  | .addressAndPortDependent => contacted.any fun addr => addr.isSameIP_and_Port source

def filtering : FilterRule → NatFiltering
  | .endpointIndependent => .endpointIndependentFiltering
  | .addressDependent => .addressDependentFiltering
  | .addressAndPortDependent => .addressAndPortDependentFiltering

/-- It does not matter in which order or how often datagrams were sent. -/
theorem passes_congr {contacted contacted' : List CSocketAddress} (h : ∀ addr, addr ∈ contacted ↔ addr ∈ contacted')
    (rule : FilterRule) (source : CSocketAddress) : rule.passes contacted source = rule.passes contacted' source := by
  cases rule with
  | endpointIndependent => rfl
  | addressDependent =>
    rw [Bool.eq_iff_iff, passes, passes, List.any_eq_true, List.any_eq_true]
    simp only [h]
  | addressAndPortDependent =>
    rw [Bool.eq_iff_iff, passes, passes, List.any_eq_true, List.any_eq_true]
    simp only [h]

/-- Who was sent to may answer. -/
theorem passes_contacted (rule : FilterRule) {contacted : List CSocketAddress} {addr : CSocketAddress}
    (h : addr ∈ contacted) : rule.passes contacted addr = true := by
  cases rule with
  | endpointIndependent => rfl
  | addressDependent => exact List.any_eq_true.mpr ⟨addr, h, by simp [CSocketAddress.isSameIP]⟩
  | addressAndPortDependent => exact List.any_eq_true.mpr ⟨addr, h, CSocketAddress.isSameIP_and_Port_iff.mpr rfl⟩

end FilterRule

/-- The server, the NAT and the address of the client behind it. -/
structure World where
  server : StunServer
  nat : CSocketAddress → CSocketAddress
  rule : FilterRule
  addrLocal : CSocketAddress

/-- A server whose addresses differ in their IPs and their ports. -/
structure StunServer.Distinct (server : StunServer) : Prop where
  ips : server.addrPrimary.ip ≠ server.addrAlternate.ip
  ports : server.addrPrimary.getPort ≠ server.addrAlternate.getPort

theorem StunServer.Distinct.role_eq {server : StunServer} (h : server.Distinct) {a b : SocketRole}
    (haddress : server.address a = server.address b) : a = b := by
  have hip := congrArg CSocketAddress.ip haddress
  have hport := congrArg CSocketAddress.getPort haddress
  obtain ⟨hips, hports⟩ := h
  cases a <;> cases b <;>
    first
    | rfl
    | exact absurd hip hips
    | exact absurd hip.symm hips
    | exact absurd hport hports
    | exact absurd hport.symm hports

namespace World

/-- Where datagrams were sent that left the NAT from the address. -/
def contacted (w : World) (sent : List CSocketAddress) (external : CSocketAddress) : List CSocketAddress :=
  sent.filter fun addrDest => w.nat addrDest = external

/-- What comes of the answer of the server to a request it has received. -/
def arriving [Platform] [Digests] (w : World) (sent : List CSocketAddress) (msgIn : StunMessageIn)
    (msgOut : StunMessageOut) : Option Incoming :=
  match Proc.exec (processRequest msgIn w.server.addressSet none) msgOut with
  | (.error _, _) => none
  | (.ok _, out) =>
    if w.rule.passes (w.contacted sent out.addrDest) (w.server.address out.socketrole) then
      some ⟨out.spBufferOut.contents, w.server.address out.socketrole, w.addrLocal⟩
    else none

end World

/-- Where the loop has sent its messages. -/
def destinations (sent : List (UInt32 × Outgoing)) : List CSocketAddress := sent.map fun m => m.2.addrDest

section Turns
variable [Platform] [Digests] (w : World) (inet_ntop : AddressFamily → Bytes → String) (config : StunClientLogicConfig)

/-- What comes in a turn: nothing if nothing was sent, and else what the NAT lets in of the answer. -/
inductive Brings (round : UdpRound) (sent : List (UInt32 × Outgoing)) : List (UInt32 × Outgoing) → Prop
  | nothing (none : round.incoming config MAX_STUN_MESSAGE_SIZE = none) : Brings round sent sent
  | answer {m : UInt32 × Outgoing} {msgIn : StunMessageIn} {msgOut : StunMessageOut}
      (received : Receives w.server w.nat ⟨m.2.spMsg.contents, m.2.addrDest⟩ msgIn)
      (room : MAX_STUN_MESSAGE_SIZE ≤ msgOut.spBufferOut.allocatedSize)
      (comes : round.incoming config MAX_STUN_MESSAGE_SIZE = w.arriving (destinations (m :: sent)) msgIn msgOut) :
      Brings round sent (m :: sent)

/-- Turns of the loop in which nothing is lost. -/
inductive Lossless : UdpProgress → List UdpRound → Prop
  | nil {progress : UdpProgress} : Lossless progress []
  | exited {udpExit : UdpExit} {rounds : List UdpRound} : Lossless (.exited udpExit) rounds
  | cons {c : UdpClient} {round : UdpRound} {rounds : List UdpRound}
      (brings : ∀ c', c.turn inet_ntop config round = .looping c' → Brings w config round c.sent c'.sent)
      (rest : Lossless (c.turn inet_ntop config round) rounds) : Lossless (.looping c) (round :: rounds)

end Turns

/-! ## The answer -/

/-- The socket the server answers the request of a test from. -/
def answeringRole : TestClass → SocketRole
  | .basicBindingTest => .rolePP
  | .behaviorTest fIsTest3 => if fIsTest3 then .roleAA else .roleAP
  | .filteringTest fIsTest3 => if fIsTest3 then .rolePA else .roleAA

section Answer
variable [Platform] [Digests] {server : StunServer} {nat : CSocketAddress → CSocketAddress} {testClass : TestClass}
  {transid : StunTransactionId} {msgIn : StunMessageIn} {msgOut : StunMessageOut}

/-- What the server makes of the request of a test. -/
structure AnswersTest (server : StunServer) (nat : CSocketAddress → CSocketAddress) (testClass : TestClass)
    (transid : StunTransactionId) (out : StunMessageOut) : Prop where
  addrDest : out.addrDest = nat (server.target testClass)
  role : out.socketrole = answeringRole testClass
  whole : (addBytes out.spBufferOut.contents CStunMessageReader.new).1 = .bodyValidated
  transid_eq : (addBytes out.spBufferOut.contents CStunMessageReader.new).2.getTransactionId = transid
  learns : Learns server nat testClass (addBytes out.spBufferOut.contents CStunMessageReader.new).2

omit [Platform] [Digests] in
/-- The changes a test asks for lead to the socket it is answered from. -/
theorem targetRole_answeringRole (hdistinct : server.Distinct) {role : SocketRole}
    (hrole : server.address role = server.target testClass) :
    targetRole (requestedChange testClass) role = answeringRole testClass := by
  cases testClass with
  | basicBindingTest =>
    obtain rfl : role = .rolePP := hdistinct.role_eq hrole
    rfl
  | behaviorTest fIsTest3 =>
    cases fIsTest3 with
    | false =>
      obtain rfl : role = .roleAP := hdistinct.role_eq hrole
      rfl
    | true =>
      obtain rfl : role = .roleAA := hdistinct.role_eq hrole
      rfl
  | filteringTest fIsTest3 =>
    obtain rfl : role = .rolePP := hdistinct.role_eq hrole
    cases fIsTest3 <;> rfl

theorem processRequest_answersTest (hdistinct : server.Distinct)
    (hreceives : Receives server nat ⟨requestBytes transid (requestedChange testClass), server.target testClass⟩ msgIn)
    (hroom : MAX_STUN_MESSAGE_SIZE ≤ msgOut.spBufferOut.allocatedSize) :
    ∃ out, Proc.exec (processRequest msgIn server.addressSet none) msgOut = (.ok (), out) ∧
      AnswersTest server nat testClass transid out := by
  obtain ⟨hrole, hsource, hudp, cap, r₀, h₀, hallow, hreader⟩ := hreceives
  obtain ⟨-, hread⟩ := read_requestBytes transid (requestedChange testClass) h₀ (.inr hallow)
  rw [← hreader] at hread
  have hplain : PlainRequest msgIn server.addressSet :=
    ⟨hread.state, hread.type, hread.msgClass, hread.responsePort, hudp, fun role => ⟨rfl, server.address_nonzero role⟩⟩
  have hmethod : msgIn.reader.getMessageType < 0x1000 := by
    rw [hread.type]
    decide
  obtain ⟨out, hrun, hholds, -, hsent⟩ :=
    processRequest_sent server.addressSet none hmethod hroom hread.state hread.msgClass
  obtain ⟨-, hdest, integrity, hanswer⟩ := processRequest_plain hplain hrun
  refine ⟨out, hrun, hdest.trans hsource, ?_, hholds.accepted, hanswer.transid.trans hread.transid_eq, ?_, fun hbasic => ?_⟩
  · have hsuccess := hanswer.msgClass
    cases hsent with
    | early _ _ _ herror _ =>
      rw [herror.msgClass] at hsuccess
      cases hsuccess
    | denied _ _ _ _ herror _ =>
      rw [herror.msgClass] at hsuccess
      cases hsuccess
    | bad _ _ _ _ _ _ _ herror _ =>
      rw [herror.msgClass] at hsuccess
      cases hsuccess
    | success _ _ _ _ _ _ _ _ hleaves _ _ =>
      rw [hleaves, hread.change_eq]
      exact targetRole_answeringRole hdistinct hrole
  · rw [mappedOf, hanswer.xorMapped, hsource]
  · subst hbasic
    rw [hanswer.other _ rfl]
    exact congrArg Except.ok (StunServer.address_other hrole)

end Answer

end NatTester.Network
