import NatTester.Guarantees.Mapping
import NatTester.Guarantees.Report
import NatTester.Guarantees.UdpLoop
import NatTester.Network.Session

/-!
# What is printed of the NAT

Whatever the network loses, delays, repeats or reorders, the report of the UDP
loop names no mapped address, no local address and no behavior but those of the
NAT.
-/
namespace NatTester.Guarantees
open NatTester.Lib NatTester.Source NatTester.Wire NatTester.Client NatTester.Network NatTester.Handler
  CStunRequestHandler CStunMessageReader

/-- When a report names an address or a behavior, and which. -/
theorem mem_dumpResults (inet_ntop : AddressFamily → Bytes → String) (config : StunClientLogicConfig)
    (results : StunClientResults) (text : String) :
    (⟨"Mapped address: %s", text⟩ ∈ dumpResults inet_ntop config results ↔
      results.fBindingTestSuccess = true ∧ text = results.addrMapped.toStringBuffer inet_ntop) ∧
    (⟨"Local address: %s", text⟩ ∈ dumpResults inet_ntop config results ↔
      results.fBindingTestSuccess = true ∧ text = results.addrLocal.toStringBuffer inet_ntop) ∧
    (⟨"Nat behavior: %s", text⟩ ∈ dumpResults inet_ntop config results ↔
      (config.fBehaviorTest = true ∧ results.fBehaviorTestSuccess = true) ∧
        text = natBehaviorToString results.behavior) := by
  unfold dumpResults dumpBinding dumpBehavior dumpFiltering dumpTest
  cases results.fBindingTestSuccess <;> cases results.fBehaviorTestSuccess <;> cases config.fBehaviorTest <;>
    cases config.fFilteringTest <;> simp

/-- What is printed of the NAT is so. -/
structure TellsOfNat (server : StunServer) (nat : CSocketAddress → CSocketAddress) (addrLocal : CSocketAddress)
    (inet_ntop : AddressFamily → Bytes → String) (printed : List LogMsg) : Prop where
  mapped : ∀ text, ⟨"Mapped address: %s", text⟩ ∈ printed →
    text = (nat (server.address .rolePP)).toStringBuffer inet_ntop
  localAddress : ∀ text, ⟨"Local address: %s", text⟩ ∈ printed → text = addrLocal.toStringBuffer inet_ntop
  behavior : ∀ text, ⟨"Nat behavior: %s", text⟩ ∈ printed →
    text = natBehaviorToString (server.natBehavior nat addrLocal)

section Report
variable [Platform] [Digests] {server : StunServer} {nat : CSocketAddress → CSocketAddress} {addrLocal : CSocketAddress}
  {inet_ntop : AddressFamily → Bytes → String} {config : StunClientLogicConfig} {socketconfig : ClientSocketConfig}
  {udpInit : CSocketAddress → HRESULT} {unset : StunClientLogicConfig} {fUnset : Bool} {printed : List LogMsg}

theorem Reported.tells (haddress : config.addrServer = server.addrPrimary)
    (h : Reported server nat addrLocal inet_ntop config printed) :
    TellsOfNat server nat addrLocal inet_ntop printed := by
  obtain ⟨s, hs, -, rfl⟩ := h
  have hinv := network_inv haddress hs
  have hlines := mem_dumpResults inet_ntop config s.client.results
  constructor
  · intro text hline
    obtain ⟨hsuccess, rfl⟩ := (hlines text).1.mp hline
    rw [(hinv.facts.mapped hsuccess).1]
  · intro text hline
    obtain ⟨hsuccess, rfl⟩ := (hlines text).2.1.mp hline
    rw [(hinv.facts.mapped hsuccess).2]
  · intro text hline
    obtain ⟨⟨-, hsuccess⟩, rfl⟩ := (hlines text).2.2.mp hline
    have hknown := hinv.logic.results.consistent.behavior.mp hsuccess
    rw [hinv.facts.behavior.resolve_left hknown]

/-- For every configuration with the primary address of the server and every sequence of turns in which no
two tests have drawn one transaction id and all that comes are replies the server has made to requests of
the loop, lost, late, repeated or out of order as they may be, at one local address: what the loop prints
of the NAT is so. -/
theorem udp_loop_tells_of_nat {history : List (Machine.Taken Session UdpRound)} {replies : List Bytes}
    (haddress : config.addrServer = server.addrPrimary)
    (h : (session server nat addrLocal inet_ntop config socketconfig udpInit unset fUnset).Run history
      ⟨.exited (.ready printed), replies⟩) :
    udpClientLoop inet_ntop config socketconfig udpInit unset fUnset (roundsOf history) = .exited (.ready printed) ∧
      TellsOfNat server nat addrLocal inet_ntop printed := by
  have hmeets : Reported server nat addrLocal inet_ntop config printed := session_meets haddress ⟨history, h⟩
  exact ⟨(session_progress h).symm, Reported.tells haddress hmeets⟩

theorem served_serves {role : SocketRole} {request : Datagram} (hrole : server.address role = request.addrDest)
    (hok : (servedOn server nat role request).1 = .ok ()) :
    Serves server nat request (servedOn server nat role request).2.spBufferOut.contents := by
  have hreceives : Receives server nat request (receivedOn server nat role request) :=
    ⟨hrole, rfl, rfl, none, CStunMessageReader.new, fresh_new, rfl, rfl⟩
  cases hserved : servedOn server nat role request with
  | mk outcome out =>
    rw [hserved] at hok
    obtain rfl : outcome = .ok () := hok
    exact ⟨_, emptyAnswer 800, out, hreceives, hserved, rfl⟩

end Report

/-- What the server makes of the request of the binding test. -/
def boundAnswer : Except HRESULT Unit × StunMessageOut :=
  @servedOn Platform.armeabi requestDigests smallServer coneNat .rolePP (requestTo 1 (smallServer.address .rolePP))

def boundReply : Bytes := boundAnswer.2.spBufferOut.contents

set_option maxRecDepth 8000 in
theorem boundReply_served :
    @Serves Platform.armeabi requestDigests smallServer coneNat (requestTo 1 (smallServer.address .rolePP)) boundReply := by
  have hok : boundAnswer.1 = .ok () := by decide
  exact @served_serves Platform.armeabi requestDigests smallServer coneNat .rolePP _ rfl hok

/-- A turn in which the reply comes, and a turn that finds the results ready. -/
def replyRound : UdpRound :=
  ⟨constantSource 1, 5, fun _ _ => 1, some ⟨boundReply, smallServer.address .rolePP, []⟩, none⟩

/-- A loop that goes on, has sent the request and has drawn no transaction id twice. -/
def hasSent (request : Datagram) : UdpProgress → Bool
  | .looping c => request ∈ requests c.sent ∧ DistinctIds c.clientlogic
  | .exited _ => false

/-- A loop that has printed the line. -/
def hasPrinted (line : LogMsg) : UdpProgress → Bool
  | .exited (.ready printed) => line ∈ printed
  | _ => false

theorem hasSent_looping {request : Datagram} {progress : UdpProgress} (h : hasSent request progress = true) :
    ∃ c, progress = .looping c ∧ request ∈ requests c.sent ∧ DistinctIds c.clientlogic := by
  cases progress with
  | looping c => exact ⟨c, rfl, of_decide_eq_true h⟩
  | exited udpExit => cases h

theorem hasPrinted_ready {line : LogMsg} {progress : UdpProgress} (h : hasPrinted line progress = true) :
    ∃ printed, progress = .exited (.ready printed) ∧ line ∈ printed := by
  unfold hasPrinted at h
  split at h
  · exact ⟨_, rfl, of_decide_eq_true h⟩
  · cases h

set_option maxRecDepth 30000 in
/-- The binding test is answered, and its results are printed. -/
theorem udp_loop_tells_of_nat_cone :
    let _ := Platform.armeabi
    let _ := requestDigests
    ∃ printed,
      udpClientLoop dottedQuad bindingConfig ⟨.inet, .dgram, CSocketAddress.zero⟩ (fun _ => S_OK) bindingConfig false
        [replyRound, replyRound] = .exited (.ready printed) ∧
      ⟨"Mapped address: %s", "0.0.0.9:9"⟩ ∈ printed ∧
      TellsOfNat smallServer coneNat CSocketAddress.zero dottedQuad printed := by
  intro platform digests
  have hsends : hasSent (requestTo 1 (smallServer.address .rolePP))
      ((UdpClient.start (fresh bindingConfig)).turn dottedQuad bindingConfig replyRound) = true := by decide
  have hprints : hasPrinted ⟨"Mapped address: %s", "0.0.0.9:9"⟩
      ((UdpClient.start (fresh bindingConfig)).turns dottedQuad bindingConfig [replyRound, replyRound]) = true := by decide
  have hincoming : replyRound.incoming bindingConfig MAX_STUN_MESSAGE_SIZE =
      some ⟨boundReply, smallServer.address .rolePP, CSocketAddress.zero⟩ := by decide
  obtain ⟨c, hfirst, hsent, hdistinct⟩ := hasSent_looping hsends
  obtain ⟨printed, hsecond, hline⟩ := hasPrinted_ready hprints
  have hstart : (session smallServer coneNat CSocketAddress.zero dottedQuad bindingConfig
      ⟨.inet, .dgram, CSocketAddress.zero⟩ (fun _ => S_OK) bindingConfig false).Run []
      ⟨.looping (UdpClient.start (fresh bindingConfig)), []⟩ := .start rfl
  have hanswers : ∀ reply ∈ [boundReply], ∃ request ∈ requests c.sent, Serves smallServer coneNat request reply := by
    intro reply hreply
    rw [List.mem_singleton.mp hreply]
    exact ⟨_, hsent, boundReply_served⟩
  have hbrings : ∀ incoming, replyRound.incoming bindingConfig MAX_STUN_MESSAGE_SIZE = some incoming →
      incoming.buf ∈ [boundReply] ++ [] ∧ incoming.dstAddr = CSocketAddress.zero := by
    intro incoming hcomes
    obtain rfl := Option.some.inj (hincoming.symm.trans hcomes)
    exact ⟨List.mem_cons_self, rfl⟩
  have hloops : SessionStep smallServer coneNat CSocketAddress.zero dottedQuad bindingConfig
      ⟨.looping (UdpClient.start (fresh bindingConfig)), []⟩ replyRound ⟨.looping c, [boundReply] ++ []⟩ :=
    .loops hfirst hdistinct hanswers hbrings
  have hone : (UdpClient.start (fresh bindingConfig)).turns dottedQuad bindingConfig [replyRound] = .looping c := by
    rw [UdpClient.turns, hfirst]
    rfl
  have hexits := (turns_looping hone replyRound).symm.trans hsecond
  have hrun := (hstart.step hloops).step (.exits hexits)
  obtain ⟨hloop, htells⟩ := udp_loop_tells_of_nat rfl hrun
  exact ⟨printed, hloop, hline, htells⟩

end NatTester.Guarantees
