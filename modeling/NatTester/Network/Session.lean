import NatTester.Client.UdpLoop
import NatTester.Network.Invariant

/-!
# The UDP loop on the network

The turns of `UdpClientLoop`, where every datagram that comes is a reply the server
has made to a request of the loop, also to the one of the same turn. A turn of the
loop is a few steps of the network: the client sends, the server serves what it
likes, and one of the replies is delivered. So a report is printed for a client of
the network.
-/
namespace NatTester.Network
open NatTester.Lib NatTester.Source NatTester.Client CStunClientLogic CStunRequestHandler

/-- The loop, and the replies that were made to its requests. -/
structure Session where
  progress : UdpProgress
  replies : List Bytes

/-- What was handed to `sendto`, as the network carries it. -/
def requests (sent : List (UInt32 × Outgoing)) : List Datagram :=
  sent.map fun m => ⟨m.2.spMsg.contents, m.2.addrDest⟩

section Steps
variable [Platform] [Digests] (server : StunServer) (nat : CSocketAddress → CSocketAddress)
  (addrLocal : CSocketAddress) (inet_ntop : AddressFamily → Bytes → String) (config : StunClientLogicConfig)

/-- The server has received the request and made the reply. -/
def Serves (request : Datagram) (reply : Bytes) : Prop :=
  ∃ msgIn msgOut out, Receives server nat request msgIn ∧
    Proc.exec (processRequest msgIn server.addressSet none) msgOut = (.ok (), out) ∧ out.spBufferOut.contents = reply

inductive SessionStep : Session → UdpRound → Session → Prop
  | loops {c c' : UdpClient} {round : UdpRound} {replies served : List Bytes}
      (turned : c.turn inet_ntop config round = .looping c') (distinct : DistinctIds c'.clientlogic)
      (answers : ∀ reply ∈ served, ∃ request ∈ requests c'.sent, Serves server nat request reply)
      (brings : ∀ incoming, round.incoming config MAX_STUN_MESSAGE_SIZE = some incoming →
        incoming.buf ∈ served ++ replies ∧ incoming.dstAddr = addrLocal) :
      SessionStep ⟨.looping c, replies⟩ round ⟨.looping c', served ++ replies⟩
  | exits {c : UdpClient} {round : UdpRound} {replies : List Bytes} {udpExit : UdpExit}
      (turned : c.turn inet_ntop config round = .exited udpExit) :
      SessionStep ⟨.looping c, replies⟩ round ⟨.exited udpExit, replies⟩

/-- `UdpClientLoop` on the network. -/
def session (socketconfig : ClientSocketConfig) (udpInit : CSocketAddress → HRESULT) (unset : StunClientLogicConfig)
    (fUnset : Bool) : Machine Session UdpRound where
  init s := s = ⟨udpClientLoop inet_ntop config socketconfig udpInit unset fUnset [], []⟩
  step := SessionStep server nat addrLocal inet_ntop config

end Steps

/-! ## The transaction ids of a call that sends nothing -/

section Ids
variable [Platform] {config : StunClientLogicConfig} {l t : CStunClientLogic} {s u : TestState} {source : RandomSource}
  {spMsg : CBuffer} {time : UInt32} {hr : HRESULT}

omit [Platform] in
theorem DistinctIds.checked (h : DistinctIds l) (hs : l.current = some s) : DistinctIds (checked l s) :=
  h.put hs (sameTest_preCheck l s).transid

theorem distinctIds_again (h : DistinctIds l) (hturn : l.turn source spMsg time = (.again, t)) : DistinctIds t := by
  have htaken := turn_taken source spMsg time l
  rw [hturn] at htaken
  cases htaken with
  | skipped hs _ => exact h.checked hs
  | timedOut hs _ => exact (h.checked hs).put (current_checked hs) (sameTest_notifyTimeout _).transid

theorem distinctIds_quiet (h : DistinctIds l) (hturn : l.turn source spMsg time = (.leave (.error hr), t)) :
    DistinctIds t := by
  have htaken := turn_taken source spMsg time l
  rw [hturn] at htaken
  cases htaken with
  | finished => exact h
  | waited hs _ => exact h.checked hs

/-- A call of `GetNextMessage` that returns no message draws no transaction id. -/
theorem getNextMessage_distinct (hinv : LogicInv config l) (h : DistinctIds l)
    (hroom : MAX_STUN_MESSAGE_SIZE ≤ spMsg.allocatedSize)
    (hrun : Proc.exec (CStunClientLogic.getNextMessage source spMsg time) l = (.error hr, t)) : DistinctIds t := by
  obtain ⟨outcome, last, after, -, hlast, hturn, hdone⟩ :=
    getNextMessage_last (fun _ _ => distinctIds_again) hinv h hroom
  cases hrun.symm.trans hdone
  exact distinctIds_quiet hlast hturn

omit [Platform] in
/-- What a test had written before is put back. -/
theorem put_back (hs : l.current = some s) : (l.put u).put s = l := by
  have hput := put_current hs
  rw [CStunClientLogic.put] at hput ⊢
  rw [CStunClientLogic.put, List.set_set]
  exact hput

/-- A reply changes no transaction id. -/
theorem distinctIds_processResponse {addrRemote addrLocal : CSocketAddress}
    (h : DistinctIds (Proc.exec (CStunClientLogic.processResponse spMsg addrRemote addrLocal) l).2) : DistinctIds l := by
  rcases processResponse_cases spMsg addrRemote addrLocal l with ⟨hr, hrun⟩ | ⟨s, t, hs, -, heffect, hrun⟩
  · rw [hrun] at h
    exact h
  · rw [hrun] at h
    have hback := h.put (current_put hs heffect.sameTest.1.config) heffect.sameTest.1.transid.symm
    rwa [put_back hs] at hback

end Ids

/-! ## A turn of the loop, as steps of the network -/

section Turns
variable [Platform] [Digests] {server : StunServer} {nat : CSocketAddress → CSocketAddress} {addrLocal : CSocketAddress}
  {inet_ntop : AddressFamily → Bytes → String} {config : StunClientLogicConfig} {c c' : UdpClient} {round : UdpRound}
  {l after : CStunClientLogic} {outcome : Except HRESULT Outgoing} {replies served : List Bytes} {datagrams : List Datagram}

omit [Platform] [Digests] in
theorem requests_transmitted (time : UInt32) (outcome : Except HRESULT Outgoing) (sent : List (UInt32 × Outgoing)) :
    requests (transmitted time outcome ++ sent) = departing outcome ++ requests sent := by
  rw [requests, List.map_append]
  cases outcome <;> rfl

/-- The server serves what it likes. -/
theorem reachable_served (hanswers : ∀ reply ∈ served, ∃ request ∈ datagrams, Serves server nat request reply)
    (h : (network server nat addrLocal config).Reachable ⟨l, datagrams, replies⟩) :
    (network server nat addrLocal config).Reachable ⟨l, datagrams, served ++ replies⟩ := by
  induction served with
  | nil => exact h
  | cons reply served ih =>
    obtain ⟨request, hsent, msgIn, msgOut, out, hreceives, hrun, rfl⟩ := hanswers reply List.mem_cons_self
    have hbefore := ih fun reply hreply => hanswers reply (List.mem_cons_of_mem _ hreply)
    have hstep : NetworkStep server nat addrLocal ⟨l, datagrams, served ++ replies⟩ (.serve request msgIn msgOut)
        ⟨l, datagrams, out.spBufferOut.contents :: (served ++ replies)⟩ := .serve hsent hreceives hrun
    exact hbefore.step hstep

/-- What the loop receives is delivered. -/
theorem reachable_heard (hheard : Heard config round l after)
    (hbrings : ∀ incoming, round.incoming config MAX_STUN_MESSAGE_SIZE = some incoming →
      incoming.buf ∈ replies ∧ incoming.dstAddr = addrLocal)
    (h : (network server nat addrLocal config).Reachable ⟨l, datagrams, replies⟩) :
    (network server nat addrLocal config).Reachable ⟨after, datagrams, replies⟩ := by
  cases hheard with
  | nothing => exact h
  | @datagram incoming spMsg hincoming hcontents =>
    obtain ⟨hreply, rfl⟩ := hbrings incoming hincoming
    have hstep : NetworkStep server nat incoming.dstAddr ⟨l, datagrams, replies⟩
        (.deliver incoming.buf spMsg incoming.srcAddr) _ := .deliver hreply hcontents
    exact h.step hstep

omit [Digests] in
theorem distinctIds_heard (hheard : Heard config round l after) (h : DistinctIds after) : DistinctIds l := by
  cases hheard with
  | nothing => exact h
  | datagram => exact distinctIds_processResponse h

/-- Where a looping session is on the network. -/
structure OnNetwork (server : StunServer) (nat : CSocketAddress → CSocketAddress) (addrLocal : CSocketAddress)
    (config : StunClientLogicConfig) (replies : List Bytes) (c : UdpClient) : Prop where
  loop : ∃ rounds, UdpInv config rounds c
  reachable : (network server nat addrLocal config).Reachable ⟨c.clientlogic, requests c.sent, replies⟩

theorem OnNetwork.turn (h : OnNetwork server nat addrLocal config replies c)
    (hturn : c.turn inet_ntop config round = .looping c') (hdistinct : DistinctIds c'.clientlogic)
    (hanswers : ∀ reply ∈ served, ∃ request ∈ requests c'.sent, Serves server nat request reply)
    (hbrings : ∀ incoming, round.incoming config MAX_STUN_MESSAGE_SIZE = some incoming →
      incoming.buf ∈ served ++ replies ∧ incoming.dstAddr = addrLocal) :
    OnNetwork server nat addrLocal config (served ++ replies) c' := by
  obtain ⟨rounds, hloop⟩ := h.loop
  obtain ⟨outcome, after, hcall, -, hsent, hheard⟩ := hloop.takes hturn
  have hstep : NetworkStep server nat addrLocal ⟨c.clientlogic, requests c.sent, replies⟩
      (.next round.source (c.spMsg.setSize 0).2 round.time) ⟨after, departing outcome ++ requests c.sent, replies⟩ :=
    .next hcall (distinctIds_heard hheard hdistinct)
  have hnext := h.reachable.step hstep
  rw [← requests_transmitted round.time, ← hsent] at hnext
  constructor
  · rcases hloop.turn inet_ntop round with ⟨c₁, hsame, hinv, -⟩ | ⟨_, _, hexit, -⟩
    · obtain rfl := UdpProgress.looping.inj (hturn.symm.trans hsame)
      exact ⟨_, hinv⟩
    · cases hturn.symm.trans hexit
  · exact reachable_heard hheard hbrings (reachable_served hanswers hnext)

/-- The report of a session is the one of a finished client of the network. -/
def Reported (server : StunServer) (nat : CSocketAddress → CSocketAddress) (addrLocal : CSocketAddress)
    (inet_ntop : AddressFamily → Bytes → String) (config : StunClientLogicConfig) (printed : List LogMsg) : Prop :=
  ∃ s : NetworkState, (network server nat addrLocal config).Reachable s ∧ s.client.current = none ∧
    printed = dumpResults inet_ntop config s.client.results

/-- The look at the client that finds its results ready is one more step of the network. -/
theorem OnNetwork.exit (h : OnNetwork server nat addrLocal config replies c)
    (haddress : config.addrServer = server.addrPrimary) {printed : List LogMsg}
    (hturn : c.turn inet_ntop config round = .exited (.ready printed)) :
    Reported server nat addrLocal inet_ntop config printed := by
  obtain ⟨rounds, hloop⟩ := h.loop
  obtain ⟨hr, after, hcall, hdone, hprinted⟩ := hloop.reads hturn
  have hinv := network_inv haddress h.reachable
  have hsize : (c.spMsg.setSize 0).2.allocatedSize = MAX_STUN_MESSAGE_SIZE :=
    (CBuffer.setSize_allocatedSize ..).trans hloop.allocated
  have hdistinct := getNextMessage_distinct hinv.logic hinv.distinct (Nat.le_of_eq hsize.symm) hcall
  have hstep : NetworkStep server nat addrLocal ⟨c.clientlogic, requests c.sent, replies⟩
      (.next round.source (c.spMsg.setSize 0).2 round.time) ⟨after, departing (.error hr) ++ requests c.sent, replies⟩ :=
    .next hcall hdistinct
  exact ⟨_, h.reachable.step hstep, hdone, hprinted⟩

/-- Where a session is. -/
def SessionMeets (server : StunServer) (nat : CSocketAddress → CSocketAddress) (addrLocal : CSocketAddress)
    (inet_ntop : AddressFamily → Bytes → String) (config : StunClientLogicConfig) (s : Session) : Prop :=
  match s.progress with
  | .looping c => OnNetwork server nat addrLocal config s.replies c
  | .exited (.ready printed) => Reported server nat addrLocal inet_ntop config printed
  | .exited _ => True

end Turns

/-! ## The runs -/

section Runs
variable [Platform] [Digests] {server : StunServer} {nat : CSocketAddress → CSocketAddress} {addrLocal : CSocketAddress}
  {inet_ntop : AddressFamily → Bytes → String} {config : StunClientLogicConfig} {socketconfig : ClientSocketConfig}
  {udpInit : CSocketAddress → HRESULT} {unset : StunClientLogicConfig} {fUnset : Bool} {s : Session}
  {history : List (Machine.Taken Session UdpRound)}

/-- The turns of a run, the first one first. -/
def roundsOf (history : List (Machine.Taken Session UdpRound)) : List UdpRound := (history.map (·.label)).reverse

/-- A run of the session is one of the loop. -/
theorem session_progress
    (h : (session server nat addrLocal inet_ntop config socketconfig udpInit unset fUnset).Run history s) :
    s.progress = udpClientLoop inet_ntop config socketconfig udpInit unset fUnset (roundsOf history) := by
  induction h with
  | start hinit =>
    cases hinit
    rfl
  | @step history s t round run step ih =>
    have hrounds : roundsOf (⟨s, round, t⟩ :: history) = roundsOf history ++ [round] := by
      rw [roundsOf, List.map_cons, List.reverse_cons, roundsOf]
    rw [hrounds]
    cases step with
    | loops hturned => exact ((udpClientLoop_looping ih.symm round).trans hturned).symm
    | exits hturned => exact ((udpClientLoop_looping ih.symm round).trans hturned).symm

theorem session_meets (haddress : config.addrServer = server.addrPrimary)
    (h : (session server nat addrLocal inet_ntop config socketconfig udpInit unset fUnset).Reachable s) :
    SessionMeets server nat addrLocal inet_ntop config s := by
  refine h.invariant (I := SessionMeets server nat addrLocal inet_ntop config) ?_ ?_
  · rintro s rfl
    unfold SessionMeets
    rcases udpClientLoop_nil inet_ntop config socketconfig udpInit unset fUnset with
      ⟨l, hinit, hstart⟩ | ⟨udpExit, hstart, hnot⟩
    · have hnetwork : (network server nat addrLocal config).Reachable ⟨l, [], []⟩ := .start ⟨hinit, rfl, rfl⟩
      rw [hstart]
      exact ⟨⟨[], udpInv_start hinit⟩, hnetwork⟩
    · rw [hstart]
      cases udpExit with
      | ready printed => exact absurd rfl (hnot printed)
      | _ => trivial
  · rintro s round t hmeets hstep
    cases hstep with
    | loops hturned hdistinct hanswers hbrings => exact OnNetwork.turn hmeets hturned hdistinct hanswers hbrings
    | @exits c round replies udpExit hturned =>
      cases udpExit with
      | ready printed => exact OnNetwork.exit hmeets haddress hturned
      | _ => trivial

end Runs

end NatTester.Network
