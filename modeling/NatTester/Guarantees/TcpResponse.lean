import NatTester.Client.TcpLoop
import NatTester.Guarantees.ReaderGrammar
import NatTester.Guarantees.SendLoop

/-!
# What the TCP loop hands to the client

The request and the response share a buffer whose size is set only when bytes
arrive. The client is handed exactly what `recv` returned if and only if the first
call of the turn returns a byte; a peer that closes before it leaves the request
in the buffer. The size asked for always fits.
-/
namespace NatTester.Guarantees
open NatTester.Lib NatTester.Source NatTester.Wire NatTester.Client CStunMessageReader

/-- The first call of `recv` asks for a header, and gets some of it. -/
def FirstReturnsBytes (recvs : List RecvCall) : Prop :=
  ∃ call rest bs, recvs = call :: rest ∧ call.recv STUN_HEADER_SIZE = some bs ∧ bs ≠ []

section Response
variable {cap : Option Nat} {r₀ r : CStunMessageReader} {bs : Bytes} {s : Receiving} {request : CBuffer}

/-- The bytes asked for end with the message. -/
theorem needed_fits (h₀ : Fresh cap r₀) (h : Parsed cap r₀ bs r) (hneeded : r.howManyBytesNeeded.toNat ≠ 0) :
    bs.length + r.howManyBytesNeeded.toNat ≤ STUN_HEADER_SIZE + MAX_STUN_MESSAGE_SIZE := by
  have heq := howManyBytesNeeded_eq h₀ h
  cases h with
  | headerNotRead stream p holds short =>
    rw [if_pos h₀.state] at heq
    omega
  | headerValidated stream p holds header good short =>
    rw [if_neg (by simp), if_pos rfl] at heq
    have hbound := good.bounded
    omega
  | bodyValidated stream p holds as message => exact absurd rfl hneeded
  | parseError r header notShort notMessage state =>
    rw [howManyBytesNeeded, state] at hneeded
    exact absurd rfl hneeded

theorem readsize_fits (h : Received cap r₀ request bs s) (h₀ : Fresh cap r₀)
    (hroom : STUN_HEADER_SIZE + MAX_STUN_MESSAGE_SIZE ≤ request.allocatedSize) :
    s.readsize ≠ .error .neededExceedsRemaining := by
  unfold Receiving.readsize
  simp only
  split
  · simp
  · split
    · simp
    next hneeded =>
      have hfits := needed_fits h₀ h.parsed hneeded
      rw [if_neg]
      · simp
      · rw [h.remaining]
        omega

theorem start_readsize (spMsgReader : CBuffer) {reader : CStunMessageReader} (h : TableShape reader)
    (hroom : STUN_HEADER_SIZE ≤ request.allocatedSize) :
    (Receiving.start request spMsgReader reader).readsize = .ok STUN_HEADER_SIZE := by
  have h₀ := h.fresh_reset.attach spMsgReader
  have hneeded : (reader.reset.attach spMsgReader).howManyBytesNeeded.toNat = STUN_HEADER_SIZE := by
    rw [howManyBytesNeeded_eq h₀ h₀.parsed, if_pos h₀.state]
    rfl
  simp only [STUN_HEADER_SIZE] at hroom hneeded
  simp only [Receiving.readsize, Receiving.start, hneeded]
  rw [if_neg (by omega), if_neg (by decide), if_neg (by omega)]
  rfl

theorem requestBytes_ne_nil (transid : StunTransactionId) (change : StunChangeRequestAttribute) :
    requestBytes transid change ≠ [] := by
  intro hnil
  have hlen := requestBytes_length transid change
  rw [hnil] at hlen
  cases hlen

variable [Platform] {inet_ntop : AddressFamily → Bytes → String} {config : StunClientLogicConfig}
  {socketconfig : ClientSocketConfig} {round : TcpRound} {c c' : TcpClient}

/-- A peer that closes before it sends a byte leaves the request in the buffer. -/
theorem closed_handed (hinv : TcpInv config c) {outgoing : Outgoing} {sent : CStunClientLogic} {recvEnd : RecvEnd}
    {received : Receiving} (hexchanged : Exchanged round c c' outgoing sent recvEnd received)
    (hbytes : (returned outgoing.spMsg.allocatedSize round.recvs
      (Receiving.start outgoing.spMsg c.spMsgReader c.reader)).flatten = []) :
    c'.spMsg = outgoing.spMsg ∧ c'.spMsg.contents ≠ [] := by
  obtain ⟨hreceived, -⟩ := hexchanged.received hinv
  obtain ⟨-, transid, change, hrequest⟩ := getNextMessage_request (client_inv hinv.reachable).1 hexchanged.getNextMessage
  have hsame : c'.spMsg = outgoing.spMsg := hexchanged.spMsg.trans (hreceived.untouched hbytes)
  constructor
  · exact hsame
  · rw [hsame, hrequest]
    exact requestBytes_ne_nil transid change

/-- No byte is returned exactly where the first call returns none. -/
theorem returned_nil_iff (hinv : TcpInv config c) {outgoing : Outgoing} {sent : CStunClientLogic} {recvEnd : RecvEnd}
    {received : Receiving} (hexchanged : Exchanged round c c' outgoing sent recvEnd received) :
    (returned outgoing.spMsg.allocatedSize round.recvs
      (Receiving.start outgoing.spMsg c.spMsgReader c.reader)).flatten ≠ [] ↔ FirstReturnsBytes round.recvs := by
  obtain ⟨hallocated, -⟩ := getNextMessage_request (client_inv hinv.reachable).1 hexchanged.getNextMessage
  have hroom : outgoing.spMsg.allocatedSize = 1500 := hallocated.trans hinv.allocated
  have hsize : (Receiving.start outgoing.spMsg c.spMsgReader c.reader).readsize = .ok STUN_HEADER_SIZE :=
    start_readsize c.spMsgReader hinv.shape (by rw [hroom]; decide)
  have hleft := hexchanged.recvLoop
  cases hrecvs : round.recvs with
  | nil =>
    rw [hrecvs, recvLoop_blocked hsize] at hleft
    cases hleft
  | cons call rest =>
    obtain ⟨hloop, hreturned⟩ := recvLoop_call outgoing.spMsg.allocatedSize hsize call rest
    rw [hrecvs, hloop] at hleft
    rw [hreturned]
    cases hcall : call.recv STUN_HEADER_SIZE with
    | none =>
      rw [hcall] at hleft
      cases hleft
    | some bs =>
      simp only
      constructor
      · intro hne
        refine ⟨call, rest, bs, rfl, hcall, ?_⟩
        intro hnil
        rw [hnil] at hne
        exact hne rfl
      · intro hfirst hempty
        obtain ⟨call', rest', bs', hcons, hcall', hne⟩ := hfirst
        cases hcons
        rw [hcall] at hcall'
        cases hcall'
        rw [List.flatten_cons] at hempty
        exact hne (List.append_eq_nil_iff.mp hempty).1

/-- In every turn of every run: the size asked for fits into the rest of the buffer, and what
`ProcessResponse` is given is what `recv` returned if and only if its first call returned bytes. -/
theorem response_handed_iff (hreach : (tcpClient inet_ntop config socketconfig).Reachable c) {outgoing : Outgoing}
    {sent : CStunClientLogic}
    (hsent : Proc.exec (CStunClientLogic.getNextMessage round.source c.spMsg round.time) c.clientlogic =
      (.ok outgoing, sent)) :
    let start := Receiving.start outgoing.spMsg c.spMsgReader c.reader
    (∀ received, recvLoop outgoing.spMsg.allocatedSize round.recvs start ≠ .left (.neededExceedsRemaining, received)) ∧
    ∀ c', c.turn inet_ntop config socketconfig round = .looping c' →
      c'.clientlogic = (Proc.exec (CStunClientLogic.processResponse c'.spMsg outgoing.addrDest round.addrLocal) sent).2 ∧
      (c'.spMsg.contents = (returned outgoing.spMsg.allocatedSize round.recvs start).flatten ↔
        FirstReturnsBytes round.recvs) := by
  intro start
  have hinv := tcpClient_inv hreach
  have h₀ := hinv.shape.fresh_reset.attach c.spMsgReader
  obtain ⟨hallocated, -⟩ := getNextMessage_request (client_inv hinv.reachable).1 hsent
  constructor
  · intro received hleft
    obtain ⟨hreceived, hend⟩ := (received_start outgoing.spMsg c.spMsgReader hinv.shape).recvLoop h₀ hleft
    have hfits : STUN_HEADER_SIZE + MAX_STUN_MESSAGE_SIZE ≤ outgoing.spMsg.allocatedSize := by
      rw [hallocated, hinv.allocated]
      decide
    exact readsize_fits hreceived h₀ hfits (hend.resolve_left (by decide))
  · intro c' hturn
    obtain ⟨outgoing', sent', recvEnd, received, hexchanged⟩ := turn_looping hturn
    cases hsent.symm.trans hexchanged.getNextMessage
    constructor
    · rw [hexchanged.spMsg]
      exact hexchanged.clientlogic
    · rw [← returned_nil_iff hinv hexchanged]
      constructor
      · intro hsame hempty
        rw [hempty] at hsame
        exact (closed_handed hinv hexchanged hempty).2 hsame
      · intro hne
        obtain ⟨hreceived, -⟩ := hexchanged.received hinv
        rw [hexchanged.spMsg]
        exact hreceived.contents hne

end Response

/-! ## A peer that closes at once -/

theorem take_length_le (bs : Bytes) (readsize : Nat) (taken : Bytes) (h : some (bs.take readsize) = some taken) :
    taken.length ≤ readsize := by
  rw [← Option.some.inj h]
  exact List.length_take_le readsize bs

/-- A `recv` that finds these bytes; without any the peer has closed. -/
def chunkCall (bs : Bytes) : RecvCall := ⟨fun readsize => some (bs.take readsize), take_length_le bs⟩

/-- A turn in which no call fails, and every `recv` finds these bytes. -/
def workingRound (time : UInt32) (bs : Bytes) : TcpRound where
  tcpInit := fun _ => S_OK
  source := constantSource 1
  time
  connect := fun _ => true
  sends := List.replicate 28 fun pData => some pData.length
  recvs := List.replicate 1500 (chunkCall bs)
  addrLocal := CSocketAddress.zero

theorem workingRound_works (socketconfig : ClientSocketConfig) (time : UInt32) (bs : Bytes) :
    Works socketconfig (workingRound time bs) where
  tcpInit := rfl
  connect := fun _ => rfl
  send := by
    intro send hsend pData hne
    rw [List.eq_of_mem_replicate hsend]
    exact ⟨pData.length, rfl, List.length_pos_iff.mpr hne⟩
  sends := Nat.le_of_eq List.length_replicate.symm
  recv := by
    intro call hcall readsize
    rw [List.eq_of_mem_replicate hcall]
    exact Option.some_ne_none _
  recvs := Nat.le_of_eq List.length_replicate.symm

def tcpSocket : ClientSocketConfig := ⟨.inet, .stream, CSocketAddress.zero⟩

/-- A peer that closes at once gives no byte to any call. -/
theorem workingRound_closed (time : UInt32) : ¬ FirstReturnsBytes (workingRound time []).recvs := by
  intro hfirst
  obtain ⟨call, rest, bs, hrecvs, hcall, hne⟩ := hfirst
  have hmem : call ∈ (workingRound time []).recvs := by
    rw [hrecvs]
    exact List.mem_cons_self
  rw [List.eq_of_mem_replicate hmem] at hcall
  exact hne (Option.some.inj hcall).symm

set_option maxRecDepth 16000 in
/-- The first turn of a binding test over TCP. -/
theorem firstTurn :
    let _ := Platform.armeabi
    ∃ c outgoing sent, (tcpClient (fun _ _ => "") bindingConfig tcpSocket).Reachable c ∧
      Proc.exec (CStunClientLogic.getNextMessage (constantSource 1) c.spMsg 5) c.clientlogic = (.ok outgoing, sent) ∧
      ∀ bs, ∃ c', c.turn (fun _ _ => "") bindingConfig tcpSocket (workingRound 5 bs) = .looping c' := by
  intro platform
  have hok : (Proc.exec (CStunClientLogic.getNextMessage (constantSource 1)
      (TcpClient.start (fresh bindingConfig)).spMsg 5) (TcpClient.start (fresh bindingConfig)).clientlogic).1.isOk =
      true := by decide
  have hreach : (tcpClient (fun _ _ => "") bindingConfig tcpSocket).Reachable (TcpClient.start (fresh bindingConfig)) :=
    .start ⟨_, bindingConfig_initialized, rfl⟩
  generalize TcpClient.start (fresh bindingConfig) = c at hok hreach
  cases hsent : Proc.exec (CStunClientLogic.getNextMessage (constantSource 1) c.spMsg 5) c.clientlogic with
  | mk outcome sent =>
    rw [hsent] at hok
    cases outcome with
    | error hr => cases hok
    | ok outgoing =>
      refine ⟨c, outgoing, sent, hreach, hsent, ?_⟩
      intro bs
      exact (workingRound_works tcpSocket 5 bs).turn (tcpClient_inv hreach) hsent

/-- The peer closes before it sends: the client is handed its own request. -/
theorem response_handed_ownRequest :
    let _ := Platform.armeabi
    ∃ inet_ntop c round c' outgoing sent, (tcpClient inet_ntop bindingConfig tcpSocket).Reachable c ∧
      Proc.exec (CStunClientLogic.getNextMessage round.source c.spMsg round.time) c.clientlogic = (.ok outgoing, sent) ∧
      c.turn inet_ntop bindingConfig tcpSocket round = .looping c' ∧
      c'.clientlogic = (Proc.exec (CStunClientLogic.processResponse c'.spMsg outgoing.addrDest round.addrLocal) sent).2 ∧
      (returned outgoing.spMsg.allocatedSize round.recvs
        (Receiving.start outgoing.spMsg c.spMsgReader c.reader)).flatten = [] ∧
      c'.spMsg = outgoing.spMsg ∧ c'.spMsg.contents ≠ [] := by
  intro platform
  obtain ⟨c, outgoing, sent, hreach, hsent, hturns⟩ := firstTurn
  obtain ⟨c', hturn⟩ := hturns []
  have hinv := tcpClient_inv hreach
  obtain ⟨outgoing', sent', recvEnd, received, hexchanged⟩ := turn_looping hturn
  cases hsent.symm.trans hexchanged.getNextMessage
  have hbytes : (returned outgoing.spMsg.allocatedSize (workingRound 5 []).recvs
      (Receiving.start outgoing.spMsg c.spMsgReader c.reader)).flatten = [] := by
    by_contra hne
    exact workingRound_closed 5 ((returned_nil_iff hinv hexchanged).mp hne)
  refine ⟨_, c, workingRound 5 [], c', outgoing, sent, hreach, hsent, hturn, ?_, hbytes,
    closed_handed hinv hexchanged hbytes⟩
  rw [hexchanged.spMsg]
  exact hexchanged.clientlogic

/-- A peer that answers with a byte at a time. -/
theorem response_handed_iff_byteAtATime :
    let _ := Platform.armeabi
    ∃ (c c' : TcpClient) (outgoing : Outgoing), (tcpClient (fun _ _ => "") bindingConfig tcpSocket).Reachable c ∧
      c.turn (fun _ _ => "") bindingConfig tcpSocket (workingRound 5 [0xff]) = .looping c' ∧
      c'.spMsg.contents = (returned outgoing.spMsg.allocatedSize (workingRound 5 [0xff]).recvs
        (Receiving.start outgoing.spMsg c.spMsgReader c.reader)).flatten := by
  intro platform
  obtain ⟨c, outgoing, sent, hreach, hsent, hturns⟩ := firstTurn
  obtain ⟨c', hturn⟩ := hturns [0xff]
  have hsent' : Proc.exec (CStunClientLogic.getNextMessage (workingRound 5 [0xff]).source c.spMsg
      (workingRound 5 [0xff]).time) c.clientlogic = (.ok outgoing, sent) := hsent
  obtain ⟨-, hhanded⟩ := response_handed_iff hreach hsent'
  refine ⟨c, c', outgoing, hreach, hturn, (hhanded c' hturn).2.mpr ?_⟩
  exact ⟨chunkCall [0xff], List.replicate 1499 (chunkCall [0xff]), [0xff], List.replicate_succ, rfl, List.cons_ne_nil _ _⟩

end NatTester.Guarantees
