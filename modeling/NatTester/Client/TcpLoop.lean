import NatTester.Client.Outcomes
import NatTester.Source.TcpClientLoop
import NatTester.Wire.Reuse

/-!
# The loop over TCP connections

The loop that consumes a response is inverted call by call: `Received` says what
the buffer and the reader are once some bytes have arrived. Over it `TcpInv` is
what holds in front of every turn of `TcpClientLoop`, and a turn that goes on
has sent one message and moved on in the list of tests.
-/
namespace NatTester.Client
open NatTester.Lib NatTester.Source NatTester.Wire CStunMessageReader

section Receiving
variable [Platform]

/-- What the calls of `recv` return, in their order, up to the end of the loop. -/
def returned (max_bytes_recv : Nat) : List RecvCall → Receiving → List Bytes
  | recvs, s =>
    match s.readsize, recvs with
    | .ok readsize, call :: recvs =>
      match call.recv readsize with
      | none => []
      | some bs => bs :: if bs.length = 0 then [] else returned max_bytes_recv recvs (s.take max_bytes_recv bs)
    | _, _ => []

variable {cap : Option Nat} {r₀ : CStunMessageReader} {request : CBuffer} {bs : Bytes} {s t : Receiving}
  {recvEnd : RecvEnd} {recvs : List RecvCall} {call : RecvCall} {n max : Nat}

omit [Platform] in
theorem readsize_ok (h : s.readsize = .ok n) :
    n = s.reader.howManyBytesNeeded.toNat ∧ n ≠ 0 ∧ n ≤ s.remaining := by
  unfold Receiving.readsize at h
  simp only at h
  split at h
  · cases h
  · split at h
    · cases h
    next hneeded =>
      split at h
      · cases h
      next hfits =>
        cases h
        exact ⟨rfl, hneeded, Nat.le_of_not_lt hfits⟩

theorem recvLoop_end (max : Nat) (h : s.readsize = .error recvEnd) (recvs : List RecvCall) :
    recvLoop max recvs s = .left (recvEnd, s) ∧ returned max recvs s = [] := by
  cases recvs <;> simp [recvLoop, returned, h]

theorem recvLoop_call (max : Nat) (h : s.readsize = .ok n) (call : RecvCall) (recvs : List RecvCall) :
    recvLoop max (call :: recvs) s =
        (match call.recv n with
        | none => .failed
        | some bs => if bs.length = 0 then .left (.closed, s) else recvLoop max recvs (s.take max bs)) ∧
      returned max (call :: recvs) s =
        (match call.recv n with
        | none => []
        | some bs => bs :: if bs.length = 0 then [] else returned max recvs (s.take max bs)) := by
  cases hcall : call.recv n with
  | none => simp [recvLoop, returned, h, hcall]
  | some bs => simp [recvLoop, returned, h, hcall]

theorem recvLoop_blocked (h : s.readsize = .ok n) : recvLoop max [] s = .blocked := by
  simp [recvLoop, h]

/-- The bytes `bs` have arrived behind the request, and the reader was fed them. -/
structure Received (cap : Option Nat) (r₀ : CStunMessageReader) (request : CBuffer) (bs : Bytes) (s : Receiving) :
    Prop where
  bytes_recv : s.bytes_recv = bs.length
  remaining : s.remaining = request.allocatedSize - bs.length
  allocated : s.spMsg.allocatedSize = request.allocatedSize
  stored : s.spMsg.memory.take bs.length = bs
  contents : bs ≠ [] → s.spMsg.contents = bs
  untouched : bs = [] → s.spMsg = request
  parsed : Parsed cap r₀ bs s.reader
  shape : TableShape s.reader

omit [Platform] in
theorem received_start (request spMsgReader : CBuffer) {reader : CStunMessageReader} (h : TableShape reader) :
    Received (some spMsgReader.allocatedSize) (reader.reset.attach spMsgReader) request []
      (.start request spMsgReader reader) where
  bytes_recv := rfl
  remaining := rfl
  allocated := rfl
  stored := List.take_zero
  contents := fun hne => absurd rfl hne
  untouched := fun _ => rfl
  parsed := (h.fresh_reset.attach spMsgReader).parsed
  shape := ⟨h.indexlist, h.fsize, h.tsize⟩

/-- A call that returns bytes. -/
theorem Received.take (h : Received cap r₀ request bs s) (h₀ : Fresh cap r₀) (hsize : s.readsize = .ok n) {more : Bytes}
    (hne : more ≠ []) (hle : more.length ≤ n) :
    Received cap r₀ request (bs ++ more) (s.take request.allocatedSize more) := by
  obtain ⟨-, -, hremaining⟩ := readsize_ok hsize
  have hpos := List.length_pos_iff.mpr hne
  have hroom : bs.length + more.length ≤ s.spMsg.memory.length := by
    have hall := h.allocated
    rw [h.remaining] at hremaining
    rw [CBuffer.allocatedSize] at hall
    omega
  have hvalid : s.spMsg.isValid = true := by
    unfold CBuffer.isValid
    cases hdata : s.spMsg.data with
    | some memory => rfl
    | none =>
      rw [CBuffer.memory, hdata] at hroom
      change _ ≤ 0 at hroom
      omega
  have hmemory : (s.take request.allocatedSize more).spMsg.memory = splice bs.length more s.spMsg.memory := by
    rw [Receiving.take, CBuffer.setSize_snd, h.bytes_recv]
    exact CBuffer.store_memory _ _ _ hvalid
  have hstored : (s.take request.allocatedSize more).spMsg.memory.take (bs ++ more).length = bs ++ more := by
    rw [hmemory, List.length_append, splice_take_end (by omega), h.stored]
  have hlength : s.bytes_recv + more.length = (bs ++ more).length := by rw [h.bytes_recv, List.length_append]
  have hsame : (s.take request.allocatedSize more).spMsg.size = (bs ++ more).length := by
    rw [Receiving.take, CBuffer.setSize_snd, hlength]
  constructor
  · exact hlength
  · change request.allocatedSize - (s.bytes_recv + more.length) = _
    rw [hlength]
  · rw [CBuffer.allocatedSize, hmemory, splice_length (by omega), ← h.allocated, CBuffer.allocatedSize]
    exact Nat.max_eq_right hroom
  · exact hstored
  · intro _
    rw [CBuffer.contents, hsame, hstored]
  · intro hnil
    exact absurd (List.append_eq_nil_iff.mp hnil).2 hne
  · exact (addBytes_parsed h₀ h.parsed more).2
  · exact tableShape_addBytes h.shape more

/-- Where the loop is left, what `recv` has returned has arrived. -/
theorem Received.recvLoop (h : Received cap r₀ request bs s) (h₀ : Fresh cap r₀)
    (hleft : recvLoop request.allocatedSize recvs s = .left (recvEnd, t)) :
    Received cap r₀ request (bs ++ (returned request.allocatedSize recvs s).flatten) t ∧
      (recvEnd = .closed ∨ t.readsize = .error recvEnd) := by
  induction recvs generalizing bs s with
  | nil =>
    cases hsize : s.readsize with
    | error reason =>
      obtain ⟨hloop, hreturned⟩ := recvLoop_end request.allocatedSize hsize []
      rw [hloop] at hleft
      cases hleft
      rw [hreturned, List.flatten_nil, List.append_nil]
      exact ⟨h, .inr hsize⟩
    | ok n =>
      rw [recvLoop_blocked hsize] at hleft
      cases hleft
  | cons call recvs ih =>
    cases hsize : s.readsize with
    | error reason =>
      obtain ⟨hloop, hreturned⟩ := recvLoop_end request.allocatedSize hsize (call :: recvs)
      rw [hloop] at hleft
      cases hleft
      rw [hreturned, List.flatten_nil, List.append_nil]
      exact ⟨h, .inr hsize⟩
    | ok n =>
      obtain ⟨hloop, hreturned⟩ := recvLoop_call request.allocatedSize hsize call recvs
      rw [hloop] at hleft
      rw [hreturned]
      cases hcall : call.recv n with
      | none =>
        rw [hcall] at hleft
        cases hleft
      | some more =>
        rw [hcall] at hleft
        simp only at hleft ⊢
        by_cases hclosed : more.length = 0
        · rw [if_pos hclosed] at hleft ⊢
          cases hleft
          rw [List.length_eq_zero_iff.mp hclosed, List.flatten_cons, List.flatten_nil, List.append_nil, List.append_nil]
          exact ⟨h, .inl rfl⟩
        · rw [if_neg hclosed] at hleft ⊢
          have hne : more ≠ [] := fun hnil => hclosed (by rw [hnil, List.length_nil])
          have hnext := ih (h.take h₀ hsize hne (call.length_le n more hcall)) hleft
          rw [List.flatten_cons, ← List.append_assoc]
          exact hnext

/-- Calls that do not fail lead to the end of the loop, as many as there are bytes of room at most. -/
theorem recvLoop_left (max : Nat) (hworks : ∀ call ∈ recvs, ∀ n, call.recv n ≠ none)
    (hremaining : s.remaining = max - s.bytes_recv)
    (henough : s.remaining ≤ recvs.length) : ∃ recvEnd t, recvLoop max recvs s = .left (recvEnd, t) := by
  induction recvs generalizing s with
  | nil =>
    have hzero : s.remaining = 0 := Nat.le_zero.mp henough
    have hsize : s.readsize = .error .noneRemaining := by rw [Receiving.readsize, if_pos hzero]
    exact ⟨_, _, (recvLoop_end max hsize []).1⟩
  | cons call recvs ih =>
    cases hsize : s.readsize with
    | error reason => exact ⟨_, _, (recvLoop_end max hsize _).1⟩
    | ok n =>
      obtain ⟨hloop, -⟩ := recvLoop_call max hsize call recvs
      rw [hloop]
      cases hcall : call.recv n with
      | none => exact absurd hcall (hworks call List.mem_cons_self n)
      | some more =>
        simp only
        split
        · exact ⟨_, _, rfl⟩
        next hopen =>
          have hless : (s.take max more).remaining < s.remaining := by
            obtain ⟨-, hne, hle⟩ := readsize_ok hsize
            change max - (s.bytes_recv + more.length) < s.remaining
            omega
          apply ih (fun call hcall => hworks call (List.mem_cons_of_mem _ hcall)) rfl
          rw [List.length_cons] at henough
          omega

omit [Platform] in
/-- Calls that send at least a byte lead to the end of the loop, one for every byte at most. -/
theorem sendLoop_left {pData : Bytes} {sends : List (Bytes → Option Nat)} {bytes_sent : Nat}
    (hworks : ∀ send ∈ sends, ∀ bs ≠ [], ∃ ret, send bs = some ret ∧ 0 < ret)
    (henough : pData.length - bytes_sent ≤ sends.length) : sendLoop pData bytes_sent sends = .left () := by
  induction sends generalizing bytes_sent with
  | nil =>
    rw [List.length_nil] at henough
    rw [sendLoop, if_neg (by omega)]
  | cons send sends ih =>
    rw [sendLoop]
    split
    next hmore =>
      have hne : pData.drop bytes_sent ≠ [] := fun hnil => Nat.not_le.mpr hmore (List.drop_eq_nil_iff.mp hnil)
      obtain ⟨ret, hsend, hpos⟩ := hworks send List.mem_cons_self _ hne
      rw [hsend]
      apply ih fun send hmem => hworks send (List.mem_cons_of_mem _ hmem)
      rw [List.length_cons] at henough
      omega
    · rfl

end Receiving

/-! ## The turns of the loop -/

section Loop
variable [Platform] {inet_ntop : AddressFamily → Bytes → String} {config : StunClientLogicConfig}
  {socketconfig : ClientSocketConfig} {round : TcpRound} {c c' : TcpClient}

/-- The loop as a machine: a step is a turn that goes on. -/
def tcpClient (inet_ntop : AddressFamily → Bytes → String) (config : StunClientLogicConfig)
    (socketconfig : ClientSocketConfig) : Machine TcpClient TcpRound where
  init c := ∃ clientlogic, Initialized config clientlogic ∧ c = TcpClient.start clientlogic
  step c round c' := c.turn inet_ntop config socketconfig round = .looping c'

/-- A turn that goes on: `outgoing` was sent, `received` arrived and was handed to the client. -/
structure Exchanged (round : TcpRound) (c c' : TcpClient) (outgoing : Outgoing) (sent : CStunClientLogic)
    (recvEnd : RecvEnd) (received : Receiving) : Prop where
  getNextMessage : Proc.exec (CStunClientLogic.getNextMessage round.source c.spMsg round.time) c.clientlogic =
    (.ok outgoing, sent)
  recvLoop : recvLoop outgoing.spMsg.allocatedSize round.recvs
    (Receiving.start outgoing.spMsg c.spMsgReader c.reader) = .left (recvEnd, received)
  clientlogic : c'.clientlogic =
    (Proc.exec (CStunClientLogic.processResponse received.spMsg outgoing.addrDest round.addrLocal) sent).2
  spMsg : c'.spMsg = received.spMsg
  reader : c'.reader = received.reader

/-- How a turn goes on from the answer of `GetNextMessage`. -/
theorem turn_cases (inet_ntop : AddressFamily → Bytes → String) (config : StunClientLogicConfig)
    (socketconfig : ClientSocketConfig) (round : TcpRound) (c : TcpClient) :
    (FAILED (round.tcpInit socketconfig.addrLocal) = true ∧ c.turn inet_ntop config socketconfig round =
      .exited (.tcpInitFailed (round.tcpInit socketconfig.addrLocal))) ∨
    (FAILED (round.tcpInit socketconfig.addrLocal) = false ∧
      ((∃ hrRet clientlogic,
          Proc.exec (CStunClientLogic.getNextMessage round.source c.spMsg round.time) c.clientlogic =
            (.error hrRet, clientlogic) ∧
          c.turn inet_ntop config socketconfig round =
            if hrRet = E_STUNCLIENT_RESULTS_READY then .exited (.ready (dumpResults inet_ntop config clientlogic.results))
            else .exited (.getNextMessageFailed hrRet)) ∨
        ∃ outgoing sent,
          Proc.exec (CStunClientLogic.getNextMessage round.source c.spMsg round.time) c.clientlogic =
            (.ok outgoing, sent) ∧
          c.turn inet_ntop config socketconfig round = TcpClient.exchange round outgoing { c with clientlogic := sent })) := by
  unfold TcpClient.turn
  simp only
  by_cases hfailed : FAILED (round.tcpInit socketconfig.addrLocal) = true
  · rw [if_pos hfailed]
    exact .inl ⟨hfailed, rfl⟩
  · rw [if_neg hfailed]
    apply Or.inr
    refine ⟨Bool.eq_false_iff.mpr hfailed, ?_⟩
    cases hcall : Proc.exec (CStunClientLogic.getNextMessage round.source c.spMsg round.time) c.clientlogic with
    | mk outcome after =>
      cases outcome with
      | error hrRet => exact .inl ⟨hrRet, after, rfl, rfl⟩
      | ok outgoing => exact .inr ⟨outgoing, after, rfl, rfl⟩

/-- A message that could not be exchanged ends the loop as a failure of the host. -/
theorem exchange_exited {outgoing : Outgoing} {tcpExit : TcpExit} (h : c.exchange round outgoing = .exited tcpExit) :
    tcpExit = .connectFailed ∨ tcpExit = .sendFailed ∨ tcpExit = .recvFailed := by
  unfold TcpClient.exchange at h
  split at h
  · cases h
    exact .inl rfl
  · split at h
    · cases h
      exact .inr (.inl rfl)
    · cases h
    · split at h
      · cases h
        exact .inr (.inr rfl)
      · cases h
      · cases h

theorem turn_looping (h : c.turn inet_ntop config socketconfig round = .looping c') :
    ∃ outgoing sent recvEnd received, Exchanged round c c' outgoing sent recvEnd received := by
  rcases turn_cases inet_ntop config socketconfig round c with ⟨-, hturn⟩ | ⟨-, ⟨hrRet, clientlogic, -, hturn⟩ |
    ⟨outgoing, sent, hcall, hturn⟩⟩
  · rw [hturn] at h
    cases h
  · rw [hturn] at h
    split at h <;> cases h
  · rw [hturn] at h
    unfold TcpClient.exchange at h
    split at h
    · cases h
    · split at h
      · cases h
      · cases h
      · split at h
        · cases h
        · cases h
        next recvEnd received hrecv =>
          cases h
          exact ⟨outgoing, sent, recvEnd, received, hcall, hrecv, rfl, rfl, rfl⟩

/-- What holds in front of every turn. -/
structure TcpInv (config : StunClientLogicConfig) (c : TcpClient) : Prop where
  reachable : (client config).Reachable c.clientlogic
  allocated : c.spMsg.allocatedSize = 1500
  shape : TableShape c.reader

theorem tcpInv_start {clientlogic : CStunClientLogic} (h : Initialized config clientlogic) :
    TcpInv config (TcpClient.start clientlogic) where
  reachable := .start h
  allocated := CBuffer.initWithAllocation_allocatedSize 1500
  shape := tableShape_new

/-- What the response loop of a turn has put into the buffer and the reader. -/
theorem Exchanged.received {outgoing : Outgoing} {sent : CStunClientLogic} {recvEnd : RecvEnd} {received : Receiving}
    (h : Exchanged round c c' outgoing sent recvEnd received) (hinv : TcpInv config c) :
    Received (some c.spMsgReader.allocatedSize) (c.reader.reset.attach c.spMsgReader) outgoing.spMsg
      (returned outgoing.spMsg.allocatedSize round.recvs
        (Receiving.start outgoing.spMsg c.spMsgReader c.reader)).flatten received ∧
      (recvEnd = .closed ∨ received.readsize = .error recvEnd) :=
  (received_start outgoing.spMsg c.spMsgReader hinv.shape).recvLoop (hinv.shape.fresh_reset.attach c.spMsgReader)
    h.recvLoop

theorem TcpInv.turn (h : TcpInv config c) (hturn : c.turn inet_ntop config socketconfig round = .looping c') :
    TcpInv config c' := by
  obtain ⟨outgoing, sent, recvEnd, received, hexchanged⟩ := turn_looping hturn
  obtain ⟨hreceived, -⟩ := hexchanged.received h
  have hlogic := (client_inv h.reachable).1
  have hsend : (client config).step c.clientlogic (.getNextMessage round.source c.spMsg round.time) sent :=
    (congrArg Prod.snd hexchanged.getNextMessage).symm
  have hreply : (client config).step sent
      (.processResponse received.spMsg outgoing.addrDest round.addrLocal) c'.clientlogic := hexchanged.clientlogic
  constructor
  · exact (h.reachable.step hsend).step hreply
  · rw [hexchanged.spMsg, hreceived.allocated, (getNextMessage_request hlogic hexchanged.getNextMessage).1, h.allocated]
  · rw [hexchanged.reader]
    exact hreceived.shape

theorem tcpClient_inv (h : (tcpClient inet_ntop config socketconfig).Reachable c) : TcpInv config c := by
  apply h.invariant (I := TcpInv config)
  · intro c hc
    obtain ⟨clientlogic, hinit, rfl⟩ := hc
    exact tcpInv_start hinit
  · intro c round c' hc hstep
    exact hc.turn hstep

/-- No call of the host fails in the turn, and as many return as its loops can make: the request
has 28 bytes, the buffer 1500. -/
structure Works (socketconfig : ClientSocketConfig) (round : TcpRound) : Prop where
  tcpInit : FAILED (round.tcpInit socketconfig.addrLocal) = false
  connect : ∀ addrDest, round.connect addrDest = true
  send : ∀ send ∈ round.sends, ∀ pData ≠ [], ∃ ret, send pData = some ret ∧ 0 < ret
  sends : 28 ≤ round.sends.length
  recv : ∀ call ∈ round.recvs, ∀ readsize, call.recv readsize ≠ none
  recvs : 1500 ≤ round.recvs.length

/-- Without a failure on the way, a turn that has a message goes on. -/
theorem Works.turn (h : Works socketconfig round) (hinv : TcpInv config c) {outgoing : Outgoing} {sent : CStunClientLogic}
    (hsent : Proc.exec (CStunClientLogic.getNextMessage round.source c.spMsg round.time) c.clientlogic =
      (.ok outgoing, sent)) : ∃ c', c.turn inet_ntop config socketconfig round = .looping c' := by
  obtain ⟨hallocated, transid, change, hrequest⟩ := getNextMessage_request (client_inv hinv.reachable).1 hsent
  have hconnected : ¬ round.connect outgoing.addrDest = false := by
    rw [h.connect]
    decide
  have hsend : sendLoop outgoing.spMsg.contents 0 round.sends = .left () := by
    apply sendLoop_left h.send
    rw [hrequest, requestBytes_length]
    exact h.sends
  have henough : (Receiving.start outgoing.spMsg c.spMsgReader c.reader).remaining ≤ round.recvs.length := by
    change outgoing.spMsg.allocatedSize ≤ _
    rw [hallocated, hinv.allocated]
    exact h.recvs
  obtain ⟨recvEnd, received, hrecv⟩ := recvLoop_left outgoing.spMsg.allocatedSize h.recv rfl henough
  rcases turn_cases inet_ntop config socketconfig round c with ⟨hfailed, -⟩ | ⟨-, ⟨hrRet, clientlogic, hcall, -⟩ |
    ⟨outgoing', sent', hcall, hturn⟩⟩
  · rw [h.tcpInit] at hfailed
    cases hfailed
  · cases hsent.symm.trans hcall
  · cases hsent.symm.trans hcall
    rw [hturn, TcpClient.exchange, if_neg hconnected, hsend]
    simp only
    rw [hrecv]
    exact ⟨_, rfl⟩

/-- When a test is attempted once, a turn that goes on moves on. -/
theorem turn_movedOn (honce : (CStunClientLogic.withDefaults config).uMaxAttempts = 1) (h : TcpInv config c)
    (hturn : c.turn inet_ntop config socketconfig round = .looping c') :
    MovedOn config round.time c.clientlogic c'.clientlogic := by
  obtain ⟨outgoing, sent, recvEnd, received, hexchanged⟩ := turn_looping hturn
  have hmoved := getNextMessage_movedOn honce (client_inv h.reachable).1 hexchanged.getNextMessage
  obtain ⟨hindex, hcount, htimer⟩ := processResponse_position received.spMsg outgoing.addrDest round.addrLocal sent
  rw [← hexchanged.clientlogic] at hindex hcount htimer
  constructor
  · rw [hcount]
    exact hmoved.sent
  · rw [htimer]
    exact hmoved.timer
  · rw [hindex]
    exact hmoved.forward
  · rw [hindex]
    exact hmoved.next
  · rw [hindex]
    exact hmoved.inRange

end Loop

end NatTester.Client
