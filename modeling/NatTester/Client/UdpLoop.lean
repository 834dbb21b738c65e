import NatTester.Client.History
import NatTester.Client.Schedule
import NatTester.Source.UdpClientLoop

/-!
# The loop over datagrams

`Driven` ties the turns of `UdpClientLoop` to a run of the client: the messages it
has handed to `sendto` are those the client returned, and every datagram was handed
to the client once, in order and whole. A turn is inverted once.
-/
namespace NatTester.Client
open NatTester.Lib NatTester.Source IStunClientTest CStunClientLogic

section Loop
variable [Platform]

/-- What a step of the client has sent, with the clock. -/
def transmission (k : Machine.Taken CStunClientLogic ClientCall) : Option (UInt32 × Outgoing) :=
  (sending k).map fun m => (m.time, m.outgoing)

omit [Platform] in
/-- What a step of the client was handed. -/
def delivery (k : Machine.Taken CStunClientLogic ClientCall) : Option Incoming :=
  match k.label with
  | .getNextMessage _ _ _ => none
  | .processResponse spMsg addrRemote addrLocal => some ⟨spMsg.contents, addrRemote, addrLocal⟩

/-- The datagrams of some turns, the last one first. -/
def datagrams (config : StunClientLogicConfig) (rounds : List UdpRound) : List Incoming :=
  (rounds.filterMap (UdpRound.incoming config MAX_STUN_MESSAGE_SIZE)).reverse

/-- A run of the client in which exactly `sent` was sent and `received` was handed in, the last one first. -/
structure Driven (config : StunClientLogicConfig) (sent : List (UInt32 × Outgoing)) (received : List Incoming)
    (history : List (Machine.Taken CStunClientLogic ClientCall)) (l : CStunClientLogic) : Prop where
  run : (client config).Run history l
  sent_eq : history.filterMap transmission = sent
  received_eq : history.filterMap delivery = received

variable {inet_ntop : AddressFamily → Bytes → String} {config : StunClientLogicConfig} {round : UdpRound}
  {c c' : UdpClient} {l after : CStunClientLogic} {sent : List (UInt32 × Outgoing)} {received : List Incoming}
  {history : List (Machine.Taken CStunClientLogic ClientCall)} {source : RandomSource} {spMsg : CBuffer} {time : UInt32}
  {outgoing : Outgoing} {hr : HRESULT}

/-! ## The run of the client -/

theorem Driven.sends (h : Driven config sent received history l)
    (hcall : Proc.exec (CStunClientLogic.getNextMessage source spMsg time) l = (.ok outgoing, after)) :
    Driven config ((time, outgoing) :: sent) received (⟨l, .getNextMessage source spMsg time, after⟩ :: history) after := by
  have hfst : (Proc.exec (CStunClientLogic.getNextMessage source spMsg time) l).1 = .ok outgoing := by rw [hcall]
  constructor
  · exact h.run.step (congrArg Prod.snd hcall).symm
  · rw [List.filterMap_cons, transmission, sending_ok hfst, h.sent_eq]
    rfl
  · rw [List.filterMap_cons, h.received_eq]
    rfl

theorem Driven.sendsNothing (h : Driven config sent received history l)
    (hcall : Proc.exec (CStunClientLogic.getNextMessage source spMsg time) l = (.error hr, after)) :
    Driven config sent received (⟨l, .getNextMessage source spMsg time, after⟩ :: history) after := by
  have hfst : (Proc.exec (CStunClientLogic.getNextMessage source spMsg time) l).1 = .error hr := by rw [hcall]
  constructor
  · exact h.run.step (congrArg Prod.snd hcall).symm
  · rw [List.filterMap_cons, transmission, sending_error hfst, h.sent_eq]
    rfl
  · rw [List.filterMap_cons, h.received_eq]
    rfl

theorem Driven.receives (h : Driven config sent received history l) {incoming : Incoming}
    (hcontents : spMsg.contents = incoming.buf) :
    ∃ k, Driven config sent (incoming :: received) (k :: history)
      (Proc.exec (CStunClientLogic.processResponse spMsg incoming.srcAddr incoming.dstAddr) l).2 := by
  obtain ⟨buf, srcAddr, dstAddr⟩ := incoming
  obtain rfl : spMsg.contents = buf := hcontents
  have hstep : (client config).step l (.processResponse spMsg srcAddr dstAddr)
      (Proc.exec (CStunClientLogic.processResponse spMsg srcAddr dstAddr) l).2 := rfl
  refine ⟨_, h.run.step hstep, ?_, ?_⟩
  · rw [List.filterMap_cons, h.sent_eq]
    rfl
  · rw [List.filterMap_cons, h.received_eq]
    rfl

/-! ## A turn -/

omit [Platform] in
/-- A datagram in a buffer that has room for it. -/
theorem stored_datagram {buf : Bytes} (hne : buf ≠ []) (hfits : buf.length ≤ spMsg.allocatedSize) :
    ((spMsg.store 0 buf).setSize buf.length).2.contents = buf ∧
      ((spMsg.store 0 buf).setSize buf.length).2.allocatedSize = spMsg.allocatedSize := by
  have hpos := List.length_pos_iff.mpr hne
  have hvalid : spMsg.isValid = true := by
    unfold CBuffer.isValid
    cases hdata : spMsg.data with
    | some memory => rfl
    | none =>
      rw [CBuffer.allocatedSize, CBuffer.memory, hdata] at hfits
      change _ ≤ 0 at hfits
      omega
  have hmemory : (spMsg.store 0 buf).memory = splice 0 buf spMsg.memory := CBuffer.store_memory _ _ _ hvalid
  rw [CBuffer.setSize_snd]
  constructor
  · change ((spMsg.store 0 buf).memory).take buf.length = buf
    have hend : (splice 0 buf spMsg.memory).take (0 + buf.length) = spMsg.memory.take 0 ++ buf :=
      splice_take_end (Nat.zero_le spMsg.memory.length)
    rw [Nat.zero_add, List.take_zero, List.nil_append] at hend
    rw [hmemory, hend]
  · change (spMsg.store 0 buf).memory.length = spMsg.memory.length
    rw [hmemory, splice_length (Nat.zero_le _), Nat.zero_add]
    exact Nat.max_eq_right hfits

/-- What holds in front of every turn, when `rounds` have been taken. -/
structure UdpInv (config : StunClientLogicConfig) (rounds : List UdpRound) (c : UdpClient) : Prop where
  driven : ∃ history, Driven config c.sent (datagrams config rounds) history c.clientlogic
  allocated : c.spMsg.allocatedSize = MAX_STUN_MESSAGE_SIZE

theorem udpInv_start (h : Initialized config l) : UdpInv config [] (UdpClient.start l) where
  driven := ⟨[], .start h, rfl, rfl⟩
  allocated := CBuffer.initWithAllocation_allocatedSize MAX_STUN_MESSAGE_SIZE

omit [Platform] in
theorem datagrams_append (config : StunClientLogicConfig) (rounds : List UdpRound) (round : UdpRound) :
    datagrams config (rounds ++ [round]) =
      (round.incoming config MAX_STUN_MESSAGE_SIZE).toList ++ datagrams config rounds := by
  unfold datagrams
  rw [List.filterMap_append, List.reverse_append]
  cases hincoming : round.incoming config MAX_STUN_MESSAGE_SIZE <;> simp [List.filterMap, hincoming]

/-- A turn that goes on: an attempt, or a wait. -/
inductive TurnedTo (config : StunClientLogicConfig) (time : UInt32) (c c' : UdpClient) : Prop
  | sends {outgoing : Outgoing} (looked : Looked config time c.clientlogic c'.clientlogic (.ok outgoing))
    (sent : c'.sent = (time, outgoing) :: c.sent)
  | waits (looked : Looked config time c.clientlogic c'.clientlogic (.error E_STUNCLIENT_STILL_WAITING))
    (sent : c'.sent = c.sent)

/-- What the second half of a turn does to the client. -/
inductive Heard (config : StunClientLogicConfig) (round : UdpRound) (l : CStunClientLogic) : CStunClientLogic → Prop
  | nothing (none : round.incoming config MAX_STUN_MESSAGE_SIZE = none) : Heard config round l l
  | datagram {incoming : Incoming} {spMsg : CBuffer}
    (some : round.incoming config MAX_STUN_MESSAGE_SIZE = some incoming) (contents : spMsg.contents = incoming.buf) :
    Heard config round l (Proc.exec (CStunClientLogic.processResponse spMsg incoming.srcAddr incoming.dstAddr) l).2

variable (config) in
/-- The second half of a turn. -/
theorem receive_heard (hallocated : c.spMsg.allocatedSize = MAX_STUN_MESSAGE_SIZE) (round : UdpRound) :
    Heard config round c.clientlogic (c.receive config round).clientlogic ∧
      (c.receive config round).sent = c.sent ∧
      (c.receive config round).spMsg.allocatedSize = MAX_STUN_MESSAGE_SIZE := by
  have hsame : (c.spMsg.setSize 0).2.allocatedSize = MAX_STUN_MESSAGE_SIZE :=
    (CBuffer.setSize_allocatedSize ..).trans hallocated
  unfold UdpClient.receive
  simp only [hsame]
  cases hincoming : round.incoming config MAX_STUN_MESSAGE_SIZE with
  | none => exact ⟨.nothing hincoming, rfl, hsame⟩
  | some incoming =>
    have hreceived : recvfromex MAX_STUN_MESSAGE_SIZE round.recvmsg round.getsockname = some incoming := by
      unfold UdpRound.incoming at hincoming
      split at hincoming
      · exact hincoming
      · cases hincoming
    obtain ⟨hne, hfits⟩ := recvfromex_some hreceived
    obtain ⟨hcontents, hstored⟩ := stored_datagram hne (hsame.symm ▸ hfits)
    exact ⟨.datagram hincoming hcontents, rfl, hstored.trans hsame⟩

theorem receive_spec {rounds : List UdpRound} (hdriven : Driven config c.sent (datagrams config rounds) history c.clientlogic)
    (hallocated : c.spMsg.allocatedSize = MAX_STUN_MESSAGE_SIZE) (round : UdpRound) :
    UdpInv config (rounds ++ [round]) (c.receive config round) ∧ (c.receive config round).sent = c.sent ∧
      (c.receive config round).clientlogic.nTestIndex = c.clientlogic.nTestIndex ∧
      (c.receive config round).clientlogic.sendCount = c.clientlogic.sendCount ∧
      (c.receive config round).clientlogic.timeLastMessageSent = c.clientlogic.timeLastMessageSent := by
  obtain ⟨hheard, hsent, hstored⟩ := receive_heard config hallocated round
  generalize c.receive config round = c' at hheard hsent hstored
  obtain ⟨clientlogic, spMsg, sent⟩ := c'
  obtain rfl : sent = c.sent := hsent
  cases hheard with
  | nothing hincoming =>
    refine ⟨⟨⟨history, ?_⟩, hstored⟩, rfl, rfl, rfl, rfl⟩
    rw [datagrams_append, hincoming]
    exact hdriven
  | datagram hincoming hcontents =>
    obtain ⟨k, hdelivered⟩ := hdriven.receives hcontents
    refine ⟨⟨⟨k :: history, ?_⟩, hstored⟩, rfl, processResponse_position _ _ _ _⟩
    rw [datagrams_append, hincoming]
    exact hdelivered

omit [Platform] in
/-- A client that has moved neither on nor its timer is looked at alike. -/
theorem Looked.congr {t : CStunClientLogic} {outcome : Except HRESULT Outgoing} (h : Looked config time l after outcome)
    (hready : outcome ≠ .error E_STUNCLIENT_RESULTS_READY) (hindex : t.nTestIndex = after.nTestIndex)
    (hcount : t.sendCount = after.sendCount) (htimer : t.timeLastMessageSent = after.timeLastMessageSent) :
    Looked config time l t outcome := by
  have hused : attemptsUsed config t = attemptsUsed config after := by rw [attemptsUsed, hindex, hcount, attemptsUsed]
  cases h with
  | ready => exact absurd rfl hready
  | waits hbegun hmore hrange hkept hshort => exact .waits hbegun (hused ▸ hmore) (hused ▸ hrange) (htimer.trans hkept) hshort
  | sends hmore hrange hset => exact .sends (hused ▸ hmore) (hused ▸ hrange) (htimer.trans hset)

/-- A turn goes on, or finds the results ready and prints them. -/
theorem UdpInv.turn {rounds : List UdpRound} (h : UdpInv config rounds c) (inet_ntop : AddressFamily → Bytes → String)
    (round : UdpRound) :
    (∃ c', c.turn inet_ntop config round = .looping c' ∧ UdpInv config (rounds ++ [round]) c' ∧
      TurnedTo config round.time c c') ∨
    ∃ history after, c.turn inet_ntop config round = .exited (.ready (dumpResults inet_ntop config after.results)) ∧
      Driven config c.sent (datagrams config rounds) history after ∧ after.current = none := by
  obtain ⟨history, hdriven⟩ := h.driven
  obtain ⟨hlogic, hsent⟩ := run_sentInv hdriven.run
  have hsize : (c.spMsg.setSize 0).2.allocatedSize = MAX_STUN_MESSAGE_SIZE :=
    (CBuffer.setSize_allocatedSize ..).trans h.allocated
  obtain ⟨outcome, after, hcall, hlooked⟩ := getNextMessage_looked hlogic hsent.bounded (Nat.le_of_eq hsize.symm)
    round.source round.time
  unfold UdpClient.turn
  simp only [hcall]
  cases outcome with
  | ok outgoing =>
    obtain ⟨hroom, -⟩ := getNextMessage_request hlogic hcall
    obtain ⟨hinv, hsame, hindex, hcount, htimer⟩ := receive_spec
      (c := ⟨after, outgoing.spMsg, (round.time, outgoing) :: c.sent⟩) (hdriven.sends hcall) (hroom.trans hsize) round
    exact .inl ⟨_, rfl, hinv, .sends (hlooked.congr (by simp) hindex hcount htimer) hsame⟩
  | error hr =>
    have hquiet := hdriven.sendsNothing hcall
    cases hlooked with
    | ready hdone =>
      refine .inr ⟨_, after, ?_, hquiet, hdone⟩
      simp only
      rw [if_neg (by decide), if_pos trivial]
      rfl
    | waits hbegun hmore hrange hkept hshort =>
      obtain ⟨hinv, hsame, hindex, hcount, htimer⟩ := receive_spec
        (c := ⟨after, (c.spMsg.setSize 0).2, c.sent⟩) hquiet hsize round
      have hwaits : Looked config round.time c.clientlogic after (.error E_STUNCLIENT_STILL_WAITING) :=
        .waits hbegun hmore hrange hkept hshort
      simp only
      rw [if_pos trivial]
      exact .inl ⟨_, rfl, hinv, .waits (hwaits.congr (by decide) hindex hcount htimer) hsame⟩

/-- What a call of `GetNextMessage` hands to `sendto`. -/
def transmitted (time : UInt32) : Except HRESULT Outgoing → List (UInt32 × Outgoing)
  | .ok outgoing => [(time, outgoing)]
  | .error _ => []

/-- What a turn that goes on does to the client: a call of `GetNextMessage` that does not fail, and
what is received. -/
theorem UdpInv.takes {rounds : List UdpRound} (h : UdpInv config rounds c)
    (hturn : c.turn inet_ntop config round = .looping c') :
    ∃ outcome after,
      Proc.exec (CStunClientLogic.getNextMessage round.source (c.spMsg.setSize 0).2 round.time) c.clientlogic =
        (outcome, after) ∧
      (∀ hr, outcome = .error hr → hr = E_STUNCLIENT_STILL_WAITING) ∧
      c'.sent = transmitted round.time outcome ++ c.sent ∧ Heard config round after c'.clientlogic := by
  obtain ⟨history, hdriven⟩ := h.driven
  obtain ⟨hlogic, -⟩ := run_sentInv hdriven.run
  have hsize : (c.spMsg.setSize 0).2.allocatedSize = MAX_STUN_MESSAGE_SIZE :=
    (CBuffer.setSize_allocatedSize ..).trans h.allocated
  cases hcall : Proc.exec (CStunClientLogic.getNextMessage round.source (c.spMsg.setSize 0).2 round.time) c.clientlogic with
  | mk outcome after =>
    refine ⟨outcome, after, rfl, ?_⟩
    unfold UdpClient.turn at hturn
    simp only [hcall] at hturn
    cases outcome with
    | ok outgoing =>
      obtain ⟨hroom, -⟩ := getNextMessage_request hlogic hcall
      obtain ⟨hheard, hsent, -⟩ := receive_heard config
        (c := ⟨after, outgoing.spMsg, (round.time, outgoing) :: c.sent⟩) (hroom.trans hsize) round
      obtain rfl := UdpProgress.looping.inj hturn
      refine ⟨fun hr herror => ?_, hsent, hheard⟩
      cases herror
    | error hr =>
      simp only at hturn
      split at hturn
      case isTrue hwaits =>
        obtain ⟨hheard, hsent, -⟩ := receive_heard config
          (c := ⟨after, (c.spMsg.setSize 0).2, c.sent⟩) hsize round
        obtain rfl := UdpProgress.looping.inj hturn
        exact ⟨fun hr' herror => (Except.error.inj herror).symm.trans hwaits, hsent, hheard⟩
      case isFalse =>
        split at hturn <;> cases hturn

/-- The turn that prints the results looks at a finished client. -/
theorem UdpInv.reads {rounds : List UdpRound} {printed : List LogMsg} (h : UdpInv config rounds c)
    (hturn : c.turn inet_ntop config round = .exited (.ready printed)) :
    ∃ hr after,
      Proc.exec (CStunClientLogic.getNextMessage round.source (c.spMsg.setSize 0).2 round.time) c.clientlogic =
        (.error hr, after) ∧
      after.current = none ∧ printed = dumpResults inet_ntop config after.results := by
  obtain ⟨history, hdriven⟩ := h.driven
  obtain ⟨hlogic, hsent⟩ := run_sentInv hdriven.run
  have hsize : (c.spMsg.setSize 0).2.allocatedSize = MAX_STUN_MESSAGE_SIZE :=
    (CBuffer.setSize_allocatedSize ..).trans h.allocated
  obtain ⟨outcome, after, hcall, hlooked⟩ := getNextMessage_looked hlogic hsent.bounded (Nat.le_of_eq hsize.symm)
    round.source round.time
  unfold UdpClient.turn at hturn
  simp only [hcall] at hturn
  cases hlooked with
  | ready hdone =>
    simp only at hturn
    rw [if_neg (by decide), if_pos trivial] at hturn
    cases hturn
    exact ⟨_, after, hcall, hdone, rfl⟩
  | waits =>
    simp only at hturn
    rw [if_pos trivial] at hturn
    cases hturn
  | sends => cases hturn

/-! ## More turns -/

variable {socketconfig : ClientSocketConfig} {udpInit : CSocketAddress → HRESULT} {unset : StunClientLogicConfig}
  {fUnset : Bool} {rounds : List UdpRound}

theorem turns_looping (h : c.turns inet_ntop config rounds = .looping c') (round : UdpRound) :
    c.turns inet_ntop config (rounds ++ [round]) = c'.turn inet_ntop config round := by
  induction rounds generalizing c with
  | nil =>
    obtain rfl := UdpProgress.looping.inj h
    rw [List.nil_append, UdpClient.turns]
    cases c.turn inet_ntop config round <;> rfl
  | cons first rounds ih =>
    rw [UdpClient.turns] at h
    rw [List.cons_append, UdpClient.turns]
    cases hfirst : c.turn inet_ntop config first with
    | looping c₁ =>
      rw [hfirst] at h
      exact ih h
    | exited udpExit =>
      rw [hfirst] at h
      cases h

/-- The loop takes its next turn where it is. -/
theorem udpClientLoop_looping
    (h : udpClientLoop inet_ntop config socketconfig udpInit unset fUnset rounds = .looping c) (round : UdpRound) :
    udpClientLoop inet_ntop config socketconfig udpInit unset fUnset (rounds ++ [round]) =
      c.turn inet_ntop config round := by
  unfold udpClientLoop at h ⊢
  split at h
  · cases h
  case h_2 l _ =>
    simp only at h ⊢
    split at h
    · cases h
    · rw [if_neg ‹_›]
      exact turns_looping h round

/-- Before its first turn the loop has a client that is initialized, or it has failed to start. -/
theorem udpClientLoop_nil (inet_ntop : AddressFamily → Bytes → String) (config : StunClientLogicConfig)
    (socketconfig : ClientSocketConfig) (udpInit : CSocketAddress → HRESULT) (unset : StunClientLogicConfig)
    (fUnset : Bool) :
    (∃ l, Initialized config l ∧
      udpClientLoop inet_ntop config socketconfig udpInit unset fUnset [] = .looping (UdpClient.start l)) ∨
    ∃ udpExit, udpClientLoop inet_ntop config socketconfig udpInit unset fUnset [] = .exited udpExit ∧
      ∀ printed, udpExit ≠ .ready printed := by
  unfold udpClientLoop
  split
  · exact .inr ⟨_, rfl, fun _ => UdpExit.noConfusion⟩
  case h_2 l hinit =>
    simp only
    split
    · exact .inr ⟨_, rfl, fun _ => UdpExit.noConfusion⟩
    · exact .inl ⟨l, ⟨unset, fUnset, hinit⟩, rfl⟩

end Loop

end NatTester.Client
