import NatTester.Client.UdpLoop
import NatTester.Guarantees.SendLoop

/-!
# The UDP loop

Whatever the host answers, the loop drives the client: it hands every datagram to
it once and whole, sends what the client returns and nothing else, and it can only
end with the report of a finished client. What it sends follows the schedule of
the tests, and it ends in time if it looks at the clock often enough.
-/
namespace NatTester.Guarantees
open NatTester.Lib NatTester.Source NatTester.Client CStunClientLogic

section Loop
variable [Platform] {inet_ntop : AddressFamily → Bytes → String} {config : StunClientLogicConfig}
  {socketconfig : ClientSocketConfig} {udpInit : CSocketAddress → HRESULT} {unset : StunClientLogicConfig} {fUnset : Bool}
  {rounds done : List UdpRound} {c c' : UdpClient} {l : CStunClientLogic}

/-! ## The client is driven -/

/-- Where the loop can be after `rounds`. -/
def UdpMeets (inet_ntop : AddressFamily → Bytes → String) (config : StunClientLogicConfig) (rounds : List UdpRound) :
    UdpProgress → Prop
  | .looping c => ∃ history, Driven config c.sent (datagrams config rounds) history c.clientlogic
  | .exited (.ready printed) => ∃ answered last rest sent history after, rounds = answered ++ last :: rest ∧
      Driven config sent (datagrams config answered) history after ∧ after.current = none ∧
      printed = dumpResults inet_ntop config after.results
  | .exited (.getNextMessageFailed _) => False
  | .exited (.initializeFailed _) => config.addrServer.isIPAddressZero = true ∨ config.addrServer.getPort = 0
  | .exited (.udpInitFailed hr) => FAILED hr = true

/-- Once it has started, the loop goes on, or prints the results of a finished client. -/
theorem turns_cases (h : UdpInv config done c) (inet_ntop : AddressFamily → Bytes → String) (rounds : List UdpRound) :
    (∃ c', c.turns inet_ntop config rounds = .looping c' ∧ UdpInv config (done ++ rounds) c') ∨
    ∃ printed, c.turns inet_ntop config rounds = .exited (.ready printed) ∧
      UdpMeets inet_ntop config (done ++ rounds) (.exited (.ready printed)) := by
  induction rounds generalizing done c with
  | nil =>
    rw [UdpClient.turns, List.append_nil]
    exact .inl ⟨c, rfl, h⟩
  | cons round rounds ih =>
    rw [UdpClient.turns]
    rcases h.turn inet_ntop round with ⟨c', hturn, hinv, -⟩ | ⟨history, after, hturn, hdriven, hdone⟩
    · rw [hturn, List.append_cons]
      exact ih hinv
    · rw [hturn]
      exact .inr ⟨_, rfl, done, round, rounds, c.sent, history, after, rfl, hdriven, hdone, rfl⟩

omit [Platform] in
/-- `Initialize` of a new client refuses a server without an address or a port, and nothing else. -/
theorem initialize_cases (config unset : StunClientLogicConfig) (fUnset : Bool) :
    (∃ l, Proc.exec (initializeClient config) (CStunClientLogic.new unset fUnset) = (.ok (), l) ∧ Initialized config l) ∨
    ∃ hr l, Proc.exec (initializeClient config) (CStunClientLogic.new unset fUnset) = (.error hr, l) ∧
      (config.addrServer.isIPAddressZero = true ∨ config.addrServer.getPort = 0) := by
  have hnew : ¬ (CStunClientLogic.new unset fUnset).fInitialized = true := Bool.false_ne_true
  cases hinit : Proc.exec (initializeClient config) (CStunClientLogic.new unset fUnset) with
  | mk outcome l =>
    cases outcome with
    | ok _ => exact .inl ⟨l, rfl, unset, fUnset, hinit⟩
    | error hr =>
      refine .inr ⟨hr, l, rfl, ?_⟩
      by_contra hserver
      obtain ⟨hzero, hport⟩ := not_or.mp hserver
      unfold initializeClient at hinit
      rw [Proc.exec_bind_ok (Proc.exec_get _), Proc.exec_bind_ok (exec_chkIf_false hnew ..),
        Proc.exec_bind_ok (exec_chkIf_false hzero ..), Proc.exec_bind_ok (exec_chkIf_false hport ..)] at hinit
      cases hinit

/-- The loop without its failures to start. -/
theorem udpClientLoop_started (hinit : Proc.exec (initializeClient config) (CStunClientLogic.new unset fUnset) = (.ok (), l))
    (hsocket : FAILED (udpInit socketconfig.addrLocal) = false) :
    udpClientLoop inet_ntop config socketconfig udpInit unset fUnset rounds =
      (UdpClient.start l).turns inet_ntop config rounds := by
  unfold udpClientLoop
  rw [hinit]
  simp only
  rw [hsocket]
  rfl

/-- For every configuration, whatever the host answers in every turn: the loop has driven the client
through a run that sent exactly the messages handed to `sendto` and was handed exactly the datagrams
that came, each once, in order and whole. It ends only where its start failed, or with the report of
a client whose tests are over; `GetNextMessage` never fails in it. -/
theorem udp_loop_drives_client (inet_ntop : AddressFamily → Bytes → String) (config : StunClientLogicConfig)
    (socketconfig : ClientSocketConfig) (udpInit : CSocketAddress → HRESULT) (unset : StunClientLogicConfig)
    (fUnset : Bool) (rounds : List UdpRound) :
    UdpMeets inet_ntop config rounds (udpClientLoop inet_ntop config socketconfig udpInit unset fUnset rounds) := by
  rcases initialize_cases config unset fUnset with ⟨l, hinit, hinitialized⟩ | ⟨hr, l, hinit, hserver⟩
  · by_cases hsocket : FAILED (udpInit socketconfig.addrLocal) = true
    · unfold udpClientLoop
      rw [hinit]
      simp only
      rw [if_pos hsocket]
      exact hsocket
    · rw [udpClientLoop_started hinit (Bool.eq_false_iff.mpr hsocket)]
      rcases turns_cases (udpInv_start hinitialized) inet_ntop rounds with ⟨c, hturns, hinv⟩ | ⟨printed, hturns, hready⟩
      · rw [hturns]
        exact hinv.driven
      · rw [hturns]
        exact hready
  · unfold udpClientLoop
    rw [hinit]
    exact hserver

/-! ## The schedule -/

/-- In every state of the loop, whatever the host answered: what was handed to `sendto` are requests,
in the order of the tests, a request sent again only when its timeout has passed on the clock
that wraps, with the same bytes to the same address, no test with more than its attempts. -/
theorem udp_messages_scheduled (h : Initialized config l)
    (hloop : (UdpClient.start l).turns inet_ntop config rounds = .looping c) :
    ∃ ms, Scheduled config ms ∧ c.sent = ms.map fun m => (m.time, m.outgoing) := by
  obtain ⟨history, hdriven⟩ : ∃ history, Driven config c.sent (datagrams config rounds) history c.clientlogic := by
    rcases turns_cases (udpInv_start h) inet_ntop rounds with ⟨c', hturns, hinv⟩ | ⟨printed, hturns, -⟩
    · cases hloop.symm.trans hturns
      exact hinv.driven
    · cases hloop.symm.trans hturns
  refine ⟨_, run_scheduled hdriven.run, ?_⟩
  rw [← hdriven.sent_eq, List.map_filterMap]
  rfl

/-- A turn in which no datagram comes. -/
def silentRound (time : Nat) : UdpRound := ⟨constantSource 1, UInt32.ofNat time, fun _ _ => 0, none, none⟩

/-- The binding test alone, with two attempts. -/
def retryConfig : StunClientLogicConfig := { bindingConfig with uMaxAttempts := 2 }

/-- How many messages the loop has sent, while it is looping. -/
def sentCount : UdpProgress → Option Nat
  | .looping c => some c.sent.length
  | .exited _ => none

set_option maxRecDepth 30000 in
omit [Platform] in
/-- The request of the binding test, a turn that waits, and the request again. -/
theorem udp_messages_scheduled_retry :
    let _ := Platform.armeabi
    ∃ c, (UdpClient.start (fresh retryConfig)).turns (fun _ _ => "") retryConfig
        [silentRound 5, silentRound 505, silentRound 3505] = .looping c ∧ c.sent.length = 2 ∧
      ∃ ms, Scheduled retryConfig ms ∧ c.sent = ms.map fun m => (m.time, m.outgoing) := by
  intro platform
  have hinitialized : Initialized retryConfig (fresh retryConfig) := ⟨retryConfig, false, rfl⟩
  have hsent : sentCount ((UdpClient.start (fresh retryConfig)).turns (fun _ _ => "") retryConfig
      [silentRound 5, silentRound 505, silentRound 3505]) = some 2 := by decide
  cases hloop : (UdpClient.start (fresh retryConfig)).turns (fun _ _ => "") retryConfig
      [silentRound 5, silentRound 505, silentRound 3505] with
  | looping c =>
    rw [hloop] at hsent
    exact ⟨c, rfl, Option.some.inj hsent, udp_messages_scheduled hinitialized hloop⟩
  | exited udpExit =>
    rw [hloop] at hsent
    cases hsent

/-! ## The end -/

/-- One look at the clock and the next: not later than `gap`. -/
def LooksWithin (gap now next : Nat) : Prop := now ≤ next ∧ next ≤ now + gap

/-- The loop keeps its time at `now`, on a clock that does not wrap. -/
def LoopOnTime (config : StunClientLogicConfig) (gap first now : Nat) (c : UdpClient) : Prop :=
  attemptsUsed config c.clientlogic ≤ attemptsMax config ∧
    ∃ last, c.clientlogic.timeLastMessageSent = UInt32.ofNat last ∧
      Retries.OnTime (timeoutMilliseconds config) gap first now ⟨attemptsUsed config c.clientlogic, last⟩

variable {gap first now next : Nat}

omit [Platform] in
/-- The difference of two readings that are less than a wrap apart. -/
theorem elapsed_toNat (hmade : now ≤ next) (hwraps : next - now < 2 ^ 32) :
    (UInt32.ofNat next - UInt32.ofNat now).toNat = next - now := by
  obtain ⟨elapsed, rfl⟩ := Nat.exists_eq_add_of_le hmade
  rw [Nat.add_sub_cancel_left] at hwraps ⊢
  rw [UInt32.ofNat_add, UInt32.add_comm, UInt32.add_sub_cancel, UInt32.toNat_ofNat_of_lt' hwraps]

omit [Platform] in
theorem LoopOnTime.turn (h : LoopOnTime config gap first now c) (hpaced : LooksWithin gap now next)
    (hwraps : timeoutMilliseconds config + gap < 2 ^ 32) (hturn : TurnedTo config (UInt32.ofNat next) c c') :
    LoopOnTime config gap first next c' := by
  obtain ⟨-, last, htimer, honTime⟩ := h
  obtain ⟨hnow, hgap⟩ := hpaced
  have hmade := honTime.made
  have hcurrent := honTime.current
  simp only at hmade hcurrent
  cases hturn with
  | sends hlooked _ =>
    cases hlooked with
    | sends hmore hrange hset => exact ⟨hrange, next, hset, honTime.look hnow hgap (.attempt hmore)⟩
  | waits hlooked _ =>
    cases hlooked with
    | waits _ hmore hrange hkept hshort =>
      refine ⟨hrange, last, hkept.trans htimer, honTime.look hnow hgap (.wait hmore ?_)⟩
      have hseconds : (next - last) / 1000 < (withDefaults config).timeoutSeconds.toNat := by
        rw [htimer] at hshort
        have hnat := UInt32.lt_iff_toNat_lt.mp hshort
        rw [UInt32.toNat_div, elapsed_toNat (by omega) (by omega)] at hnat
        exact hnat
      simp only
      rw [timeoutMilliseconds]
      omega

/-- The first turn of the loop makes an attempt, if it goes on. -/
theorem loopOnTime_first (h : Initialized config l) (hturn : TurnedTo config (UInt32.ofNat first) (UdpClient.start l) c') :
    LoopOnTime config gap first first c' := by
  obtain ⟨-, -, rfl⟩ := h.eq
  cases hturn with
  | sends hlooked _ =>
    cases hlooked with
    | sends hmore hrange hset =>
      exact ⟨hrange, first, hset, Retries.OnTime.start (Nat.lt_of_le_of_lt (Nat.zero_le _) hmore)⟩
  | waits hlooked _ =>
    cases hlooked with
    | waits hbegun _ _ _ _ => exact absurd rfl hbegun

theorem turns_onTime {clock : List Nat} (hinv : UdpInv config done c) (honTime : LoopOnTime config gap first now c)
    (htimes : rounds.map UdpRound.time = clock.map UInt32.ofNat) (hclock : (now :: clock).IsChain (LooksWithin gap))
    (hwraps : timeoutMilliseconds config + gap < 2 ^ 32) (hloop : c.turns inet_ntop config rounds = .looping c') :
    LoopOnTime config gap first (clock.getLastD now) c' := by
  induction rounds generalizing done c now clock with
  | nil =>
    obtain rfl : clock = [] := List.map_eq_nil_iff.mp htimes.symm
    cases hloop
    exact honTime
  | cons round rounds ih =>
    cases clock with
    | nil => cases htimes
    | cons next clock =>
      obtain ⟨htime, htimes⟩ := List.cons.inj htimes
      obtain ⟨hpaced, hclock⟩ := List.isChain_cons_cons.mp hclock
      rw [UdpClient.turns] at hloop
      rcases hinv.turn inet_ntop round with ⟨c₁, hturn, hinv', hturned⟩ | ⟨history, after, hturn, -, -⟩
      · rw [hturn] at hloop
        rw [htime] at hturned
        rw [List.getLastD_cons]
        exact ih hinv' (honTime.turn hpaced hwraps hturned) htimes hclock hloop
      · rw [hturn] at hloop
        cases hloop

/-- The clock at the turns: it starts at `first`, and no two looks at it are more than `gap` apart. -/
structure ClockAt (gap first : Nat) (clock : List Nat) (rounds : List UdpRound) : Prop where
  times : rounds.map UdpRound.time = (first :: clock).map UInt32.ofNat
  paced : (first :: clock).IsChain (LooksWithin gap)

/-- Once it has started, the loop ends in time. -/
theorem turns_end {clock : List Nat} (hinitialized : Initialized config l) (hclock : ClockAt gap first clock rounds)
    (hwraps : timeoutMilliseconds config + gap < 2 ^ 32)
    (hlate : first + attemptsMax config * (timeoutMilliseconds config + gap) < clock.getLastD first + gap) :
    ∃ printed, (UdpClient.start l).turns inet_ntop config rounds = .exited (.ready printed) ∧
      UdpMeets inet_ntop config rounds (.exited (.ready printed)) := by
  obtain ⟨htimes, hpaced⟩ := hclock
  rcases turns_cases (udpInv_start hinitialized) inet_ntop rounds with ⟨c, hturns, -⟩ | hready
  · obtain ⟨round, rounds, rfl⟩ : ∃ round rest, rounds = round :: rest := by
      cases rounds with
      | nil => cases htimes
      | cons round rest => exact ⟨round, rest, rfl⟩
    obtain ⟨htime, htimes⟩ := List.cons.inj htimes
    rw [UdpClient.turns] at hturns
    rcases (udpInv_start hinitialized).turn inet_ntop round with ⟨c₁, hturn, hinv, hturned⟩ | ⟨history, after, hturn, -, -⟩
    · rw [hturn] at hturns
      rw [htime] at hturned
      obtain ⟨hrange, made, -, honTime⟩ :=
        turns_onTime hinv (loopOnTime_first hinitialized hturned) htimes hpaced hwraps hturns
      have hdeadline := honTime.deadline hrange
      omega
    · rw [hturn] at hturns
      cases hturns
  · exact hready

/-- For every configuration with a server and whatever datagrams come: when the turns look at the
clock at least once in every `gap` milliseconds, the loop has printed the results of a finished
client by the time all attempts of all tests can have timed out. The clock is the one of the host,
whose low 32 bits the client sees. -/
theorem udp_loop_ends {clock : List Nat} (hserver : config.addrServer.isIPAddressZero = false)
    (hport : config.addrServer.getPort ≠ 0) (hsocket : FAILED (udpInit socketconfig.addrLocal) = false)
    (hclock : ClockAt gap first clock rounds) (hwraps : timeoutMilliseconds config + gap < 2 ^ 32)
    (hlate : first + attemptsMax config * (timeoutMilliseconds config + gap) < clock.getLastD first + gap) :
    ∃ after, (client config).Reachable after ∧ after.current = none ∧
      udpClientLoop inet_ntop config socketconfig udpInit unset fUnset rounds =
        .exited (.ready (dumpResults inet_ntop config after.results)) := by
  rcases initialize_cases config unset fUnset with ⟨l, hinit, hinitialized⟩ | ⟨hr, l, -, hzero | hzero⟩
  · rw [udpClientLoop_started hinit hsocket]
    obtain ⟨printed, hturns, answered, last, rest, sent, history, after, -, hdriven, hdone, rfl⟩ :=
      turns_end hinitialized hclock hwraps hlate
    exact ⟨after, ⟨history, hdriven.run⟩, hdone, hturns⟩
  · rw [hserver] at hzero
    cases hzero
  · exact absurd hzero hport

omit [Platform] in
/-- A server that never answers: the test times out three seconds after its request. -/
theorem udp_loop_ends_silent :
    let _ := Platform.armeabi
    ∃ after, (client bindingConfig).Reachable after ∧ after.current = none ∧
      udpClientLoop (fun _ _ => "") bindingConfig ⟨.inet, .dgram, CSocketAddress.zero⟩ (fun _ => S_OK) bindingConfig false
          ([5, 1005, 2005, 3005, 4005].map silentRound) =
        .exited (.ready (dumpResults (fun _ _ => "") bindingConfig after.results)) := by
  intro platform
  have hclock : ClockAt 1000 5 [1005, 2005, 3005, 4005] ([5, 1005, 2005, 3005, 4005].map silentRound) :=
    ⟨rfl, by simp [LooksWithin]⟩
  exact udp_loop_ends (by decide) (by decide) (by decide) hclock (by decide) (by decide)

end Loop

end NatTester.Guarantees
