import NatTester.Guarantees.NatReport
import NatTester.Network.Lossless
import NatTester.Network.Verdicts

/-!
# The report on a network that loses nothing

If nothing is lost but what the NAT filters, the UDP loop ends with the mapped
address and the behavior of the NAT. The filtering it names is that of the NAT if
the behavior tests have not sent datagrams from the same mapped address before.
-/
namespace NatTester.Guarantees
open NatTester.Lib NatTester.Source NatTester.Wire NatTester.Client NatTester.Network NatTester.Handler
  CStunRequestHandler CStunMessageReader

/-- The report of a client that has carried out the plan. -/
def natReport (inet_ntop : AddressFamily → Bytes → String) (w : World) (config : StunClientLogicConfig) : List LogMsg :=
  [⟨"Binding test: %s", "success"⟩, ⟨"Local address: %s", w.addrLocal.toStringBuffer inet_ntop⟩,
    ⟨"Mapped address: %s", (w.nat (w.server.address .rolePP)).toStringBuffer inet_ntop⟩] ++
  (if config.fBehaviorTest then
    [⟨"Behavior test: %s", "success"⟩,
      ⟨"Nat behavior: %s", natBehaviorToString (w.server.natBehavior w.nat w.addrLocal)⟩]
  else []) ++
  if config.fFilteringTest then
    if config.fBehaviorTest then
      [⟨"Filtering test: %s", "success"⟩, ⟨"Nat filtering: %s", natFilteringToString (w.shownFiltering config)⟩]
    else [⟨"Filtering test: %s", "fail"⟩]
  else []

theorem dumpResults_verdicts {w : World} {config : StunClientLogicConfig} {results : StunClientResults}
    (h : w.Verdicts config results) (inet_ntop : AddressFamily → Bytes → String) :
    dumpResults inet_ntop config results = natReport inet_ntop w config := by
  obtain ⟨hbinding, hlocal, hmapped, hasked, hbehavior, hfiltering⟩ := h
  unfold dumpResults dumpBinding dumpBehavior dumpFiltering dumpTest natReport successOrFail
  rw [hbinding, hlocal, hmapped, hasked]
  cases hb : config.fBehaviorTest with
  | false => cases config.fFilteringTest <;> rfl
  | true =>
    rw [hbehavior hb]
    cases hf : config.fFilteringTest with
    | false => rfl
    | true =>
      rw [(hfiltering hf).2]
      rfl

theorem natFilteringToString_inj {a b : NatFiltering} (h : natFilteringToString a = natFilteringToString b) : a = b := by
  cases a <;> cases b <;> simp_all [natFilteringToString]

/-- The filtering of the NAT is named if both kinds of tests are asked for and it shows. -/
theorem mem_natReport_filtering {w : World} {config : StunClientLogicConfig} (hdistinct : w.server.Distinct)
    (inet_ntop : AddressFamily → Bytes → String) :
    ⟨"Nat filtering: %s", natFilteringToString w.rule.filtering⟩ ∈ natReport inet_ntop w config ↔
      (config.fFilteringTest = true ∧ config.fBehaviorTest = true) ∧ w.FilteringShows := by
  unfold natReport
  cases hb : config.fBehaviorTest with
  | false => cases config.fFilteringTest <;> simp
  | true =>
    rw [← World.shownFiltering_eq_iff hdistinct hb]
    cases config.fFilteringTest with
    | false => simp
    | true =>
      have hnames : natFilteringToString w.rule.filtering = natFilteringToString (w.shownFiltering config) ↔
          w.shownFiltering config = w.rule.filtering :=
        ⟨fun h => (natFilteringToString_inj h).symm, fun h => by rw [h]⟩
      simp [hnames]

section Loop
variable [Platform] [Digests] {inet_ntop : AddressFamily → Bytes → String} {config : StunClientLogicConfig}
  {socketconfig : ClientSocketConfig} {udpInit : CSocketAddress → HRESULT} {unset : StunClientLogicConfig} {fUnset : Bool}
  {rounds : List UdpRound} {gap first : Nat} {w : World}

/-- If nothing else is lost and the loop looks at the clock often enough, it ends with exactly this report. -/
theorem udpClientLoop_natReport {clock : List Nat} (haddress : config.addrServer = w.server.addrPrimary)
    (hdistinct : w.server.Distinct) (hnonzero : ∀ addr, (w.nat addr).isIPAddressZero = false)
    (hsocket : FAILED (udpInit socketconfig.addrLocal) = false) (hclock : ClockAt gap first clock rounds)
    (hwraps : timeoutMilliseconds config + gap < 2 ^ 32)
    (hlate : first + attemptsMax config * (timeoutMilliseconds config + gap) < clock.getLastD first + gap)
    (hlossless : Lossless w inet_ntop config (udpClientLoop inet_ntop config socketconfig udpInit unset fUnset []) rounds) :
    udpClientLoop inet_ntop config socketconfig udpInit unset fUnset rounds =
      .exited (.ready (natReport inet_ntop w config)) := by
  rcases initialize_cases config unset fUnset with ⟨l, hinit, hinitialized⟩ | ⟨hr, l, -, hzero⟩
  · rw [udpClientLoop_started hinit hsocket] at hlossless ⊢
    obtain ⟨printed, hturns, -⟩ := turns_end hinitialized hclock hwraps hlate
    have hplan := lossless_plan hdistinct haddress (onPlan_start hinitialized) hlossless hturns
    rw [hturns, hplan, dumpResults_verdicts (World.plan_verdicts hnonzero)]
  · rw [haddress, w.server.primaryIP] at hzero
    exact absurd (hzero.resolve_left Bool.false_ne_true) w.server.primaryPort

/-- For every configuration with the primary address of a server that has two IPs and two ports, and
every NAT, with one mapping for each destination, none of them to IP 0, and any of the three rules for
what it lets in: if the socket is made, every answer that is let in comes in the turn of its request, the
loop looks at the clock often enough and its timeout is not too long for the counter, it ends with exactly
this report. The report names the filtering of the NAT if and only if both kinds of tests were asked for
and the filtering shows: a direct connection is taken for one without a filter, and the behavior tests may
have opened the way for the answers. -/
theorem udp_loop_shows_nat {clock : List Nat} (haddress : config.addrServer = w.server.addrPrimary)
    (hdistinct : w.server.Distinct) (hnonzero : ∀ addr, (w.nat addr).isIPAddressZero = false)
    (hsocket : FAILED (udpInit socketconfig.addrLocal) = false) (hclock : ClockAt gap first clock rounds)
    (hwraps : timeoutMilliseconds config + gap < 2 ^ 32)
    (hlate : first + attemptsMax config * (timeoutMilliseconds config + gap) < clock.getLastD first + gap)
    (hlossless : Lossless w inet_ntop config (udpClientLoop inet_ntop config socketconfig udpInit unset fUnset []) rounds) :
    udpClientLoop inet_ntop config socketconfig udpInit unset fUnset rounds =
        .exited (.ready (natReport inet_ntop w config)) ∧
      (⟨"Nat filtering: %s", natFilteringToString w.rule.filtering⟩ ∈ natReport inet_ntop w config ↔
        (config.fFilteringTest = true ∧ config.fBehaviorTest = true) ∧ w.FilteringShows) := by
  have hloop := udpClientLoop_natReport haddress hdistinct hnonzero hsocket hclock hwraps hlate hlossless
  exact ⟨hloop, mem_natReport_filtering hdistinct inet_ntop⟩

end Loop

/-! ## A NAT that is not told apart -/

section Check
variable [Platform] [Digests] (w : World) (inet_ntop : AddressFamily → Bytes → String) (config : StunClientLogicConfig)

/-- What comes in the turn is the answer to the message of the turn, received on the socket. -/
def bringsOn (role : SocketRole) (round : UdpRound) (sent : List (UInt32 × Outgoing)) : UdpProgress → Bool
  | .looping c => match c.sent with
    | [] => false
    | m :: rest => rest = sent ∧ w.server.address role = m.2.addrDest ∧
      round.incoming config MAX_STUN_MESSAGE_SIZE =
        w.arriving (destinations (m :: rest)) (receivedOn w.server w.nat role ⟨m.2.spMsg.contents, m.2.addrDest⟩)
          (emptyAnswer 800)
  | .exited _ => true

def losslessOn : List (SocketRole × UdpRound) → UdpProgress → Bool
  | (role, round) :: rounds, .looping c =>
    bringsOn w config role round c.sent (c.turn inet_ntop config round) &&
      losslessOn rounds (c.turn inet_ntop config round)
  | _, .exited _ => true
  | [], .looping _ => true

variable {w inet_ntop config}

theorem bringsOn_brings {role : SocketRole} {round : UdpRound} {sent : List (UInt32 × Outgoing)} {c : UdpClient}
    (h : bringsOn w config role round sent (.looping c) = true) : Brings w config round sent c.sent := by
  unfold bringsOn at h
  simp only at h
  split at h
  · cases h
  next m rest hsent =>
    obtain ⟨rfl, hrole, hcomes⟩ := of_decide_eq_true h
    have hreceives : Receives w.server w.nat ⟨m.2.spMsg.contents, m.2.addrDest⟩
        (receivedOn w.server w.nat role ⟨m.2.spMsg.contents, m.2.addrDest⟩) :=
      ⟨hrole, rfl, rfl, none, CStunMessageReader.new, fresh_new, rfl, rfl⟩
    rw [hsent]
    exact .answer hreceives (emptyAnswer_room (by decide)) hcomes

theorem losslessOn_lossless {rounds : List (SocketRole × UdpRound)} {progress : UdpProgress}
    (h : losslessOn w inet_ntop config rounds progress = true) :
    Lossless w inet_ntop config progress (rounds.map Prod.snd) := by
  induction rounds generalizing progress with
  | nil => exact .nil
  | cons first rounds ih =>
    obtain ⟨role, round⟩ := first
    cases progress with
    | exited udpExit => exact .exited
    | looping c =>
      obtain ⟨hbrings, hrest⟩ := Bool.and_eq_true_iff.mp h
      refine .cons (fun c' hturn => ?_) (ih hrest)
      rw [hturn] at hbrings
      exact bringsOn_brings hbrings

end Check

/-- A NAT with one mapping for all destinations that lets in what comes from an IP it has sent to. -/
def coneWorld : World := ⟨smallServer, coneNat, .addressDependent, CSocketAddress.zero⟩

/-- The request of a filtering test, with the id drawn from `constantSource n`. -/
def filteringRequest (n : UInt8) : Datagram :=
  ⟨[0x00, 0x01, 0x00, 0x08] ++ wireId n ++ [0x00, 0x03, 0x00, 0x04, 0, 0, 0, 6], smallServer.address .rolePP⟩

/-- A turn in which the answer to the request comes. -/
def answerRound (n : UInt8) (role : SocketRole) (sent : List CSocketAddress) (request : Datagram) : UdpRound :=
  let _ := Platform.armeabi
  let _ := requestDigests
  ⟨constantSource n.toNat, 5, fun _ _ => 1,
    (coneWorld.arriving sent (receivedOn smallServer coneNat role request) (emptyAnswer 800)).map fun incoming =>
      ⟨incoming.buf, incoming.srcAddr, []⟩, none⟩

/-- The turns of a run with all tests: the binding test, behavior test 2 and filtering test 2 are answered. -/
def coneRounds : List (SocketRole × UdpRound) :=
  [(.rolePP, answerRound 1 .rolePP [smallServer.address .rolePP] (requestTo 1 (smallServer.address .rolePP))),
    (.roleAP, answerRound 2 .roleAP [smallServer.address .roleAP, smallServer.address .rolePP]
      (requestTo 2 (smallServer.address .roleAP))),
    (.rolePP, answerRound 3 .rolePP
      [smallServer.address .rolePP, smallServer.address .roleAP, smallServer.address .rolePP] (filteringRequest 3))] ++
  [5, 3005, 6005, 9005, 12005, 15005, 18005, 21005, 24005, 27005, 27006].map fun time => (.rolePP, silentRound time)

theorem coneRounds_lossless :
    let _ := Platform.armeabi
    let _ := requestDigests
    losslessOn coneWorld dottedQuad fullConfig coneRounds (.looping (UdpClient.start (fresh fullConfig))) = true := by
  decide +kernel

/-- Behavior test 2 has sent to the other IP of the server, so the NAT takes for endpoint independent. -/
theorem udp_loop_shows_nat_cone :
    let _ := Platform.armeabi
    let _ := requestDigests
    udpClientLoop dottedQuad fullConfig ⟨.inet, .dgram, CSocketAddress.zero⟩ (fun _ => S_OK) fullConfig false
        (coneRounds.map Prod.snd) = .exited (.ready (natReport dottedQuad coneWorld fullConfig)) ∧
      coneWorld.rule.filtering = .addressDependentFiltering ∧
      ⟨"Nat filtering: %s", natFilteringToString .addressDependentFiltering⟩ ∉
        natReport dottedQuad coneWorld fullConfig := by
  have hchecked := coneRounds_lossless
  intro platform digests
  have hdistinct : coneWorld.server.Distinct := ⟨by decide, by decide⟩
  have hclock : ClockAt 3000 5 [5, 5, 5, 3005, 6005, 9005, 12005, 15005, 18005, 21005, 24005, 27005, 27006]
      (coneRounds.map Prod.snd) := ⟨rfl, by simp [LooksWithin]⟩
  have hnonzero : (CSocketAddress.ofIp4 9 9).isIPAddressZero = false := by decide
  have hshows : udpClientLoop dottedQuad fullConfig ⟨.inet, .dgram, CSocketAddress.zero⟩ (fun _ => S_OK) fullConfig false
        (coneRounds.map Prod.snd) = .exited (.ready (natReport dottedQuad coneWorld fullConfig)) ∧
      (⟨"Nat filtering: %s", natFilteringToString coneWorld.rule.filtering⟩ ∈ natReport dottedQuad coneWorld fullConfig ↔
        (fullConfig.fFilteringTest = true ∧ fullConfig.fBehaviorTest = true) ∧ coneWorld.FilteringShows) :=
    udp_loop_shows_nat rfl hdistinct (fun _ => hnonzero) (by decide) hclock (by decide) (by decide)
      (losslessOn_lossless hchecked)
  obtain ⟨hloop, hnamed⟩ := hshows
  refine ⟨hloop, rfl, fun hline => ?_⟩
  obtain ⟨-, -, hAP, -⟩ := hnamed.mp hline
  exact hAP rfl

end NatTester.Guarantees
