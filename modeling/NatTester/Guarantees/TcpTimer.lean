import NatTester.Guarantees.TcpResponse

/-!
# TCP and the timer

The configuration for TCP asks for a timeout of 0 seconds and a single attempt,
but `Initialize` reads the 0 as a request for the default of 3 seconds. So a turn
that follows a response which completed nothing waits, and ends the loop without
results, exactly where its clock is less than 3 seconds past the request.
-/
namespace NatTester.Guarantees
open NatTester.Lib NatTester.Source NatTester.Client IStunClientTest

/-- If a request was sent for the current test and the test is still open, the clock, which wraps,
is 3 seconds or more past it. -/
def ThreeSecondsPast (time : UInt32) (l : CStunClientLogic) : Prop :=
  ∀ s, l.current = some s → isCompleted s = false → l.sendCount ≠ 0 → 3 ≤ (time - l.timeLastMessageSent) / 1000

section Timer
variable [Platform] {inet_ntop : AddressFamily → Bytes → String} {config : StunClientLogicConfig}
  {socketconfig : ClientSocketConfig} {round : TcpRound} {rounds : List TcpRound} {c c' : TcpClient}

/-- `GetNextMessage` is called in a turn of the loop only once 3 seconds have passed since the request
of a test that is still open. -/
def KeepsThreeSeconds (inet_ntop : AddressFamily → Bytes → String) (config : StunClientLogicConfig)
    (socketconfig : ClientSocketConfig) : List TcpRound → TcpClient → Prop
  | [], _ => True
  | round :: rounds, c =>
    (FAILED (round.tcpInit socketconfig.addrLocal) = false → ThreeSecondsPast round.time c.clientlogic) ∧
      ∀ c', c.turn inet_ntop config socketconfig round = .looping c' →
        KeepsThreeSeconds inet_ntop config socketconfig rounds c'

omit [Platform] in
theorem tcp_defaults (h : TcpConfig config) :
    (CStunClientLogic.withDefaults config).timeoutSeconds = 3 ∧ (CStunClientLogic.withDefaults config).uMaxAttempts = 1 := by
  simp [CStunClientLogic.withDefaults, h.fTimeoutIsInstant, h.timeoutSeconds, h.uMaxAttempts]

theorem threeSecondsPast_iff (h : TcpConfig config) (hinv : TcpInv config c) (time : UInt32) :
    PastTimeout time c.clientlogic ↔ ThreeSecondsPast time c.clientlogic := by
  rw [PastTimeout, (client_inv hinv.reachable).1.config_eq, (tcp_defaults h).1]
  exact Iff.rfl

/-- A turn waits exactly where the clock is too early. -/
theorem turn_waiting_iff (h : TcpConfig config) (hinv : TcpInv config c) :
    c.turn inet_ntop config socketconfig round = .exited (.getNextMessageFailed E_STUNCLIENT_STILL_WAITING) ↔
      FAILED (round.tcpInit socketconfig.addrLocal) = false ∧ ¬ ThreeSecondsPast round.time c.clientlogic := by
  obtain ⟨hlogic, hsettled⟩ := client_inv hinv.reachable
  have hroom : MAX_STUN_MESSAGE_SIZE ≤ c.spMsg.allocatedSize := by
    rw [hinv.allocated]
    decide
  have hwaits : (Proc.exec (CStunClientLogic.getNextMessage round.source c.spMsg round.time) c.clientlogic).1 =
      .error E_STUNCLIENT_STILL_WAITING ↔ ¬ PastTimeout round.time c.clientlogic :=
    getNextMessage_waiting_iff hlogic hsettled hroom
  rw [← threeSecondsPast_iff h hinv, ← hwaits]
  rcases turn_cases inet_ntop config socketconfig round c with ⟨hfailed, hturn⟩ | ⟨hfailed, ⟨hrRet, clientlogic, hcall,
    hturn⟩ | ⟨outgoing, sent, hcall, hturn⟩⟩
  · rw [hturn, hfailed]
    simp
  · rw [hturn, hcall, hfailed]
    by_cases hready : hrRet = E_STUNCLIENT_RESULTS_READY
    · subst hready
      rw [if_pos rfl]
      simp [E_STUNCLIENT_RESULTS_READY, E_STUNCLIENT_STILL_WAITING, hresult]
    · rw [if_neg hready]
      simp
  · rw [hturn, hcall, hfailed]
    constructor
    · intro hexit
      rcases exchange_exited hexit with hother | hother | hother <;> cases hother
    · intro hwaits
      cases hwaits.2

/-- No turn of a run waits if and only if the clock is never too early. -/
theorem turns_waiting_iff (h : TcpConfig config) (hinv : TcpInv config c) :
    c.turns inet_ntop config socketconfig rounds ≠ .exited (.getNextMessageFailed E_STUNCLIENT_STILL_WAITING) ↔
      KeepsThreeSeconds inet_ntop config socketconfig rounds c := by
  induction rounds generalizing c with
  | nil => simp [TcpClient.turns, KeepsThreeSeconds]
  | cons round rounds ih =>
    have hhere := @turn_waiting_iff _ inet_ntop config socketconfig round c h hinv
    have hpast (hne : c.turn inet_ntop config socketconfig round ≠
        .exited (.getNextMessageFailed E_STUNCLIENT_STILL_WAITING)) :
        FAILED (round.tcpInit socketconfig.addrLocal) = false → ThreeSecondsPast round.time c.clientlogic := by
      intro hfailed
      by_contra hearly
      exact hne (hhere.mpr ⟨hfailed, hearly⟩)
    rw [KeepsThreeSeconds, TcpClient.turns]
    cases hturn : c.turn inet_ntop config socketconfig round with
    | looping c' =>
      rw [hturn] at hpast
      rw [ih (hinv.turn hturn)]
      constructor
      · intro hkeeps
        refine ⟨hpast (by simp), ?_⟩
        intro c'' hlooping
        cases hlooping
        exact hkeeps
      · intro hkeeps
        exact hkeeps.2 c' rfl
    | blocked =>
      rw [hturn] at hpast
      constructor
      · intro _
        exact ⟨hpast (by simp), by simp⟩
      · intro _
        simp
    | exited tcpExit =>
      rw [hturn] at hpast hhere
      constructor
      · intro hne
        exact ⟨hpast hne, by simp⟩
      · intro hkeeps hexit
        obtain ⟨hfailed, hearly⟩ := hhere.mp hexit
        exact hearly (hkeeps.1 hfailed)

/-- A turn in which nothing fails and the clock is late enough ends the loop with results or goes on. -/
theorem turn_works (h : TcpConfig config) (hinv : TcpInv config c) (hworks : Works socketconfig round)
    (hpast : ThreeSecondsPast round.time c.clientlogic) :
    (∃ l, (client config).Reachable l ∧ l.current = none ∧
      c.turn inet_ntop config socketconfig round = .exited (.ready (dumpResults inet_ntop config l.results))) ∨
    ∃ c', c.turn inet_ntop config socketconfig round = .looping c' := by
  obtain ⟨history, hrun⟩ := hinv.reachable
  obtain ⟨hlogic, hsent⟩ := run_sentInv hrun
  have hroom : MAX_STUN_MESSAGE_SIZE ≤ c.spMsg.allocatedSize := by
    rw [hinv.allocated]
    decide
  have hnot : c.turn inet_ntop config socketconfig round ≠ .exited (.getNextMessageFailed E_STUNCLIENT_STILL_WAITING) :=
    fun hwaits => ((turn_waiting_iff h hinv).mp hwaits).2 hpast
  rcases turn_cases inet_ntop config socketconfig round c with ⟨hfailed, -⟩ | ⟨-, ⟨hrRet, clientlogic, hcall, hturn⟩ |
    ⟨outgoing, sent, hcall, -⟩⟩
  · rw [hworks.tcpInit] at hfailed
    cases hfailed
  · have houtcome := getNextMessage_outcome hlogic round.source round.time hroom
    rw [hcall] at houtcome
    rcases houtcome with ⟨outgoing, hok⟩ | hready | hwaits
    · cases hok
    · cases hready
      rw [if_pos rfl] at hturn
      have hstep : (client config).step c.clientlogic (.getNextMessage round.source c.spMsg round.time) clientlogic :=
        (congrArg Prod.snd hcall).symm
      exact .inl ⟨clientlogic, hinv.reachable.step hstep, ready_finished hlogic hsent hcall, hturn⟩
    · cases hwaits
      rw [if_neg (by decide)] at hturn
      exact absurd hturn hnot
  · exact .inr (hworks.turn hinv hcall)

/-- There are turns enough for every test that has not sent yet, and for the results. -/
def EnoughTurns (config : StunClientLogicConfig) (rounds : List TcpRound) (l : CStunClientLogic) : Prop :=
  (CStunClientLogic.testClasses config).length < rounds.length ∨
    (l.sendCount ≠ 0 ∧ l.nTestIndex < (CStunClientLogic.testClasses config).length ∧
      (CStunClientLogic.testClasses config).length ≤ rounds.length + l.nTestIndex)

theorem turns_ready (h : TcpConfig config) (hinv : TcpInv config c) (hworks : ∀ round ∈ rounds, Works socketconfig round)
    (hkeeps : KeepsThreeSeconds inet_ntop config socketconfig rounds c)
    (henough : EnoughTurns config rounds c.clientlogic) :
    ∃ l, (client config).Reachable l ∧ l.current = none ∧
      c.turns inet_ntop config socketconfig rounds = .exited (.ready (dumpResults inet_ntop config l.results)) := by
  induction rounds generalizing c with
  | nil =>
    rw [EnoughTurns, List.length_nil] at henough
    omega
  | cons round rounds ih =>
    obtain ⟨hpast, hlater⟩ := hkeeps
    have hround := hworks round List.mem_cons_self
    rw [TcpClient.turns]
    rcases @turn_works _ inet_ntop _ _ _ _ h hinv hround (hpast hround.tcpInit) with ⟨l, hreach, hdone, hturn⟩ | ⟨c', hturn⟩
    · rw [hturn]
      exact ⟨l, hreach, hdone, rfl⟩
    · have hmoved := turn_movedOn (tcp_defaults h).2 hinv hturn
      have hleft : EnoughTurns config rounds c'.clientlogic := by
        have hforward := hmoved.forward
        have hrange := hmoved.inRange
        refine .inr ⟨hmoved.sent, hrange, ?_⟩
        rw [EnoughTurns, List.length_cons] at henough
        rcases henough with hall | ⟨hsent, -, hsome⟩
        · omega
        · have hnext := hmoved.next hsent
          omega
      rw [hturn]
      exact ih (hinv.turn hturn) (fun round hmem => hworks round (List.mem_cons_of_mem _ hmem)) (hlater c' hturn) hleft

/-- The clock is late enough in every turn of the loop. -/
def LoopKeepsThreeSeconds (inet_ntop : AddressFamily → Bytes → String) (config : StunClientLogicConfig)
    (socketconfig : ClientSocketConfig) (unset : StunClientLogicConfig) (fUnset : Bool) (rounds : List TcpRound) : Prop :=
  ∀ clientlogic, Proc.exec (CStunClientLogic.initializeClient config) (CStunClientLogic.new unset fUnset) =
    (.ok (), clientlogic) → KeepsThreeSeconds inet_ntop config socketconfig rounds (TcpClient.start clientlogic)

omit [Platform] in
/-- `Initialize` refuses a server address of zeros only: the command line sets a port. -/
theorem initialize_accepts (h : TcpConfig config) (hserver : config.addrServer.isIPAddressZero = false)
    (unset : StunClientLogicConfig) (fUnset : Bool) : ∃ clientlogic,
      Proc.exec (CStunClientLogic.initializeClient config) (CStunClientLogic.new unset fUnset) = (.ok (), clientlogic) := by
  have hnew : ¬ (CStunClientLogic.new unset fUnset).fInitialized = true := Bool.false_ne_true
  have hzero : ¬ config.addrServer.isIPAddressZero = true := by
    rw [hserver]
    decide
  unfold CStunClientLogic.initializeClient
  rw [Proc.exec_bind_ok (Proc.exec_get _), Proc.exec_bind_ok (exec_chkIf_false hnew ..),
    Proc.exec_bind_ok (exec_chkIf_false hzero ..), Proc.exec_bind_ok (exec_chkIf_false h.port ..)]
  exact ⟨_, rfl⟩

/-- For every configuration that the command line gives for TCP and whatever the host answers:
`GetNextMessage` never says that it is still waiting if and only if the clock is late enough in
every turn, and then, when no call of the host fails, the loop prints the results of a finished
client, after a turn for every test and one more at most. -/
theorem tcp_waits_iff {host : Host} {args : ClientCmdLineArgs}
    (hconfig : createConfigFromCommandLine host args = .ok (config, socketconfig))
    (htcp : toLower args.strProtocol = "tcp") (inet_ntop : AddressFamily → Bytes → String)
    (unset : StunClientLogicConfig) (fUnset : Bool) (rounds : List TcpRound) :
    let progress := tcpClientLoop inet_ntop config socketconfig unset fUnset rounds
    let keeps := LoopKeepsThreeSeconds inet_ntop config socketconfig unset fUnset rounds
    (progress ≠ .exited (.getNextMessageFailed E_STUNCLIENT_STILL_WAITING) ↔ keeps) ∧
    (keeps → config.addrServer.isIPAddressZero = false → (∀ round ∈ rounds, Works socketconfig round) →
      (CStunClientLogic.testClasses config).length < rounds.length →
      ∃ l, (client config).Reachable l ∧ l.current = none ∧
        progress = .exited (.ready (dumpResults inet_ntop config l.results))) := by
  intro progress keeps
  obtain ⟨h, -⟩ := createConfig_tcp hconfig htcp
  constructor
  · change tcpClientLoop inet_ntop config socketconfig unset fUnset rounds ≠ _ ↔ _
    unfold tcpClientLoop
    cases hinit : Proc.exec (CStunClientLogic.initializeClient config) (CStunClientLogic.new unset fUnset) with
    | mk outcome clientlogic =>
      cases outcome with
      | error hr =>
        constructor
        · intro _ clientlogic' hinit'
          cases hinit.symm.trans hinit'
        · intro _
          simp
      | ok _ =>
        simp only
        rw [turns_waiting_iff h (tcpInv_start ⟨unset, fUnset, hinit⟩)]
        constructor
        · intro hkeeps clientlogic' hinit'
          cases hinit.symm.trans hinit'
          exact hkeeps
        · intro hkeeps
          exact hkeeps clientlogic hinit
  · intro hkeeps hserver hworks henough
    obtain ⟨clientlogic, hinit⟩ := initialize_accepts h hserver unset fUnset
    have hinv := tcpInv_start ⟨unset, fUnset, hinit⟩
    have hprogress : progress = (TcpClient.start clientlogic).turns inet_ntop config socketconfig rounds := by
      change tcpClientLoop inet_ntop config socketconfig unset fUnset rounds = _
      rw [tcpClientLoop, hinit]
    rw [hprogress]
    exact turns_ready h hinv hworks (hkeeps clientlogic hinit) (.inl henough)

end Timer

/-! ## A response that completes nothing -/

/-- A resolver that finds 0.0.0.1. -/
def tcpHost : Host where
  getaddrinfo := fun _ _ => .ok [CSocketAddress.ofIp4 1 0]
  getifaddrs := .ok []
  inet_pton := fun _ _ => none

/-- `stunclient --protocol TCP server` -/
def tcpArgs : ClientCmdLineArgs where
  strRemoteServer := "server"
  strRemotePort := ""
  strLocalAddr := ""
  strLocalPort := ""
  strMode := ""
  strFamily := ""
  strProtocol := "TCP"

theorem tcpArgs_config [Platform] : createConfigFromCommandLine tcpHost tcpArgs = .ok (bindingConfig, tcpSocket) := by
  rfl

/-- Twenty octets that are no header. -/
def noHeader : Bytes := List.replicate 20 0xff

/-- The loop ended because the client was still waiting. -/
def endedWaiting : TcpProgress → Bool
  | .exited (.getNextMessageFailed hrRet) => hrRet = E_STUNCLIENT_STILL_WAITING
  | _ => false

theorem endedWaiting_iff {progress : TcpProgress} :
    endedWaiting progress = true ↔ progress = .exited (.getNextMessageFailed E_STUNCLIENT_STILL_WAITING) := by
  unfold endedWaiting
  split
  · simp
  next hother =>
    constructor
    · intro hfalse
      cases hfalse
    · intro hsame
      exact absurd hsame (hother _)

set_option maxRecDepth 30000 in
/-- The server answers with no header, and the next turn comes a second after the request. -/
theorem tcp_waits_malformed :
    let _ := Platform.armeabi
    ∃ host args config socketconfig inet_ntop unset fUnset rounds,
      createConfigFromCommandLine host args = .ok (config, socketconfig) ∧ toLower args.strProtocol = "tcp" ∧
      config.addrServer.isIPAddressZero = false ∧ (∀ round ∈ rounds, Works socketconfig round) ∧
      (CStunClientLogic.testClasses config).length < rounds.length ∧
      tcpClientLoop inet_ntop config socketconfig unset fUnset rounds =
        .exited (.getNextMessageFailed E_STUNCLIENT_STILL_WAITING) := by
  intro platform
  refine ⟨tcpHost, tcpArgs, bindingConfig, tcpSocket, fun _ _ => "", bindingConfig, false,
    [workingRound 5 noHeader, workingRound 1005 noHeader], tcpArgs_config, by decide, by decide, ?_, by decide,
    endedWaiting_iff.mp (by decide)⟩
  intro round hmem
  rcases List.mem_cons.mp hmem with rfl | hmem
  · exact workingRound_works tcpSocket 5 noHeader
  · obtain rfl := List.mem_singleton.mp hmem
    exact workingRound_works tcpSocket 1005 noHeader

set_option maxRecDepth 30000 in
/-- The same response, and a next turn three seconds after the request: the results are printed. -/
theorem tcp_waits_iff_threeSeconds :
    let _ := Platform.armeabi
    ∃ l, (client bindingConfig).Reachable l ∧
      tcpClientLoop (fun _ _ => "") bindingConfig tcpSocket bindingConfig false
        [workingRound 5 noHeader, workingRound 3005 noHeader] =
          .exited (.ready (dumpResults (fun _ _ => "") bindingConfig l.results)) := by
  intro platform
  obtain ⟨hwaits, hready⟩ := tcp_waits_iff tcpArgs_config (by decide) (fun _ _ => "") bindingConfig false
    [workingRound 5 noHeader, workingRound 3005 noHeader]
  have hnot : endedWaiting (tcpClientLoop (fun _ _ => "") bindingConfig tcpSocket bindingConfig false
      [workingRound 5 noHeader, workingRound 3005 noHeader]) = false := by decide
  have hkeeps := hwaits.mp fun hsame => by
    rw [endedWaiting_iff.mpr hsame] at hnot
    cases hnot
  have hworks : ∀ round ∈ [workingRound 5 noHeader, workingRound 3005 noHeader], Works tcpSocket round := by
    intro round hmem
    rcases List.mem_cons.mp hmem with rfl | hmem
    · exact workingRound_works tcpSocket 5 noHeader
    · obtain rfl := List.mem_singleton.mp hmem
      exact workingRound_works tcpSocket 3005 noHeader
  obtain ⟨l, hreach, -, hprogress⟩ := hready hkeeps (by decide) hworks (by decide)
  exact ⟨l, hreach, hprogress⟩

end NatTester.Guarantees
