import NatTester.Source.ClientSockets

/-!
# The client loops give their descriptors back

However a client loop returns, the process has the descriptors open that it had
before, and `close` was only called for open ones; while it runs, there is at most
the one of its socket. The loop on its socket is the loop the host answers.
-/
namespace NatTester.Guarantees
open NatTester.Lib NatTester.Source

/-- What is open is what was open in front of the loop, and the descriptor of its socket. -/
def DescriptorsKept {running exit : Type} (d : Descriptors) : OnSocket running exit → Prop
  | .running _ s e => Descriptors.Conserves none s.sock d e
  | .exited _ e => e.table.Perm d.table ∧ e.misused = d.misused

/-- The outcome without the socket. -/
def tcpProgress : OnSocket (Option TcpClient) TcpExit → TcpProgress
  | .running (some c) _ _ => .looping c
  | .running none _ _ => .blocked
  | .exited tcpExit _ => .exited tcpExit

def udpProgress : OnSocket UdpClient UdpExit → UdpProgress
  | .running c _ _ => .looping c
  | .exited udpExit _ => .exited udpExit

/-- A turn as the loop without a socket sees it: `TCPInit` has returned what it makes of the answers of the host, and the
local address is the one that `UpdateAddresses` finds. -/
def seenRound (round : TcpSocketRound) (s : CStunSocket) (d : Descriptors) : TcpRound :=
  let (hr, s, _) := reopen round s d
  round.seen hr (s.updateAddresses round.names).addrlocal

section Seen
variable [Platform] (inet_ntop : AddressFamily → Bytes → String) (config : StunClientLogicConfig)
  (socketconfig : ClientSocketConfig)

/-- The turns that the loop takes, as it sees them without its socket. -/
def seenTurns : List TcpSocketRound → TcpClient → CStunSocket → Descriptors → List TcpRound
  | [], _, _, _ => []
  | round :: rounds, c, s, d =>
    seenRound round s d ::
      match tcpTurn inet_ntop config socketconfig round c s d with
      | .running (some c) s d => seenTurns rounds c s d
      | _ => []

def seenRounds (unset : StunClientLogicConfig) (fUnset : Bool) (rounds : List TcpSocketRound) (d : Descriptors) :
    List TcpRound :=
  match Proc.exec (CStunClientLogic.initializeClient config) (CStunClientLogic.new unset fUnset) with
  | (.error _, _) => []
  | (.ok _, clientlogic) =>
    seenTurns inet_ntop config socketconfig rounds (TcpClient.start clientlogic) CStunSocket.new d

end Seen

section Loops
variable [Platform] {inet_ntop : AddressFamily → Bytes → String} {config : StunClientLogicConfig}
  {socketconfig : ClientSocketConfig} {d e : Descriptors} {s : CStunSocket} {c : TcpClient}

omit [Platform] in
/-- The destructor. -/
theorem destroyed (h : Descriptors.Conserves none s.sock d e) : Descriptors.Conserves none none d (s.close e).2 := by
  apply h.trans
  apply CStunSocket.close_conserves
  intro fd hfd
  rw [hfd] at h
  exact h.mem

omit [Platform] in
theorem initialized_socket (h : Descriptors.Conserves none s.sock d e) (role : SocketRole) (fSetReuseFlag : Bool)
    (answers : InitAnswers) :
    Descriptors.Conserves none (s.initCommon role fSetReuseFlag answers e).2.1.sock d
      (s.initCommon role fSetReuseFlag answers e).2.2 := by
  apply h.trans
  apply CStunSocket.initCommon_conserves
  intro fd hfd
  rw [hfd] at h
  exact h.mem

omit [Platform] in
theorem reopened (h : Descriptors.Conserves none s.sock d e) (round : TcpSocketRound) :
    Descriptors.Conserves none (reopen round s e).2.1.sock d (reopen round s e).2.2 := by
  apply initialized_socket
  rw [CStunSocket.close_sock]
  exact destroyed h

omit [Platform] in
theorem exited_kept {running exit : Type} (outcome : exit) (h : Descriptors.Conserves none none d e) :
    DescriptorsKept d (OnSocket.exited outcome e : OnSocket running exit) :=
  ⟨h.perm, h.misused⟩

/-- A turn accounts for its descriptors, and is the turn of the loop without a socket. -/
theorem tcpTurn_spec (inet_ntop : AddressFamily → Bytes → String) (config : StunClientLogicConfig)
    (socketconfig : ClientSocketConfig) (h : Descriptors.Conserves none s.sock d e) (round : TcpSocketRound) (c : TcpClient) :
    DescriptorsKept d (tcpTurn inet_ntop config socketconfig round c s e) ∧
      c.turn inet_ntop config socketconfig (seenRound round s e) =
        tcpProgress (tcpTurn inet_ntop config socketconfig round c s e) := by
  have hopen := reopened h round
  unfold tcpTurn seenRound
  generalize reopen round s e = opened at hopen
  obtain ⟨hr, t, f⟩ := opened
  simp only at hopen ⊢
  constructor
  · split
    · change Descriptors.Conserves none (t.updateAddresses round.names).sock d f
      rw [CStunSocket.updateAddresses_sock]
      exact hopen
    · exact hopen
    · -- the report comes behind a `Close`, and the destructor finds nothing to close
      apply exited_kept
      apply destroyed
      rw [CStunSocket.close_sock]
      exact destroyed hopen
    · exact exited_kept _ (destroyed hopen)
  · split
    next hturn => exact hturn
    next hturn => exact hturn
    next hturn => exact hturn
    next hturn => exact hturn

theorem tcpTurns_spec (inet_ntop : AddressFamily → Bytes → String) (config : StunClientLogicConfig)
    (socketconfig : ClientSocketConfig) (rounds : List TcpSocketRound) (c : TcpClient)
    (h : Descriptors.Conserves none s.sock d e) :
    DescriptorsKept d (tcpTurns inet_ntop config socketconfig rounds c s e) ∧
      c.turns inet_ntop config socketconfig (seenTurns inet_ntop config socketconfig rounds c s e) =
        tcpProgress (tcpTurns inet_ntop config socketconfig rounds c s e) := by
  induction rounds generalizing c s e with
  | nil => exact ⟨h, rfl⟩
  | cons round rounds ih =>
    obtain ⟨hkept, hturn⟩ := tcpTurn_spec inet_ntop config socketconfig h round c
    rw [tcpTurns, seenTurns, TcpClient.turns, hturn]
    cases hprogress : tcpTurn inet_ntop config socketconfig round c s e with
    | running state t f =>
      rw [hprogress] at hkept
      cases state with
      | some c' => exact ih c' hkept
      | none => exact ⟨hkept, rfl⟩
    | exited tcpExit f =>
      rw [hprogress] at hkept
      exact ⟨hkept, rfl⟩

/-- Whatever the configuration, the host and the process: the loop over connections, on its socket,
does what the loop without it does where `TCPInit` returns what it makes of the same answers; when it
returns, on whichever path, exactly the descriptors of before are open and no other was ever closed,
and until then there is at most the one of its socket. -/
theorem tcp_loop_returns_descriptors (inet_ntop : AddressFamily → Bytes → String) (config : StunClientLogicConfig)
    (socketconfig : ClientSocketConfig) (unset : StunClientLogicConfig) (fUnset : Bool) (rounds : List TcpSocketRound)
    (d : Descriptors) :
    DescriptorsKept d (tcpClientLoopOn inet_ntop config socketconfig unset fUnset rounds d) ∧
      tcpClientLoop inet_ntop config socketconfig unset fUnset
          (seenRounds inet_ntop config socketconfig unset fUnset rounds d) =
        tcpProgress (tcpClientLoopOn inet_ntop config socketconfig unset fUnset rounds d) := by
  unfold tcpClientLoopOn tcpClientLoop seenRounds
  cases Proc.exec (CStunClientLogic.initializeClient config) (CStunClientLogic.new unset fUnset) with
  | mk outcome clientlogic =>
    cases outcome with
    | error hr => exact ⟨exited_kept _ (destroyed (.refl none d)), rfl⟩
    | ok _ => exact tcpTurns_spec inet_ntop config socketconfig rounds (TcpClient.start clientlogic) (.refl none d)

/-- The same for the loop over datagrams, which opens its socket once: `UDPInit` returns what it makes
of the answers of the host. -/
theorem udp_loop_returns_descriptors (inet_ntop : AddressFamily → Bytes → String) (config : StunClientLogicConfig)
    (socketconfig : ClientSocketConfig) (init : InitAnswers) (unset : StunClientLogicConfig) (fUnset : Bool)
    (rounds : List UdpRound) (d : Descriptors) :
    DescriptorsKept d (udpClientLoopOn inet_ntop config init unset fUnset rounds d) ∧
      udpClientLoop inet_ntop config socketconfig (fun _ => (CStunSocket.new.udpInit .rolePP init d).1) unset fUnset rounds =
        udpProgress (udpClientLoopOn inet_ntop config init unset fUnset rounds d) := by
  have hopen := initialized_socket (.refl none d) .rolePP false init (s := CStunSocket.new)
  unfold udpClientLoopOn udpClientLoop
  cases Proc.exec (CStunClientLogic.initializeClient config) (CStunClientLogic.new unset fUnset) with
  | mk outcome clientlogic =>
    cases outcome with
    | error hr => exact ⟨exited_kept _ (destroyed (.refl none d)), rfl⟩
    | ok _ =>
      change Descriptors.Conserves none (CStunSocket.new.udpInit .rolePP init d).2.1.sock d
        (CStunSocket.new.udpInit .rolePP init d).2.2 at hopen
      simp only
      split
      · exact ⟨exited_kept _ (destroyed hopen), rfl⟩
      · cases (UdpClient.start clientlogic).turns inet_ntop config rounds with
        | looping c => exact ⟨hopen, rfl⟩
        | exited udpExit => exact ⟨exited_kept _ (destroyed hopen), rfl⟩

end Loops

end NatTester.Guarantees
