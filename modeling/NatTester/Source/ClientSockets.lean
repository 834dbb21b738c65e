import NatTester.Source.StunSocket
import NatTester.Source.UdpClientLoop

/-!
# The client loops on their sockets

`TcpClientLoop` and `UdpClientLoop` of `clientmain.cpp` with the `CStunSocket` each
of them has as a local variable, in a process with a table of descriptors. The
variable is destroyed when the function returns, wherever it does. `TcpClientLoop`
closes it in front of every turn and once more before it prints its report.
-/
namespace NatTester.Source
open NatTester.Lib

/-- What the host answers in one turn of `TcpClientLoop`. -/
structure TcpSocketRound where
  init : InitAnswers
  source : RandomSource
  time : UInt32
  connect : CSocketAddress → Bool
  sends : List (Bytes → Option Nat)
  recvs : List RecvCall
  names : SocketNames

/-- The turn as the loop sees it: `TCPInit` has returned `hr`, and `GetLocalAddress` returns `addrLocal`. -/
def TcpSocketRound.seen (hr : HRESULT) (addrLocal : CSocketAddress) (round : TcpSocketRound) : TcpRound where
  tcpInit := fun _ => hr
  source := round.source
  time := round.time
  connect := round.connect
  sends := round.sends
  recvs := round.recvs
  addrLocal

/-- A loop that has not returned has its socket, one that has returned has destroyed it. -/
inductive OnSocket (running exit : Type) where
  | running (state : running) (stunsocket : CStunSocket) (descriptors : Descriptors)
  | exited (exit : exit) (descriptors : Descriptors)

section Loops
variable [Platform] (inet_ntop : AddressFamily → Bytes → String) (config : StunClientLogicConfig)
  (socketconfig : ClientSocketConfig)

/-- `stunsocket.Close()` and `stunsocket.TCPInit(...)`, in front of a turn. -/
def reopen (round : TcpSocketRound) (s : CStunSocket) (d : Descriptors) : HRESULT × CStunSocket × Descriptors :=
  (s.close d).1.tcpInit .rolePP true round.init (s.close d).2

/-- One turn of the loop of `TcpClientLoop`; it has no next turn (`none`) while a call is blocked. -/
def tcpTurn (round : TcpSocketRound) (c : TcpClient) (s : CStunSocket) (d : Descriptors) :
    OnSocket (Option TcpClient) TcpExit :=
  let (hr, s, d) := reopen round s d
  let updated := s.updateAddresses round.names
  match c.turn inet_ntop config socketconfig (round.seen hr updated.addrlocal) with
  | .looping c => .running (some c) updated d
  | .blocked => .running none s d
  | .exited (.ready printed) =>
    let (s, d) := s.close d
    .exited (.ready printed) (s.close d).2
  | .exited tcpExit => .exited tcpExit (s.close d).2

/-- `while (true)` -/
def tcpTurns :
    List TcpSocketRound → TcpClient → CStunSocket → Descriptors → OnSocket (Option TcpClient) TcpExit
  | [], c, s, d => .running (some c) s d
  | round :: rounds, c, s, d =>
    match tcpTurn inet_ntop config socketconfig round c s d with
    | .running (some c) s d => tcpTurns rounds c s d
    | .running none s d => .running none s d
    | .exited tcpExit d => .exited tcpExit d

/-- `TcpClientLoop(config, socketconfig)` -/
def tcpClientLoopOn (unset : StunClientLogicConfig) (fUnset : Bool) (rounds : List TcpSocketRound) (d : Descriptors) :
    OnSocket (Option TcpClient) TcpExit :=
  let stunsocket := CStunSocket.new
  match Proc.exec (CStunClientLogic.initializeClient config) (CStunClientLogic.new unset fUnset) with
  | (.error hr, _) => .exited (.initializeFailed hr) (stunsocket.close d).2
  | (.ok _, clientlogic) => tcpTurns inet_ntop config socketconfig rounds (TcpClient.start clientlogic) stunsocket d

/-- `UdpClientLoop(config, socketconfig)` -/
def udpClientLoopOn (init : InitAnswers) (unset : StunClientLogicConfig) (fUnset : Bool) (rounds : List UdpRound)
    (d : Descriptors) : OnSocket UdpClient UdpExit :=
  let stunSocket := CStunSocket.new
  match Proc.exec (CStunClientLogic.initializeClient config) (CStunClientLogic.new unset fUnset) with
  | (.error hr, _) => .exited (.initializeFailed hr) (stunSocket.close d).2
  | (.ok _, clientlogic) =>
    let (hr, s, d) := stunSocket.udpInit .rolePP init d
    if FAILED hr then .exited (.udpInitFailed hr) (s.close d).2
    else
      match (UdpClient.start clientlogic).turns inet_ntop config rounds with
      | .looping c => .running c s d
      | .exited udpExit => .exited udpExit (s.close d).2

end Loops

end NatTester.Source
