import NatTester.Source.RecvFromEx
import NatTester.Source.TcpClientLoop

/-!
# UdpClientLoop

`UdpClientLoop` of `clientmain.cpp`: one socket, and in every turn a message of the
client, if it has one, and a wait for a datagram. What the host answers is an
input of the loop. `EnablePktInfoOption` and `sendto` may fail without a
consequence; what they return is left out, and so is what is logged.
-/
namespace NatTester.Source
open NatTester.Lib

/-- What the host answers in one turn of the loop. `select` is given the seconds and the
microseconds of its timeout. -/
structure UdpRound where
  source : RandomSource
  time : UInt32
  select : UInt32 → UInt32 → Int
  recvmsg : Option Msghdr
  getsockname : Option CSocketAddress

/-- What the loop keeps from one turn to the next, with what it has handed to `sendto`, the
last message first. -/
structure UdpClient where
  clientlogic : CStunClientLogic
  spMsg : CBuffer
  sent : List (UInt32 × Outgoing)

/-- How `UdpClientLoop` returns. -/
inductive UdpExit where
  | initializeFailed (hr : HRESULT)
  | udpInitFailed (hr : HRESULT)
  | getNextMessageFailed (hrRet : HRESULT)
  | ready (printed : List LogMsg)

/-- Where the loop is after some turns. -/
inductive UdpProgress where
  | looping (client : UdpClient)
  | exited (udpExit : UdpExit)

namespace UdpRound

/-- The datagram of a turn: `select` announces it and `recvfromex` returns it. -/
def incoming (config : StunClientLogicConfig) (len : Nat) (round : UdpRound) : Option Incoming :=
  if round.select config.timeoutSeconds 500000 > 0 then recvfromex len round.recvmsg round.getsockname else none

end UdpRound

namespace UdpClient
variable [Platform]

def start (clientlogic : CStunClientLogic) : UdpClient where
  clientlogic
  spMsg := CBuffer.initWithAllocation MAX_STUN_MESSAGE_SIZE
  sent := []

/-- The second half of a turn: a datagram, if one comes, is handed to the client. -/
def receive (config : StunClientLogicConfig) (round : UdpRound) (c : UdpClient) : UdpClient :=
  let spMsg := (c.spMsg.setSize 0).2
  match round.incoming config spMsg.allocatedSize with
  | none => { c with spMsg }
  | some incoming =>
    let spMsg := ((spMsg.store 0 incoming.buf).setSize incoming.buf.length).2
    { c with
      clientlogic :=
        (Proc.exec (CStunClientLogic.processResponse spMsg incoming.srcAddr incoming.dstAddr) c.clientlogic).2
      spMsg }

/-- One turn of the loop. -/
def turn (inet_ntop : AddressFamily → Bytes → String) (config : StunClientLogicConfig) (round : UdpRound)
    (c : UdpClient) : UdpProgress :=
  let spMsg := (c.spMsg.setSize 0).2
  match Proc.exec (CStunClientLogic.getNextMessage round.source spMsg round.time) c.clientlogic with
  | (.ok outgoing, clientlogic) =>
    .looping (receive config round ⟨clientlogic, outgoing.spMsg, (round.time, outgoing) :: c.sent⟩)
  | (.error hrRet, clientlogic) =>
    if hrRet = E_STUNCLIENT_STILL_WAITING then .looping (receive config round { c with clientlogic, spMsg })
    else if hrRet = E_STUNCLIENT_RESULTS_READY then
      .exited (.ready (dumpResults inet_ntop config (TcpClient.results clientlogic)))
    else .exited (.getNextMessageFailed hrRet)

/-- `while (true)` -/
def turns (inet_ntop : AddressFamily → Bytes → String) (config : StunClientLogicConfig) :
    List UdpRound → UdpClient → UdpProgress
  | [], c => .looping c
  | round :: rounds, c =>
    match c.turn inet_ntop config round with
    | .looping c => turns inet_ntop config rounds c
    | .exited udpExit => .exited udpExit

end UdpClient

/-- `UdpClientLoop(config, socketconfig)`, on a `CStunClientLogic` whose unset members are `unset`
and `fUnset`. -/
def udpClientLoop [Platform] (inet_ntop : AddressFamily → Bytes → String) (config : StunClientLogicConfig)
    (socketconfig : ClientSocketConfig) (udpInit : CSocketAddress → HRESULT) (unset : StunClientLogicConfig)
    (fUnset : Bool) (rounds : List UdpRound) : UdpProgress :=
  match Proc.exec (CStunClientLogic.initializeClient config) (CStunClientLogic.new unset fUnset) with
  | (.error hr, _) => .exited (.initializeFailed hr)
  | (.ok _, clientlogic) =>
    let hr := udpInit socketconfig.addrLocal
    if FAILED hr then .exited (.udpInitFailed hr)
    else (UdpClient.start clientlogic).turns inet_ntop config rounds

end NatTester.Source
