import NatTester.Source.ClientMain
import NatTester.Source.CommandLine
import NatTester.Source.StunClientLogic

/-!
# TcpClientLoop

`TcpClientLoop` of `clientmain.cpp`: a new connection for every message of the
client. What the host answers is an input of the loop. A failed call of the host
has an error code that is a failure, so it always leads to `Cleanup`; the codes
and what is logged on the way are left out.
-/
namespace NatTester.Source
open NatTester.Lib

/-- A call of `recv` that asks for a number of bytes: `none` is -1, and no bytes say
that the peer has closed. -/
structure RecvCall where
  recv : Nat → Option Bytes
  length_le : ∀ readsize bs, recv readsize = some bs → bs.length ≤ readsize

/-- What the host answers in one turn of the loop. `connect` is false where it returns
-1, and so is `none` for a `send`. -/
structure TcpRound where
  tcpInit : CSocketAddress → HRESULT
  source : RandomSource
  time : UInt32
  connect : CSocketAddress → Bool
  sends : List (Bytes → Option Nat)
  recvs : List RecvCall
  addrLocal : CSocketAddress

/-- How a loop over calls on the socket ends; it is blocked while a call has not returned. -/
inductive SocketLoop (α : Type) where
  | left (a : α)
  | failed
  | blocked

/-! ## Sending the request -/

/-- `while (bytes_sent < bytes_to_send)` -/
def sendLoop (pData : Bytes) : Nat → List (Bytes → Option Nat) → SocketLoop Unit
  | bytes_sent, [] => if bytes_sent < pData.length then .blocked else .left ()
  | bytes_sent, send :: sends =>
    if bytes_sent < pData.length then
      match send (pData.drop bytes_sent) with
      | none => .failed
      | some ret => sendLoop pData (bytes_sent + ret) sends
    else .left ()

/-! ## Consuming the response -/

/-- Why the loop that consumes the response is left; the last two are asserted not to happen. -/
inductive RecvEnd where
  | noneRemaining | noneNeeded | neededExceedsRemaining | closed
  deriving DecidableEq, Repr

structure Receiving where
  spMsg : CBuffer
  reader : CStunMessageReader
  bytes_recv : Nat
  remaining : Nat

namespace Receiving

/-- In front of the loop: the request is still in the buffer. -/
def start (spMsg spMsgReader : CBuffer) (reader : CStunMessageReader) : Receiving where
  spMsg
  reader := reader.reset.attach spMsgReader
  bytes_recv := 0
  remaining := spMsg.allocatedSize

/-- The number of bytes to ask for, or the end of the loop. -/
def readsize (s : Receiving) : Except RecvEnd Nat :=
  let readsize := s.reader.howManyBytesNeeded.toNat
  if s.remaining = 0 then .error .noneRemaining
  else if readsize = 0 then .error .noneNeeded
  else if readsize > s.remaining then .error .neededExceedsRemaining
  else .ok readsize

/-- What follows a `recv` that has put bytes behind those already there. -/
def take [Platform] (max_bytes_recv : Nat) (bs : Bytes) (s : Receiving) : Receiving :=
  let bytes_recv := s.bytes_recv + bs.length
  { spMsg := ((s.spMsg.store s.bytes_recv bs).setSize bytes_recv).2
    reader := (CStunMessageReader.addBytes bs s.reader).2
    bytes_recv
    remaining := max_bytes_recv - bytes_recv }

end Receiving

/-- `while (remaining > 0)` -/
def recvLoop [Platform] (max_bytes_recv : Nat) : List RecvCall → Receiving → SocketLoop (RecvEnd × Receiving)
  | recvs, s =>
    match s.readsize, recvs with
    | .error recvEnd, _ => .left (recvEnd, s)
    | .ok _, [] => .blocked
    | .ok readsize, call :: recvs =>
      match call.recv readsize with
      | none => .failed
      | some bs =>
        if bs.length = 0 then .left (.closed, s) else recvLoop max_bytes_recv recvs (s.take max_bytes_recv bs)

/-! ## The loop -/

/-- What the loop keeps from one turn to the next. -/
structure TcpClient where
  clientlogic : CStunClientLogic
  spMsg : CBuffer
  spMsgReader : CBuffer
  reader : CStunMessageReader

/-- How `TcpClientLoop` returns. `ready` comes with what `DumpResults` prints. -/
inductive TcpExit where
  | initializeFailed (hr : HRESULT)
  | tcpInitFailed (hr : HRESULT)
  | getNextMessageFailed (hrRet : HRESULT)
  | connectFailed | sendFailed | recvFailed
  | ready (printed : List LogMsg)

/-- Where the loop is after some turns. -/
inductive TcpProgress where
  | looping (client : TcpClient)
  | blocked
  | exited (tcpExit : TcpExit)

namespace TcpClient

/-- `results.Init()`, then `GetResults(&results)`. -/
def results (clientlogic : CStunClientLogic) : StunClientResults :=
  match (Proc.exec CStunClientLogic.getResults clientlogic).1 with
  | .ok results => results
  | .error _ => StunClientResults.init

variable [Platform]

def start (clientlogic : CStunClientLogic) : TcpClient where
  clientlogic
  spMsg := CBuffer.initWithAllocation 1500
  spMsgReader := CBuffer.initWithAllocation 1500
  reader := CStunMessageReader.new

/-- The request goes out on a connection, and what comes back is handed to the client. -/
def exchange (round : TcpRound) (outgoing : Outgoing) (c : TcpClient) : TcpProgress :=
  if round.connect outgoing.addrDest = false then .exited .connectFailed
  else
    match sendLoop outgoing.spMsg.contents 0 round.sends with
    | .failed => .exited .sendFailed
    | .blocked => .blocked
    | .left _ =>
      match recvLoop outgoing.spMsg.allocatedSize round.recvs
          (Receiving.start outgoing.spMsg c.spMsgReader c.reader) with
      | .failed => .exited .recvFailed
      | .blocked => .blocked
      | .left (_, received) =>
        .looping
          { clientlogic := (Proc.exec (CStunClientLogic.processResponse received.spMsg outgoing.addrDest
              round.addrLocal) c.clientlogic).2
            spMsg := received.spMsg
            spMsgReader := received.reader.stream.sharedBuffer.getD c.spMsgReader
            reader := received.reader }

/-- One turn of the loop. -/
def turn (inet_ntop : AddressFamily → Bytes → String) (config : StunClientLogicConfig)
    (socketconfig : ClientSocketConfig) (round : TcpRound) (c : TcpClient) : TcpProgress :=
  let hr := round.tcpInit socketconfig.addrLocal
  if FAILED hr then .exited (.tcpInitFailed hr)
  else
    match Proc.exec (CStunClientLogic.getNextMessage round.source c.spMsg round.time) c.clientlogic with
    | (.error hrRet, clientlogic) =>
      if hrRet = E_STUNCLIENT_RESULTS_READY then .exited (.ready (dumpResults inet_ntop config (results clientlogic)))
      else .exited (.getNextMessageFailed hrRet)
    | (.ok outgoing, clientlogic) => exchange round outgoing { c with clientlogic }

/-- `while (true)` -/
def turns (inet_ntop : AddressFamily → Bytes → String) (config : StunClientLogicConfig)
    (socketconfig : ClientSocketConfig) : List TcpRound → TcpClient → TcpProgress
  | [], c => .looping c
  | round :: rounds, c =>
    match c.turn inet_ntop config socketconfig round with
    | .looping c => turns inet_ntop config socketconfig rounds c
    | .blocked => .blocked
    | .exited tcpExit => .exited tcpExit

end TcpClient

/-- `TcpClientLoop(config, socketconfig)`, on a `CStunClientLogic` whose unset members are `unset`
and `fUnset`. -/
def tcpClientLoop [Platform] (inet_ntop : AddressFamily → Bytes → String) (config : StunClientLogicConfig)
    (socketconfig : ClientSocketConfig) (unset : StunClientLogicConfig) (fUnset : Bool) (rounds : List TcpRound) :
    TcpProgress :=
  match Proc.exec (CStunClientLogic.initializeClient config) (CStunClientLogic.new unset fUnset) with
  | (.error hr, _) => .exited (.initializeFailed hr)
  | (.ok _, clientlogic) => (TcpClient.start clientlogic).turns inet_ntop config socketconfig rounds

end NatTester.Source
