import NatTester.Source.SocketAddress

/-!
# recvfromex

`recvfromex.cpp`: a datagram, who sent it, and the local address it was sent to.
The host attaches the local address as a control message; the port is asked of
the socket. `IP_RECVDSTADDR` exists on other platforms and is left out, and so is
a sender that is neither IPv4 nor IPv6.
-/
namespace NatTester.Source
open NatTester.Lib

/-- A control message: `IPV6_PKTINFO` or `IP_PKTINFO` with the address it carries, or another one. -/
inductive ControlMessage where
  | pktinfo (family : AddressFamily) (ip : Bytes) (ip_length : ip.length = family.ipLength)
  | other (cmsg_level cmsg_type : Int)

/-- What `recvmsg` takes off the socket. -/
structure Msghdr where
  payload : Bytes
  msg_name : CSocketAddress
  msg_control : List ControlMessage

/-- What `recvfromex` returns where `ret > 0`. -/
structure Incoming where
  buf : Bytes
  srcAddr : CSocketAddress
  dstAddr : CSocketAddress
  deriving DecidableEq, Repr

/-- `GetLocalPortNumberFromSocket`; `none` where `getsockname` fails. -/
def getLocalPortNumberFromSocket (getsockname : Option CSocketAddress) (addr : CSocketAddress) : CSocketAddress :=
  match getsockname with
  | none => addr
  | some addrSocket => addr.setPort addrSocket.getPort

/-- `InitSocketAddress` -/
def initSocketAddress (family : AddressFamily) : CSocketAddress :=
  ⟨family, List.replicate family.ipLength 0, 0, List.length_replicate⟩

/-- The loop over the control messages, up to the first that carries an address. -/
def localAddress (getsockname : Option CSocketAddress) (addr : CSocketAddress) : List ControlMessage → CSocketAddress
  | [] => addr
  | .pktinfo family ip ip_length :: _ => getLocalPortNumberFromSocket getsockname ⟨family, ip, 0, ip_length⟩
  | .other _ _ :: msg_control => localAddress getsockname addr msg_control

/-- `recvfromex(sockfd, buf, len, ...)` on what `recvmsg` finds; what does not fit is cut off. `none`
where `ret` is not positive. -/
def recvfromex (len : Nat) (recvmsg : Option Msghdr) (getsockname : Option CSocketAddress) : Option Incoming :=
  match recvmsg with
  | none => none
  | some msghdr =>
    let buf := msghdr.payload.take len
    if 0 < buf.length then
      some
        { buf
          srcAddr := msghdr.msg_name
          dstAddr := localAddress getsockname (initSocketAddress msghdr.msg_name.family) msghdr.msg_control }
    else none

theorem recvfromex_some {len : Nat} {recvmsg : Option Msghdr} {getsockname : Option CSocketAddress} {incoming : Incoming}
    (h : recvfromex len recvmsg getsockname = some incoming) : incoming.buf ≠ [] ∧ incoming.buf.length ≤ len := by
  unfold recvfromex at h
  split at h
  · cases h
  · simp only at h
    split at h
    next hpos =>
      cases h
      exact ⟨List.length_pos_iff.mp hpos, List.length_take_le ..⟩
    · cases h

end NatTester.Source
