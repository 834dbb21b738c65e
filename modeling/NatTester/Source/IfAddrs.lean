import NatTester.Lib.Heap
import NatTester.Source.CommandLine

/-!
# The list of the interfaces

`ifaddrs.c` with what it uses of `ifc_utils.c`, and `GetSocketAddressForAdapter` of
`adapters.cpp` on the list it makes in memory. What `malloc` finds and what the other
calls of the host return are arguments, a failure by its `errno`. An address in a
`sockaddr_in` is written as its number.
-/
namespace NatTester.Source
open NatTester.Lib

/-- `sockaddr_in`, whose port nobody sets, and `sockaddr_ll`. -/
inductive SockAddr where
  | inet (s_addr : UInt32) (sin_port : UInt16)
  | packet (sll_addr : Bytes)

/-- `struct ifaddrs`, with its pointers. -/
structure IfAddrs where
  ifa_next : Option Nat
  ifa_name : Option Nat
  ifa_flags : UInt32
  ifa_addr : Option Nat
  ifa_netmask : Option Nat

inductive IfBlock where
  | ifaddrs (ifa : IfAddrs)
  | name (text : String)
  | sockaddr (addr : SockAddr)

/-- Members of a struct are set. -/
def IfBlock.set (f : IfAddrs → IfAddrs) : IfBlock → IfBlock
  | .ifaddrs a => .ifaddrs (f a)
  | block => block

/-- The heap, and what the next calls of `malloc` find: no memory, or a block with something in the place of a port. -/
structure IfMemory where
  heap : Heap IfBlock
  mallocs : List (Option UInt16)

namespace IfMemory

def malloc (content : UInt16 → IfBlock) (s : IfMemory) : Option Nat × IfMemory :=
  match s.mallocs with
  | none :: mallocs => (none, { s with mallocs })
  | some left :: mallocs => (some (s.heap.alloc (content left)).1, ⟨(s.heap.alloc (content left)).2, mallocs⟩)
  | [] => (some (s.heap.alloc (content 0)).1, ⟨(s.heap.alloc (content 0)).2, []⟩)

/-- Members of the struct at `ifa` are set. -/
def set (ifa : Nat) (f : IfAddrs → IfAddrs) (s : IfMemory) : IfMemory := { s with heap := s.heap.modify ifa (.set f) }

/-- `free`, which takes NULL. -/
def free (p : Option Nat) (s : IfMemory) : IfMemory :=
  match p with
  | none => s
  | some p => { s with heap := s.heap.free p }

end IfMemory

inductive IfFamily where
  | inet
  | packet
  deriving DecidableEq, Repr

/-- What the `ioctl` calls for an interface return, `none` where they fail. -/
structure InterfaceAnswers where
  addr : Option UInt32
  mask : Option UInt32
  flags : Option UInt32
  hwaddr : Option Bytes

/-- `malloc` under a condition. -/
def mallocIf (condition : Bool) (content : UInt16 → IfBlock) (s : IfMemory) : Option Nat × IfMemory :=
  if condition then s.malloc content else (none, s)

/-- `if (family == AF_INET) { .. }` -/
def setInetAddrs (ifa : Nat) (addr mask : UInt32) (s : IfMemory) : IfMemory :=
  let (saddr, s) := s.malloc fun sin_port => .sockaddr (.inet addr sin_port)
  let s := s.set ifa fun a => { a with ifa_addr := saddr }
  let (smask, s) := mallocIf (mask ≠ 0) (fun sin_port => .sockaddr (.inet mask sin_port)) s
  s.set ifa fun a => { a with ifa_netmask := smask }

/-- `else if (family == AF_PACKET) { .. }` -/
def setPacketAddr (ifa : Nat) (hwbuf : Option Bytes) (s : IfMemory) : IfMemory :=
  let (hwaddr, s) := mallocIf hwbuf.isSome (fun _ => .sockaddr (.packet (hwbuf.getD []))) s
  s.set ifa fun a => { a with ifa_addr := hwaddr, ifa_netmask := none }

/-- `get_interface`, with `ifc_get_info` and `ifc_get_hwaddr`. -/
def getInterface (name : String) (family : IfFamily) (answers : InterfaceAnswers) (s : IfMemory) :
    Option Nat × IfMemory :=
  let addr := answers.addr.getD 0
  let mask := answers.mask.getD 0
  let flags := answers.flags.getD 0
  if family = .inet ∧ addr = 0 then (none, s)
  else
    match s.malloc fun _ => .ifaddrs ⟨none, none, 0, none, none⟩ with
    | (none, s) => (none, s)
    | (some ifa, s) =>
      match s.malloc fun _ => .name name with
      | (none, s) => (none, s.free ifa)
      | (some ifa_name, s) =>
        let s := s.set ifa fun a => { a with ifa_name := some ifa_name, ifa_flags := flags }
        match family with
        | .inet => (some ifa, setInetAddrs ifa addr mask s)
        | .packet => (some ifa, setPacketAddr ifa answers.hwaddr s)

/-- An entry of `/sys/class/net`, with the answers for its two calls of `get_interface`. -/
structure NetEntry where
  d_name : String
  inet : InterfaceAnswers
  packet : InterfaceAnswers

/-- `if (ifa != NULL) { ifa->ifa_next = ifah; ifah = ifa; }` -/
def prepend (ifah : Option Nat) : Option Nat × IfMemory → Option Nat × IfMemory
  | (none, s) => (ifah, s)
  | (some ifa, s) => (some ifa, s.set ifa fun a => { a with ifa_next := ifah })

/-- The body of the loop of `getifaddrs`. -/
def listEntry (list : Option Nat × IfMemory) (de : NetEntry) : Option Nat × IfMemory :=
  if de.d_name.toList.head? = some '.' then list
  else
    let list := prepend list.1 (getInterface de.d_name .inet de.inet list.2)
    prepend list.1 (getInterface de.d_name .packet de.packet list.2)

/-- `freeifaddrs`, for a list of at most `n` entries. -/
def freeifaddrs : Nat → Option Nat → IfMemory → IfMemory
  | 0, _, s => s
  | _ + 1, none, s => s
  | n + 1, some ifa, s =>
    match s.heap.read ifa with
    | some (.ifaddrs a) =>
      let s := s.free a.ifa_name
      let s := s.free a.ifa_addr
      let s := s.free a.ifa_netmask
      freeifaddrs n a.ifa_next (s.free ifa)
    | _ => { s with heap := { s.heap with misused := true } }

/-- The process: its memory, its descriptors, and `ifc_ctl_sock` (`none` is -1). -/
structure IfProcess where
  memory : IfMemory
  ifc_ctl_sock : Option Nat
  descriptors : Descriptors

/-- What `getifaddrs` meets: the calls of `socket` and `opendir`, and the directory. -/
structure NetAnswers where
  socket : Option Int
  opendir : Option Int
  entries : List NetEntry

/-- `ifc_init` -/
def ifcInit (socket : Option Int) (s : IfProcess) : Except Int Unit × IfProcess :=
  match s.ifc_ctl_sock, socket with
  | some _, _ => (.ok (), s)
  | none, some errno => (.error errno, s)
  | none, none =>
    (.ok (), { s with ifc_ctl_sock := some s.descriptors.opened.1, descriptors := s.descriptors.opened.2 })

/-- `ifc_close` -/
def ifcClose (s : IfProcess) : IfProcess :=
  match s.ifc_ctl_sock with
  | none => s
  | some fd => { s with ifc_ctl_sock := none, descriptors := s.descriptors.closed fd }

/-- `getifaddrs`. The directory is read through a descriptor of its own. -/
def getifaddrs (answers : NetAnswers) (s : IfProcess) : Except Int (Option Nat) × IfProcess :=
  match ifcInit answers.socket s with
  | (.error errno, s) => (.error errno, s)
  | (.ok _, s) =>
    match answers.opendir with
    | some errno => (.error errno, s)
    | none =>
      let (d, descriptors) := s.descriptors.opened
      let (ifah, memory) := answers.entries.foldl listEntry (none, s.memory)
      (.ok ifah, ifcClose { s with memory, descriptors := descriptors.closed d })

/-! ## The adapter with an address -/

def nameAt (heap : Heap IfBlock) (p : Option Nat) : String :=
  match p.bind heap.read with
  | some (.name text) => text
  | _ => ""

/-- The address, if it is of a family `CSocketAddress` has. -/
def addressAt (heap : Heap IfBlock) (p : Option Nat) : Option CSocketAddress :=
  match p.bind heap.read with
  | some (.sockaddr (.inet s_addr sin_port)) => some (CSocketAddress.ofIp4 s_addr sin_port)
  | _ => none

/-- What the loops over `pAdapter->ifa_next` see, in a list of at most `n` entries. -/
def readAdapters (heap : Heap IfBlock) : Nat → Option Nat → List Adapter
  | n + 1, some ifa =>
    match heap.read ifa with
    | some (.ifaddrs a) => ⟨nameAt heap a.ifa_name, addressAt heap a.ifa_addr⟩ :: readAdapters heap n a.ifa_next
    | _ => []
  | _, _ => []

/-- A call of `GetSocketAddressForAdapter`, and what it meets. -/
structure AdapterCall where
  family : AddressFamily
  pszAdapterName : String
  port : UInt16
  answers : NetAnswers

/-- `GetSocketAddressForAdapter`, on the list in memory. -/
def getSocketAddressForAdapterOn (host : Host) (call : AdapterCall) (s : IfProcess) :
    Except HRESULT CSocketAddress × IfProcess :=
  if call.pszAdapterName = "" then (.error E_INVALIDARG, s)
  else
    match getifaddrs call.answers s with
    | (.error errno, s) => (.error (ERRNOHR errno), s)
    | (.ok pList, s) =>
      let n := s.memory.heap.blocks.length
      (getSocketAddressForAdapter { host with getifaddrs := .ok (readAdapters s.memory.heap n pList) } call.family
          call.pszAdapterName call.port,
        { s with memory := freeifaddrs n pList s.memory })

end NatTester.Source
