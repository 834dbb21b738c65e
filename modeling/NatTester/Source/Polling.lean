import NatTester.Source.FastHashDynamic
import NatTester.Source.HResult

/-!
# CPoll

`polling.cpp`. The descriptors of `poll` are in the vector `_fds`, and a hash
table keeps the position of each. What `poll` returns and what it writes into the
`revents` are arguments. A call may also stop where the source follows a pointer
that is NULL.
-/
namespace NatTester.Source
open NatTester.Lib

/-- `FastHash_Hash(signed int)`: the conversion to `size_t` extends the sign. -/
instance : FastHashKey Int32 := ⟨fun x => x.toInt64.toUInt64.toNat⟩

def IPOLLING_READ : UInt32 := 0x01
def IPOLLING_WRITE : UInt32 := 0x02
def IPOLLING_RDHUP : UInt32 := 0x08
def IPOLLING_HUP : UInt32 := 0x10
def IPOLLING_PRI : UInt32 := 0x20
def IPOLLING_ERROR : UInt32 := 0x40

/-- The `poll` flags of the platform; some have no `POLLRDHUP`. -/
class PollFlags where
  POLLIN : UInt32
  POLLOUT : UInt32
  POLLRDHUP : Option UInt32
  POLLHUP : UInt32
  POLLPRI : UInt32
  POLLERR : UInt32

/-- `poll.h` of Linux -/
@[reducible] def PollFlags.linux : PollFlags where
  POLLIN := 0x001
  POLLOUT := 0x004
  POLLRDHUP := some 0x2000
  POLLHUP := 0x010
  POLLPRI := 0x002
  POLLERR := 0x008

structure Pollfd where
  fd : Int32
  events : Int16
  revents : Int16
  deriving DecidableEq, Repr, Inhabited

structure PollEvent where
  fd : Int32
  eventflags : UInt32
  deriving DecidableEq, Repr, Inhabited

structure CPoll where
  fds : List Pollfd
  rotation : UInt32
  unreadcount : UInt32
  fInitialized : Bool
  hashtable : FastHashBase Int32 Nat

inductive PollStop where
  | code (hr : HRESULT)
  | nullPointer
  deriving DecidableEq, Repr

/-- What one call of `poll` does: its result, `errno`, and the `revents` it writes. -/
structure PollAnswer where
  ret : Int
  errno : Nat
  revents : Nat → Int16

namespace CPoll

abbrev Call (α : Type) := Proc PollStop CPoll α

/-- `ChkIf` and `ChkIfA` -/
def check {σ : Type} (cond : Prop) [Decidable cond] (hr : HRESULT) : Proc PollStop σ Unit :=
  if cond then throw (.code hr) else pure ()

/-- One line of a flag translation. -/
def flag (eventflags bit translated : UInt32) : UInt32 := if eventflags &&& bit ≠ 0 then translated else 0

def toNativeFlags [PollFlags] (eventflags : UInt32) : UInt32 :=
  flag eventflags IPOLLING_READ PollFlags.POLLIN ||| flag eventflags IPOLLING_WRITE PollFlags.POLLOUT |||
    (PollFlags.POLLRDHUP.elim 0 fun POLLRDHUP => flag eventflags IPOLLING_RDHUP POLLRDHUP) |||
    flag eventflags IPOLLING_HUP PollFlags.POLLHUP ||| flag eventflags IPOLLING_PRI PollFlags.POLLPRI |||
    flag eventflags IPOLLING_ERROR PollFlags.POLLERR

def fromNativeFlags [PollFlags] (eventflags : UInt32) : UInt32 :=
  flag eventflags PollFlags.POLLIN IPOLLING_READ ||| flag eventflags PollFlags.POLLOUT IPOLLING_WRITE |||
    (PollFlags.POLLRDHUP.elim 0 fun POLLRDHUP => flag eventflags POLLRDHUP IPOLLING_RDHUP) |||
    flag eventflags PollFlags.POLLHUP IPOLLING_HUP ||| flag eventflags PollFlags.POLLPRI IPOLLING_PRI |||
    flag eventflags PollFlags.POLLERR IPOLLING_ERROR

/-- A `uint32_t` stored in a `short`, and a `short` passed as a `uint32_t`. -/
def toShort (x : UInt32) : Int16 := x.toUInt16.toInt16

def ofShort (x : Int16) : UInt32 := x.toInt32.toUInt32

/-- `CPoll()` -/
def new : CPoll where
  fds := []
  rotation := 0
  unreadcount := 0
  fInitialized := false
  hashtable := FastHashBase.empty

/-- `Initialize(maxSockets)`; the result of `InitTable` is not looked at. -/
def initializePoll (arrays : FastHashArrays Int32 Nat) (maxSockets : Nat) : Call Unit :=
  modify fun p =>
    { p with
      rotation := 0
      unreadcount := 0
      hashtable := (p.hashtable.initTable arrays maxSockets 0).2
      fInitialized := true }

def close : Call Unit := modify fun p => { p with fds := [], fInitialized := false }

/-- `Add`; the result of `Insert` is not looked at. -/
def add [PollFlags] (fd : Int32) (eventflags : UInt32) : Call Unit := do
  let p ← get
  let pos := p.fds.length
  check (p.fInitialized = false) E_FAIL
  check ((p.hashtable.lookup fd).isSome = true) E_UNEXPECTED
  set
    { p with
      fds := p.fds ++ [(⟨fd, toShort (toNativeFlags eventflags), 0⟩ : Pollfd)]
      hashtable := (p.hashtable.insert fd pos).2 }

/-- The position of a registered descriptor, with the checks of `Remove` and `ChangeEventSet`. -/
def position (fd : Int32) : Call Nat := do
  let p ← get
  let size := p.fds.length
  check (p.fInitialized = false) E_FAIL
  check (size = 0) E_FAIL
  let pPos := p.hashtable.lookup fd
  check (pPos.isNone = true) E_FAIL
  let pos := pPos.getD 0
  check (pos ≥ size) E_FAIL
  check ((p.fds.getD pos default).fd ≠ fd) E_FAIL
  pure pos

/-- The last descriptor moves to `pos`, where the table is told to look for it. -/
def moveLast (pos : Nat) : Call Unit := do
  let p ← get
  let moved := p.fds.getD (p.fds.length - 1) default
  match p.hashtable.assign moved.fd pos with
  | none => throw .nullPointer
  | some hashtable => set { p with fds := p.fds.set pos moved, hashtable }

def remove (fd : Int32) : Call Unit := do
  let pos ← position fd
  let p ← get
  if pos ≠ p.fds.length - 1 then moveLast pos else pure ()
  modify fun p => { p with hashtable := (p.hashtable.remove fd).2, fds := p.fds.dropLast }

def changeEventSet [PollFlags] (fd : Int32) (eventflags : UInt32) : Call Unit := do
  let pos ← position fd
  modify fun p =>
    { p with
      fds := p.fds.set pos { p.fds.getD pos default with events := toShort (toNativeFlags eventflags) } }

/-- `FindNextEvent`: the first descriptor with an event, from the rotation on. -/
def findNextEvent [PollFlags] (p : CPoll) (event : PollEvent) : Bool × CPoll × PollEvent :=
  let size := p.fds.length
  if p.unreadcount = 0 then (false, p, event)
  else
    let rotation := if p.rotation.toNat ≥ size then 0 else p.rotation
    let slotindex (index : Nat) := (index + rotation.toNat) % size
    match (List.range size).find? fun index => (p.fds.getD (slotindex index) default).revents ≠ 0 with
    | none => (false, { p with rotation }, event)
    | some index =>
      let pfd := p.fds.getD (slotindex index) default
      (true,
        { p with
          fds := p.fds.set (slotindex index) { pfd with revents := 0 }
          rotation := rotation + 1
          unreadcount := p.unreadcount - 1 },
        ⟨pfd.fd, fromNativeFlags (ofShort pfd.revents)⟩)

/-- What `poll` writes into the list it is given. -/
def polled (answer : PollAnswer) (fds : List Pollfd) : List Pollfd :=
  fds.mapIdx fun i pfd => { pfd with revents := answer.revents i }

/-- `WaitForNextEvent`, on the client's table and on `*pPollEvent`. -/
def waitForNextEvent [PollFlags] (answer : PollAnswer) : Proc PollStop (CPoll × PollEvent) Unit := do
  let s ← get
  check (s.1.fInitialized = false) E_FAIL
  let event : PollEvent := { s.2 with eventflags := 0 }
  set (s.1, event)
  check (s.1.fds.length = 0) S_FALSE
  let pending := findNextEvent s.1 event
  set pending.2
  if pending.1 then pure ()
  else
    let p : CPoll := { pending.2.1 with unreadcount := 0, fds := polled answer pending.2.1.fds }
    set (p, event)
    check (answer.ret < 0) (ERRNOHR answer.errno)
    check (answer.ret = 0) S_FALSE
    let found := findNextEvent { p with unreadcount := UInt32.ofInt answer.ret } event
    set found.2
    check (found.1 = false) S_FALSE

end CPoll

end NatTester.Source
