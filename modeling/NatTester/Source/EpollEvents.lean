import NatTester.Lib.Queue
import NatTester.Lib.Splice
import NatTester.Source.PollingFactory

/-!
# The calls of CEpoll

`polling.cpp`: a `CEpoll` with what its `_events` hold, and the interest list that the
kernel keeps for `_epollfd`. `epoll_ctl` refuses a descriptor for what the list has for
it, or for another reason, which is an argument; so is what `epoll_wait` finds.
-/
namespace NatTester.Source
open NatTester.Lib

def IPOLLING_EDGETRIGGER : UInt32 := 0x04

/-- The `epoll` flags of the platform; some have no `EPOLLRDHUP`. -/
class EpollFlags where
  EPOLLIN : UInt32
  EPOLLOUT : UInt32
  EPOLLET : UInt32
  EPOLLRDHUP : Option UInt32
  EPOLLHUP : UInt32
  EPOLLPRI : UInt32
  EPOLLERR : UInt32

/-- `sys/epoll.h` of Linux -/
@[reducible] def EpollFlags.linux : EpollFlags where
  EPOLLIN := 0x001
  EPOLLOUT := 0x004
  EPOLLET := 0x80000000
  EPOLLRDHUP := some 0x2000
  EPOLLHUP := 0x010
  EPOLLPRI := 0x002
  EPOLLERR := 0x008

/-- An `epoll_event` with its `data.fd`. -/
structure EpollEvent where
  events : UInt32
  fd : Int32
  deriving DecidableEq, Repr, Inhabited

/-- What `epoll_ctl` was told of a descriptor. -/
abbrev InterestList := Int32 → Option EpollEvent

inductive EpollOp where
  | add
  | mod
  | del
  deriving DecidableEq, Repr

def ENOENT : Int := 2
def EEXIST : Int := 17

/-- `epoll_ctl(epfd, op, fd, &ev)`: the list it leaves, or `errno`. -/
def epollCtl (refused : Option Int) (op : EpollOp) (fd : Int32) (ev : EpollEvent) (interest : InterestList) :
    Except Int InterestList :=
  match refused, op, interest fd with
  | some errno, _, _ => .error errno
  | none, .add, none => .ok (Function.update interest fd (some ev))
  | none, .add, some _ => .error EEXIST
  | none, .mod, some _ => .ok (Function.update interest fd (some ev))
  | none, .mod, none => .error ENOENT
  | none, .del, some _ => .ok (Function.update interest fd none)
  | none, .del, none => .error ENOENT

section Ctl
variable {fd : Int32} {interest : InterestList}

theorem epollCtl_absent (h : interest fd = none) (op : EpollOp) (ev : EpollEvent) :
    epollCtl none op fd ev interest =
      if op = .add then .ok (Function.update interest fd (some ev)) else .error ENOENT := by
  unfold epollCtl
  rw [h]
  cases op <;> rfl

theorem epollCtl_known {known : EpollEvent} (h : interest fd = some known) (op : EpollOp) (ev : EpollEvent) :
    epollCtl none op fd ev interest =
      if op = .add then .error EEXIST else .ok (Function.update interest fd (if op = .mod then some ev else none)) := by
  unfold epollCtl
  rw [h]
  cases op <;> rfl

end Ctl

namespace CEpoll
open CPoll

def toNativeFlags [EpollFlags] (eventflags : UInt32) : UInt32 :=
  flag eventflags IPOLLING_READ EpollFlags.EPOLLIN ||| flag eventflags IPOLLING_WRITE EpollFlags.EPOLLOUT |||
    flag eventflags IPOLLING_EDGETRIGGER EpollFlags.EPOLLET |||
    (EpollFlags.EPOLLRDHUP.elim 0 fun EPOLLRDHUP => flag eventflags IPOLLING_RDHUP EPOLLRDHUP) |||
    flag eventflags IPOLLING_HUP EpollFlags.EPOLLHUP ||| flag eventflags IPOLLING_PRI EpollFlags.EPOLLPRI |||
    flag eventflags IPOLLING_ERROR EpollFlags.EPOLLERR

def fromNativeFlags [EpollFlags] (eventflags : UInt32) : UInt32 :=
  flag eventflags EpollFlags.EPOLLIN IPOLLING_READ ||| flag eventflags EpollFlags.EPOLLOUT IPOLLING_WRITE |||
    flag eventflags EpollFlags.EPOLLET IPOLLING_EDGETRIGGER |||
    (EpollFlags.EPOLLRDHUP.elim 0 fun EPOLLRDHUP => flag eventflags EPOLLRDHUP IPOLLING_RDHUP) |||
    flag eventflags EpollFlags.EPOLLHUP IPOLLING_HUP ||| flag eventflags EpollFlags.EPOLLPRI IPOLLING_PRI |||
    flag eventflags EpollFlags.EPOLLERR IPOLLING_ERROR

end CEpoll

/-- A `CEpoll`, what `_events` points to, and the kernel's list. -/
structure EpollState extends Instance CEpoll where
  memory : List EpollEvent
  interest : InterestList

namespace EpollState

/-- A new instance with one reference. -/
def new : EpollState := ⟨⟨CEpoll.new, 1, []⟩, [], fun _ => none⟩

/-- `Close`; with `_epollfd` the kernel's list is gone. -/
def close (s : EpollState) : EpollState := ⟨CEpoll.close s.toInstance, [], fun _ => none⟩

/-- `Initialize`, where `new epoll_event[maxSockets]` finds `uninitialized` memory. -/
def initializeEpoll (answers : SetupAnswers) (uninitialized : Nat → EpollEvent) (maxSockets : Nat) (s : EpollState) :
    HRESULT × EpollState :=
  let (hr, p) := CEpoll.initializeEpoll answers maxSockets s.toInstance
  (hr, ⟨p, (List.range (p.object.events.getD 0)).map uninitialized, fun _ => none⟩)

/-- The state that `Initialize` leaves, on what it makes of the instance. -/
theorem initializeEpoll_made {answers : SetupAnswers} {maxSockets : Nat} {s : EpollState} {p : Instance CEpoll}
    (h : (CEpoll.initializeEpoll answers maxSockets s.toInstance).2 = p) (uninitialized : Nat → EpollEvent) :
    (s.initializeEpoll answers uninitialized maxSockets).2 =
      ⟨p, (List.range (p.object.events.getD 0)).map uninitialized, fun _ => none⟩ := by
  rw [← h]
  rfl

/-- `Add`, `Remove` and `ChangeEventSet` differ in what they tell `epoll_ctl`. -/
def control (op : EpollOp) (refused : Option Int) (fd : Int32) (ev : EpollEvent) : Hr EpollState Unit := do
  let s ← get
  chkIf (fd = -1) E_INVALIDARG
  chkIf (s.object.epollfd = none) E_UNEXPECTED
  match epollCtl refused op fd ev s.interest with
  | .error errno => throw (ERRNOHR errno)
  | .ok interest => set { s with interest }

def add [EpollFlags] (refused : Option Int) (fd : Int32) (eventflags : UInt32) : Hr EpollState Unit :=
  control .add refused fd ⟨CEpoll.toNativeFlags eventflags, fd⟩

def remove (refused : Option Int) (fd : Int32) : Hr EpollState Unit := control .del refused fd ⟨0, 0⟩

def changeEventSet [EpollFlags] (refused : Option Int) (fd : Int32) (eventflags : UInt32) : Hr EpollState Unit :=
  control .mod refused fd ⟨CEpoll.toNativeFlags eventflags, fd⟩

/-- `epoll_wait` writes the events it finds to the front of `_events` and returns their number. -/
def epollWait (answer : Except Int (List EpollEvent)) : Hr EpollState Unit := do
  modify fun s => { s with object := { s.object with currentEventIndex := 0, pendingCount := 0 } }
  match answer with
  | .error errno => throw (ERRNOHR errno)
  | .ok events =>
    modify fun s => { s with memory := splice 0 events s.memory }
    chkIf (events.length = 0) S_FALSE
    modify fun s => { s with object := { s.object with pendingCount := events.length } }

/-- `WaitForNextEvent`; `*pPollEvent` is written only where an event is returned. -/
def waitForNextEvent [EpollFlags] (answer : Except Int (List EpollEvent)) : Hr EpollState PollEvent := do
  let s ← get
  chkIf (s.object.epollfd = none) E_UNEXPECTED
  if s.object.currentEventIndex ≥ s.object.pendingCount then epollWait answer else pure ()
  let s ← get
  let pEvent := s.memory.getD s.object.currentEventIndex default
  set { s with object := { s.object with currentEventIndex := s.object.currentEventIndex + 1 } }
  pure ⟨pEvent.fd, CEpoll.fromNativeFlags pEvent.events⟩

/-! ## What is still to be returned -/

/-- The events of the last `epoll_wait` that no call has returned. -/
def pending (s : EpollState) : List EpollEvent := (s.memory.take s.object.pendingCount).drop s.object.currentEventIndex

/-- The array has the size that `epoll_wait` is told, the valid events are in it, and the next one is among them or right
behind them; a descriptor is registered with its own number. -/
structure Inv (s : EpollState) : Prop where
  length_eq : s.memory.length = s.object.sizeEvents
  pending_le : s.object.pendingCount ≤ s.object.sizeEvents
  index_le : s.object.currentEventIndex ≤ s.object.pendingCount
  data_fd : ∀ fd ev, s.interest fd = some ev → ev.fd = fd

variable {s : EpollState}

theorem inv_closed (s : EpollState) : s.close.Inv where
  length_eq := rfl
  pending_le := Nat.le_refl 0
  index_le := Nat.le_refl 0
  data_fd := nofun

theorem pending_closed (s : EpollState) : s.close.pending = [] := rfl

theorem pending_eq_nil (h : s.Inv) : s.pending = [] ↔ s.object.pendingCount ≤ s.object.currentEventIndex := by
  have hle := h.pending_le
  have hlength := h.length_eq
  rw [pending, List.drop_eq_nil_iff, List.length_take]
  omega

/-- The front of what is left is where the index points. -/
theorem pending_cons (h : s.Inv) (hlt : s.object.currentEventIndex < s.object.pendingCount) :
    s.pending = s.memory.getD s.object.currentEventIndex default ::
      ({ s with object := { s.object with currentEventIndex := s.object.currentEventIndex + 1 } } : EpollState).pending := by
  have hle := h.pending_le
  have hlength := h.length_eq
  have htake : s.object.currentEventIndex < (s.memory.take s.object.pendingCount).length := by
    rw [List.length_take]
    omega
  have hget : (s.memory.take s.object.pendingCount)[s.object.currentEventIndex] =
      s.memory.getD s.object.currentEventIndex default := by
    rw [List.getElem_take, List.getD_eq_getElem?_getD, List.getElem?_eq_getElem (by omega), Option.getD_some]
  rw [pending, List.drop_eq_getElem_cons htake, hget, pending]

/-! ## The calls -/

/-- A call on the list changes nothing else, and tells the list nothing but its own event. -/
theorem exec_control (op : EpollOp) (refused : Option Int) (fd : Int32) (ev : EpollEvent) (s : EpollState) :
    ∃ interest, (Proc.exec (control op refused fd ev) s).2 = { s with interest } ∧
      ∀ other known, interest other = some known → s.interest other = some known ∨ op ≠ .del ∧ other = fd ∧ known = ev := by
  have hsame : ∀ other known, s.interest other = some known →
      s.interest other = some known ∨ op ≠ .del ∧ other = fd ∧ known = ev := fun _ _ h => Or.inl h
  rw [control, Proc.exec_bind_ok (Proc.exec_get s), exec_chkIf_bind]
  split
  · exact ⟨s.interest, rfl, hsame⟩
  · rw [exec_chkIf_bind]
    split
    · exact ⟨s.interest, rfl, hsame⟩
    · cases hlist : epollCtl refused op fd ev s.interest with
      | error errno => exact ⟨s.interest, rfl, hsame⟩
      | ok interest =>
        refine ⟨interest, rfl, ?_⟩
        intro other known hknown
        unfold epollCtl at hlist
        split at hlist
        all_goals cases hlist
        all_goals by_cases hother : other = fd
        all_goals simp_all

theorem Inv.control (h : s.Inv) {op : EpollOp} {fd : Int32} {ev : EpollEvent} (hev : op ≠ .del → ev.fd = fd)
    (refused : Option Int) : (Proc.exec (EpollState.control op refused fd ev) s).2.Inv := by
  obtain ⟨interest, hs, htold⟩ := exec_control op refused fd ev s
  rw [hs]
  refine ⟨h.length_eq, h.pending_le, h.index_le, ?_⟩
  intro other known hknown
  rcases htold other known hknown with hold | ⟨hop, rfl, rfl⟩
  · exact h.data_fd other known hold
  · exact hev hop

section Wait
variable [EpollFlags]

/-- The event that a call returns, from where the index points. -/
def report (ev : EpollEvent) : PollEvent := ⟨ev.fd, CEpoll.fromNativeFlags ev.events⟩

theorem exec_wait_closed (h : s.object.epollfd = none) (answer : Except Int (List EpollEvent)) :
    Proc.exec (waitForNextEvent answer) s = (.error E_UNEXPECTED, s) := by
  rw [waitForNextEvent, Proc.exec_bind_ok (Proc.exec_get s), exec_chkIf_bind, if_pos h]

/-- An event is left: the kernel is not asked. -/
theorem exec_wait_pending (h : s.Inv) (hopen : s.object.epollfd ≠ none)
    (hlt : s.object.currentEventIndex < s.object.pendingCount) (answer : Except Int (List EpollEvent)) :
    ∃ ev t, Proc.exec (waitForNextEvent answer) s = (.ok (report ev), t) ∧ s.pending = ev :: t.pending ∧ t.Inv ∧
      t.toInstance.effects = s.effects ∧ t.object.epollfd = s.object.epollfd ∧ t.interest = s.interest ∧
      t.object.sizeEvents = s.object.sizeEvents := by
  refine ⟨_, _, ?_, pending_cons h hlt, ⟨h.length_eq, h.pending_le, hlt, h.data_fd⟩, rfl, rfl, rfl, rfl⟩
  rw [waitForNextEvent, Proc.exec_bind_ok (Proc.exec_get s), exec_chkIf_bind, if_neg hopen, if_neg (Nat.not_le.mpr hlt)]
  rfl

/-- The most events that `_sizeEvents` tells `epoll_wait` to write, as the `int` it is passed as. -/
def maxevents (s : EpollState) : Int := (s.object.sizeEvents : Int).bmod (2 ^ 32)

omit [EpollFlags] in
theorem maxevents_le (s : EpollState) : s.maxevents ≤ s.object.sizeEvents := by
  unfold maxevents
  rw [Int.bmod_def]
  split <;> omega

omit [EpollFlags] in
theorem maxevents_eq (h : s.object.sizeEvents < 2 ^ 31) : s.maxevents = s.object.sizeEvents := by
  unfold maxevents
  rw [Int.bmod_def]
  split <;> omega

/-- The state in which the kernel is asked, after `epoll_wait`. -/
def waited (answer : Except Int (List EpollEvent)) (s : EpollState) : EpollState :=
  match answer with
  | .error _ => { s with object := { s.object with currentEventIndex := 0, pendingCount := 0 } }
  | .ok events =>
    { s with
      memory := splice 0 events s.memory
      object := { s.object with currentEventIndex := 0, pendingCount := events.length } }

omit [EpollFlags] in
/-- What the kernel wrote is what is left to be returned. -/
theorem waited_spec (h : s.Inv) {events : List EpollEvent} (hfits : events.length ≤ s.object.sizeEvents) :
    (s.waited (.ok events)).Inv ∧ (s.waited (.ok events)).pending = events := by
  have hlength : (splice 0 events s.memory).length = s.object.sizeEvents := by
    rw [splice_length (Nat.zero_le _), h.length_eq, Nat.zero_add]
    exact Nat.max_eq_right hfits
  have htake : (splice 0 events s.memory).take events.length = events := by
    have hend : (splice 0 events s.memory).take (0 + events.length) = s.memory.take 0 ++ events :=
      splice_take_end (Nat.zero_le s.memory.length)
    rwa [Nat.zero_add, List.take_zero, List.nil_append] at hend
  refine ⟨⟨hlength, hfits, Nat.zero_le _, h.data_fd⟩, ?_⟩
  rw [pending, waited, htake, List.drop_zero]

/-- Nothing is left: the kernel is asked, and the first of the events it finds is returned. -/
theorem exec_wait_asked (h : s.Inv) (hopen : s.object.epollfd ≠ none)
    (hle : s.object.pendingCount ≤ s.object.currentEventIndex) :
    (∀ errno, Proc.exec (waitForNextEvent (.error errno)) s = (.error (ERRNOHR errno), s.waited (.error errno))) ∧
    Proc.exec (waitForNextEvent (.ok [])) s = (.error S_FALSE, s.waited (.ok [])) ∧
    ∀ ev rest, (ev :: rest).length ≤ s.object.sizeEvents →
      ∃ t, Proc.exec (waitForNextEvent (.ok (ev :: rest))) s = (.ok (report ev), t) ∧ t.pending = rest ∧ t.Inv ∧
        t.toInstance.effects = s.effects ∧ t.object.epollfd = s.object.epollfd ∧ t.interest = s.interest ∧
        t.object.sizeEvents = s.object.sizeEvents := by
  have hstart : ∀ answer, Proc.exec (waitForNextEvent answer) s = Proc.exec (do
      epollWait answer
      let s ← get
      let pEvent := s.memory.getD s.object.currentEventIndex default
      set { s with object := { s.object with currentEventIndex := s.object.currentEventIndex + 1 } }
      pure ⟨pEvent.fd, CEpoll.fromNativeFlags pEvent.events⟩) s := by
    intro answer
    rw [waitForNextEvent, Proc.exec_bind_ok (Proc.exec_get s), exec_chkIf_bind, if_neg hopen, if_pos hle]
  refine ⟨fun errno => by rw [hstart]; rfl, by rw [hstart]; rfl, ?_⟩
  intro ev rest hfits
  obtain ⟨hinv, hpending⟩ := waited_spec h hfits
  have hlt : (s.waited (.ok (ev :: rest))).object.currentEventIndex < (s.waited (.ok (ev :: rest))).object.pendingCount :=
    Nat.succ_pos rest.length
  have hcons := pending_cons hinv hlt
  rw [hpending] at hcons
  obtain ⟨hev, hrest⟩ := List.cons.inj hcons
  refine ⟨_, ?_, hrest.symm, ⟨hinv.length_eq, hinv.pending_le, hlt, hinv.data_fd⟩, rfl, rfl, rfl, rfl⟩
  rw [hstart, hev]
  rfl

end Wait

end EpollState

end NatTester.Source
