import NatTester.Source.ObjectFactory
import NatTester.Source.Polling

/-!
# CreatePollingInstance

`polling.cpp`: how a `CEpoll` or a `CPoll` is set up and handed out. What `new` and
`epoll_create` answer are arguments; `reserve` finds its memory. `HAS_EPOLL` is an
argument as well.
-/
namespace NatTester.Source
open NatTester.Lib

def IPOLLING_TYPE_BEST : UInt32 := 0x01
def IPOLLING_TYPE_EPOLL : UInt32 := 0x02
def IPOLLING_TYPE_POLL : UInt32 := 0x04

/-- What the calls of the set-up find: memory for the instance, a descriptor or `errno`, memory for the events, and the
arrays of the table. -/
structure SetupAnswers where
  allocated : Bool
  epollCreate : Except Int Nat
  eventsAllocated : Bool
  arrays : Option (FastHashArrays Int32 Nat)

/-! ## CEpoll -/

/-- `_epollfd` (`none` is -1), the length of `_events` (`none` is NULL), and the numbers. -/
structure CEpoll where
  epollfd : Option Nat
  events : Option Nat
  sizeEvents : Nat
  pendingCount : Nat
  currentEventIndex : Nat
  deriving DecidableEq, Repr

namespace CEpoll

/-- `CEpoll()` -/
def new : CEpoll := ⟨none, none, 0, 0, 0⟩

def close (p : Instance CEpoll) : Instance CEpoll :=
  let p := match p.object.epollfd with
    | some fd => p.record (.closed fd)
    | none => p
  { p with object := new }

/-- `Initialize`, down to its `Cleanup`. -/
def openEvents (answers : SetupAnswers) (maxSockets : Nat) : Hr (Instance CEpoll) Unit := do
  modify close
  match answers.epollCreate with
  | .error errno => throw (ERRNOHR errno)
  | .ok fd =>
    modify fun p => { p with object := { p.object with epollfd := some fd }, effects := p.effects ++ [.opened fd] }
    let events := if answers.eventsAllocated then some maxSockets else none
    modify fun p => { p with object := { p.object with sizeEvents := maxSockets, events } }
    chkIf (events = none) E_OUTOFMEMORY
    modify fun p => { p with object := { p.object with pendingCount := 0, currentEventIndex := 0 } }

/-- `Initialize` returns `S_OK` whatever `hr` is. -/
def initializeEpoll (answers : SetupAnswers) (maxSockets : Nat) (p : Instance CEpoll) : HRESULT × Instance CEpoll :=
  let (outcome, p) := Proc.exec (openEvents answers maxSockets) p
  let hr := hrOf outcome
  let p := if FAILED hr then close p else p
  (S_OK, p)

/-- The class, its destructor closes. -/
def cls (answers : SetupAnswers) (maxSockets : Nat) : RefCountedClass CEpoll := ⟨new, initializeEpoll answers maxSockets, close⟩

end CEpoll

/-! ## CPoll -/

namespace CPoll

/-- `InitTable(maxSockets, 0)`; without memory for its arrays the table stays empty. -/
def initHashtable (arrays : Option (FastHashArrays Int32 Nat)) (maxSockets : Nat) (h : FastHashBase Int32 Nat) :
    Int × FastHashBase Int32 Nat :=
  match arrays with
  | some arrays => h.initTable arrays maxSockets 0
  | none => (-1, if maxSockets = 0 then h else FastHashBase.empty)

/-- The table has a width after `InitTable` exactly if it was made, or was there and is not replaced. -/
theorem initHashtable_width (arrays : Option (FastHashArrays Int32 Nat)) (maxSockets : Nat) (h : FastHashBase Int32 Nat) :
    0 < (initHashtable arrays maxSockets h).2.tsize ↔
      0 < maxSockets ∧ arrays.isSome = true ∨ maxSockets = 0 ∧ 0 < h.tsize := by
  rcases Nat.eq_zero_or_pos maxSockets with rfl | hpos
  · cases arrays <;> simp [initHashtable, FastHashBase.initTable]
  · cases arrays with
    | none => simp [initHashtable, Nat.ne_of_gt hpos, FastHashBase.empty, FastHashBase.init, FastHashBase.reset]
    | some arrays => simpa [initHashtable, hpos] using (h.initTable_stores arrays hpos).2.2

/-- `Initialize`; the result of `InitTable` is not looked at. -/
def initializeTable (answers : SetupAnswers) (maxSockets : Nat) (p : Instance CPoll) : HRESULT × Instance CPoll :=
  (S_OK,
    { p with
      object :=
        { p.object with
          rotation := 0
          unreadcount := 0
          hashtable := (initHashtable answers.arrays maxSockets p.object.hashtable).2
          fInitialized := true } })

/-- The class; its destructor closes. -/
def cls (answers : SetupAnswers) (maxSockets : Nat) : RefCountedClass CPoll :=
  ⟨new, initializeTable answers maxSockets, fun p => { p with object := (Proc.exec close p.object).2 }⟩

/-- Where the arrays are found, this is the `Initialize` the other calls are modelled with. -/
theorem initializeTable_eq (answers : SetupAnswers) {arrays : FastHashArrays Int32 Nat} (harrays : answers.arrays = some arrays)
    (maxSockets : Nat) (p : Instance CPoll) :
    (initializeTable answers maxSockets p).2.object = (Proc.exec (initializePoll arrays maxSockets) p.object).2 := by
  rw [initializeTable, harrays]
  rfl

end CPoll

/-! ## CreatePollingInstance -/

inductive PollingInstance where
  | epoll (instance_ : Instance CEpoll)
  | poll (instance_ : Instance CPoll)

def Created.map {I J : Type} (f : I → J) (made : Created I) : Created J := ⟨made.hr, made.ppI.map f, made.effects⟩

/-- The type that is created for a requested one. -/
def pollingType (hasEpoll : Bool) (type : UInt32) : UInt32 :=
  if type = IPOLLING_TYPE_BEST then (if hasEpoll then IPOLLING_TYPE_EPOLL else IPOLLING_TYPE_POLL) else type

def createPollingInstance (hasEpoll : Bool) (answers : SetupAnswers) (type : UInt32) (maxSockets : Nat) :
    Created PollingInstance :=
  let type := pollingType hasEpoll type
  if type = IPOLLING_TYPE_EPOLL then
    if hasEpoll = false then ⟨E_FAIL, none, []⟩
    else ((CEpoll.cls answers maxSockets).createInstance answers.allocated).map .epoll
  else if type = IPOLLING_TYPE_POLL then ((CPoll.cls answers maxSockets).createInstance answers.allocated).map .poll
  else ⟨E_FAIL, none, []⟩

end NatTester.Source
