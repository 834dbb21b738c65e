import NatTester.Source.Polling

/-!
# Divisions in CPoll

`Find` and `Insert` reduce the hash of a key modulo `_tsize`. Here the calls of `CPoll`
stop where that is 0; elsewhere `%` has a value for every width. While the width is
positive they are the calls without divisions, and a client that is not initialized does
not come to one.
-/
namespace NatTester.Source
open NatTester.Lib

inductive HashStop where
  | stop (why : PollStop)
  | divisionByZero
  deriving DecidableEq, Repr

namespace CPoll.Dividing

abbrev Call (α : Type) := Proc HashStop CPoll α

/-- `% _tsize` -/
def reduce (h : FastHashBase Int32 Nat) : Call Unit := if h.tsize = 0 then throw .divisionByZero else pure ()

def check (cond : Prop) [Decidable cond] (hr : HRESULT) : Call Unit :=
  if cond then throw (.stop (.code hr)) else pure ()

/-- `Add`; `Lookup` calls `Find`, and `Insert` reduces the hash before it looks at the free list. -/
def add [PollFlags] (fd : Int32) (eventflags : UInt32) : Call Unit := do
  let p ← get
  let pos := p.fds.length
  check (p.fInitialized = false) E_FAIL
  reduce p.hashtable
  check ((p.hashtable.lookup fd).isSome = true) E_UNEXPECTED
  reduce p.hashtable
  set
    { p with
      fds := p.fds ++ [(⟨fd, toShort (toNativeFlags eventflags), 0⟩ : Pollfd)]
      hashtable := (p.hashtable.insert fd pos).2 }

/-- The position of a registered descriptor, with the checks of `Remove` and `ChangeEventSet`. -/
def position (fd : Int32) : Call Nat := do
  let p ← get
  let size := p.fds.length
  check (p.fInitialized = false) E_FAIL
  check (size = 0) E_FAIL
  reduce p.hashtable
  let pPos := p.hashtable.lookup fd
  check (pPos.isNone = true) E_FAIL
  let pos := pPos.getD 0
  check (pos ≥ size) E_FAIL
  check ((p.fds.getD pos default).fd ≠ fd) E_FAIL
  pure pos

/-- The last descriptor moves to `pos`, where the table is told to look for it. -/
def moveLast (pos : Nat) : Call Unit := do
  let p ← get
  let moved := p.fds.getD (p.fds.length - 1) default
  reduce p.hashtable
  match p.hashtable.assign moved.fd pos with
  | none => throw (.stop .nullPointer)
  | some hashtable => set { p with fds := p.fds.set pos moved, hashtable }

/-- `Remove`; the table's own `Remove` calls `Find` as well. -/
def remove (fd : Int32) : Call Unit := do
  let pos ← position fd
  let p ← get
  if pos ≠ p.fds.length - 1 then moveLast pos else pure ()
  let p ← get
  reduce p.hashtable
  modify fun p => { p with hashtable := (p.hashtable.remove fd).2, fds := p.fds.dropLast }

def changeEventSet [PollFlags] (fd : Int32) (eventflags : UInt32) : Call Unit := do
  let pos ← position fd
  modify fun p =>
    { p with
      fds := p.fds.set pos { p.fds.getD pos default with events := toShort (toNativeFlags eventflags) } }

/-! ## With a width to divide by -/

def HasWidth (p : CPoll) : Prop := 0 < p.hashtable.tsize

variable {p : CPoll}

theorem reduce_eq (hp : HasWidth p) : reduce p.hashtable = pure () := if_neg (Nat.ne_of_gt hp)

theorem check_agrees (cond : Prop) [Decidable cond] (hr : HRESULT) :
    Proc.Agrees HasWidth .stop (check cond hr) (CPoll.check cond hr) :=
  .ite (fun _ => .throw) fun _ => .pure

theorem add_agrees [PollFlags] (fd : Int32) (eventflags : UInt32) :
    Proc.Agrees HasWidth .stop (add fd eventflags) (CPoll.add fd eventflags) := by
  refine .get_bind fun p hp => ?_
  simp only [reduce_eq hp, pure_bind]
  refine (check_agrees _ _).bind fun _ => (check_agrees _ _).bind fun _ => .set ?_
  unfold HasWidth
  rwa [FastHashBase.insert_tsize]

theorem position_agrees (fd : Int32) : Proc.Agrees HasWidth .stop (position fd) (CPoll.position fd) := by
  refine .get_bind fun p hp => ?_
  simp only [reduce_eq hp, pure_bind]
  exact (check_agrees _ _).bind fun _ => (check_agrees _ _).bind fun _ => (check_agrees _ _).bind fun _ =>
    (check_agrees _ _).bind fun _ => (check_agrees _ _).bind fun _ => .pure

theorem assign_tsize {h h' : FastHashBase Int32 Nat} {fd : Int32} {pos : Nat} (hassign : h.assign fd pos = some h') :
    h'.tsize = h.tsize := by
  obtain ⟨x, -, rfl⟩ := Option.map_eq_some_iff.mp hassign
  rfl

theorem moveLast_agrees (pos : Nat) : Proc.Agrees HasWidth .stop (moveLast pos) (CPoll.moveLast pos) := by
  refine .get_bind fun p hp => ?_
  simp only [reduce_eq hp, pure_bind]
  cases hassign : p.hashtable.assign (p.fds.getD (p.fds.length - 1) default).fd pos with
  | none => exact .throw
  | some hashtable =>
    refine .set ?_
    unfold HasWidth
    rwa [assign_tsize hassign]

/-- The two last statements of `Remove`. -/
theorem removed_agrees (fd : Int32) :
    Proc.Agrees HasWidth .stop
      (do
        let p ← get
        reduce p.hashtable
        modify fun p => { p with hashtable := (p.hashtable.remove fd).2, fds := p.fds.dropLast })
      (modify fun p => { p with hashtable := (p.hashtable.remove fd).2, fds := p.fds.dropLast }) := by
  intro p hp
  rw [Proc.exec_bind_ok (Proc.exec_get p), reduce_eq hp, pure_bind]
  refine Proc.Agrees.modify (fun q hq => ?_) p hp
  unfold HasWidth
  rwa [FastHashBase.remove_tsize]

theorem remove_agrees (fd : Int32) : Proc.Agrees HasWidth .stop (remove fd) (CPoll.remove fd) := by
  refine (position_agrees fd).bind fun pos => .get_bind fun p _ => .ite (fun _ => ?_) fun _ => ?_
  · exact (moveLast_agrees pos).bind fun _ => removed_agrees fd
  · exact removed_agrees fd

theorem changeEventSet_agrees [PollFlags] (fd : Int32) (eventflags : UInt32) :
    Proc.Agrees HasWidth .stop (changeEventSet fd eventflags) (CPoll.changeEventSet fd eventflags) :=
  (position_agrees fd).bind fun _ => .modify fun _ hq => hq

/-! ## Without initialization -/

theorem exec_check_true {cond : Prop} [Decidable cond] (h : cond) (hr : HRESULT) (p : CPoll) :
    Proc.exec (check cond hr) p = (.error (.stop (.code hr)), p) := by
  rw [check, if_pos h]
  rfl

theorem add_uninitialized [PollFlags] (h : p.fInitialized = false) (fd : Int32) (eventflags : UInt32) :
    Proc.exec (add fd eventflags) p = (.error (.stop (.code E_FAIL)), p) := by
  unfold add
  rw [Proc.exec_bind_ok (Proc.exec_get p), Proc.exec_bind_error (exec_check_true h _ _)]

theorem position_uninitialized (h : p.fInitialized = false) (fd : Int32) :
    Proc.exec (position fd) p = (.error (.stop (.code E_FAIL)), p) := by
  unfold position
  rw [Proc.exec_bind_ok (Proc.exec_get p), Proc.exec_bind_error (exec_check_true h _ _)]

theorem remove_uninitialized (h : p.fInitialized = false) (fd : Int32) :
    Proc.exec (remove fd) p = (.error (.stop (.code E_FAIL)), p) :=
  Proc.exec_bind_error (position_uninitialized h fd) _

theorem changeEventSet_uninitialized [PollFlags] (h : p.fInitialized = false) (fd : Int32) (eventflags : UInt32) :
    Proc.exec (changeEventSet fd eventflags) p = (.error (.stop (.code E_FAIL)), p) :=
  Proc.exec_bind_error (position_uninitialized h fd) _

end CPoll.Dividing

end NatTester.Source
