import NatTester.Lib.Machine
import NatTester.Source.RefCountedPtr

/-!
# Who owns an object

A program over any number of reference-counted pointers, constructed, copied,
assigned, attached, detached and destroyed in any order, that may hold references of
its own. If it only passes on living objects, only gives up references it holds and
never holds more of them to an object than an `int` counts, an object counts exactly
its holders, and goes with the last of them.
-/
namespace NatTester.Guarantees
open NatTester.Lib NatTester.Source CRefCountedPtr

/-- The pointers, the references the program holds itself, and the objects. -/
structure PointerProgram where
  pointers : List CRefCountedPtr
  loose : List Nat
  heap : RefHeap

inductive PointerCall where
  | create
  | constructNull
  | construct (ptr : Option Nat)
  | copy (i : Nat)
  | assign (i : Nat) (ptr : Option Nat)
  | assignFrom (i j : Nat)
  | releaseAndClear (i : Nat)
  | attach (i : Nat) (ptr : Option Nat)
  | detach (i : Nat)
  | copyTo (i : Nat)
  | addRef (o : Nat)
  | release (o : Nat)

namespace PointerProgram

def slots (p : PointerProgram) : List (Option Nat) := p.pointers.map CRefCountedPtr.ptr

/-- The holders of an object: pointers, and references of the program. -/
def owners (p : PointerProgram) (o : Nat) : Nat := holders p.slots p.loose o

/-- The raw pointer is NULL or points at a living object. -/
def Valid (ptr : Option Nat) (p : PointerProgram) : Prop := ∀ o, ptr = some o → p.heap.Alive o

/-- The pointer at `i` is replaced. -/
def put (i : Nat) (done : CRefCountedPtr × RefHeap) (p : PointerProgram) : PointerProgram :=
  ⟨p.pointers.set i done.1, p.loose, done.2⟩

/-- A call: a raw pointer is valid, and what `Attach` takes over and the program releases is a reference
it holds. A destroyed pointer is one that has been cleared. -/
inductive Calls : PointerProgram → PointerCall → PointerProgram → Prop
  | create (p : PointerProgram) : Calls p .create ⟨p.pointers, p.loose, p.heap.create.2⟩
  | constructNull (p : PointerProgram) : Calls p .constructNull ⟨p.pointers ++ [null], p.loose, p.heap⟩
  | construct {p : PointerProgram} {ptr : Option Nat} (hvalid : p.Valid ptr) :
    Calls p (.construct ptr) ⟨p.pointers ++ [(ofRaw ptr p.heap).1], p.loose, (ofRaw ptr p.heap).2⟩
  | copy {p : PointerProgram} {i : Nat} {sp : CRefCountedPtr} (hsp : p.pointers[i]? = some sp) :
    Calls p (.copy i) ⟨p.pointers ++ [(sp.copy p.heap).1], p.loose, (sp.copy p.heap).2⟩
  | assign {p : PointerProgram} {i : Nat} {s : CRefCountedPtr} {ptr : Option Nat} (hs : p.pointers[i]? = some s)
    (hvalid : p.Valid ptr) : Calls p (.assign i ptr) (p.put i (s.assign ptr p.heap))
  | assignFrom {p : PointerProgram} {i j : Nat} {s sp : CRefCountedPtr} (hs : p.pointers[i]? = some s)
    (hsp : p.pointers[j]? = some sp) : Calls p (.assignFrom i j) (p.put i (assignFrom sp s p.heap))
  | releaseAndClear {p : PointerProgram} {i : Nat} {s : CRefCountedPtr} (hs : p.pointers[i]? = some s) :
    Calls p (.releaseAndClear i) (p.put i (s.releaseAndClear p.heap))
  | attach {p : PointerProgram} {i o : Nat} {s : CRefCountedPtr} (hs : p.pointers[i]? = some s) (hloose : o ∈ p.loose) :
    Calls p (.attach i (some o)) ⟨p.pointers.set i (s.attach (some o) p.heap).1, p.loose.erase o, (s.attach (some o) p.heap).2⟩
  | attachNull {p : PointerProgram} {i : Nat} {s : CRefCountedPtr} (hs : p.pointers[i]? = some s) :
    Calls p (.attach i none) (p.put i (s.attach none p.heap))
  | detach {p : PointerProgram} {i : Nat} {s : CRefCountedPtr} (hs : p.pointers[i]? = some s) :
    Calls p (.detach i) ⟨p.pointers.set i s.detach.2, s.detach.1.toList ++ p.loose, p.heap⟩
  | copyTo {p : PointerProgram} {i : Nat} {s : CRefCountedPtr} (hs : p.pointers[i]? = some s) :
    Calls p (.copyTo i) ⟨p.pointers, (s.copyTo p.heap).1.toList ++ p.loose, (s.copyTo p.heap).2⟩
  | addRef {p : PointerProgram} {o : Nat} (halive : p.heap.Alive o) :
    Calls p (.addRef o) ⟨p.pointers, o :: p.loose, p.heap.addRef o⟩
  | release {p : PointerProgram} {o : Nat} (hloose : o ∈ p.loose) :
    Calls p (.release o) ⟨p.pointers, p.loose.erase o, p.heap.release o⟩

/-- No object has so many holders that its count would wrap with one more. -/
def Countable (p : PointerProgram) : Prop := ∀ o, p.owners o < 0x7fffffff

end PointerProgram

open PointerProgram

/-- No deleted object has been used, and the books on the references are right. -/
structure Balanced (p : PointerProgram) : Prop where
  misused : p.heap.misused = false
  books : Books (fun _ => 0) p.heap.refs p.slots p.loose

section Counting
variable {p q : PointerProgram} {call : PointerCall} {i o : Nat} {s : CRefCountedPtr} {k : RefHeap} {ptr : Option Nat}

theorem slots_ptr (hs : p.pointers[i]? = some s) : p.slots[i]? = some s.ptr := by
  rw [slots, List.getElem?_map, hs]
  rfl

theorem Balanced.refs_eq (h : Balanced p) (o : Nat) : p.heap.refs o = p.owners o := by
  have hbooks := h.books o
  rw [Int.zero_add] at hbooks
  exact hbooks

theorem Balanced.countable (h : Balanced p) (hcountable : p.Countable) (o : Nat) : p.heap.Countable o := by
  have howners := hcountable o
  rw [RefHeap.Countable, h.refs_eq o]
  omega

/-- What a pointer points at counts it. -/
theorem Balanced.referenced (h : Balanced p) (hs : p.pointers[i]? = some s) : ∀ o, s.ptr = some o → 0 < p.heap.refs o := by
  intro o ho
  have hholds := once_le_holders (slots_ptr hs) p.loose o
  have hrefs := h.refs_eq o
  rw [ho, once_self] at hholds
  unfold owners at hrefs
  omega

theorem Balanced.valid (h : Balanced p) (hs : p.pointers[i]? = some s) : p.Valid s.ptr := fun o ho =>
  RefHeap.alive_of_refs (h.referenced hs o ho)

theorem Balanced.loose (h : Balanced p) (hloose : o ∈ p.loose) : 0 < p.heap.refs o := by
  have hholds := mem_le_holders p.slots hloose
  have hrefs := h.refs_eq o
  unfold owners at hrefs
  omega

/-- What the code of a call accounts for, and so keeps the books right. -/
structure Accounts (p q : PointerProgram) : Prop where
  counted : Balanced q
  settled : ∀ o, 0 < p.heap.refs o ∨ p.heap.Deleted o → 0 < q.heap.refs o ∨ q.heap.Deleted o

theorem Balanced.put (h : Balanced p) (hs : p.pointers[i]? = some s) {done : CRefCountedPtr × RefHeap}
    (hconserves : RefHeap.Conserves s.ptr done.1.ptr p.heap done.2) : Accounts p (p.put i done) := by
  refine ⟨⟨hconserves.misused.trans h.misused, ?_⟩, hconserves.settled⟩
  rw [slots, PointerProgram.put, List.map_set]
  exact h.books.change (slots_ptr hs) hconserves.balance

theorem Balanced.append (h : Balanced p) (hconserves : RefHeap.Conserves none s.ptr p.heap k) :
    Accounts p ⟨p.pointers ++ [s], p.loose, k⟩ := by
  refine ⟨⟨hconserves.misused.trans h.misused, ?_⟩, hconserves.settled⟩
  rw [slots, List.map_append]
  exact h.books.append hconserves.balance

theorem Balanced.attach (h : Balanced p) (hs : p.pointers[i]? = some s) (hloose : o ∈ p.loose) :
    Accounts p ⟨p.pointers.set i (s.attach (some o) p.heap).1, p.loose.erase o, (s.attach (some o) p.heap).2⟩ := by
  have hreleased := RefHeap.conserves_releaseIfSet (h.referenced hs)
  refine ⟨⟨hreleased.misused.trans h.misused, ?_⟩, hreleased.settled⟩
  rw [slots, List.map_set]
  exact h.books.put (slots_ptr hs) hloose hreleased.balance

theorem Balanced.detach (h : Balanced p) (hs : p.pointers[i]? = some s) :
    Accounts p ⟨p.pointers.set i s.detach.2, s.detach.1.toList ++ p.loose, p.heap⟩ := by
  refine ⟨⟨h.misused, ?_⟩, fun _ => id⟩
  rw [slots, List.map_set]
  exact h.books.pull (slots_ptr hs)

/-- A reference for the program. -/
theorem Balanced.take (h : Balanced p) (hcountable : p.Countable) (halive : p.heap.Alive o) :
    Accounts p ⟨p.pointers, o :: p.loose, p.heap.addRef o⟩ := by
  have hadded := RefHeap.conserves_addRef halive (h.countable hcountable o)
  exact ⟨⟨hadded.misused.trans h.misused, h.books.take hadded.balance⟩, hadded.settled⟩

theorem Balanced.copyTo (h : Balanced p) (hcountable : p.Countable) (hs : p.pointers[i]? = some s) :
    Accounts p ⟨p.pointers, (s.copyTo p.heap).1.toList ++ p.loose, (s.copyTo p.heap).2⟩ := by
  have hvalid := h.valid hs
  obtain ⟨ptr⟩ := s
  cases ptr with
  | none => exact ⟨h, fun _ => id⟩
  | some o => exact h.take hcountable (hvalid o rfl)

/-- Every call keeps the books. -/
theorem Balanced.calls (h : Balanced p) (hcountable : p.Countable) (hcall : Calls p call q) : Accounts p q := by
  have hmore := h.countable hcountable
  cases hcall with
  | create =>
    have hcreated := RefHeap.conserves_create p.heap
    exact ⟨⟨hcreated.misused.trans h.misused, h.books.keep hcreated.balance⟩, hcreated.settled⟩
  | constructNull => exact h.append (.refl none p.heap)
  | construct hvalid => exact h.append (RefHeap.conserves_addRefIfSet hvalid hmore)
  | copy hsp => exact h.append (RefHeap.conserves_addRefIfSet (h.valid hsp) hmore)
  | assign hs hvalid => exact h.put hs (RefHeap.conserves_replace hvalid hmore (h.referenced hs))
  | assignFrom hs hsp => exact h.put hs (RefHeap.conserves_replace (h.valid hsp) hmore (h.referenced hs))
  | releaseAndClear hs => exact h.put hs (RefHeap.conserves_releaseIfSet (h.referenced hs))
  | attach hs hloose => exact h.attach hs hloose
  | attachNull hs => exact h.put hs (RefHeap.conserves_releaseIfSet (h.referenced hs))
  | detach hs => exact h.detach hs
  | copyTo hs => exact h.copyTo hcountable hs
  | addRef halive => exact h.take hcountable halive
  | release hloose =>
    have hreleased := RefHeap.conserves_release (h.loose hloose)
    exact ⟨⟨hreleased.misused.trans h.misused, h.books.give hloose hreleased.balance⟩, hreleased.settled⟩

end Counting

end NatTester.Guarantees
