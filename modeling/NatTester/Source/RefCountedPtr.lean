import NatTester.Lib.Holders

/-!
# CRefCountedPtr

`refcountobject.h` and `refcountobject.cpp`: objects that count their references, and
the pointers that keep the count. The objects are those of the heap; a use of one
that is deleted is remembered. What an object's own destructor does is left out.
-/
namespace NatTester.Source
open NatTester.Lib

/-- The objects with their `m_nRefs`, which wraps as an `int` does under the atomic builtins, `none` once deleted. -/
structure RefHeap where
  objects : List (Option Int32)
  misused : Bool
  deriving DecidableEq, Repr

namespace RefHeap

/-- `new` of a class with `CBasicRefCount()`. -/
def create (h : RefHeap) : Nat × RefHeap := (h.objects.length, { h with objects := h.objects ++ [some 0] })

/-- `InternalAddRef` -/
def addRef (o : Nat) (h : RefHeap) : RefHeap :=
  match h.objects[o]? with
  | some (some nRefs) => { h with objects := h.objects.set o (some (nRefs + 1)) }
  | _ => { h with misused := true }

/-- `InternalRelease`, with `OnFinalRelease`. -/
def release (o : Nat) (h : RefHeap) : RefHeap :=
  match h.objects[o]? with
  | some (some nRefs) =>
    let refcount := nRefs - 1
    { h with objects := h.objects.set o (if refcount = 0 then none else some refcount) }
  | _ => { h with misused := true }

/-- `if (ptr) ptr->AddRef()` -/
def addRefIfSet (ptr : Option Nat) (h : RefHeap) : RefHeap :=
  match ptr with
  | none => h
  | some o => h.addRef o

/-- `if (ptr) ptr->Release()` -/
def releaseIfSet (ptr : Option Nat) (h : RefHeap) : RefHeap :=
  match ptr with
  | none => h
  | some o => h.release o

/-- The references an object counts; a deleted one has none. -/
def refs (h : RefHeap) (o : Nat) : Int := ((h.objects[o]?.join).getD 0).toInt

/-- One more reference can be counted to the object. -/
def Countable (h : RefHeap) (o : Nat) : Prop := h.refs o < 0x7fffffff

def Alive (h : RefHeap) (o : Nat) : Prop := ∃ nRefs, h.objects[o]? = some (some nRefs)

def Deleted (h : RefHeap) (o : Nat) : Prop := h.objects[o]? = some none

end RefHeap

/-- `m_ptr`; `none` is NULL. -/
structure CRefCountedPtr where
  ptr : Option Nat
  deriving DecidableEq, Repr

namespace CRefCountedPtr

/-- `CRefCountedPtr()` -/
def null : CRefCountedPtr := ⟨none⟩

/-- `CRefCountedPtr(T* ptr)` -/
def ofRaw (ptr : Option Nat) (h : RefHeap) : CRefCountedPtr × RefHeap := (⟨ptr⟩, h.addRefIfSet ptr)

/-- `CRefCountedPtr(const CRefCountedPtr<T>& sp)` -/
def copy (sp : CRefCountedPtr) (h : RefHeap) : CRefCountedPtr × RefHeap := (⟨sp.ptr⟩, h.addRefIfSet sp.ptr)

/-- `ReleaseAndClear`, and the destructor. -/
def releaseAndClear (p : CRefCountedPtr) (h : RefHeap) : CRefCountedPtr × RefHeap := (⟨none⟩, h.releaseIfSet p.ptr)

/-- `operator = (T* ptr)` -/
def assign (ptr : Option Nat) (p : CRefCountedPtr) (h : RefHeap) : CRefCountedPtr × RefHeap :=
  let h := h.addRefIfSet ptr
  let h := h.releaseIfSet p.ptr
  (⟨ptr⟩, h)

/-- `operator = (const CRefCountedPtr<T>& sp)` -/
def assignFrom (sp p : CRefCountedPtr) (h : RefHeap) : CRefCountedPtr × RefHeap :=
  let h := h.addRefIfSet sp.ptr
  let h := h.releaseIfSet p.ptr
  (⟨sp.ptr⟩, h)

/-- `Attach` -/
def attach (ptr : Option Nat) (p : CRefCountedPtr) (h : RefHeap) : CRefCountedPtr × RefHeap :=
  (⟨ptr⟩, h.releaseIfSet p.ptr)

/-- `Detach` -/
def detach (p : CRefCountedPtr) : Option Nat × CRefCountedPtr := (p.ptr, ⟨none⟩)

/-- `CopyTo(ppT)` with a pointer to write to: `*ppT`. -/
def copyTo (p : CRefCountedPtr) (h : RefHeap) : Option Nat × RefHeap := (p.ptr, h.addRefIfSet p.ptr)

end CRefCountedPtr

/-! ## What the calls do to the counts -/

namespace RefHeap
variable {h k m : RefHeap} {held holds : Option Nat} {o : Nat}

theorem alive_of_refs (hrefs : 0 < h.refs o) : h.Alive o := by
  unfold refs at hrefs
  cases hget : h.objects[o]? with
  | none =>
    rw [hget] at hrefs
    exact absurd hrefs (by decide)
  | some object =>
    cases object with
    | none =>
      rw [hget] at hrefs
      exact absurd hrefs (by decide)
    | some nRefs => exact ⟨nRefs, hget⟩

/-- Code that held `held` and now holds `holds` has used the objects of `h` well, and left those of `k`:
an object that was referenced is still referenced, or deleted. -/
structure Conserves (held holds : Option Nat) (h k : RefHeap) : Prop where
  misused : k.misused = h.misused
  balance : Balance held holds h.refs k.refs
  settled : ∀ o, 0 < h.refs o ∨ h.Deleted o → 0 < k.refs o ∨ k.Deleted o

theorem Conserves.refl (held : Option Nat) (h : RefHeap) : Conserves held held h h := ⟨rfl, .refl held _, fun _ => id⟩

theorem Conserves.exchange (hfirst : Conserves none holds h k) (hsecond : Conserves held none k m) :
    Conserves held holds h m :=
  ⟨hsecond.misused.trans hfirst.misused, hfirst.balance.exchange hsecond.balance,
    fun o ho => hsecond.settled o (hfirst.settled o ho)⟩

theorem refs_of_get {nRefs : Int32} (hget : h.objects[o]? = some (some nRefs)) : h.refs o = nRefs.toInt := by
  rw [refs, hget]
  rfl

/-- The object `o` has changed, and no other. -/
theorem refs_set {object : Option Int32} (hget : h.objects[o]? = some object) (new : Option Int32) (r : Nat) :
    refs { h with objects := h.objects.set o new } r = if o = r then (new.getD 0).toInt else h.refs r := by
  obtain ⟨hlt, -⟩ := List.getElem?_eq_some_iff.mp hget
  unfold refs
  simp only
  by_cases heq : o = r
  · rw [if_pos heq, ← heq, List.getElem?_set_self hlt]
    rfl
  · rw [if_neg heq, List.getElem?_set_ne heq]

theorem conserves_create (h : RefHeap) : Conserves none none h h.create.2 := by
  have hget : ∀ r, r < h.objects.length → (h.objects ++ [some 0])[r]? = h.objects[r]? := fun r hr =>
    List.getElem?_append_left hr
  have hrefs : ∀ r, h.create.2.refs r = h.refs r := by
    intro r
    change (((h.objects ++ [some 0])[r]?.join).getD 0).toInt = ((h.objects[r]?.join).getD 0).toInt
    rcases Nat.lt_trichotomy r h.objects.length with hlt | rfl | hgt
    · rw [hget r hlt]
    · rw [List.getElem?_concat_length, List.getElem?_eq_none (Nat.le_refl _)]
      rfl
    · rw [List.getElem?_eq_none (by simp; omega), List.getElem?_eq_none (by omega)]
  refine ⟨rfl, ?_, ?_⟩
  · intro r
    rw [hrefs r]
  · intro r hr
    rcases hr with hpos | hdeleted
    · exact .inl (hrefs r ▸ hpos)
    · obtain ⟨hlt, -⟩ := List.getElem?_eq_some_iff.mp hdeleted
      exact .inr ((hget r hlt).trans hdeleted)

theorem toInt_increment {nRefs : Int32} (hlt : nRefs.toInt < 0x7fffffff) : (nRefs + 1).toInt = nRefs.toInt + 1 := by
  have hle := nRefs.le_toInt
  rw [Int32.toInt_add]
  exact Int.bmod_eq_of_le_mul_two (by change _ ≤ (nRefs.toInt + 1) * 2; omega) (by change (nRefs.toInt + 1) * 2 < _; omega)

theorem toInt_decrement {nRefs : Int32} (hpos : 0 < nRefs.toInt) : (nRefs - 1).toInt = nRefs.toInt - 1 := by
  have hlt := nRefs.toInt_lt
  rw [Int32.toInt_sub]
  exact Int.bmod_eq_of_le_mul_two (by change _ ≤ (nRefs.toInt - 1) * 2; omega) (by change (nRefs.toInt - 1) * 2 < _; omega)

/-- `AddRef` on a living object. -/
theorem conserves_addRef (halive : h.Alive o) (hcountable : h.Countable o) : Conserves none (some o) h (h.addRef o) := by
  obtain ⟨nRefs, hget⟩ := halive
  have hheap : h.addRef o = { h with objects := h.objects.set o (some (nRefs + 1)) } := by
    rw [addRef, hget]
  have hrefs : ∀ r, (h.addRef o).refs r = h.refs r + once (some o) r := by
    intro r
    rw [hheap, refs_set hget, once]
    by_cases heq : o = r
    · subst heq
      rw [Countable, refs_of_get hget] at hcountable
      rw [if_pos rfl, if_pos rfl, refs_of_get hget]
      exact toInt_increment hcountable
    · rw [if_neg heq, if_neg (fun hsome => heq (Option.some.inj hsome))]
      omega
  refine ⟨by rw [hheap], ?_, ?_⟩
  · intro r
    have hr := hrefs r
    rw [once_none]
    omega
  · intro r hr
    rcases hr with hpos | hdeleted
    · have hmore := hrefs r
      exact .inl (by omega)
    · refine .inr ?_
      have hne : o ≠ r := by
        rintro rfl
        cases hget.symm.trans hdeleted
      rw [Deleted, hheap, List.getElem?_set_ne hne]
      exact hdeleted

/-- `Release` on an object that counts a reference. -/
theorem conserves_release (hrefs : 0 < h.refs o) : Conserves (some o) none h (h.release o) := by
  obtain ⟨nRefs, hget⟩ := alive_of_refs hrefs
  have hheap : h.release o = { h with objects := h.objects.set o (if nRefs - 1 = 0 then none else some (nRefs - 1)) } := by
    rw [release, hget]
  rw [refs_of_get hget] at hrefs
  have hless := toInt_decrement hrefs
  have hlast : nRefs - 1 = 0 ↔ nRefs.toInt = 1 := by
    rw [← Int32.toInt_inj, hless, Int32.toInt_zero]
    omega
  refine ⟨by rw [hheap], ?_, ?_⟩
  · intro r
    rw [hheap, refs_set hget, once_none, once]
    by_cases heq : o = r
    · subst heq
      rw [if_pos rfl, if_pos rfl, refs_of_get hget]
      split
      next hzero =>
        have hone := hlast.mp hzero
        change (0 : Int) + ((1 : Nat) : Int) = _
        omega
      next hmore =>
        change (nRefs - 1).toInt + ((1 : Nat) : Int) = _
        omega
    · rw [if_neg heq, if_neg (fun hsome => heq (Option.some.inj hsome))]
  · intro r hr
    rw [Deleted, hheap, refs_set hget]
    by_cases heq : o = r
    · subst heq
      obtain ⟨hlt, -⟩ := List.getElem?_eq_some_iff.mp hget
      rw [if_pos rfl, List.getElem?_set_self hlt]
      split
      next hzero => exact .inr rfl
      next hmore =>
        have hnot := mt hlast.mpr hmore
        apply Or.inl
        change 0 < (nRefs - 1).toInt
        omega
    · rw [if_neg heq, List.getElem?_set_ne heq]
      exact hr

theorem conserves_addRefIfSet {ptr : Option Nat} (halive : ∀ o, ptr = some o → h.Alive o)
    (hcountable : ∀ o, h.Countable o) : Conserves none ptr h (h.addRefIfSet ptr) := by
  cases ptr with
  | none => exact .refl none h
  | some o => exact conserves_addRef (halive o rfl) (hcountable o)

theorem conserves_releaseIfSet {ptr : Option Nat} (hrefs : ∀ o, ptr = some o → 0 < h.refs o) :
    Conserves ptr none h (h.releaseIfSet ptr) := by
  cases ptr with
  | none => exact .refl none h
  | some o => exact conserves_release (hrefs o rfl)

/-- What is taken leaves what is counted already. -/
theorem Conserves.more (hconserves : Conserves none holds h k) (hrefs : 0 < h.refs o) : 0 < k.refs o := by
  have hbalance := hconserves.balance o
  rw [once_none] at hbalance
  omega

/-- The order of the two assignments: what is given back is given back last. -/
theorem conserves_replace {ptr : Option Nat} (halive : ∀ o, ptr = some o → h.Alive o)
    (hcountable : ∀ o, h.Countable o) (hrefs : ∀ o, held = some o → 0 < h.refs o) :
    Conserves held ptr h ((h.addRefIfSet ptr).releaseIfSet held) := by
  have hadded := conserves_addRefIfSet halive hcountable
  exact hadded.exchange (conserves_releaseIfSet fun o ho => hadded.more (hrefs o ho))

end RefHeap

end NatTester.Source
