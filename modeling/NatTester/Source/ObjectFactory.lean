import NatTester.Source.HResult

/-!
# CObjectFactory and CBasicRefCount

`objectfactory.h` and `refcountobject.h`, for every class whose `Initialize` has its
parameters already. What happens to descriptors and to the instance is kept in a log.
`new` returns NULL where it finds no memory, and the out pointers are not NULL.
-/
namespace NatTester.Source

inductive Effect where
  | opened (fd : Nat)
  | closed (fd : Nat)
  | released
  | deleted
  deriving DecidableEq, Repr

/-- An instance with its `m_nRefs`, and what has been done so far. -/
structure Instance (T : Type) where
  object : T
  nRefs : Int
  effects : List Effect

/-- A class as the factory uses it: its constructor, `Initialize` and its destructor. -/
structure RefCountedClass (T : Type) where
  new : T
  initializeInstance : Instance T → HRESULT × Instance T
  destroy : Instance T → Instance T

/-- What `CreateInstance` returns, `*ppI` (`none` where it is not written) and the log. -/
structure Created (I : Type) where
  hr : HRESULT
  ppI : Option I
  effects : List Effect

variable {T : Type}

namespace Instance

def record (p : Instance T) (effect : Effect) : Instance T := { p with effects := p.effects ++ [effect] }

def addRef (p : Instance T) : Instance T := { p with nRefs := p.nRefs + 1 }

/-- `InternalRelease`; `OnFinalRelease` deletes the instance. -/
def release (p : Instance T) (destroy : Instance T → Instance T) : Instance T :=
  let p := ({ p with nRefs := p.nRefs - 1 }).record .released
  if p.nRefs = 0 then (destroy p).record .deleted else p

end Instance

/-- `CreateInstance`, with `CreateInstanceNoInit`, where `new T()` returns NULL unless `allocated`. -/
def RefCountedClass.createInstance (cls : RefCountedClass T) (allocated : Bool) : Created (Instance T) :=
  if allocated = false then ⟨E_OUTOFMEMORY, none, []⟩
  else
    let pInstance : Instance T := ⟨cls.new, 0, []⟩
    let (hr, pInstance) := cls.initializeInstance pInstance.addRef
    if FAILED hr then ⟨hr, none, (pInstance.release cls.destroy).effects⟩ else ⟨hr, some pInstance, pInstance.effects⟩

section Outcomes

variable {cls : RefCountedClass T} {hr : HRESULT} {p : Instance T}

/-- The caller gets the instance where `Initialize` succeeds. -/
theorem createInstance_ok (hinit : cls.initializeInstance ⟨cls.new, 1, []⟩ = (hr, p)) (hok : SUCCEEDED hr = true) :
    cls.createInstance true = ⟨hr, some p, p.effects⟩ := by
  have hinit' : cls.initializeInstance (Instance.addRef ⟨cls.new, 0, []⟩) = (hr, p) := hinit
  simp [RefCountedClass.createInstance, hinit', hok]

/-- Where `Initialize` fails and keeps the one reference, that is released once, and the instance deleted. -/
theorem createInstance_failed (hinit : cls.initializeInstance ⟨cls.new, 1, []⟩ = (hr, p)) (hfailed : SUCCEEDED hr = false)
    (hrefs : p.nRefs = 1) :
    cls.createInstance true =
      ⟨hr, none, ((cls.destroy (({ p with nRefs := 0 }).record .released)).record .deleted).effects⟩ := by
  have hinit' : cls.initializeInstance (Instance.addRef ⟨cls.new, 0, []⟩) = (hr, p) := hinit
  simp [RefCountedClass.createInstance, hinit', hfailed, Instance.release, Instance.record, hrefs]

end Outcomes

end NatTester.Source
