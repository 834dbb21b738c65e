import NatTester.Source.DataStreamSizeT

/-!
# CBuffer by its fields

`buffer.cpp` with `_size` and `_allocatedSize` as the fields they are, apart from
the memory `_data` points at, and with what `new` finds as an argument of every
call that asks for memory. `NatTester.Source.DataStream` takes the length of the
memory for `_allocatedSize`; the two agree wherever the memory is really there.
-/
namespace NatTester.Source
open NatTester.Lib CDataStream

/-- `_data` (`none` is NULL), `_size` and `_allocatedSize`. -/
structure CBufferFields where
  data : Option (List UInt8)
  size : Nat
  allocatedSize : Nat
  deriving DecidableEq, Repr

namespace CBufferFields

/-- After `Reset`. -/
def reset : CBufferFields := ⟨none, 0, 0⟩

/-- `new uint8_t[size+2]`, NULL where it is not `found`, with its last two bytes set to 0. Where `size+2` comes round,
the two bytes that are set lie elsewhere. -/
def spAlloc [Platform] (found : Bool) (size : Nat) : Option (List UInt8) :=
  if found then some ((((List.range (sizeT (size + 2))).map Platform.freshByte).set size 0).set (size + 1) 0) else none

def initWithAllocation [Platform] (found : Bool) (size : Nat) : HRESULT × CBufferFields :=
  let data := spAlloc found size
  let size := if data.isSome then size else 0
  (if data.isSome then S_OK else E_FAIL, { data, size, allocatedSize := size })

/-- The pointer may be NULL. -/
def initNoAlloc (pByteArray : Option (List UInt8)) (size : Nat) : HRESULT × CBufferFields :=
  let size := if pByteArray.isNone then 0 else size
  (S_OK, { data := pByteArray, size, allocatedSize := size })

def initWithAllocAndCopy [Platform] (found : Bool) (pByteArray : Option (List UInt8)) (size : Nat) :
    HRESULT × CBufferFields :=
  let size := if pByteArray.isNone then 0 else size
  let (hr, b) := initWithAllocation found size
  if SUCCEEDED hr then
    (hr, { b with data := b.data.map (splice 0 ((pByteArray.getD []).take b.size)) })
  else (hr, b)

def setSize (size : Nat) (b : CBufferFields) : HRESULT × CBufferFields :=
  let hr : HRESULT := if size ≤ b.allocatedSize then 1 else 0
  if SUCCEEDED hr then (hr, { b with size }) else (hr, b)

/-- The truth value in `hr` is a success either way. -/
theorem setSize_eq (size : Nat) (b : CBufferFields) :
    b.setSize size = (if size ≤ b.allocatedSize then 1 else 0, { b with size }) := by
  unfold setSize
  split <;> rfl

/-! ## The buffer of the stream -/

/-- The same buffer, with the length of its memory for the allocated size. -/
structure Shows (b : CBufferFields) (buffer : CBuffer) : Prop where
  data : b.data.map (List.take b.allocatedSize) = buffer.data
  size : b.size = buffer.size
  allocatedSize : b.allocatedSize = buffer.allocatedSize

variable [Platform] {b : CBufferFields} {buffer : CBuffer}

omit [Platform] in
theorem shows_reset : reset.Shows CBuffer.null := ⟨rfl, rfl, rfl⟩

theorem shows_initWithAllocation {size : Nat} (h : size + 2 < 2 ^ Platform.sizeBits) :
    (initWithAllocation true size).2.Shows (CBuffer.initWithAllocation size) := by
  have hsize : sizeT (size + 2) = size + 2 := Nat.mod_eq_of_lt h
  refine ⟨?_, rfl, by simp [initWithAllocation, spAlloc]⟩
  simp [initWithAllocation, spAlloc, CBuffer.initWithAllocation, hsize, List.range_add]

omit [Platform] in
theorem shows_initNoAlloc (bytes : List UInt8) :
    (initNoAlloc (some bytes) bytes.length).2.Shows (CBuffer.initNoAlloc bytes) := by
  refine ⟨?_, rfl, rfl⟩
  simp [initNoAlloc, CBuffer.initNoAlloc]

omit [Platform] in
theorem Shows.setSize (h : b.Shows buffer) (size : Nat) :
    (b.setSize size).1 = (buffer.setSize size).1 ∧ (b.setSize size).2.Shows (buffer.setSize size).2 := by
  rw [setSize_eq, CBuffer.setSize_snd]
  refine ⟨?_, h.data, rfl, h.allocatedSize⟩
  rw [CBuffer.setSize, h.allocatedSize]
  split <;> rfl

end CBufferFields

end NatTester.Source
