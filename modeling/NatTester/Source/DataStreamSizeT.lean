import NatTester.Source.DataStream

/-!
# CDataStream in `size_t`

`datastream.cpp`, `buffer.cpp`. The functions of the stream once more, with every
sum and product of theirs in `size_t`, as the code computes it, and with `Write`
as it is called: a pointer, which may be NULL, and a size. Where no sum reaches
`2 ^ 31` they are the functions on numbers of `NatTester.Source.DataStream`.
-/
namespace NatTester.Source.CDataStream
open NatTester.Lib

variable [Platform]

/-- A sum or product, as `size_t` has it. -/
def sizeT (n : Nat) : Nat := n % 2 ^ Platform.sizeBits

theorem sizeT_of_lt {n : Nat} (h : n < 2 ^ 32) : sizeT n = n := by
  refine Nat.mod_eq_of_lt (h.trans_le ?_)
  exact Nat.pow_le_pow_right (by decide) Platform.sizeBits_ge

namespace SizeT

/-- `InitWithAllocation`: of `new uint8_t[size+2]`, the first `size` bytes, as far as there are so many. -/
def initWithAllocation (size : Nat) : CBuffer :=
  ⟨some (((List.range (sizeT (size + 2))).map Platform.freshByte).take size), size⟩

def grow (size : Nat) : Hr CDataStream Unit := do
  let s ← get
  let currentAllocated := s.allocatedSize
  let currentSize := s.getSize
  if size ≤ currentAllocated then pure ()
  else if s.fNoGrow then throw E_FAIL
  else
    let newallocationsize := if size > sizeT (currentAllocated * 2) then size else sizeT (currentAllocated * 2)
    let spNewBuffer := ((initWithAllocation newallocationsize).setSize currentSize).2
    set { s with
      spBuffer := some (spNewBuffer.store 0 s.contents)
      left := s.sharedBuffer }

def setSizeHint (size : Nat) : Hr CDataStream Unit := grow size

/-- `data` is the memory it points at, of which the first `size` bytes are written. -/
def write (data : Option (List UInt8)) (size : Nat) : Hr CDataStream Unit := do
  let start ← get
  let newposition := sizeT (size + start.pos)
  let currentSize := start.getSize
  chkIf (size = 0 ∨ data = none) E_FAIL
  grow newposition
  modify fun s =>
    let stored := s.spBuffer.map fun b => b.store s.pos ((data.getD []).take size)
    { s with
      spBuffer := if newposition > currentSize then stored.map fun b => (b.setSize newposition).2 else stored
      pos := newposition }

def read (size : Nat) : Hr CDataStream (List UInt8) := do
  let s ← get
  let newpos := sizeT (size + s.pos)
  chkIf (newpos > s.getSize) E_INVALIDARG
  set { s with pos := newpos }
  pure (slice s.pos size s.memory)

/-! ## Below `2 ^ 31` -/

theorem initWithAllocation_eq (size : Nat) (h : size + 2 < 2 ^ 32) :
    initWithAllocation size = CBuffer.initWithAllocation size := by
  have htake : (List.range (size + 2)).take size = List.range size := by
    rw [List.take_range, Nat.min_eq_left (Nat.le_add_right size 2)]
  rw [initWithAllocation, sizeT_of_lt h, ← List.map_take, htake]
  rfl

/-- A buffer is doubled only while it is smaller than what is asked for. -/
theorem exec_grow {size : Nat} (h : size < 2 ^ 31) (s : CDataStream) :
    Proc.exec (grow size) s = Proc.exec (CDataStream.grow size) s := by
  by_cases hfit : size ≤ s.allocatedSize
  · simp [grow, CDataStream.grow, Proc.exec_bind, hfit]
  · cases hno : s.fNoGrow with
    | true => simp [grow, CDataStream.grow, Proc.exec_bind, hfit, hno]
    | false =>
      have hdouble : sizeT (s.allocatedSize * 2) = s.allocatedSize * 2 := sizeT_of_lt (by omega)
      have hinit := initWithAllocation_eq (if size > s.allocatedSize * 2 then size else s.allocatedSize * 2)
        (by split <;> omega)
      simp [grow, CDataStream.grow, Proc.exec_bind, hfit, hno, hdouble, hinit, moveTo]

theorem exec_write (bytes : List UInt8) (s : CDataStream) (h : s.pos + bytes.length < 2 ^ 31) :
    Proc.exec (write (some bytes) bytes.length) s = Proc.exec (CDataStream.write bytes) s := by
  have hsum : sizeT (bytes.length + s.pos) = bytes.length + s.pos := sizeT_of_lt (by omega)
  by_cases hne : bytes = []
  · simp [write, CDataStream.write, Proc.exec_bind, hne]
  · have hgrow := @exec_grow _ (bytes.length + s.pos) (by omega) s
    simp [write, CDataStream.write, Proc.exec_bind, hne, hsum, hgrow]

theorem exec_write_null (size : Nat) (s : CDataStream) :
    Proc.exec (write none size) s = (.error E_FAIL, s) := by
  simp [write, Proc.exec_bind]

theorem exec_read (size : Nat) (s : CDataStream) (h : s.pos + size < 2 ^ 32) :
    Proc.exec (read size) s = Proc.exec (CDataStream.read size) s := by
  have hsum : sizeT (size + s.pos) = size + s.pos := sizeT_of_lt (by omega)
  simp [read, CDataStream.read, Proc.exec_bind, exec_chkIf, hsum]

end SizeT

end NatTester.Source.CDataStream
