import NatTester.Lib.Octets
import NatTester.Lib.Splice
import NatTester.Source.HResult

/-!
# CBuffer and CDataStream

`buffer.cpp`, `datastream.cpp`. A buffer is the memory `_data` points at and the
number of bytes of it in use. A stream is a cursor on a shared buffer; `Grow`
moves it to a buffer of its own and leaves the shared one behind.

Sizes and positions count bytes of memory that exist, so their sums are taken
exactly. `SeekRelative` converts a signed offset to `size_t` and is taken modulo
the width of `size_t`.
-/
namespace NatTester.Source
open NatTester.Lib

/-- The platform: the width of `size_t`, and what `new uint8_t[]` finds in memory. -/
class Platform where
  sizeBits : Nat
  sizeBits_ge : 32 ≤ sizeBits
  freshByte : Nat → UInt8

/-- The 32-bit platform of `libs/armeabi`, with memory that happens to be zero. -/
abbrev Platform.armeabi : Platform := ⟨32, Nat.le_refl 32, fun _ => 0⟩

/-- `_data` (`none` is NULL; its length is `_allocatedSize`) and `_size`. -/
structure CBuffer where
  data : Option (List UInt8)
  size : Nat
  deriving DecidableEq, Repr

namespace CBuffer

/-- The memory behind `GetData()`. -/
def memory (b : CBuffer) : List UInt8 := b.data.getD []

def allocatedSize (b : CBuffer) : Nat := b.memory.length

def null : CBuffer := ⟨none, 0⟩

/-- The two extra bytes of the allocation are invisible and left out. -/
def initWithAllocation [Platform] (size : Nat) : CBuffer :=
  ⟨some ((List.range size).map Platform.freshByte), size⟩

def initNoAlloc (bytes : List UInt8) : CBuffer := ⟨some bytes, bytes.length⟩

def isValid (b : CBuffer) : Bool := b.data.isSome

/-- `hr = (size <= _allocatedSize)` stores a truth value in `hr`; both values succeed. -/
def setSize (b : CBuffer) (size : Nat) : HRESULT × CBuffer :=
  let hr : HRESULT := if size ≤ b.allocatedSize then 1 else 0
  if SUCCEEDED hr then (hr, { b with size := size }) else (hr, b)

/-- The bytes in use. -/
def contents (b : CBuffer) : List UInt8 := b.memory.take b.size

/-- `memcpy(GetData() + pos, bytes, ...)`. -/
def store (b : CBuffer) (pos : Nat) (bytes : List UInt8) : CBuffer :=
  { b with data := b.data.map (splice pos bytes) }

@[simp] theorem setSize_snd (b : CBuffer) (size : Nat) :
    (b.setSize size).2 = { b with size := size } := by
  unfold setSize
  split <;> simp [SUCCEEDED]

theorem setSize_allocatedSize (b : CBuffer) (size : Nat) : (b.setSize size).2.allocatedSize = b.allocatedSize := by
  rw [setSize_snd]
  rfl

@[simp] theorem initWithAllocation_allocatedSize [Platform] (n : Nat) :
    (initWithAllocation n).allocatedSize = n := by
  simp [initWithAllocation, allocatedSize, memory]

theorem store_memory (b : CBuffer) (pos : Nat) (bytes : List UInt8) (h : b.isValid) :
    (b.store pos bytes).memory = splice pos bytes b.memory := by
  obtain ⟨data, size⟩ := b
  cases data with
  | none => cases h
  | some memory => rfl

end CBuffer

/-- `_spBuffer` (`none` is NULL), `_pos`, `_fNoGrow`. `left` is the shared buffer
as the stream left it, once `Grow` has moved the stream to one of its own. -/
structure CDataStream where
  spBuffer : Option CBuffer
  pos : Nat
  fNoGrow : Bool
  left : Option CBuffer
  deriving DecidableEq, Repr

namespace CDataStream

def empty : CDataStream := ⟨none, 0, false, none⟩

/-- `Reset`, then `Attach(buf, fForWriting)`. -/
def attach (buf : CBuffer) (fForWriting : Bool) : CDataStream :=
  ⟨some (if fForWriting then (buf.setSize 0).2 else buf), 0, false, none⟩

def getSize (s : CDataStream) : Nat := (s.spBuffer.map CBuffer.size).getD 0

def allocatedSize (s : CDataStream) : Nat := (s.spBuffer.map CBuffer.allocatedSize).getD 0

def memory (s : CDataStream) : List UInt8 := (s.spBuffer.map CBuffer.memory).getD []

def contents (s : CDataStream) : List UInt8 := (s.spBuffer.map CBuffer.contents).getD []

/-- The buffer the holder of the shared reference sees. -/
def sharedBuffer (s : CDataStream) : Option CBuffer := s.left.orElse fun _ => s.spBuffer

def setNoGrow (fNoGrow : Bool) : Hr CDataStream Unit := modify fun s => { s with fNoGrow }

/-- Move to a fresh buffer that holds the current contents. -/
def moveTo [Platform] (s : CDataStream) (newallocationsize : Nat) : CDataStream :=
  let fresh := ((CBuffer.initWithAllocation newallocationsize).setSize s.getSize).2
  { s with
    spBuffer := some (fresh.store 0 s.contents)
    left := s.sharedBuffer }

def grow [Platform] (size : Nat) : Hr CDataStream Unit := do
  let s ← get
  if size ≤ s.allocatedSize then pure ()
  else if s.fNoGrow then throw E_FAIL
  else
    -- `new` has returned, so the new buffer is never the NULL one the code also checks for
    set (s.moveTo (if size > s.allocatedSize * 2 then size else s.allocatedSize * 2))

def setSizeHint [Platform] (size : Nat) : Hr CDataStream Unit := grow size

/-- A NULL pointer carries no bytes; it fails like a write of size 0. -/
def write [Platform] (bytes : List UInt8) : Hr CDataStream Unit := do
  let start ← get
  let newposition := bytes.length + start.pos
  chkIf (bytes = []) E_FAIL
  grow newposition
  modify fun s =>
    let stored := s.spBuffer.map fun b => b.store s.pos bytes
    { s with
      spBuffer := if newposition > start.getSize then stored.map fun b => (b.setSize newposition).2 else stored
      pos := newposition }

def read (size : Nat) : Hr CDataStream (List UInt8) := do
  let s ← get
  let newpos := size + s.pos
  chkIf (newpos > s.getSize) E_INVALIDARG
  set { s with pos := newpos }
  pure (slice s.pos size s.memory)

def seekDirect (pos : Nat) : Hr CDataStream Unit := do
  let s ← get
  if pos ≤ s.getSize then set { s with pos } else throw E_FAIL

/-- `SeekDirect(offset + _pos)`, the sum in `size_t`. -/
def seekRelative [Platform] (offset : Int) : Hr CDataStream Unit := do
  let s ← get
  seekDirect ((offset + s.pos) % 2 ^ Platform.sizeBits).toNat

/-! ## What a stream holds -/

/-- The stream holds the bytes `c` with its cursor at `p`. When `cap` is the size
of a buffer it was attached to, it is still on that buffer while `c` fits. -/
structure Holds (cap : Option Nat) (c : List UInt8) (p : Nat) (s : CDataStream) : Prop where
  size_le : s.getSize ≤ s.allocatedSize
  contents_eq : s.contents = c
  pos_eq : s.pos = p
  pos_le : p ≤ c.length
  grows : s.fNoGrow = false
  shared : ∀ n, cap = some n → c.length ≤ n → s.left = none ∧ s.allocatedSize = n

theorem contents_eq_take (s : CDataStream) : s.contents = s.memory.take s.getSize := by
  obtain ⟨_ | b, _, _, _⟩ := s <;> rfl

theorem memory_length (s : CDataStream) : s.memory.length = s.allocatedSize := by
  obtain ⟨_ | b, _, _, _⟩ := s <;> rfl

theorem Holds.getSize_eq {cap : Option Nat} {c : List UInt8} {p : Nat} {s : CDataStream}
    (h : Holds cap c p s) : s.getSize = c.length := by
  rw [← h.contents_eq, contents_eq_take, List.length_take, memory_length]
  exact (Nat.min_eq_left h.size_le).symm

theorem holds_empty : Holds none [] 0 empty where
  size_le := Nat.le_refl 0
  contents_eq := rfl
  pos_eq := rfl
  pos_le := Nat.le_refl 0
  grows := rfl
  shared := by simp

theorem holds_attach (buf : CBuffer) : Holds (some buf.allocatedSize) [] 0 (attach buf true) where
  size_le := by simp [attach, getSize]
  contents_eq := by simp [attach, contents, CBuffer.contents]
  pos_eq := rfl
  pos_le := Nat.le_refl 0
  grows := rfl
  shared := by
    rintro n ⟨⟩ -
    exact ⟨rfl, by simp [attach, allocatedSize, CBuffer.allocatedSize, CBuffer.memory]⟩

/-- While the bytes fit the attached buffer, its holder sees exactly them there. -/
theorem Holds.shared_contents {n : Nat} {c : List UInt8} {p : Nat} {s : CDataStream}
    (h : Holds (some n) c p s) (hc : c.length ≤ n) (hn : 0 < n) :
    ∃ b, s.sharedBuffer = some b ∧ b.contents = c ∧ b.size = c.length ∧ b.allocatedSize = n := by
  obtain ⟨hleft, hall⟩ := h.shared n rfl hc
  have hsize := h.getSize_eq
  have hcont := h.contents_eq
  cases hb : s.spBuffer with
  | none =>
    simp only [allocatedSize, hb, Option.map_none, Option.getD_none] at hall
    omega
  | some b =>
    refine ⟨b, by simp [sharedBuffer, hleft, hb], ?_, ?_, ?_⟩
    · simpa [contents, hb] using hcont
    · simpa [getSize, hb] using hsize
    · simpa [allocatedSize, hb] using hall

section Specs
variable [Platform] {cap : Option Nat} {c : List UInt8} {p : Nat} {s : CDataStream}

theorem moveTo_getSize (s : CDataStream) (n : Nat) : (s.moveTo n).getSize = s.getSize := by
  simp [moveTo, getSize, CBuffer.store]

theorem moveTo_memory (s : CDataStream) (n : Nat) :
    (s.moveTo n).memory = splice 0 s.contents ((List.range n).map Platform.freshByte) := by
  simp [moveTo, memory, CBuffer.store, CBuffer.memory, CBuffer.initWithAllocation]

theorem Holds.moved (h : Holds cap c p s) {n : Nat} (hn : c.length ≤ n)
    (hcap : ∀ k, cap = some k → k < c.length) : Holds cap c p (s.moveTo n) := by
  have hmem := moveTo_memory s n
  rw [h.contents_eq] at hmem
  have hlen : (s.moveTo n).allocatedSize = n := by
    rw [← memory_length, hmem, splice_length (Nat.zero_le _)]
    simp only [List.length_map, List.length_range]
    omega
  refine ⟨?_, ?_, h.pos_eq, h.pos_le, h.grows, ?_⟩
  · rw [hlen, moveTo_getSize, h.getSize_eq]
    exact hn
  · have htake := @splice_take_end _ _ c ((List.range n).map Platform.freshByte)
      (Nat.zero_le _)
    rw [contents_eq_take, moveTo_getSize, h.getSize_eq, hmem]
    simpa using htake
  · intro k hk hle
    have := hcap k hk
    omega

/-- `Grow` keeps what the stream holds, and leaves the attached buffer only for
a size that does not fit it. -/
theorem grow_spec {size : Nat} (hcap : ∀ k, cap = some k → c.length ≤ k → size ≤ k) :
    Proc.Ensures (Holds cap c p) (grow size) fun _ s => Holds cap c p s ∧ size ≤ s.allocatedSize := by
  intro s h
  have hall := h.size_le
  rw [h.getSize_eq] at hall
  by_cases hfit : size ≤ s.allocatedSize
  · refine ⟨(), s, ?_, h, hfit⟩
    simp [grow, Proc.exec_bind, hfit]
  · let n := if size > s.allocatedSize * 2 then size else s.allocatedSize * 2
    have hn : size ≤ n := by
      simp only [n]
      split <;> omega
    have hcap' : ∀ k, cap = some k → k < c.length := by
      intro k hk
      by_contra hle
      obtain ⟨-, hallk⟩ := h.shared k hk (by omega)
      have := hcap k hk (by omega)
      omega
    have hmoved := h.moved (n := n) (by omega) hcap'
    refine ⟨⟨⟩, s.moveTo n, ?_, hmoved, ?_⟩
    · simp [grow, Proc.exec_bind, hfit, h.grows, n]
    · rw [← memory_length, moveTo_memory, splice_length (Nat.zero_le _)]
      simp only [List.length_map, List.length_range]
      omega

omit [Platform] in
theorem Holds.forget (h : Holds cap c p s) : Holds none c p s :=
  ⟨h.size_le, h.contents_eq, h.pos_eq, h.pos_le, h.grows, by simp⟩

/-- The state `Write` leaves once there is room for the bytes. -/
def stored (s : CDataStream) (bytes : List UInt8) : CDataStream :=
  let newposition := bytes.length + s.pos
  let buffer := s.spBuffer.map fun b => b.store s.pos bytes
  { s with
    spBuffer := if newposition > s.getSize then buffer.map fun b => (b.setSize newposition).2 else buffer
    pos := newposition }

omit [Platform] in
theorem stored_some (memory bytes : List UInt8) (size pos : Nat) (fNoGrow : Bool)
    (left : Option CBuffer) :
    stored ⟨some ⟨some memory, size⟩, pos, fNoGrow, left⟩ bytes =
      ⟨some ⟨some (splice pos bytes memory), max size (pos + bytes.length)⟩, pos + bytes.length,
        fNoGrow, left⟩ := by
  by_cases hgt : bytes.length + pos > size
  · rw [Nat.max_eq_right (by omega), Nat.add_comm pos]
    simp [stored, getSize, CBuffer.store, hgt]
  · rw [Nat.max_eq_left (by omega), Nat.add_comm pos]
    simp [stored, getSize, CBuffer.store, hgt]

omit [Platform] in
/-- The contents after a write, from the memory after it. -/
theorem take_splice {memory bytes : List UInt8} {size pos : Nat} (hpos : pos ≤ size)
    (hsize : size ≤ memory.length) :
    (splice pos bytes memory).take (max size (pos + bytes.length)) =
      splice pos bytes (memory.take size) := by
  rcases Nat.le_total size (pos + bytes.length) with hge | hle
  · have hdrop : (memory.take size).drop (pos + bytes.length) = [] := by
      apply List.drop_eq_nil_of_le
      rw [List.length_take]
      omega
    rw [Nat.max_eq_right hge, splice_take_end (by omega), splice, hdrop, List.append_nil,
      List.take_take, Nat.min_eq_left hpos]
  · rw [Nat.max_eq_left hle, splice_take_inside hle hsize]

omit [Platform] in
/-- A stream with room to write into has a buffer with memory. -/
theorem buffer_of_room (hroom : 0 < s.allocatedSize) :
    ∃ memory size, s.spBuffer = some ⟨some memory, size⟩ := by
  obtain ⟨_ | ⟨_ | memory, size⟩, pos, fNoGrow, left⟩ := s
  · cases hroom
  · cases hroom
  · exact ⟨memory, size, rfl⟩

omit [Platform] in
theorem Holds.stored (h : Holds cap c p s) {bytes : List UInt8} (hne : bytes ≠ [])
    (hroom : bytes.length + p ≤ s.allocatedSize) :
    Holds cap (splice p bytes c) (p + bytes.length) (s.stored bytes) := by
  have hlen := List.length_pos_iff.mpr hne
  obtain ⟨memory, size, hbuf⟩ := buffer_of_room (s := s) (by omega)
  obtain ⟨spBuffer, pos, fNoGrow, left⟩ := s
  cases hbuf
  obtain rfl : pos = p := h.pos_eq
  have hsize : size = c.length := h.getSize_eq
  have hall : size ≤ memory.length := h.size_le
  have hple := h.pos_le
  have hc : memory.take size = c := h.contents_eq
  replace hroom : bytes.length + pos ≤ memory.length := hroom
  have hmem : (splice pos bytes memory).length = memory.length := by
    rw [splice_length (by omega)]
    omega
  have hcl := @splice_length _ _ bytes _ hple
  rw [stored_some]
  refine ⟨?_, ?_, rfl, by omega, h.grows, ?_⟩
  · change max size (pos + bytes.length) ≤ (splice pos bytes memory).length
    omega
  · change (splice pos bytes memory).take (max size (pos + bytes.length)) = _
    rw [take_splice (by omega) hall, hc]
  · intro k hk hle
    obtain ⟨hleft, hallk⟩ := h.shared k hk (by omega)
    exact ⟨hleft, hmem.trans hallk⟩

/-- `Write` puts the bytes over the contents at the cursor, extending them when needed. -/
theorem write_spec {bytes : List UInt8} (hne : bytes ≠ []) :
    Proc.Ensures (Holds cap c p) (write bytes) fun _ =>
      Holds cap (splice p bytes c) (p + bytes.length) := by
  intro s h
  have hpos := h.pos_eq
  have key : ∀ cap', Holds cap' c p s → (∀ k, cap' = some k → c.length ≤ k → bytes.length + p ≤ k) →
      ∃ t, Proc.exec (write bytes) s = (.ok ⟨⟩, t) ∧
        Holds cap' (splice p bytes c) (p + bytes.length) t := by
    intro cap' h' hcap
    obtain ⟨⟨⟩, t, hrun, ht, hroom⟩ := grow_spec hcap s h'
    refine ⟨t.stored bytes, ?_, ht.stored hne hroom⟩
    have hts : s.getSize = t.getSize := by rw [h.getSize_eq, ht.getSize_eq]
    have htp : t.pos = s.pos := by rw [h.pos_eq, ht.pos_eq]
    rw [← hpos] at hrun
    simp [write, Proc.exec_bind, hne, hrun, stored, hts, htp]
  by_cases hfits : ∀ k, cap = some k → c.length ≤ k → bytes.length + p ≤ k
  · obtain ⟨t, hrun, ht⟩ := key cap h hfits
    exact ⟨⟨⟩, t, hrun, ht⟩
  · -- the stream moves off the attached buffer, which then no longer holds the result
    obtain ⟨t, hrun, ht⟩ := key none h.forget (by simp)
    refine ⟨⟨⟩, t, hrun, ⟨ht.size_le, ht.contents_eq, ht.pos_eq, ht.pos_le, ht.grows, ?_⟩⟩
    intro k hk hle
    rw [splice_length h.pos_le] at hle
    exact absurd (fun k' hk' _ => by rw [hk, Option.some.injEq] at hk'; omega) hfits

omit [Platform] in
theorem exec_read (n : Nat) (s : CDataStream) :
    Proc.exec (read n) s =
      if s.pos + n ≤ s.getSize then (.ok (slice s.pos n s.memory), { s with pos := s.pos + n })
      else (.error E_INVALIDARG, s) := by
  by_cases h : s.pos + n ≤ s.getSize
  · rw [if_pos h]
    simp [read, Proc.exec_bind, Proc.exec_map, Nat.not_lt.mpr h, Nat.add_comm n]
  · rw [if_neg h]
    simp [read, Proc.exec_bind, Nat.lt_of_not_le h, Nat.add_comm n]

omit [Platform] in
theorem exec_seekDirect (n : Nat) (s : CDataStream) :
    Proc.exec (seekDirect n) s =
      if n ≤ s.getSize then (.ok (), { s with pos := n }) else (.error E_FAIL, s) := by
  by_cases h : n ≤ s.getSize <;> simp [seekDirect, Proc.exec_bind, h]

/-- A relative seek whose target is a position goes there. -/
theorem exec_seekRelative {offset : Int} {n : Nat} (s : CDataStream) (hn : offset + s.pos = n)
    (hbound : n < 2 ^ 32) :
    Proc.exec (seekRelative offset) s =
      if n ≤ s.getSize then (.ok (), { s with pos := n }) else (.error E_FAIL, s) := by
  have hwide : (n : Int) < 2 ^ Platform.sizeBits := by
    have hpow : 2 ^ 32 ≤ 2 ^ Platform.sizeBits :=
      Nat.pow_le_pow_right (by decide) Platform.sizeBits_ge
    exact_mod_cast Nat.lt_of_lt_of_le hbound hpow
  have hmod : ((offset + s.pos) % 2 ^ Platform.sizeBits).toNat = n := by
    rw [hn, Int.emod_eq_of_lt (Int.natCast_nonneg n) hwide, Int.toNat_natCast]
  rw [← exec_seekDirect]
  simp [seekRelative, Proc.exec_bind, hmod]

/-- A relative seek to before the start wraps around to a position far behind the end. -/
theorem exec_seekRelative_neg {offset : Int} {s : CDataStream} (hneg : offset + s.pos < 0) (hoffset : -2 ^ 31 ≤ offset)
    (hsize : s.getSize < 2 ^ 31) : Proc.exec (seekRelative offset) s = (.error E_FAIL, s) := by
  have hpow : (2 : Int) ^ 32 ≤ 2 ^ Platform.sizeBits := by
    exact_mod_cast Nat.pow_le_pow_right (n := 2) (by decide) Platform.sizeBits_ge
  have hmod : (offset + s.pos) % 2 ^ Platform.sizeBits = offset + s.pos + 2 ^ Platform.sizeBits := by
    rw [← Int.add_emod_right, Int.emod_eq_of_lt (by omega) (by omega)]
  have hfar : ¬ ((offset + s.pos) % 2 ^ Platform.sizeBits).toNat ≤ s.getSize := by
    rw [hmod]
    omega
  simp [seekRelative, Proc.exec_bind, exec_seekDirect, hfar]

omit [Platform] in
theorem Holds.at_pos (h : Holds cap c p s) {q : Nat} (hq : q ≤ c.length) :
    Holds cap c q { s with pos := q } :=
  ⟨h.size_le, h.contents_eq, rfl, hq, h.grows, h.shared⟩

omit [Platform] in
/-- Bytes put into the buffer behind the stream's back, inside what it holds. -/
theorem Holds.storeAt (h : Holds cap c p s) {q : Nat} {bytes : List UInt8} (hne : bytes ≠ [])
    (hq : q + bytes.length ≤ c.length) :
    Holds cap (splice q bytes c) p { s with spBuffer := s.spBuffer.map fun b => b.store q bytes } := by
  have hsize := h.size_le
  rw [h.getSize_eq] at hsize
  have hstored := (h.at_pos (q := q) (by omega)).stored hne (by change _ ≤ s.allocatedSize; omega)
  have hlen : (splice q bytes c).length = c.length := by
    rw [splice_length (by omega)]
    omega
  have hback := hstored.at_pos (q := p) (by rw [hlen]; exact h.pos_le)
  have hkeep : ¬ bytes.length + q > ({ s with pos := q } : CDataStream).getSize := by
    change ¬ bytes.length + q > s.getSize
    rw [h.getSize_eq]
    omega
  simpa [CDataStream.stored, hkeep, ← h.pos_eq] using hback

omit [Platform] in
theorem seekDirect_spec {q : Nat} (hq : q ≤ c.length) :
    Proc.Ensures (Holds cap c p) (seekDirect q) fun _ => Holds cap c q := by
  intro s h
  refine ⟨(), _, ?_, h.at_pos hq⟩
  rw [exec_seekDirect, if_pos (by rwa [h.getSize_eq])]

end Specs

/-! ## Integers in host byte order -/

def writeUint8 [Platform] (val : UInt8) : Hr CDataStream Unit := write [val]
def writeUint16 [Platform] (val : UInt16) : Hr CDataStream Unit := write (leOctets 2 val.toNat)
def writeUint32 [Platform] (val : UInt32) : Hr CDataStream Unit := write (leOctets 4 val.toNat)

def readUint8 : Hr CDataStream UInt8 := do
  let bytes ← read 1
  pure (UInt8.ofNat (ofLeOctets bytes))

def readUint16 : Hr CDataStream UInt16 := do
  let bytes ← read 2
  pure (UInt16.ofNat (ofLeOctets bytes))

def readUint32 : Hr CDataStream UInt32 := do
  let bytes ← read 4
  pure (UInt32.ofNat (ofLeOctets bytes))

theorem exec_readUint8 (s : CDataStream) :
    Proc.exec readUint8 s =
      if s.pos + 1 ≤ s.getSize then
        (.ok (UInt8.ofNat (ofLeOctets (slice s.pos 1 s.memory))), { s with pos := s.pos + 1 })
      else (.error E_INVALIDARG, s) := by
  by_cases h : s.pos + 1 ≤ s.getSize <;> simp [readUint8, Proc.exec_map, exec_read, h]

theorem exec_readUint16 (s : CDataStream) :
    Proc.exec readUint16 s =
      if s.pos + 2 ≤ s.getSize then
        (.ok (UInt16.ofNat (ofLeOctets (slice s.pos 2 s.memory))), { s with pos := s.pos + 2 })
      else (.error E_INVALIDARG, s) := by
  by_cases h : s.pos + 2 ≤ s.getSize <;> simp [readUint16, Proc.exec_map, exec_read, h]

theorem exec_readUint32 (s : CDataStream) :
    Proc.exec readUint32 s =
      if s.pos + 4 ≤ s.getSize then
        (.ok (UInt32.ofNat (ofLeOctets (slice s.pos 4 s.memory))), { s with pos := s.pos + 4 })
      else (.error E_INVALIDARG, s) := by
  by_cases h : s.pos + 4 ≤ s.getSize <;> simp [readUint32, Proc.exec_map, exec_read, h]

variable {cap : Option Nat} {c : List UInt8} {p : Nat} {s : CDataStream}

theorem Holds.slice_memory (h : Holds cap c p s) {pos n : Nat} (hn : pos + n ≤ c.length) :
    slice pos n s.memory = slice pos n c := by
  rw [← h.contents_eq, contents_eq_take, slice_take]
  rwa [h.getSize_eq]

/-- Reading from a stream reads what it holds. -/
theorem Holds.exec_read (h : Holds cap c p s) {n : Nat} (hn : p + n ≤ c.length) :
    Proc.exec (read n) s = (.ok (slice p n c), { s with pos := p + n }) := by
  rw [CDataStream.exec_read, h.pos_eq, h.getSize_eq, if_pos hn, h.slice_memory hn]

theorem Holds.exec_readUint16 (h : Holds cap c p s) (hn : p + 2 ≤ c.length) :
    Proc.exec readUint16 s =
      (.ok (UInt16.ofNat (ofLeOctets (slice p 2 c))), { s with pos := p + 2 }) := by
  rw [CDataStream.exec_readUint16, h.pos_eq, h.getSize_eq, if_pos hn, h.slice_memory hn]

theorem Holds.exec_readUint32 (h : Holds cap c p s) (hn : p + 4 ≤ c.length) :
    Proc.exec readUint32 s =
      (.ok (UInt32.ofNat (ofLeOctets (slice p 4 c))), { s with pos := p + 4 }) := by
  rw [CDataStream.exec_readUint32, h.pos_eq, h.getSize_eq, if_pos hn, h.slice_memory hn]

/-- Skipping forward, to a position that fits in 32 bits. -/
theorem Holds.exec_skip [Platform] (h : Holds cap c p s) {n : Nat} (hn : p + n < 2 ^ 32) :
    Proc.exec (seekRelative n) s =
      if p + n ≤ c.length then (.ok (), { s with pos := p + n }) else (.error E_FAIL, s) := by
  rw [exec_seekRelative (n := p + n) s (by rw [h.pos_eq]; omega) hn, h.getSize_eq]

end CDataStream

end NatTester.Source
