import NatTester.Lib.Cursor
import NatTester.Lib.Machine
import NatTester.Source.DataStreamSizeT

/-!
# CDataStream is a byte list with a cursor

The functions of the stream, in `size_t`, beside a list of bytes with a position
in it. Growth, the buffer it happens in and the capacity of that buffer show
nowhere but in a stream that must not grow.
-/
namespace NatTester.Guarantees
open NatTester.Lib NatTester.Source CDataStream

/-- What a stream is for: bytes, a position, and whether it may take more memory. -/
structure ByteCursor where
  cursor : Cursor UInt8
  fNoGrow : Bool

inductive StreamCall where
  | write (bytes : List UInt8)
  | writeNull (size : Nat)
  | read (size : Nat)
  | seekDirect (pos : Nat)
  | seekRelative (offset : Int)
  | setSizeHint (size : Nat)
  | setNoGrow (fNoGrow : Bool)

namespace StreamCall
variable [Platform]

/-- The call, and the bytes it reads. -/
def run : StreamCall → Hr CDataStream (List UInt8)
  | write bytes => (fun _ => []) <$> SizeT.write (some bytes) bytes.length
  | writeNull size => (fun _ => []) <$> SizeT.write none size
  | read size => SizeT.read size
  | seekDirect pos => (fun _ => []) <$> CDataStream.seekDirect pos
  | seekRelative offset => (fun _ => []) <$> CDataStream.seekRelative offset
  | setSizeHint size => (fun _ => []) <$> SizeT.setSizeHint size
  | setNoGrow fNoGrow => (fun _ => []) <$> CDataStream.setNoGrow fNoGrow

omit [Platform] in
/-- The memory the call needs. -/
def needs (pos : Nat) : StreamCall → Nat
  | write bytes => pos + bytes.length
  | setSizeHint size => size
  | _ => 0

omit [Platform] in
/-- The call needs memory that the stream has not got and must not get. -/
def refused (call : StreamCall) (s : CDataStream) : Bool := s.fNoGrow && s.allocatedSize < call.needs s.pos

omit [Platform] in
/-- What the call does to the list and the position, and the bytes it reads; `none` when it fails. -/
def spec (refused : Bool) (call : StreamCall) (m : ByteCursor) : Option (List UInt8 × ByteCursor) :=
  match call with
  | write bytes => if bytes = [] || refused then none else some ([], { m with cursor := m.cursor.write bytes })
  | writeNull _ => none
  | read size => (m.cursor.read size).map fun (bytes, cursor) => (bytes, { m with cursor })
  | seekDirect pos => (m.cursor.seek pos).map fun cursor => ([], { m with cursor })
  | seekRelative offset => (m.cursor.seekBy offset).map fun cursor => ([], { m with cursor })
  | setSizeHint _ => if refused then none else some ([], m)
  | setNoGrow fNoGrow => some ([], { m with fNoGrow })

omit [Platform] in
/-- The sizes and the total stay below `2 ^ 31`, a read is of some bytes, an offset is an `int`. -/
def Small (m : ByteCursor) : StreamCall → Prop
  | write bytes => m.cursor.pos + bytes.length < 2 ^ 31
  | writeNull _ => True
  | read size => 1 ≤ size ∧ size < 2 ^ 31
  | seekDirect _ => True
  | seekRelative offset => -2 ^ 31 ≤ offset ∧ offset < 2 ^ 31
  | setSizeHint size => size < 2 ^ 31
  | setNoGrow _ => True

/-- The call on both sides; a failing one leaves the list and the position alone. -/
def both (call : StreamCall) (p : CDataStream × ByteCursor) : CDataStream × ByteCursor :=
  ((Proc.exec call.run p.1).2, ((call.spec (call.refused p.1) p.2).map Prod.snd).getD p.2)

/-- The stream's answer is the list's, and a call that fails changes nothing. -/
def Agrees (call : StreamCall) (p : CDataStream × ByteCursor) : Prop :=
  match call.spec (call.refused p.1) p.2 with
  | none => ∃ hr, SUCCEEDED hr = false ∧ Proc.exec call.run p.1 = (.error hr, p.1)
  | some (bytes, _) => (Proc.exec call.run p.1).1 = .ok bytes

end StreamCall

/-- An empty stream, or one attached to a buffer: for writing, or to read what is in it. -/
inductive Starts : CDataStream × ByteCursor → Prop
  | empty : Starts (CDataStream.empty, ⟨.start [], false⟩)
  | forWriting (buf : CBuffer) : Starts (attach buf true, ⟨.start [], false⟩)
  | forReading (buf : CBuffer) (valid : buf.size ≤ buf.allocatedSize) (small : buf.size < 2 ^ 31) :
    Starts (attach buf false, ⟨.start buf.contents, false⟩)

/-- A stream and a list with a position, as the same calls change them. -/
def streams [Platform] : Machine (CDataStream × ByteCursor) StreamCall where
  init := Starts
  step p call q := call.Small p.2 ∧ q = call.both p

/-- What can be seen of the stream is the list and the position. -/
structure Shows (s : CDataStream) (m : ByteCursor) : Prop where
  contents_eq : s.contents = m.cursor.items
  size_eq : s.getSize = m.cursor.items.length
  pos_eq : s.pos = m.cursor.pos
  pos_le : s.pos ≤ s.getSize
  size_le : s.getSize ≤ s.allocatedSize
  noGrow_eq : s.fNoGrow = m.fNoGrow

/-- `Shows`, in the terms of the functions on numbers. -/
structure Matches (s : CDataStream) (m : ByteCursor) : Prop where
  holds : Holds none m.cursor.items m.cursor.pos { s with fNoGrow := false }
  noGrow_eq : s.fNoGrow = m.fNoGrow
  short : m.cursor.items.length < 2 ^ 31

namespace Matches

variable {s : CDataStream} {m : ByteCursor}

theorem getSize_eq (h : Matches s m) : s.getSize = m.cursor.items.length := h.holds.getSize_eq

theorem pos_eq (h : Matches s m) : s.pos = m.cursor.pos := h.holds.pos_eq

theorem shows (h : Matches s m) : Shows s m where
  contents_eq := h.holds.contents_eq
  size_eq := h.getSize_eq
  pos_eq := h.pos_eq
  pos_le := by
    rw [h.pos_eq, h.getSize_eq]
    exact m.cursor.pos_le
  size_le := h.holds.size_le
  noGrow_eq := h.noGrow_eq

theorem of_starts {p : CDataStream × ByteCursor} (h : Starts p) : Matches p.1 p.2 := by
  cases h with
  | empty => exact ⟨holds_empty, rfl, by decide⟩
  | forWriting buf => exact ⟨(holds_attach buf).forget, rfl, Nat.two_pow_pos 31⟩
  | forReading buf valid small =>
    refine ⟨⟨valid, rfl, rfl, Nat.zero_le _, rfl, by simp⟩, rfl, ?_⟩
    exact lt_of_le_of_lt (List.length_take_le _ _) small

/-- A position that the list has is one of the stream. -/
theorem moved (h : Matches s m) {p : Nat} (hp : p ≤ m.cursor.items.length) :
    Matches { s with pos := p } { m with cursor := ⟨m.cursor.items, p, hp⟩ } :=
  ⟨h.holds.at_pos hp, h.noGrow_eq, h.short⟩

theorem setNoGrow (h : Matches s m) (fNoGrow : Bool) : Matches { s with fNoGrow } { m with fNoGrow } :=
  ⟨h.holds, rfl, h.short⟩

variable [Platform]

/-- Where `Grow` moves the stream, what is seen of it stays. -/
theorem grow (h : Matches s m) (size : Nat) (hroom : (s.fNoGrow && s.allocatedSize < size) = false) :
    ∃ t, Proc.exec (CDataStream.grow size) s = (.ok (), t) ∧ Matches t m ∧ size ≤ t.allocatedSize := by
  cases hno : s.fNoGrow with
  | true =>
    simp only [hno, Bool.true_and, decide_eq_false_iff_not, Nat.not_lt] at hroom
    exact ⟨s, by simp [CDataStream.grow, Proc.exec_bind, hroom], h, hroom⟩
  | false =>
    obtain ⟨⟨⟩, t, hrun, ht, hsize⟩ := grow_spec (by simp) { s with fNoGrow := false } h.holds
    have hs : { s with fNoGrow := false } = s := by rw [← hno]
    rw [hs] at hrun
    have htno : t.fNoGrow = false := ht.grows
    refine ⟨t, hrun, ⟨?_, ?_, h.short⟩, hsize⟩
    · rwa [show { t with fNoGrow := false } = t by rw [← htno]]
    · rw [htno, ← hno, h.noGrow_eq]

theorem grow_refused (size : Nat) (hroom : (s.fNoGrow && s.allocatedSize < size) = true) :
    Proc.exec (CDataStream.grow size) s = (.error E_FAIL, s) := by
  rw [Bool.and_eq_true, decide_eq_true_iff] at hroom
  simp [CDataStream.grow, Proc.exec_bind, hroom.1, Nat.not_le.mpr hroom.2]

theorem write (h : Matches s m) {bytes : List UInt8} (hne : bytes ≠ [])
    (hsmall : m.cursor.pos + bytes.length < 2 ^ 31)
    (hroom : (s.fNoGrow && s.allocatedSize < s.pos + bytes.length) = false) :
    ∃ t, Proc.exec (CDataStream.write bytes) s = (.ok (), t) ∧
      Matches t { m with cursor := m.cursor.write bytes } := by
  rw [Nat.add_comm] at hroom
  obtain ⟨t, hrun, ht, hsize⟩ := h.grow _ hroom
  refine ⟨t.stored bytes, ?_, ?_, ht.noGrow_eq, ?_⟩
  · have hts : s.getSize = t.getSize := by rw [h.getSize_eq, ht.getSize_eq]
    have htp : t.pos = s.pos := by rw [h.pos_eq, ht.pos_eq]
    simp [CDataStream.write, Proc.exec_bind, hne, hrun, stored, hts, htp]
  · refine ht.holds.stored hne ?_
    rw [← h.pos_eq]
    exact hsize
  · have := h.short
    rw [Cursor.write_length]
    omega

theorem write_refused {bytes : List UInt8}
    (hroom : (s.fNoGrow && s.allocatedSize < s.pos + bytes.length) = true) :
    Proc.exec (CDataStream.write bytes) s = (.error E_FAIL, s) := by
  by_cases hne : bytes = []
  · simp [CDataStream.write, Proc.exec_bind, hne]
  · rw [Nat.add_comm] at hroom
    simp [CDataStream.write, Proc.exec_bind, hne, grow_refused _ hroom]

omit [Platform] in
theorem seekDirect (h : Matches s m) (pos : Nat) :
    Proc.exec (CDataStream.seekDirect pos) s =
      if pos ≤ m.cursor.items.length then (.ok (), { s with pos }) else (.error E_FAIL, s) := by
  rw [exec_seekDirect, h.getSize_eq]

end Matches

namespace StreamCall

variable [Platform] {s t : CDataStream} {m n : ByteCursor} {call : StreamCall}

theorem both_of_fails (hr : HRESULT) (h : Matches s m) (hspec : call.spec (call.refused s) m = none)
    (hrun : Proc.exec call.run s = (.error hr, s)) (hr_fails : SUCCEEDED hr = false) :
    call.Agrees (s, m) ∧ Matches (call.both (s, m)).1 (call.both (s, m)).2 := by
  refine ⟨?_, ?_⟩
  · rw [Agrees, hspec]
    exact ⟨hr, hr_fails, hrun⟩
  · simp only [both, hspec, hrun, Option.map_none, Option.getD_none]
    exact h

theorem both_of_runs (bytes : List UInt8) (hspec : call.spec (call.refused s) m = some (bytes, n))
    (hrun : Proc.exec call.run s = (.ok bytes, t)) (h : Matches t n) :
    call.Agrees (s, m) ∧ Matches (call.both (s, m)).1 (call.both (s, m)).2 := by
  refine ⟨?_, ?_⟩
  · rw [Agrees, hspec, hrun]
  · simp only [both, hspec, hrun, Option.map_some, Option.getD_some]
    exact h

theorem write_matches (h : Matches s m) {bytes : List UInt8} (hsmall : (write bytes).Small m) :
    (write bytes).Agrees (s, m) ∧ Matches ((write bytes).both (s, m)).1 ((write bytes).both (s, m)).2 := by
  have hpos := h.pos_eq
  have hrun := SizeT.exec_write bytes s (by rw [hpos]; exact hsmall)
  by_cases hne : bytes = []
  · refine both_of_fails E_FAIL h ?_ ?_ rfl
    · simp [spec, hne]
    · rw [run, Proc.exec_map, hrun]
      simp [CDataStream.write, Proc.exec_bind, hne]
  · cases hroom : (write bytes).refused s with
    | true =>
      refine both_of_fails E_FAIL h ?_ ?_ rfl
      · simp [spec, hroom]
      · rw [run, Proc.exec_map, hrun, Matches.write_refused hroom]
    | false =>
      obtain ⟨t, hwrite, ht⟩ := h.write hne hsmall hroom
      refine both_of_runs [] ?_ ?_ ht
      · simp [spec, hne, hroom]
      · rw [run, Proc.exec_map, hrun, hwrite]

theorem read_matches (h : Matches s m) {size : Nat} (hsmall : (read size).Small m) :
    (read size).Agrees (s, m) ∧ Matches ((read size).both (s, m)).1 ((read size).both (s, m)).2 := by
  have hpos := h.pos_eq
  have hshort := h.short
  have hle := m.cursor.pos_le
  have hsize : size < 2 ^ 31 := hsmall.2
  have hrun := SizeT.exec_read size s (by omega)
  rw [CDataStream.exec_read, hpos, h.getSize_eq] at hrun
  by_cases hend : m.cursor.pos + size ≤ m.cursor.items.length
  · rw [if_pos hend] at hrun
    refine both_of_runs _ ?_ hrun (h.moved hend)
    rw [spec, Cursor.read, Cursor.seek_of_le hend]
    exact congrArg (fun bytes => some (bytes, _)) (h.holds.slice_memory hend).symm
  · rw [if_neg hend] at hrun
    refine both_of_fails E_INVALIDARG h ?_ hrun rfl
    rw [spec, Cursor.read, Cursor.seek_of_gt (Nat.lt_of_not_le hend)]
    rfl

theorem seekDirect_matches (h : Matches s m) (pos : Nat) :
    (seekDirect pos).Agrees (s, m) ∧ Matches ((seekDirect pos).both (s, m)).1 ((seekDirect pos).both (s, m)).2 := by
  have hrun := h.seekDirect pos
  by_cases hend : pos ≤ m.cursor.items.length
  · rw [if_pos hend] at hrun
    refine both_of_runs [] ?_ ?_ (h.moved hend)
    · rw [spec, Cursor.seek_of_le hend, Option.map_some]
    · rw [run, Proc.exec_map, hrun]
  · rw [if_neg hend] at hrun
    refine both_of_fails E_FAIL h ?_ ?_ rfl
    · rw [spec, Cursor.seek_of_gt (Nat.lt_of_not_le hend), Option.map_none]
    · rw [run, Proc.exec_map, hrun]

theorem seekRelative_matches (h : Matches s m) {offset : Int} (hsmall : (seekRelative offset).Small m) :
    (seekRelative offset).Agrees (s, m) ∧
      Matches ((seekRelative offset).both (s, m)).1 ((seekRelative offset).both (s, m)).2 := by
  have hpos := h.pos_eq
  have hshort := h.short
  have hle := m.cursor.pos_le
  obtain ⟨hlow, hhigh⟩ : -2 ^ 31 ≤ offset ∧ offset < 2 ^ 31 := hsmall
  rcases Int.lt_or_le (m.cursor.pos + offset) 0 with hneg | hnonneg
  · refine both_of_fails E_FAIL h ?_ ?_ rfl
    · rw [spec, Cursor.seekBy_of_neg hneg, Option.map_none]
    · rw [run, Proc.exec_map, exec_seekRelative_neg (by omega) hlow (by rw [h.getSize_eq]; exact hshort)]
  · obtain ⟨p, hp⟩ := Int.eq_ofNat_of_zero_le hnonneg
    have hrun := exec_seekRelative s (show offset + s.pos = p by omega) (by omega)
    rw [h.getSize_eq] at hrun
    by_cases hend : p ≤ m.cursor.items.length
    · rw [if_pos hend] at hrun
      refine both_of_runs [] ?_ ?_ (h.moved hend)
      · rw [spec, Cursor.seekBy_of_nonneg hp, Cursor.seek_of_le hend, Option.map_some]
      · rw [run, Proc.exec_map, hrun]
    · rw [if_neg hend] at hrun
      refine both_of_fails E_FAIL h ?_ ?_ rfl
      · rw [spec, Cursor.seekBy_of_nonneg hp, Cursor.seek_of_gt (Nat.lt_of_not_le hend), Option.map_none]
      · rw [run, Proc.exec_map, hrun]

theorem setSizeHint_matches (h : Matches s m) {size : Nat} (hsmall : (setSizeHint size).Small m) :
    (setSizeHint size).Agrees (s, m) ∧
      Matches ((setSizeHint size).both (s, m)).1 ((setSizeHint size).both (s, m)).2 := by
  have hrun := SizeT.exec_grow hsmall s
  cases hroom : (setSizeHint size).refused s with
  | true =>
    refine both_of_fails E_FAIL h ?_ ?_ rfl
    · simp [spec, hroom]
    · rw [run, Proc.exec_map, SizeT.setSizeHint, hrun, Matches.grow_refused size hroom]
  | false =>
    obtain ⟨t, hgrow, ht, -⟩ := h.grow size hroom
    refine both_of_runs [] ?_ ?_ ht
    · simp [spec, hroom]
    · rw [run, Proc.exec_map, SizeT.setSizeHint, hrun, hgrow]

/-- One call of the stream is that call of the list with a position. -/
theorem both_matches (h : Matches s m) (hsmall : call.Small m) :
    call.Agrees (s, m) ∧ Matches (call.both (s, m)).1 (call.both (s, m)).2 := by
  cases call with
  | write bytes => exact write_matches h hsmall
  | writeNull size =>
    refine both_of_fails E_FAIL h rfl ?_ rfl
    rw [run, Proc.exec_map, SizeT.exec_write_null]
  | read size => exact read_matches h hsmall
  | seekDirect pos => exact seekDirect_matches h pos
  | seekRelative offset => exact seekRelative_matches h hsmall
  | setSizeHint size => exact setSizeHint_matches h hsmall
  | setNoGrow fNoGrow => exact both_of_runs [] rfl rfl (h.setNoGrow fNoGrow)

end StreamCall

section Runs

variable [Platform]

theorem streams_matches {p : CDataStream × ByteCursor} (h : streams.Reachable p) : Matches p.1 p.2 := by
  refine h.invariant (I := fun p => Matches p.1 p.2) (fun _ hs => Matches.of_starts hs) ?_
  intro p call q hp hstep
  obtain ⟨hsmall, rfl⟩ := hstep
  exact (StreamCall.both_matches hp hsmall).2

/-- After every sequence of calls the stream shows the bytes and the position of
the list, and every call of the sequence was answered as the list answers it. -/
theorem streams_show {history : List (Machine.Taken (CDataStream × ByteCursor) StreamCall)}
    {p : CDataStream × ByteCursor} (h : streams.Run history p) :
    Shows p.1 p.2 ∧ ∀ k ∈ history, k.label.Agrees k.before := by
  refine ⟨(streams_matches ⟨history, h⟩).shows, ?_⟩
  intro k hk
  obtain ⟨hreach, hsmall, -⟩ := h.taken k hk
  exact (StreamCall.both_matches (streams_matches hreach) hsmall).1

end Runs

/-- Two bytes written, a step back, and the second one read again. -/
theorem streams_show_reread :
    let both (call : StreamCall) := @StreamCall.both Platform.armeabi call
    let written := both (.write [7, 8]) (CDataStream.empty, ⟨.start [], false⟩)
    let back := both (.seekRelative (-1)) written
    let reread := both (.read 1) back
    Shows reread.1 reread.2 ∧ @StreamCall.Agrees Platform.armeabi (.read 1) back := by
  intro both written back reread
  have hwritten : StreamCall.Small ⟨.start [], false⟩ (.write [7, 8]) := by
    change 0 + 2 < 2 ^ 31
    decide
  have hback : StreamCall.Small written.2 (.seekRelative (-1)) := by constructor <;> decide
  have hreread : StreamCall.Small back.2 (.read 1) := by constructor <;> decide
  have hrun := (((Machine.Run.start (M := @streams Platform.armeabi) Starts.empty).step ⟨hwritten, rfl⟩).step ⟨hback, rfl⟩).step
    ⟨hreread, rfl⟩
  have hshow := @streams_show Platform.armeabi _ _ hrun
  exact ⟨hshow.1, hshow.2 _ List.mem_cons_self⟩

end NatTester.Guarantees
