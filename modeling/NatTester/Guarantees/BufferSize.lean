import NatTester.Lib.Machine
import NatTester.Source.Buffer

/-!
# The size of a CBuffer and the bytes it has

`SetSize` keeps its comparison in an `HRESULT` and then asks whether that succeeded,
which both truth values do. So it sets every size it is given, and a buffer stays
within its memory exactly as long as nobody asks for more.
-/
namespace NatTester.Guarantees
open NatTester.Lib NatTester.Source CBufferFields

/-- A constructor, with its arguments and what `new` finds. -/
inductive BufferConstruction where
  | null
  | sized (found : Bool) (nSize : Nat)
  | bytes (found : Bool) (pByteArray : Option (List UInt8)) (nByteArraySize : Nat) (fCopy : Bool)

inductive BufferCall where
  | reset
  | initWithAllocation (found : Bool) (size : Nat)
  | initNoAlloc (pByteArray : Option (List UInt8)) (size : Nat)
  | initWithAllocAndCopy (found : Bool) (pByteArray : Option (List UInt8)) (size : Nat)
  | setSize (size : Nat)

/-- `GetSize() <= GetAllocatedSize()` -/
def WithinAllocation (b : CBufferFields) : Prop := b.size ≤ b.allocatedSize

/-- `SetSize(size)` succeeds and sets the size where the buffer has as many bytes, and otherwise fails and changes nothing. -/
structure SetsSizeWithin (size : Nat) (b : CBufferFields) : Prop where
  succeeds : SUCCEEDED (b.setSize size).1 = true ↔ size ≤ b.allocatedSize
  sets : size ≤ b.allocatedSize → (b.setSize size).2 = { b with size }
  leaves : ¬ size ≤ b.allocatedSize → (b.setSize size).2 = b

section Calls
variable [Platform]

def BufferConstruction.build : BufferConstruction → CBufferFields
  | .null => reset
  | .sized found nSize => (initWithAllocation found nSize).2
  | .bytes _ pByteArray nByteArraySize false => (initNoAlloc pByteArray nByteArraySize).2
  | .bytes found pByteArray nByteArraySize true => (initWithAllocAndCopy found pByteArray nByteArraySize).2

/-- Every call but `SetSize` begins with `Reset`. -/
def BufferCall.perform : BufferCall → CBufferFields → CBufferFields
  | .reset, _ => CBufferFields.reset
  | .initWithAllocation found size, _ => (CBufferFields.initWithAllocation found size).2
  | .initNoAlloc pByteArray size, _ => (CBufferFields.initNoAlloc pByteArray size).2
  | .initWithAllocAndCopy found pByteArray size, _ => (CBufferFields.initWithAllocAndCopy found pByteArray size).2
  | .setSize size, b => (b.setSize size).2

/-- A buffer, from its construction on. -/
def bufferMachine : Machine CBufferFields BufferCall := .ofFn (fun b => ∃ c : BufferConstruction, c.build = b) BufferCall.perform

/-! ## One call -/

theorem within_initWithAllocation (found : Bool) (size : Nat) :
    WithinAllocation (CBufferFields.initWithAllocation found size).2 := Nat.le_refl _

omit [Platform] in
theorem within_initNoAlloc (pByteArray : Option (List UInt8)) (size : Nat) :
    WithinAllocation (CBufferFields.initNoAlloc pByteArray size).2 := Nat.le_refl _

theorem within_initWithAllocAndCopy (found : Bool) (pByteArray : Option (List UInt8)) (size : Nat) :
    WithinAllocation (CBufferFields.initWithAllocAndCopy found pByteArray size).2 := by
  unfold CBufferFields.initWithAllocAndCopy
  generalize (if pByteArray.isNone then 0 else size) = taken
  dsimp only
  split <;> exact within_initWithAllocation found taken

theorem within_build (c : BufferConstruction) : WithinAllocation c.build := by
  match c with
  | .null => exact Nat.le_refl 0
  | .sized found nSize => exact within_initWithAllocation found nSize
  | .bytes _ pByteArray nByteArraySize false => exact within_initNoAlloc pByteArray nByteArraySize
  | .bytes found pByteArray nByteArraySize true => exact within_initWithAllocAndCopy found pByteArray nByteArraySize

omit [Platform] in
/-- Both results of the comparison are taken for a success. -/
theorem setSize_succeeds (size : Nat) (b : CBufferFields) : SUCCEEDED (b.setSize size).1 = true := by
  rw [setSize_eq]
  dsimp only
  split <;> rfl

omit [Platform] in
theorem setsSizeWithin_iff (size : Nat) (b : CBufferFields) : SetsSizeWithin size b ↔ size ≤ b.allocatedSize := by
  constructor
  · intro h
    exact h.succeeds.mp (setSize_succeeds size b)
  · intro hfits
    refine ⟨⟨fun _ => hfits, fun _ => setSize_succeeds size b⟩, fun _ => ?_, fun hlarge => absurd hfits hlarge⟩
    rw [setSize_eq]

/-- The call is not a `SetSize` beyond what the buffer has. -/
def AsksWithin (b : CBufferFields) : BufferCall → Prop
  | .setSize size => size ≤ b.allocatedSize
  | _ => True

/-- What the call does, where it is a `SetSize`, is what is said of it. -/
def AnswersWithin (b : CBufferFields) : BufferCall → Prop
  | .setSize size => SetsSizeWithin size b
  | _ => True

omit [Platform] in
theorem answersWithin_iff (call : BufferCall) (b : CBufferFields) : AnswersWithin b call ↔ AsksWithin b call := by
  cases call with
  | setSize size => exact setsSizeWithin_iff size b
  | _ => exact Iff.rfl

/-- A call that does not ask for too much leaves a buffer within its memory, whatever it was before. -/
theorem within_perform {call : BufferCall} {b : CBufferFields} (h : AsksWithin b call) :
    WithinAllocation (call.perform b) := by
  cases call with
  | reset => exact Nat.le_refl 0
  | initWithAllocation found size => exact within_initWithAllocation found size
  | initNoAlloc pByteArray size => exact within_initNoAlloc pByteArray size
  | initWithAllocAndCopy found pByteArray size => exact within_initWithAllocAndCopy found pByteArray size
  | setSize size =>
    rw [BufferCall.perform, setSize_eq]
    exact h

/-! ## Every run -/

/-- The buffer is within its memory in every state of the run, and every `SetSize` of it does what is said of it. -/
structure BufferKept (history : List (Machine.Taken CBufferFields BufferCall)) (b : CBufferFields) : Prop where
  within : WithinAllocation b
  before : ∀ k ∈ history, WithinAllocation k.before
  answers : ∀ k ∈ history, AnswersWithin k.before k.label

variable {history : List (Machine.Taken CBufferFields BufferCall)} {b : CBufferFields}

/-- A buffer stays within its memory, and `SetSize` does what is said of it, in exactly the runs that never ask `SetSize`
for more bytes than there are. -/
theorem buffer_within_iff (h : bufferMachine.Run history b) :
    BufferKept history b ↔ ∀ k ∈ history, AsksWithin k.before k.label := by
  constructor
  · intro hkept k hk
    exact (answersWithin_iff k.label k.before).mp (hkept.answers k hk)
  · intro hasks
    refine Machine.Run.invariant (I := fun history b => (∀ k ∈ history, AsksWithin k.before k.label) → BufferKept history b)
      h ?_ ?_ hasks
    · rintro b ⟨c, rfl⟩ -
      exact ⟨within_build c, by simp, by simp⟩
    · rintro history b call after ih rfl hasks
      have hearlier := ih fun k hk => hasks k (List.mem_cons_of_mem _ hk)
      have hcall : AsksWithin b call := hasks ⟨b, call, call.perform b⟩ List.mem_cons_self
      refine ⟨within_perform hcall, ?_, ?_⟩
      · rw [List.forall_mem_cons]
        exact ⟨hearlier.within, hearlier.before⟩
      · rw [List.forall_mem_cons]
        exact ⟨(answersWithin_iff call b).mpr hcall, hearlier.answers⟩

end Calls

/-- Ten bytes, of which four are to be in use. -/
theorem buffer_within_iff_ten :
    let _ := Platform.armeabi
    BufferKept (Machine.stepsOf BufferCall.perform (BufferConstruction.sized true 10).build [.setSize 4])
      ⟨some (List.replicate 12 0), 4, 10⟩ := by
  intro platform
  have hrun := Machine.run_stepsOf [BufferCall.setSize 4]
    (Machine.Run.start (M := bufferMachine) ⟨BufferConstruction.sized true 10, rfl⟩)
  rw [List.append_nil] at hrun
  refine (buffer_within_iff hrun).mpr ?_
  intro k hk
  obtain rfl := List.mem_singleton.mp hk
  change 4 ≤ 10
  decide

/-- `SetSize(4)` on a buffer without memory succeeds. -/
theorem buffer_sized_beyond :
    let _ := Platform.armeabi
    let null := BufferConstruction.null.build
    bufferMachine.Run [⟨null, .setSize 4, (null.setSize 4).2⟩] (null.setSize 4).2 ∧
      SUCCEEDED (null.setSize 4).1 = true ∧ (null.setSize 4).2.size = 4 ∧ (null.setSize 4).2.allocatedSize = 0 ∧
      ¬ BufferKept [⟨null, .setSize 4, (null.setSize 4).2⟩] (null.setSize 4).2 := by
  intro platform null
  refine ⟨.step (.start ⟨BufferConstruction.null, rfl⟩) rfl, by decide, rfl, rfl, ?_⟩
  intro hkept
  have hwithin : 4 ≤ 0 := hkept.within
  exact absurd hwithin (by decide)

end NatTester.Guarantees
