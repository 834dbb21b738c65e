import NatTester.Wire.Reader

/-!
# A reader that is used again

Whatever a reader was fed, `Reset` makes it one that has not been fed: the shape
of its attribute table is the one thing `Reset` relies on, and no step of
`AddBytes` changes it.
-/
namespace NatTester.Wire
open NatTester.Lib NatTester.Source CStunMessageReader

/-- The table has its index list and the sizes it was made with. -/
structure TableShape (r : CStunMessageReader) : Prop where
  indexlist : r.mapAttributes.indexlist.isSome
  fsize : r.mapAttributes.fsize = MAX_NUM_ATTRIBUTES
  tsize : r.mapAttributes.tsize = 53

theorem TableShape.fresh_reset {r : CStunMessageReader} (h : TableShape r) : Fresh none r.reset :=
  Wire.fresh_reset h.indexlist h.fsize h.tsize

theorem tableShape_new : TableShape CStunMessageReader.new := ⟨rfl, rfl, rfl⟩

/-- An insertion keeps the sizes of a table. -/
theorem tableShape_insert {r : CStunMessageReader} (h : TableShape r) (attrib : StunAttribute) :
    TableShape { r with mapAttributes := (r.mapAttributes.insert attrib.attributeType attrib).2 } := by
  constructor
  · exact (FastHashBase.insert_indexlist_isSome ..).trans h.indexlist
  · exact (FastHashBase.insert_fsize ..).trans h.fsize
  · exact (FastHashBase.insert_tsize ..).trans h.tsize

theorem keeps_chkIf {cond : Prop} [Decidable cond] {hr : HRESULT} : Proc.Keeps TableShape (chkIf cond hr) :=
  Proc.Keeps.ite .throw .pure

theorem keeps_get : Proc.Keeps TableShape (get : Hr CStunMessageReader CStunMessageReader) := Proc.Keeps.get

/-- A step that leaves the table alone. -/
theorem keeps_modify {g : CStunMessageReader → CStunMessageReader}
    (h : ∀ r, (g r).mapAttributes = r.mapAttributes) : Proc.Keeps TableShape (modify g : Hr CStunMessageReader PUnit) := by
  apply Proc.Keeps.modify
  intro r hr
  constructor
  · rw [h r]
    exact hr.indexlist
  · rw [h r]
    exact hr.fsize
  · rw [h r]
    exact hr.tsize

theorem keeps_onStream {α : Type} {m : Hr CDataStream α} : Proc.Keeps TableShape (onStream m) :=
  .zoom fun _ _ h => ⟨h.indexlist, h.fsize, h.tsize⟩

theorem keeps_checkHeader (msgType msgLength : UInt16) (id : Bytes) :
    Proc.Keeps TableShape (checkHeader msgType msgLength id) := by
  simp only [checkHeader]
  refine Proc.Keeps.bind (keeps_modify fun _ => rfl) fun _ => ?_
  apply Proc.Keeps.bind keeps_get
  intro _
  apply Proc.Keeps.bind keeps_chkIf
  intro _
  refine Proc.Keeps.bind (keeps_modify fun _ => rfl) fun _ => ?_
  apply Proc.Keeps.bind keeps_chkIf
  intro _
  refine Proc.Keeps.bind (keeps_modify fun _ => rfl) fun _ => ?_
  exact keeps_chkIf

theorem keeps_readHeader : Proc.Keeps TableShape readHeader := by
  unfold readHeader
  apply Proc.Keeps.bind keeps_onStream
  intro _
  apply Proc.Keeps.bind keeps_onStream
  intro msgType
  apply Proc.Keeps.bind keeps_onStream
  intro msgLength
  apply Proc.Keeps.bind keeps_onStream
  intro id
  exact keeps_checkHeader (ntohs msgType) (ntohs msgLength) id

theorem keeps_insertAttribute (attrib : StunAttribute) : Proc.Keeps TableShape (insertAttribute attrib) := by
  unfold insertAttribute
  apply Proc.Keeps.get_bind
  intro r hr
  have hinserted := tableShape_insert hr attrib
  have hrest : Proc.Keeps TableShape (do
      chkIf (¬ (r.mapAttributes.insert attrib.attributeType attrib).1 ≥ 0) E_FAIL
      modify (countAttribute attrib) : Hr CStunMessageReader Unit) := by
    apply Proc.Keeps.bind keeps_chkIf
    intro _
    exact keeps_modify fun _ => rfl
  rw [Proc.exec_bind_ok (Proc.exec_set ..)]
  exact hrest _ hinserted

variable [Platform]

theorem keeps_readAttribute : Proc.Keeps TableShape readAttribute := by
  unfold readAttribute
  apply Proc.Keeps.bind keeps_onStream
  intro attributeType
  apply Proc.Keeps.bind keeps_onStream
  intro attributeLength
  apply Proc.Keeps.bind keeps_get
  intro _
  unfold takeAttribute
  apply Proc.Keeps.bind keeps_chkIf
  intro _
  apply Proc.Keeps.bind (keeps_insertAttribute _)
  intro _
  apply Proc.Keeps.bind keeps_onStream
  intro _
  apply Proc.Keeps.bind keeps_onStream
  intro _
  exact .pure

theorem keeps_readAttributes (currentSize fuel bytesConsumed : Nat) :
    Proc.Keeps TableShape (readAttributes currentSize fuel bytesConsumed) := by
  induction fuel generalizing bytesConsumed with
  | zero => exact .pure
  | succ fuel ih =>
    rw [readAttributes]
    apply Proc.Keeps.ite
    · apply Proc.Keeps.bind keeps_readAttribute.outcome
      intro outcome
      cases outcome with
      | ok consumed => exact ih _
      | error _ => exact .pure
    · exact .pure

theorem keeps_readBody : Proc.Keeps TableShape readBody := by
  unfold readBody
  apply Proc.Keeps.bind keeps_get
  intro _
  apply Proc.Keeps.bind keeps_onStream
  intro _
  apply Proc.Keeps.bind (keeps_readAttributes _ _ _)
  intro _
  exact keeps_chkIf

theorem keeps_appendBytes (pData : Bytes) : Proc.Keeps TableShape (appendBytes pData) := by
  unfold appendBytes
  apply Proc.Keeps.bind keeps_get
  intro _
  apply Proc.Keeps.bind keeps_onStream
  intro _
  exact keeps_onStream

/-! ## The transitions -/

variable {r : CStunMessageReader}

omit [Platform] in
theorem tableShape_enterHeader (h : TableShape r) (currentSize : Nat) : TableShape (enterHeader currentSize r) := by
  have hkept := keeps_readHeader r h
  unfold enterHeader
  split
  · split <;> simp_all only <;> exact ⟨hkept.indexlist, hkept.fsize, hkept.tsize⟩
  · exact h

theorem tableShape_enterBody (h : TableShape r) (currentSize : Nat) : TableShape (enterBody currentSize r) := by
  have hkept := keeps_readBody r h
  unfold enterBody
  split
  · split
    · split <;> simp_all only <;> exact ⟨hkept.indexlist, hkept.fsize, hkept.tsize⟩
    · exact ⟨h.indexlist, h.fsize, h.tsize⟩
  · exact h

omit [Platform] in
theorem tableShape_leaveBody (h : TableShape r) (currentSize : Nat) : TableShape (leaveBody currentSize r) := by
  unfold leaveBody
  split
  · exact ⟨h.indexlist, h.fsize, h.tsize⟩
  · exact h

theorem tableShape_addBytes (h : TableShape r) (pData : Bytes) : TableShape (addBytes pData r).2 := by
  have hkept := keeps_appendBytes pData r h
  unfold addBytes
  split
  · exact h
  · split
    · exact h
    · generalize Proc.exec (appendBytes pData) r = appended at hkept
      obtain ⟨outcome, t⟩ := appended
      cases outcome with
      | error _ => exact hkept
      | ok _ => exact tableShape_leaveBody (tableShape_enterBody (tableShape_enterHeader hkept _) _) _

end NatTester.Wire
