import NatTester.Wire.Accessors
import NatTester.Wire.Builder

/-!
# From builder calls to an accepted message

The header fields survive the scattering of their bits, a finished frame is a
message of the grammar, and a list of attribute calls writes the attributes it
names in order.
-/
namespace NatTester.Wire
open NatTester.Lib NatTester.Source CStunMessageReader CStunMessageBuilder

/-! ## The type field -/

theorem msgTypeField_toBitVec (method : StunMessageType) (c : UInt16) :
    ((((method &&& 0x0f80) <<< (2 : UInt16)) ||| ((method &&& 0x0070) <<< (1 : UInt16)) |||
      (method &&& 0x000f) ||| ((c &&& 0x02) <<< (7 : UInt16)) ||| ((c &&& 0x01) <<< (4 : UInt16))) : UInt16).toBitVec =
    ((method.toBitVec &&& 0x0f80#16) <<< 2) ||| ((method.toBitVec &&& 0x0070#16) <<< 1) |||
      (method.toBitVec &&& 0x000f#16) ||| ((c.toBitVec &&& 0x02#16) <<< 7) ||| ((c.toBitVec &&& 0x01#16) <<< 4) := rfl

/-- A method of twelve bits. -/
theorem method_lt_iff (method : UInt16) : method < 0x1000 ↔ method &&& 0xf000 = 0 := by
  rw [UInt16.lt_iff_toNat_lt, show (0x1000 : UInt16).toNat = 2 ^ 12 from rfl]
  constructor
  · intro hlt
    have hbit : ∀ i, 12 ≤ i → method.toBitVec.getLsbD i = false := fun i hi =>
      Nat.testBit_lt_two_pow (Nat.lt_of_lt_of_le hlt (Nat.pow_le_pow_right (by decide) hi))
    apply UInt16.toBitVec_inj.mp
    rw [UInt16.toBitVec_and]
    ext i hi
    have hzero := hbit i
    interval_cases i <;> simp [← BitVec.getLsbD_eq_getElem] at hzero ⊢ <;> exact hzero
  · intro hmask
    have hand : method.toNat &&& 0xf000 = 0 := by
      have h := congrArg UInt16.toNat hmask
      rwa [UInt16.toNat_and] at h
    have hdiv : method.toNat / 2 ^ 12 = 0 := by
      have h := congrArg (· / 2 ^ 12) hand
      have hlt := method.toNat_lt
      simp only [Nat.and_div_two_pow] at h
      have hmod := Nat.and_two_pow_sub_one_eq_mod (method.toNat / 2 ^ 12) 4
      have hsmall : method.toNat / 2 ^ 12 < 2 ^ 4 := by omega
      rw [Nat.mod_eq_of_lt hsmall] at hmod
      exact hmod.symm.trans h
    omega

/-- The twelve method bits are found again. -/
theorem normalizeType_msgTypeField {method : StunMessageType} (hmethod : method &&& 0xf000 = 0)
    (msgClass : StunMessageClass) : normalizeType (msgTypeField method msgClass) = method := by
  have hhigh : method.toBitVec &&& 0xf000#16 = 0#16 := UInt16.toBitVec_inj.mpr hmethod
  have hbit : ∀ i, 12 ≤ i → i < 16 → method.toBitVec.getLsbD i = false := by
    intro i hlo hhi
    have h := congrArg (fun b => BitVec.getLsbD b i) hhigh
    interval_cases i <;> simpa using h
  apply UInt16.toBitVec_inj.mp
  change (_ &&& 0x000f#16) ||| ((_ &&& 0x00e0#16) >>> 1) ||| ((_ &&& 0x3E00#16) >>> 2) = _
  rw [msgTypeField, msgTypeField_toBitVec]
  -- the masks drop the class bits, whatever they are
  generalize msgClass.toUInt16.toBitVec = c
  ext i hi
  have hzero := hbit i
  interval_cases i <;> simp [← BitVec.getLsbD_eq_getElem] at hzero ⊢ <;> exact hzero

theorem normalizeType_lt (msgType : UInt16) : normalizeType msgType < 0x1000 := by
  rw [method_lt_iff]
  apply UInt16.toBitVec_inj.mp
  rw [UInt16.toBitVec_and]
  change ((msgType.toBitVec &&& 0x000f#16) ||| ((msgType.toBitVec &&& 0x00e0#16) >>> 1) |||
    ((msgType.toBitVec &&& 0x3E00#16) >>> 2)) &&& 0xf000#16 = 0#16
  generalize msgType.toBitVec = t
  ext i hi
  interval_cases i <;> simp [← BitVec.getLsbD_eq_getElem]

/-- The two class bits are found again. -/
theorem classOf_msgTypeField (method : StunMessageType) {msgClass : StunMessageClass}
    (hclass : msgClass ≠ .invalidMessageClass) : classOf (msgTypeField method msgClass) = msgClass := by
  have hbits : (msgTypeField method msgClass &&& 0x0110).toBitVec =
      ((msgClass.toUInt16.toBitVec &&& 0x02#16) <<< 7) ||| ((msgClass.toUInt16.toBitVec &&& 0x01#16) <<< 4) := by
    rw [UInt16.toBitVec_and, msgTypeField, msgTypeField_toBitVec]
    generalize msgClass.toUInt16.toBitVec = c
    ext i hi
    interval_cases i <;> simp [← BitVec.getLsbD_eq_getElem]
  have hfield : ∀ v : UInt16, (msgTypeField method msgClass &&& 0x0110 = v) ↔
      ((msgClass.toUInt16.toBitVec &&& 0x02#16) <<< 7) ||| ((msgClass.toUInt16.toBitVec &&& 0x01#16) <<< 4) =
        v.toBitVec := by
    intro v
    rw [← UInt16.toBitVec_inj, hbits]
  simp only [classOf, STUN_IS_REQUEST, STUN_IS_INDICATION, STUN_IS_SUCCESS_RESP, STUN_IS_ERR_RESP, hfield]
  cases msgClass with
  | invalidMessageClass => exact absurd rfl hclass
  | _ => decide

theorem msgTypeField_topBits (method : StunMessageType) (msgClass : StunMessageClass) :
    msgTypeField method msgClass &&& 0xc000 = 0 := by
  apply UInt16.toBitVec_inj.mp
  rw [UInt16.toBitVec_and, msgTypeField, msgTypeField_toBitVec]
  generalize msgClass.toUInt16.toBitVec = c
  ext i hi
  interval_cases i <;> simp [← BitVec.getLsbD_eq_getElem]

/-! ## Finished frames -/

section Frames
variable (ty : UInt16) (transid : StunTransactionId) (body : Bytes)

theorem frame_typeField (len : UInt16) : typeField (frame ty len transid body) = ty := by
  have htype : slice 0 2 (frame ty len transid body) = be16 ty := by
    rw [frame, List.append_assoc, List.append_assoc, slice_append_left _ (by simp)]
    exact List.take_of_length_le (by simp)
  rw [typeField, htype, ofBe16_be16]

theorem frame_declaredLength (h : body.length < 2 ^ 16) :
    declaredLength (frame ty (UInt16.ofNat body.length) transid body) = body.length := by
  have hlen : slice 2 2 (frame ty (UInt16.ofNat body.length) transid body) = be16 (UInt16.ofNat body.length) := by
    have hright := slice_append_right (be16 ty) (be16 (UInt16.ofNat body.length) ++ (transid.id ++ body)) 2 2
      (be16_length ty).symm
    rw [List.take_left' (be16_length _)] at hright
    simpa [frame, List.append_assoc] using hright
  have hval := toNat_ofBe16 (be16_length (UInt16.ofNat body.length))
  rw [ofBe16_be16, UInt16.toNat_ofNat_of_lt' h] at hval
  rw [declaredLength, hlen, ← hval]

theorem frame_transid (len : UInt16) : slice 4 16 (frame ty len transid body) = transid.id := by
  have hid : transid.id.length = 16 := transid.id_length
  have hright := slice_append_right (be16 ty ++ be16 len) (transid.id ++ body) 4 16 (by simp)
  rw [List.take_left' hid] at hright
  simpa [frame, List.append_assoc] using hright

theorem frame_cookie (len : UInt16) : slice 4 4 (frame ty len transid body) = transid.id.take 4 := by
  rw [← frame_transid ty transid body len]
  simp [slice, List.take_take]

theorem frame_drop (len : UInt16) : (frame ty len transid body).drop STUN_HEADER_SIZE = body := by
  have h := frame_length ty len transid []
  rw [← List.nil_append body, ← frame_append]
  exact List.drop_left' h

end Frames

/-- A finished frame of attributes within the bounds is a message. -/
theorem frame_message {fAllowLegacyFormat : Bool} {ty : UInt16} (htop : ty &&& 0xc000 = 0)
    (transid : StunTransactionId) (hallow : transid.hasCookie ∨ fAllowLegacyFormat = true)
    (as : List Attribute) (hcount : as.length ≤ 30) (hsize : (body as).length ≤ MAX_STUN_MESSAGE_SIZE) :
    Message fAllowLegacyFormat (frame ty (UInt16.ofNat (body as).length) transid (body as)) as := by
  have hlt : (body as).length < 2 ^ 16 := by
    simp only [MAX_STUN_MESSAGE_SIZE] at hsize
    omega
  have hlen := frame_length ty (UInt16.ofNat (body as).length) transid (body as)
  have hdeclared := frame_declaredLength ty transid (body as) hlt
  have hfield := frame_typeField ty transid (body as) (UInt16.ofNat (body as).length)
  have hcookie := frame_cookie ty transid (body as) (UInt16.ofNat (body as).length)
  refine ⟨⟨?_, ?_, ?_, hallow.imp_left hcookie.trans⟩, ?_, frame_drop .., hcount⟩
  · rw [← topBits_iff (by rw [hlen]; simp only [STUN_HEADER_SIZE]; omega), hfield, htop]
  · rw [hdeclared]
    exact body_aligned as
  · rwa [hdeclared]
  · rw [hlen, hdeclared]

/-- What a fresh reader has read of a finished frame. -/
structure ReadFrame (method : StunMessageType) (msgClass : StunMessageClass) (transid : StunTransactionId)
    (as : List Attribute) (r : CStunMessageReader) : Prop where
  accepted : Accepted (frame (msgTypeField method msgClass) (UInt16.ofNat (body as).length) transid (body as)) as r
  type_eq : r.getMessageType = method
  class_eq : r.getMessageClass = msgClass
  transid_eq : r.getTransactionId = transid
  legacy_eq : r.isMessageLegacyFormat = !decide transid.hasCookie

theorem read_frame [Platform] {cap : Option Nat} {r₀ : CStunMessageReader} (h₀ : Fresh cap r₀)
    (transid : StunTransactionId) (hallow : transid.hasCookie ∨ r₀.fAllowLegacyFormat = true)
    {method : StunMessageType} (hmethod : method < 0x1000) {msgClass : StunMessageClass}
    (hclass : msgClass ≠ .invalidMessageClass) (as : List Attribute) (hcount : as.length ≤ 30)
    (hsize : (body as).length ≤ MAX_STUN_MESSAGE_SIZE) :
    let bs := frame (msgTypeField method msgClass) (UInt16.ofNat (body as).length) transid (body as)
    (addBytes bs r₀).1 = .bodyValidated ∧ ReadFrame method msgClass transid as (addBytes bs r₀).2 := by
  intro bs
  have hmessage := frame_message (msgTypeField_topBits method msgClass) transid hallow as hcount hsize
  obtain ⟨hresult, hacc⟩ := addBytes_message h₀ hmessage
  have hfield := frame_typeField (msgTypeField method msgClass) transid (body as) (UInt16.ofNat (body as).length)
  have hid := frame_transid (msgTypeField method msgClass) transid (body as) (UInt16.ofNat (body as).length)
  have hcookie := frame_cookie (msgTypeField method msgClass) transid (body as) (UInt16.ofNat (body as).length)
  refine ⟨hresult, hacc, ?_, ?_, ?_, ?_⟩
  · rw [getMessageType, hacc.type, hfield, normalizeType_msgTypeField ((method_lt_iff method).mp hmethod)]
  · rw [getMessageClass, hacc.msgClass, hfield, classOf_msgTypeField method hclass]
  · rw [getTransactionId, hacc.transid, hid, StunTransactionId.ofBytes_id]
  · rw [isMessageLegacyFormat, hacc.legacy, hcookie]
    rfl

end NatTester.Wire
