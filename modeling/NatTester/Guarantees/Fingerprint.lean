import NatTester.Source.Crc
import NatTester.Guarantees.Integrity
import NatTester.Guarantees.ReaderGrammar

/-!
# The fingerprint at the end of a message

`IsFingerprintAttributeValid` leaves it to the checksum that a FINGERPRINT with
attributes behind it is refused. The checksum leaves out the last eight bytes,
whatever they are, so a value that fits can be written there.
-/
namespace NatTester.Guarantees
open NatTester.Lib NatTester.Source NatTester.Wire CStunMessageReader

/-- The value of a FINGERPRINT attribute that is preceded by the given bytes. -/
def fingerprintOf (bytes : Bytes) : UInt32 := UInt32.ofBitVec (Crc.crc32 bytes) ^^^ STUN_FINGERPRINT_XOR

/-- The last attribute is a FINGERPRINT of four octets, with the checksum of all bytes before it. -/
def EndsWithFingerprint (bs : Bytes) (as : List Attribute) : Prop :=
  ∃ before fp, as = before ++ [fp] ∧ fp.type = STUN_ATTRIBUTE_FINGERPRINT ∧ fp.value.length = 4 ∧
    ofBe32 fp.value = fingerprintOf (bs.take (STUN_HEADER_SIZE + (body before).length))

/-- The last FINGERPRINT has attributes behind it, and happens to be the checksum of all but the last eight bytes. -/
def ForgedFingerprint (bs : Bytes) (as : List Attribute) : Prop :=
  ∃ before fp after, as = before ++ fp :: after ∧ after ≠ [] ∧ fp.type = STUN_ATTRIBUTE_FINGERPRINT ∧
    (∀ b ∈ after, b.type ≠ STUN_ATTRIBUTE_FINGERPRINT) ∧ fp.value.length = 4 ∧
    ofBe32 fp.value = fingerprintOf (bs.take (bs.length - 8))

/-- A list is split at the last attribute of a type in one way only. -/
theorem last_split_unique {t : UInt16} {xs ys xs' ys' : List Attribute} {a a' : Attribute}
    (h : xs ++ a :: ys = xs' ++ a' :: ys') (ha : a.type = t) (hys : ∀ b ∈ ys, b.type ≠ t) (ha' : a'.type = t)
    (hys' : ∀ b ∈ ys', b.type ≠ t) : xs = xs' ∧ a = a' ∧ ys = ys' := by
  have hlast : ∀ {zs us vs : List Attribute} {b b' : Attribute}, b :: us = zs ++ b' :: vs → b'.type = t →
      (∀ c ∈ us, c.type ≠ t) → zs = [] ∧ b = b' ∧ us = vs := by
    intro zs us vs b b' heq hb' hus
    cases zs with
    | nil =>
      obtain ⟨rfl, rfl⟩ := List.cons.inj heq
      exact ⟨rfl, rfl, rfl⟩
    | cons z zs =>
      obtain ⟨-, rfl⟩ := List.cons.inj heq
      exact absurd hb' (hus b' (List.mem_append_right _ List.mem_cons_self))
  rcases List.append_eq_append_iff.mp h with ⟨zs, rfl, heq⟩ | ⟨zs, rfl, heq⟩
  · obtain ⟨rfl, rfl, rfl⟩ := hlast heq ha' hys
    exact ⟨(List.append_nil _).symm, rfl, rfl⟩
  · obtain ⟨rfl, rfl, rfl⟩ := hlast heq ha hys'
    exact ⟨List.append_nil _, rfl, rfl⟩

section Accepted
variable {bs : Bytes} {as before after : List Attribute} {fp : Attribute} {r : CStunMessageReader} (digests : Digests)

/-- What the code decides, by the last FINGERPRINT of the message. -/
theorem isFingerprintAttributeValid_iff (h : Accepted bs (before ++ fp :: after) r)
    (htype : fp.type = STUN_ATTRIBUTE_FINGERPRINT) (hafter : ∀ b ∈ after, b.type ≠ STUN_ATTRIBUTE_FINGERPRINT) :
    @isFingerprintAttributeValid digests.withCrc32Type r = true ↔
      fp.value.length = 4 ∧ ofBe32 fp.value = fingerprintOf (bs.take (bs.length - 8)) := by
  by_cases hsize : fp.value.length = 4
  · have hvalid := @Accepted.isFingerprintAttributeValid_split bs r digests.withCrc32Type before after fp h htype
      hafter hsize
    have hcrc : (digests.withCrc32Type).crc32 (bs.take (bs.length - 8)) =
        UInt32.ofBitVec (Crc.crc32 (bs.take (bs.length - 8))) := crc32Type_eq _
    rw [hcrc] at hvalid
    rw [hvalid, decide_eq_true_eq, fingerprintOf]
    exact ⟨fun heq => ⟨hsize, heq⟩, fun heq => heq.2⟩
  · have hlookup := h.lookup_split (htype ▸ hafter)
    rw [htype] at hlookup
    have hother : (entryAt before fp).size ≠ 4 := by
      intro heq
      rw [← fp.toNat_length] at hsize
      exact hsize (congrArg UInt16.toNat heq)
    have hinvalid : @isFingerprintAttributeValid digests.withCrc32Type r = false := by
      simp only [isFingerprintAttributeValid, hlookup]
      exact if_pos (Or.inr (Or.inl hother))
    rw [hinvalid]
    exact iff_of_false Bool.false_ne_true fun heq => hsize heq.1

theorem isFingerprintAttributeValid_none (h : Accepted bs as r)
    (hnone : ¬ ∃ a ∈ as, a.type = STUN_ATTRIBUTE_FINGERPRINT) :
    @isFingerprintAttributeValid digests.withCrc32Type r = false := by
  have hlookup : r.mapAttributes.lookup STUN_ATTRIBUTE_FINGERPRINT = none := by
    rw [h.lookup_eq]
    exact layout_find?_eq_none _ fun a ha htype => hnone ⟨a, ha, htype⟩
  simp only [isFingerprintAttributeValid, hlookup]

/-- The bytes before an attribute that ends the message, and the bytes the checksum covers. -/
theorem covered_of_last (h : Accepted bs (before ++ [fp]) r) (hsize : fp.value.length = 4) :
    STUN_HEADER_SIZE + (body before).length = bs.length - 8 := by
  have hbody := congrArg List.length h.message.body_eq
  have hlength := h.message.length_eq
  simp only [List.length_drop, body_append, body_cons, body_nil, List.append_nil, List.length_append,
    Attribute.bytes_length, Attribute.extent, hsize] at hbody
  have hpad : paddingFor 4 = 0 := rfl
  omega

end Accepted

/-- For every reader that was fed a whole message: the code accepts exactly the messages that end in their fingerprint,
if and only if no FINGERPRINT with attributes behind it happens to fit. -/
theorem fingerprint_last_iff [Platform] (digests : Digests) {cap : Option Nat} {r₀ : CStunMessageReader}
    (h₀ : Fresh cap r₀) (pieces : List Bytes) (hstate : (feed pieces r₀).getState = .bodyValidated) :
    ∃ as, Message r₀.fAllowLegacyFormat pieces.flatten as ∧
      ((@isFingerprintAttributeValid digests.withCrc32Type (feed pieces r₀) = true ↔
          EndsWithFingerprint pieces.flatten as) ↔
        ¬ ForgedFingerprint pieces.flatten as) := by
  obtain ⟨as', hmessage, h⟩ := feed_validated h₀ pieces hstate
  refine ⟨as', hmessage, ?_⟩
  by_cases hsome : ∃ a ∈ as', a.type = STUN_ATTRIBUTE_FINGERPRINT
  · obtain ⟨before, fp, after, rfl, htype, hafter⟩ := exists_last hsome
    rw [isFingerprintAttributeValid_iff digests h htype hafter]
    cases after with
    | nil =>
      have hends : EndsWithFingerprint pieces.flatten (before ++ [fp]) ↔
          fp.value.length = 4 ∧ ofBe32 fp.value = fingerprintOf (pieces.flatten.take (pieces.flatten.length - 8)) := by
        constructor
        · rintro ⟨before', fp', heq, htype', hsize, hvalue⟩
          obtain ⟨rfl, rfl, -⟩ := last_split_unique heq htype hafter htype' (by simp)
          rw [covered_of_last h hsize] at hvalue
          exact ⟨hsize, hvalue⟩
        · rintro ⟨hsize, hvalue⟩
          exact ⟨before, fp, rfl, htype, hsize, by rw [covered_of_last h hsize]; exact hvalue⟩
      have hgenuine : ¬ ForgedFingerprint pieces.flatten (before ++ [fp]) := by
        rintro ⟨before', fp', after', heq, hne, htype', hafter', -⟩
        obtain ⟨-, -, hnil⟩ := last_split_unique heq htype hafter htype' hafter'
        exact hne hnil.symm
      simp only [hends, hgenuine, not_false_eq_true]
    | cons b after =>
      have hnotLast : ¬ EndsWithFingerprint pieces.flatten (before ++ fp :: b :: after) := by
        rintro ⟨before', fp', heq, htype', -⟩
        obtain ⟨-, -, hcons⟩ := last_split_unique heq htype hafter htype' (by simp)
        cases hcons
      have hforged : ForgedFingerprint pieces.flatten (before ++ fp :: b :: after) ↔
          fp.value.length = 4 ∧ ofBe32 fp.value = fingerprintOf (pieces.flatten.take (pieces.flatten.length - 8)) := by
        constructor
        · rintro ⟨before', fp', after', heq, -, htype', hafter', hvalue⟩
          obtain ⟨-, rfl, -⟩ := last_split_unique heq htype hafter htype' hafter'
          exact hvalue
        · exact fun hvalue => ⟨before, fp, b :: after, rfl, List.cons_ne_nil _ _, htype, hafter, hvalue⟩
      simp only [hnotLast, hforged, iff_false]
  · have hnotLast : ¬ EndsWithFingerprint pieces.flatten as' := by
      rintro ⟨before, fp, rfl, htype, -⟩
      exact hsome ⟨fp, List.mem_append_right _ List.mem_cons_self, htype⟩
    have hgenuine : ¬ ForgedFingerprint pieces.flatten as' := by
      rintro ⟨before, fp, after, rfl, -, htype, -⟩
      exact hsome ⟨fp, List.mem_append_right _ List.mem_cons_self, htype⟩
    simp only [isFingerprintAttributeValid_none digests h hsome, hnotLast, hgenuine, Bool.false_eq_true,
      not_false_eq_true]

/-! ## A fingerprint with an attribute behind it -/

def printAttribute (value : UInt32) : Attribute :=
  attributeOf STUN_ATTRIBUTE_FINGERPRINT (be32 value) (by rw [be32_length]; decide)

/-- A FINGERPRINT of the given value, and an attribute without a value behind it. -/
def printedBefore (before : List Attribute) (value : UInt32) (t : UInt16) : List Attribute :=
  before ++ [printAttribute value, attributeOf t [] (by decide)]

def printedFrame (ty : UInt16) (transid : StunTransactionId) (before : List Attribute) (value : UInt32) (t : UInt16) : Bytes :=
  frame ty (UInt16.ofNat (body (printedBefore before value t)).length) transid (body (printedBefore before value t))

/-- What the checksum covers does not depend on the value. -/
def coveredFrame (ty : UInt16) (transid : StunTransactionId) (before : List Attribute) : Bytes :=
  frame ty (UInt16.ofNat ((body before).length + 12)) transid
    (body before ++ be16 STUN_ATTRIBUTE_FINGERPRINT ++ be16 4)

section Forged
variable {ty t : UInt16} {transid : StunTransactionId} {before : List Attribute} {value : UInt32}

theorem printedBefore_body : body (printedBefore before value t) =
    body before ++ be16 STUN_ATTRIBUTE_FINGERPRINT ++ be16 4 ++ (be32 value ++ be16 t ++ be16 0) := by
  have hprint : (printAttribute value).bytes = be16 STUN_ATTRIBUTE_FINGERPRINT ++ be16 4 ++ be32 value := by
    simp [printAttribute, attributeOf, Attribute.bytes, paddingFor, zeros]
  have hempty : (attributeOf t [] (by decide)).bytes = be16 t ++ be16 0 := by
    simp [attributeOf, Attribute.bytes, paddingFor, zeros]
  rw [printedBefore, body_append, body_cons, body_cons, body_nil, hprint, hempty]
  simp [List.append_assoc]

theorem printedBefore_length : (body (printedBefore before value t)).length = (body before).length + 12 := by
  simp [printedBefore_body]

theorem printedFrame_covered :
    (printedFrame ty transid before value t).take ((printedFrame ty transid before value t).length - 8) =
      coveredFrame ty transid before := by
  have hsplit : printedFrame ty transid before value t =
      coveredFrame ty transid before ++ (be32 value ++ be16 t ++ be16 0) := by
    rw [printedFrame, printedBefore_length, printedBefore_body, coveredFrame, frame_append]
  have hlength : (be32 value ++ be16 t ++ be16 0).length = 8 := by simp
  rw [hsplit, List.length_append, hlength, Nat.add_sub_cancel, List.take_left]

/-- Behind any attributes of any message such a FINGERPRINT can be written, and is accepted. -/
theorem fingerprint_forged [Platform] (digests : Digests) (htop : ty &&& 0xc000 = 0) (hcount : before.length ≤ 28)
    (hsize : (body before).length + 12 ≤ MAX_STUN_MESSAGE_SIZE) (ht : t ≠ STUN_ATTRIBUTE_FINGERPRINT)
    (hvalue : value = fingerprintOf (coveredFrame ty transid before)) :
    (feed [printedFrame ty transid before value t] (freshReader true)).getState = .bodyValidated ∧
      Message true (printedFrame ty transid before value t) (printedBefore before value t) ∧
      @isFingerprintAttributeValid digests.withCrc32Type
        (feed [printedFrame ty transid before value t] (freshReader true)) = true ∧
      ¬ EndsWithFingerprint (printedFrame ty transid before value t) (printedBefore before value t) := by
  have hmessage : Message true (printedFrame ty transid before value t) (printedBefore before value t) :=
    frame_message htop transid (Or.inr rfl) _ (by rw [printedBefore, List.length_append]; exact Nat.add_le_add_right hcount 2)
      (by rw [printedBefore_length]; exact hsize)
  have haccepted := feed_message (freshReader_fresh true) hmessage
  have hafter : ∀ b ∈ [attributeOf t [] (by decide)], b.type ≠ STUN_ATTRIBUTE_FINGERPRINT := by
    intro b hb
    rw [List.mem_singleton.mp hb]
    exact ht
  refine ⟨haccepted.state, hmessage, ?_, ?_⟩
  · rw [isFingerprintAttributeValid_iff digests haccepted rfl hafter, printedFrame_covered, ← hvalue]
    exact ⟨be32_length value, ofBe32_be32 value⟩
  · rintro ⟨before', fp, heq, htype, -⟩
    obtain ⟨-, -, hcons⟩ := last_split_unique heq rfl hafter htype (by simp)
    cases hcons

end Forged

/-- A Binding request that ends in its fingerprint. -/
theorem fingerprint_last_iff_request :
    let _ := Platform.armeabi
    let bs := frame 1 8 (StunTransactionId.ofBytes (be32 STUN_COOKIE)) (printAttribute 0).bytes
    @isFingerprintAttributeValid requestDigests.withCrc32Type (feed [bs] (freshReader true)) = true ↔
      EndsWithFingerprint bs [printAttribute 0] := by
  intro platform bs
  have hmessage : Message true bs [printAttribute 0] :=
    frame_message (by decide) _ (Or.inr rfl) [printAttribute 0] (by simp) (by decide)
  have haccepted := feed_message (freshReader_fresh true) hmessage
  obtain ⟨as, has, hiff⟩ := fingerprint_last_iff requestDigests (freshReader_fresh true) [bs] haccepted.state
  rw [List.flatten_singleton] at has hiff
  obtain rfl := has.unique hmessage
  apply hiff.mpr
  rintro ⟨before, fp, after, heq, hne, -⟩
  cases before with
  | nil => exact hne (List.cons.inj heq).2.symm
  | cons a before =>
    have hlength := congrArg List.length heq
    simp at hlength

/-- The request with a FINGERPRINT that fits and an empty attribute behind it. -/
theorem fingerprint_followed :
    let _ := Platform.armeabi
    let transid := StunTransactionId.ofBytes (be32 STUN_COOKIE)
    let bs := printedFrame 1 transid [] 0xe915373f 0x8022
    (feed [bs] (freshReader true)).getState = .bodyValidated ∧
      ∃ as, Message true bs as ∧
        ¬ (@isFingerprintAttributeValid requestDigests.withCrc32Type (feed [bs] (freshReader true)) = true ↔
          EndsWithFingerprint bs as) := by
  intro platform transid bs
  have hvalue : (0xe915373f : UInt32) = fingerprintOf (coveredFrame 1 transid []) := by decide +kernel
  obtain ⟨hstate, hmessage, hvalid, hnotLast⟩ := fingerprint_forged requestDigests (by decide) (by decide) (by decide)
    (show (0x8022 : UInt16) ≠ STUN_ATTRIBUTE_FINGERPRINT by decide) hvalue
  exact ⟨hstate, _, hmessage, fun hiff => hnotLast (hiff.mp hvalid)⟩

end NatTester.Guarantees
