import NatTester.Guarantees.ReaderGrammar
import NatTester.Wire.Calls

/-!
# The list in UNKNOWN-ATTRIBUTES

`AddUnknownAttributes` writes the ids as they lie in memory and never pads. What
a reader finds is the list with the octets of each id exchanged, and it accepts
the message only where the list is even or was made even.
-/
namespace NatTester.Guarantees
open NatTester.Lib NatTester.Source NatTester.Wire CStunMessageReader CStunMessageBuilder

/-- Octets read as big-endian 16-bit numbers. -/
def beWords : Bytes → Option (List UInt16)
  | [] => some []
  | [_] => none
  | hi :: lo :: rest => (beWords rest).map (ofBe16 [hi, lo] :: ·)

def buildUnknownAttributes [Platform] (fLegacyMode : Bool) (msgType : StunMessageType) (msgClass : StunMessageClass)
    (transid : StunTransactionId) (ids : List UInt16) : Hr CStunMessageBuilder (Option CBuffer) := do
  setLegacyMode fLegacyMode
  addHeader msgType msgClass
  addTransactionId transid
  addUnknownAttributes (some ids)
  getResult

/-- A fresh reader accepts the bytes, and the value of their UNKNOWN-ATTRIBUTES attribute is the list `ids`. -/
def ListsUnknown [Platform] (ids : List UInt16) (bs : Bytes) : Prop :=
  let result := addBytes bs CStunMessageReader.new
  result.1 = .bodyValidated ∧
    ∃ attrib, result.2.getAttributeByType STUN_ATTRIBUTE_UNKNOWNATTRIBUTES = .ok attrib ∧
      beWords (result.2.dataAt attrib.offset.toNat attrib.size.toNat) = some ids

/-- What the call appends to the message. -/
def unknownBody (fLegacyMode : Bool) (ids : List UInt16) : Bytes :=
  be16 STUN_ATTRIBUTE_UNKNOWNATTRIBUTES ++ be16 (UInt16.ofNat (idOctets (writtenIds fLegacyMode ids)).length) ++
    idOctets (writtenIds fLegacyMode ids)

theorem beWords_be16 (ids : List UInt16) : beWords (ids.flatMap be16) = some ids := by
  induction ids with
  | nil => rfl
  | cons id ids ih =>
    obtain ⟨hi, lo, hoctets⟩ := List.length_eq_two.mp (be16_length id)
    have hid : ofBe16 [hi, lo] = id := by rw [← hoctets, ofBe16_be16]
    rw [List.flatMap_cons, hoctets, List.cons_append, List.cons_append, List.nil_append, beWords, ih, hid]
    rfl

/-- The ids lie in memory with their octets exchanged. -/
theorem beWords_idOctets (ids : List UInt16) : beWords (idOctets ids) = some (ids.map htons) := by
  have hoctets : idOctets ids = (ids.map htons).flatMap be16 := by
    rw [idOctets, List.flatMap_map]
    simp only [be16_htons]
  rw [hoctets, beWords_be16]

theorem writtenIds_length (fLegacyMode : Bool) (ids : List UInt16) :
    (writtenIds fLegacyMode ids).length = ids.length + if fLegacyMode = true ∧ ids.length % 2 = 1 then 1 else 0 := by
  rw [writtenIds]
  cases fLegacyMode <;> rcases Nat.mod_two_eq_zero_or_one ids.length with h | h <;> simp [h]

/-- The repeated id is one of the list. -/
theorem mem_writtenIds {fLegacyMode : Bool} {ids : List UInt16} (hne : ids ≠ []) {id : UInt16} :
    id ∈ writtenIds fLegacyMode ids ↔ id ∈ ids := by
  rw [writtenIds]
  split
  · have hlast : ids.getLastD 0 ∈ ids := by
      rw [List.getLastD_eq_getLast?, List.getLast?_eq_some_getLast hne]
      exact List.getLast_mem hne
    rw [List.mem_append, List.mem_singleton]
    exact ⟨fun h => h.elim (fun h => h) fun h => h ▸ hlast, Or.inl⟩
  · exact Iff.rfl

theorem unknownBody_length (fLegacyMode : Bool) (ids : List UInt16) :
    (unknownBody fLegacyMode ids).length = 4 + (writtenIds fLegacyMode ids).length * 2 := by
  simp only [unknownBody, List.length_append, be16_length, idOctets_length]

section Built
variable [Platform] {fLegacyMode : Bool} {method : StunMessageType} {msgClass : StunMessageClass}
  {transid : StunTransactionId} {ids : List UInt16}

theorem buildUnknownAttributes_contents (fLegacyMode : Bool) (msgType : StunMessageType)
    (msgClass : StunMessageClass) (transid : StunTransactionId) (hne : ids ≠ []) (hfits : ids.length ≤ 390) :
    ∃ buf b, Proc.exec (buildUnknownAttributes fLegacyMode msgType msgClass transid ids) CStunMessageBuilder.new =
        (.ok (some buf), b) ∧
      buf.contents = frame (msgTypeField msgType msgClass) (UInt16.ofNat (unknownBody fLegacyMode ids).length) transid
        (unknownBody fLegacyMode ids) := by
  have hlen := writtenIds_length fLegacyMode ids
  have hwritten : (idOctets (writtenIds fLegacyMode ids)).length < 2 ^ 16 := by
    rw [idOctets_length]
    split at hlen <;> omega
  have hadd := @addUnknownAttributes_appends _ none fLegacyMode transid
    (frame (msgTypeField msgType msgClass) 0 transid []) ids hne hwritten
  rw [List.append_assoc, List.append_assoc, ← List.append_assoc (be16 _), frame_append, List.nil_append] at hadd
  have hrun := (@setLegacyMode_built none false _ [] fLegacyMode).bind fun _ =>
    started_built StunTransactionId.zero (by simp) msgType msgClass
      (hadd.bind fun _ => getResult_built (msgTypeField msgType msgClass) 0 transid _)
  obtain ⟨result, b, heq, -, buf, rfl, hcontents⟩ := hrun _ new_built
  exact ⟨buf, b, heq, hcontents⟩

/-- An odd number of ids, unpadded, is no message: its length is no multiple of four. -/
theorem unknownBody_refused (hodd : (writtenIds fLegacyMode ids).length % 2 = 1)
    (hfits : (writtenIds fLegacyMode ids).length ≤ 390) (ty : UInt16) (ws : List UInt16) :
    ¬ ListsUnknown ws
      (frame ty (UInt16.ofNat (unknownBody fLegacyMode ids).length) transid (unknownBody fLegacyMode ids)) := by
  rintro ⟨hstate, -⟩
  have hlen := unknownBody_length fLegacyMode ids
  obtain ⟨hresult, hparsed⟩ := addBytes_parsed fresh_new fresh_new.parsed
    (frame ty (UInt16.ofNat (unknownBody fLegacyMode ids).length) transid (unknownBody fLegacyMode ids))
  rw [List.nil_append] at hparsed
  obtain ⟨as, message⟩ := (parsed_state fresh_new hparsed).2.2.mp (hresult.symm.trans hstate)
  have haligned := message.good.aligned
  rw [frame_declaredLength _ _ _ (by omega)] at haligned
  omega

/-- An even number of them is, and a reader finds the exchanged ids. -/
theorem unknownBody_listed (hmethod : method < 0x1000) (hclass : msgClass ≠ .invalidMessageClass)
    (heven : (writtenIds fLegacyMode ids).length % 2 = 0) (hfits : (writtenIds fLegacyMode ids).length ≤ 390)
    (ws : List UInt16) :
    ListsUnknown ws (frame (msgTypeField method msgClass) (UInt16.ofNat (unknownBody fLegacyMode ids).length) transid
      (unknownBody fLegacyMode ids)) ↔ (writtenIds fLegacyMode ids).map htons = ws := by
  have hoctets := idOctets_length (writtenIds fLegacyMode ids)
  have haligned : (idOctets (writtenIds fLegacyMode ids)).length % 4 = 0 := by omega
  let a := attributeOf STUN_ATTRIBUTE_UNKNOWNATTRIBUTES (idOctets (writtenIds fLegacyMode ids))
    (by simp only [MAX_STUN_ATTRIBUTE_SIZE]; omega)
  have hbody : unknownBody fLegacyMode ids = body [a] := by
    simp [a, unknownBody, body, Attribute.bytes, attributeOf, paddingFor_of_aligned haligned, zeros]
  have hsize : (body [a]).length ≤ MAX_STUN_MESSAGE_SIZE := by
    rw [← hbody, unknownBody_length, MAX_STUN_MESSAGE_SIZE]
    omega
  obtain ⟨hstate, hread⟩ := read_frame fresh_new transid (Or.inr rfl) hmethod hclass [a] (by simp) hsize
  have hacc : Accepted _ ([] ++ a :: []) _ := hread.accepted
  have hlookup := hacc.lookup_split (by simp)
  have hdata := hacc.dataAt_split
  have hattrib : getAttributeByType STUN_ATTRIBUTE_UNKNOWNATTRIBUTES (addBytes (frame (msgTypeField method msgClass)
      (UInt16.ofNat (body [a]).length) transid (body [a])) CStunMessageReader.new).2 = .ok (entryAt [] a) := by
    rw [show STUN_ATTRIBUTE_UNKNOWNATTRIBUTES = a.type from rfl, getAttributeByType, hlookup]
  have hvalue : a.value.length = (entryAt [] a).size.toNat := a.toNat_length.symm
  rw [hvalue] at hdata
  rw [hbody]
  constructor
  · rintro ⟨-, attrib, hfound, hwords⟩
    obtain rfl : entryAt [] a = attrib := Except.ok.inj (hattrib.symm.trans hfound)
    rw [hdata, show a.value = idOctets (writtenIds fLegacyMode ids) from rfl, beWords_idOctets] at hwords
    exact Option.some.inj hwords
  · rintro rfl
    refine ⟨hstate, entryAt [] a, hattrib, ?_⟩
    rw [hdata]
    exact beWords_idOctets _

end Built

/-- The message lists the ids exactly when the octets of each one are equal and no padding is missing. -/
theorem unknown_attributes_iff [Platform] (fLegacyMode : Bool) (method : StunMessageType)
    (msgClass : StunMessageClass) (transid : StunTransactionId) (ids : List UInt16) (hmethod : method < 0x1000)
    (hclass : msgClass ≠ .invalidMessageClass) (hne : ids ≠ []) (hfits : ids.length ≤ 390) :
    (∃ buf b, Proc.exec (buildUnknownAttributes fLegacyMode method msgClass transid ids) CStunMessageBuilder.new =
        (.ok (some buf), b) ∧ ListsUnknown (writtenIds fLegacyMode ids) buf.contents) ↔
      (∀ id ∈ ids, htons id = id) ∧ (fLegacyMode = true ∨ ids.length % 2 = 0) := by
  obtain ⟨buf, b, hrun, hcontents⟩ :=
    buildUnknownAttributes_contents fLegacyMode method msgClass transid hne hfits
  have hlists : (∃ buf b, Proc.exec (buildUnknownAttributes fLegacyMode method msgClass transid ids)
      CStunMessageBuilder.new = (.ok (some buf), b) ∧ ListsUnknown (writtenIds fLegacyMode ids) buf.contents) ↔
      ListsUnknown (writtenIds fLegacyMode ids) (frame (msgTypeField method msgClass)
        (UInt16.ofNat (unknownBody fLegacyMode ids).length) transid (unknownBody fLegacyMode ids)) := by
    rw [← hcontents]
    constructor
    · rintro ⟨buf', b', hrun', hlists⟩
      obtain ⟨rfl⟩ : buf = buf' := by
        rw [hrun] at hrun'
        cases hrun'
        rfl
      exact hlists
    · exact fun hlists => ⟨buf, b, hrun, hlists⟩
  have hlen := writtenIds_length fLegacyMode ids
  have hbound : (writtenIds fLegacyMode ids).length ≤ 390 := by split at hlen <;> omega
  have hsame : (writtenIds fLegacyMode ids).map htons = writtenIds fLegacyMode ids ↔ ∀ id ∈ ids, htons id = id := by
    have hmap := List.map_inj_left (l := writtenIds fLegacyMode ids) (f := htons) (g := id)
    rw [List.map_id] at hmap
    rw [hmap]
    simp only [mem_writtenIds hne, id_eq]
  rw [hlists]
  rcases Nat.mod_two_eq_zero_or_one (writtenIds fLegacyMode ids).length with heven | hodd
  · have hpadded : fLegacyMode = true ∨ ids.length % 2 = 0 := by
      cases fLegacyMode with
      | true => exact Or.inl rfl
      | false => exact Or.inr (by simpa [hlen] using heven)
    rw [unknownBody_listed hmethod hclass heven hbound, hsame]
    exact ⟨fun h => ⟨h, hpadded⟩, fun h => h.1⟩
  · refine ⟨fun h => absurd h (unknownBody_refused hodd hbound _ _), fun ⟨_, hpadded⟩ => ?_⟩
    rcases hpadded with rfl | heven
    · simp only [true_and] at hlen
      split at hlen <;> omega
    · rw [if_neg (by omega)] at hlen
      omega

/-- Two ids with equal octets each, as no attribute of the protocol has. -/
theorem unknown_attributes_iff_mirrored :
    let _ := Platform.armeabi
    ∃ buf b, Proc.exec (buildUnknownAttributes false StunMsgTypeBinding .failureResponse StunTransactionId.zero
        [0x0101, 0x8080]) CStunMessageBuilder.new = (.ok (some buf), b) ∧
      ListsUnknown [0x0101, 0x8080] buf.contents :=
  let _ := Platform.armeabi
  (unknown_attributes_iff false StunMsgTypeBinding .failureResponse StunTransactionId.zero [0x0101, 0x8080]
    (by decide) (by decide) (by decide) (by decide)).mpr
    ⟨List.forall_mem_cons.mpr ⟨by decide, List.forall_mem_singleton.mpr (by decide)⟩, Or.inr rfl⟩

/-- One id, as the server sends it: its own reader refuses the response. -/
theorem unknown_attributes_single :
    let _ := Platform.armeabi
    ¬ ∃ buf b, Proc.exec (buildUnknownAttributes false StunMsgTypeBinding .failureResponse StunTransactionId.zero
        [0x0016]) CStunMessageBuilder.new = (.ok (some buf), b) ∧
      ListsUnknown (writtenIds false [0x0016]) buf.contents := by
  intro platform
  rintro ⟨buf, b, hrun, hlists⟩
  obtain ⟨buf', b', hrun', hcontents⟩ := buildUnknownAttributes_contents false StunMsgTypeBinding
    .failureResponse StunTransactionId.zero (show ([0x0016] : List UInt16) ≠ [] by decide) (by decide)
  rw [hrun] at hrun'
  cases hrun'
  rw [hcontents] at hlists
  exact unknownBody_refused rfl (by decide) _ _ hlists

end NatTester.Guarantees
