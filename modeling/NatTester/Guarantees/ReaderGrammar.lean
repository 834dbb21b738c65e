import NatTester.Wire.Accessors

/-!
# The reader and the message grammar

One call of `AddBytes` on a fresh reader decides the message grammar, and the
attribute table lists the attributes of the message. Feeding the same bytes in
pieces comes to the same, and a caller that never hands over more than
`HowManyBytesNeeded` asks for reads exactly one message.
-/
namespace NatTester.Guarantees
open NatTester.Lib NatTester.Source NatTester.Wire CStunMessageReader

/-- A fresh reader with `SetAllowLegacyFormat` called on it. -/
def freshReader (fAllowLegacyFormat : Bool) : CStunMessageReader :=
  CStunMessageReader.new.setAllowLegacyFormat fAllowLegacyFormat

theorem freshReader_fresh (fAllowLegacyFormat : Bool) : Fresh none (freshReader fAllowLegacyFormat) :=
  fresh_new.setAllowLegacyFormat fAllowLegacyFormat

/-- The entry of the attribute `a`, when the attributes `before` precede it. -/
structure EntryOf (before : List Attribute) (a : Attribute) (x : StunAttribute) : Prop where
  type_eq : x.attributeType = a.type
  size_eq : x.size.toNat = a.value.length
  offset_eq : x.offset.toNat = STUN_HEADER_SIZE + (body before).length + 4

/-- The attribute table lists `as` in wire order; a type finds its last attribute. -/
structure TableLists [Platform] (as : List Attribute) (r : CStunMessageReader) : Prop where
  count : r.getAttributeCount = as.length
  entry : ∀ before a after, as = before ++ a :: after → ∃ x, EntryOf before a x ∧
    (∀ index : Int32, index.toInt = before.length → (r.getAttributeByIndex index).1 = .ok x) ∧
    ((∀ b ∈ after, b.type ≠ a.type) → r.getAttributeByType a.type = .ok x)
  beyond : ∀ index : Int32, as.length ≤ index.toInt → (r.getAttributeByIndex index).1 = .error E_FAIL
  absent : ∀ t, (∀ a ∈ as, a.type ≠ t) → r.getAttributeByType t = .error E_FAIL

variable {bs : Bytes} {as : List Attribute} {r : CStunMessageReader}

/-- The table of every accepted message lists its attributes. -/
theorem table_lists [Platform] (h : Accepted bs as r) : TableLists as r where
  count := h.getAttributeCount_eq
  entry := by
    rintro before a after rfl
    refine ⟨entryAt before a, ⟨rfl, a.toNat_length, h.entryAt_offset⟩, ?_, ?_⟩
    · intro index hindex
      rw [h.getAttributeByIndex_eq (by omega), layout_split, hindex, Int.toNat_natCast,
        List.getElem?_append_right (by simp), layout_length, Nat.sub_self, List.getElem?_cons_zero]
    · intro hafter
      rw [getAttributeByType, h.lookup_split hafter]
  beyond := by
    intro index hindex
    have hnone : (layout STUN_HEADER_SIZE as)[index.toInt.toNat]? = none := by
      rw [List.getElem?_eq_none_iff, layout_length]
      omega
    rw [h.getAttributeByIndex_eq (by omega), hnone]
  absent := by
    intro t ht
    rw [getAttributeByType, h.lookup_eq, layout_find?_eq_none _ ht]

/-- The state a reader is in is decided by the bytes it was fed. -/
theorem parsed_state {cap : Option Nat} {r₀ : CStunMessageReader} (h₀ : Fresh cap r₀) (h : Parsed cap r₀ bs r) :
    (r.state = .headerNotRead ↔ bs.length < STUN_HEADER_SIZE) ∧
    (r.state = .headerValidated ↔ STUN_HEADER_SIZE ≤ bs.length ∧ GoodHeader r₀.fAllowLegacyFormat bs ∧
      bs.length < STUN_HEADER_SIZE + declaredLength bs) ∧
    (r.state = .bodyValidated ↔ ∃ as, Message r₀.fAllowLegacyFormat bs as) := by
  cases h with
  | headerNotRead stream p holds short =>
    have hno : ¬ ∃ as, Message r₀.fAllowLegacyFormat bs as := by
      rintro ⟨as, m⟩
      have := m.length_eq
      omega
    simp only [h₀.state, short, Nat.not_le.mpr short, hno, reduceCtorEq, false_and]
    simp
  | headerValidated stream p holds header good short =>
    have hno : ¬ ∃ as, Message r₀.fAllowLegacyFormat bs as := by
      rintro ⟨as, m⟩
      have := m.length_eq
      omega
    simp [header, good, short, hno]
  | bodyValidated stream p holds as message =>
    have hlength := message.length_eq
    have header : STUN_HEADER_SIZE ≤ bs.length := by omega
    refine ⟨?_, ?_, ?_⟩
    · simp [header]
    · simp [hlength]
    · exact ⟨fun _ => ⟨as, message⟩, fun _ => rfl⟩
  | parseError r header notShort notMessage state =>
    simp only [state, reduceCtorEq, false_iff]
    refine ⟨Nat.not_lt.mpr header, ?_, fun ⟨as, m⟩ => notMessage as m⟩
    rintro ⟨-, good, short⟩
    have := notShort good
    omega

/-- A reader that was fed a whole message has accepted that message. -/
theorem feed_validated [Platform] {cap : Option Nat} {r₀ : CStunMessageReader} (h₀ : Fresh cap r₀) (pieces : List Bytes)
    (hstate : (feed pieces r₀).getState = .bodyValidated) :
    ∃ as, Message r₀.fAllowLegacyFormat pieces.flatten as ∧ Accepted pieces.flatten as (feed pieces r₀) := by
  have hparsed := feed_parsed h₀ pieces
  obtain ⟨as, hmessage⟩ := (parsed_state h₀ hparsed).2.2.mp hstate
  obtain ⟨as', h⟩ := hparsed.accepted h₀ hstate
  obtain rfl := h.message.unique hmessage
  exact ⟨as', hmessage, h⟩

/-- One `AddBytes` on a fresh reader decides the grammar. -/
theorem addBytes_decides_grammar [Platform] (bs : Bytes) (fAllowLegacyFormat : Bool) :
    let result := addBytes bs (freshReader fAllowLegacyFormat)
    result.2.getState = result.1 ∧
    (result.1 = .headerNotRead ↔ bs.length < STUN_HEADER_SIZE) ∧
    (result.1 = .headerValidated ↔ STUN_HEADER_SIZE ≤ bs.length ∧ GoodHeader fAllowLegacyFormat bs ∧
      bs.length < STUN_HEADER_SIZE + declaredLength bs) ∧
    (result.1 = .bodyValidated ↔ ∃ as, Message fAllowLegacyFormat bs as) ∧
    (result.1 = .parseError ↔ STUN_HEADER_SIZE ≤ bs.length ∧
      ¬ (GoodHeader fAllowLegacyFormat bs ∧ bs.length < STUN_HEADER_SIZE + declaredLength bs) ∧
      ¬ ∃ as, Message fAllowLegacyFormat bs as) ∧
    ∀ as, Message fAllowLegacyFormat bs as → TableLists as result.2 := by
  intro result
  have h₀ := freshReader_fresh fAllowLegacyFormat
  obtain ⟨hresult, hparsed⟩ := addBytes_parsed h₀ h₀.parsed bs
  rw [List.nil_append] at hparsed
  obtain ⟨h1, h2, h3⟩ := parsed_state h₀ hparsed
  have hstate : result.1 = result.2.state := hresult
  rw [hstate]
  refine ⟨rfl, h1, h2, h3, ?_, fun as m => table_lists (addBytes_message h₀ m).2⟩
  have hallow : (freshReader fAllowLegacyFormat).fAllowLegacyFormat = fAllowLegacyFormat := rfl
  rw [hallow] at h2 h3
  rw [← h3, ← not_lt, ← h1]
  cases hcase : result.2.state with
  | headerNotRead => simp
  | headerValidated =>
    have := h2.mp hcase
    simp [this.2]
  | bodyValidated => simp
  | parseError =>
    have hno : ¬ (GoodHeader fAllowLegacyFormat bs ∧ bs.length < STUN_HEADER_SIZE + declaredLength bs) := by
      rintro ⟨good, short⟩
      have hle : STUN_HEADER_SIZE ≤ bs.length := by
        rw [← not_lt, ← h1, hcase]
        simp
      have := h2.mpr ⟨hle, good, short⟩
      rw [hcase] at this
      cases this
    simp [hno]

/-! ## Feeding a message in pieces -/

variable {cap : Option Nat} {r₀ : CStunMessageReader}

/-- What the callers see of a reader besides its state. -/
structure SameMessage (r r' : CStunMessageReader) : Prop where
  type_eq : r.getMessageType = r'.getMessageType
  class_eq : r.getMessageClass = r'.getMessageClass
  transid_eq : r.getTransactionId = r'.getTransactionId
  legacy_eq : r.isMessageLegacyFormat = r'.isMessageLegacyFormat
  table_eq : r.mapAttributes = r'.mapAttributes

/-- Two readers fed the same bytes agree. -/
theorem parsed_agree {r' : CStunMessageReader} (h₀ : Fresh cap r₀) (h : Parsed cap r₀ bs r)
    (h' : Parsed cap r₀ bs r') : r.state = r'.state ∧ (r.state ≠ .parseError → SameMessage r r') := by
  have hs := parsed_state h₀ h
  have hs' := parsed_state h₀ h'
  have hstate : r.state = r'.state := by
    have e1 := hs.1.trans hs'.1.symm
    have e2 := hs.2.1.trans hs'.2.1.symm
    have e3 := hs.2.2.trans hs'.2.2.symm
    cases hr : r.state <;> cases hr' : r'.state <;> simp [hr, hr'] at e1 e2 e3 ⊢
  refine ⟨hstate, fun hne => ?_⟩
  cases h with
  | parseError r header notShort notMessage state => exact absurd state hne
  | headerNotRead stream p holds short =>
    cases h' with
    | headerNotRead stream' p' holds' short' => exact ⟨rfl, rfl, rfl, rfl, rfl⟩
    | headerValidated stream' p' holds' header' good' short' => omega
    | bodyValidated stream' p' holds' as' message' => exact absurd (h₀.state.symm.trans hstate) (by simp)
    | parseError r header notShort notMessage state => omega
  | headerValidated stream p holds header good short =>
    cases h' with
    | headerNotRead stream' p' holds' short' => omega
    | headerValidated stream' p' holds' header' good' short' => exact ⟨rfl, rfl, rfl, rfl, rfl⟩
    | bodyValidated stream' p' holds' as' message' => cases hstate
    | parseError r header notShort notMessage state => exact absurd (hstate.trans state) (by simp)
  | bodyValidated stream p holds as message =>
    cases h' with
    | headerNotRead stream' p' holds' short' => exact absurd (hstate.trans h₀.state) (by simp)
    | headerValidated stream' p' holds' header' good' short' => cases hstate
    | bodyValidated stream' p' holds' as' message' =>
      obtain rfl := message.unique message'
      exact ⟨rfl, rfl, rfl, rfl, rfl⟩
    | parseError r header notShort notMessage state => exact absurd (hstate.trans state) (by simp)

/-- `AddBytes` takes a branch for too many bytes, behind the header or behind the body. -/
def tooManyBytes [Platform] (pData : Bytes) (r : CStunMessageReader) : Prop :=
  match Proc.exec (appendBytes pData) r with
  | (.error _, _) => False
  | (.ok _, r) =>
    let currentSize := r.stream.getSize
    let h := enterHeader currentSize r
    let b := enterBody currentSize h
    (h.state = .headerValidated ∧ currentSize > h.msgLength.toNat + STUN_HEADER_SIZE) ∨
    (b.state = .bodyValidated ∧ currentSize > b.msgLength.toNat + STUN_HEADER_SIZE)

/-- Every piece is non-empty and no longer than `HowManyBytesNeeded` asks for. -/
def Paced [Platform] : List Bytes → CStunMessageReader → Prop
  | [], _ => True
  | pData :: pieces, r =>
    pData ≠ [] ∧ pData.length ≤ r.howManyBytesNeeded.toNat ∧ Paced pieces (addBytes pData r).2

/-- `HowManyBytesNeeded` by the bytes fed so far. -/
theorem howManyBytesNeeded_eq (h₀ : Fresh cap r₀) (h : Parsed cap r₀ bs r) :
    r.howManyBytesNeeded.toNat =
      if r.state = .headerNotRead then STUN_HEADER_SIZE - bs.length
      else if r.state = .headerValidated then STUN_HEADER_SIZE + declaredLength bs - bs.length
      else 0 := by
  have hofInt : ∀ a b : Nat, b ≤ a → a < 2 ^ 16 → (UInt16.ofInt ((a : Int) - b)).toNat = a - b := by
    intro a b hle hlt
    have hmod : (((a : Int) - b) % 2 ^ 16).toNat = a - b := by omega
    rw [UInt16.ofInt, hmod, UInt16.toNat_ofNat_of_lt' (show a - b < 2 ^ 16 by omega)]
  cases h with
  | headerNotRead stream p holds short =>
    rw [if_pos h₀.state]
    simp only [howManyBytesNeeded, h₀.state, holds.getSize_eq]
    exact hofInt STUN_HEADER_SIZE bs.length (by omega) (by decide)
  | headerValidated stream p holds header good short =>
    have hbound := good.bounded
    have hdeclared := withHeader_msgLength (r := r₀) header
    simp only [howManyBytesNeeded, holds.getSize_eq, hdeclared]
    have := hofInt (declaredLength bs + STUN_HEADER_SIZE) bs.length (by omega) (by
      simp only [STUN_HEADER_SIZE, MAX_STUN_MESSAGE_SIZE] at *
      omega)
    push_cast at this
    simp [this, Nat.add_comm]
  | bodyValidated stream p holds as message => rfl
  | parseError r header notShort notMessage state => simp [howManyBytesNeeded, state]

/-- One paced call: no too-many branch, and the message is not passed over. -/
theorem paced_step [Platform] (h₀ : Fresh cap r₀) (h : Parsed cap r₀ bs r) {pData : Bytes} (hne : pData ≠ [])
    (hneeded : pData.length ≤ r.howManyBytesNeeded.toNat) :
    ¬ tooManyBytes pData r ∧ (bs ++ pData).length ≤ STUN_HEADER_SIZE + MAX_STUN_MESSAGE_SIZE ∧
      (STUN_HEADER_SIZE ≤ (bs ++ pData).length →
        (bs ++ pData).length ≤ STUN_HEADER_SIZE + declaredLength (bs ++ pData)) := by
  have hpos := List.length_pos_iff.mpr hne
  rw [howManyBytesNeeded_eq h₀ h] at hneeded
  cases h with
  | headerNotRead stream p holds short =>
    simp only [h₀.state, ↓reduceIte] at hneeded
    obtain ⟨stream', holds', hrun⟩ := exec_appendBytes (r := { r₀ with stream }) holds hne
    have hlength : (bs ++ pData).length ≤ STUN_HEADER_SIZE := by
      rw [List.length_append]
      omega
    refine ⟨?_, by omega, fun _ => by omega⟩
    simp only [tooManyBytes, hrun, holds'.getSize_eq]
    omega
  | headerValidated stream p holds header good short =>
    simp only [reduceCtorEq, ↓reduceIte] at hneeded
    obtain ⟨stream', holds', hrun⟩ := exec_appendBytes
      (r := { withHeader bs r₀ with stream, state := .headerValidated }) holds hne
    have hdeclared := declaredLength_append header pData
    have header' : STUN_HEADER_SIZE ≤ (bs ++ pData).length := by
      rw [List.length_append]
      omega
    have hlength : (bs ++ pData).length ≤ STUN_HEADER_SIZE + declaredLength (bs ++ pData) := by
      rw [hdeclared, List.length_append]
      omega
    have good' := (GoodHeader.append_iff header pData).mpr good
    have hbound := good'.bounded
    refine ⟨?_, by omega, fun _ => hlength⟩
    have hmsgLength := withHeader_msgLength (r := r₀) header'
    have hstay : enterHeader (bs ++ pData).length
        { withHeader bs r₀ with stream := stream', state := .headerValidated } =
          { withHeader (bs ++ pData) r₀ with stream := stream', state := .headerValidated } := by
      rw [enterHeader, if_neg (by simp), withHeader_append header]
    simp only [tooManyBytes, hrun, holds'.getSize_eq, hstay, hmsgLength]
    rintro (⟨-, hgt⟩ | ⟨hbody, hgt⟩)
    · omega
    · rcases enterBody_cases h₀ holds' header' good' rfl hlength with ⟨-, henter⟩ | ⟨as, -, henter⟩ |
        ⟨hstate, -, -⟩
      · rw [henter] at hbody
        cases hbody
      · simp only [henter, withAttributes_msgLength, hmsgLength] at hgt
        omega
      · rw [hstate] at hbody
        cases hbody
  | bodyValidated stream p holds as message =>
    simp only [reduceCtorEq, ↓reduceIte] at hneeded
    omega
  | parseError r header notShort notMessage state =>
    simp only [state, reduceCtorEq, ↓reduceIte] at hneeded
    omega

theorem Paced.split [Platform] {before after : List Bytes} {pData : Bytes} {r : CStunMessageReader}
    (h : Paced (before ++ pData :: after) r) :
    Paced before r ∧ pData ≠ [] ∧ pData.length ≤ (feed before r).howManyBytesNeeded.toNat := by
  induction before generalizing r with
  | nil => exact ⟨trivial, h.1, h.2.1⟩
  | cons piece before ih =>
    obtain ⟨hne, hneeded, hrest⟩ := h
    obtain ⟨hbefore, hpiece⟩ := ih hrest
    exact ⟨⟨hne, hneeded, hbefore⟩, hpiece⟩

/-- Feeding a fresh reader in pieces ends where feeding it at once does, and a
paced caller frames one message. -/
theorem pieces_equal_one_shot [Platform] (h₀ : Fresh cap r₀) (pieces : List Bytes) :
    let inPieces := feed pieces r₀
    let atOnce := (addBytes pieces.flatten r₀).2
    inPieces.getState = atOnce.getState ∧
    (atOnce.getState ≠ .parseError → SameMessage inPieces atOnce) ∧
    (inPieces.getState ≠ .bodyValidated → inPieces.getState ≠ .parseError →
      0 < inPieces.howManyBytesNeeded.toNat) ∧
    (Paced pieces r₀ →
      pieces.flatten.length ≤ STUN_HEADER_SIZE + MAX_STUN_MESSAGE_SIZE ∧
      (STUN_HEADER_SIZE ≤ pieces.flatten.length →
        pieces.flatten.length ≤ STUN_HEADER_SIZE + declaredLength pieces.flatten) ∧
      ∀ before pData after, pieces = before ++ pData :: after → ¬ tooManyBytes pData (feed before r₀)) := by
  intro inPieces atOnce
  have hparsed : Parsed cap r₀ pieces.flatten inPieces := feed_parsed h₀ pieces
  have honce : Parsed cap r₀ pieces.flatten atOnce := by
    simpa using (addBytes_parsed h₀ h₀.parsed pieces.flatten).2
  obtain ⟨hstate, hsame⟩ := parsed_agree h₀ hparsed honce
  refine ⟨hstate, fun hne => hsame (hstate ▸ hne), ?_, ?_⟩
  · intro hbody herror
    rw [howManyBytesNeeded_eq h₀ hparsed]
    obtain ⟨h1, h2, -⟩ := parsed_state h₀ hparsed
    simp only [getState] at hbody herror
    cases hcase : inPieces.state with
    | headerNotRead =>
      have := h1.mp hcase
      simp only [↓reduceIte]
      omega
    | headerValidated =>
      have := h2.mp hcase
      simp only [reduceCtorEq, ↓reduceIte]
      omega
    | bodyValidated => exact absurd hcase hbody
    | parseError => exact absurd hcase herror
  · intro hpaced
    have hlast : pieces = [] ∨ ∃ before pData, pieces = before ++ [pData] := by
      rcases List.eq_nil_or_concat pieces with h | ⟨before, pData, h⟩
      · exact .inl h
      · exact .inr ⟨before, pData, by rw [h, List.concat_eq_append]⟩
    have hsteps : ∀ before pData after, pieces = before ++ pData :: after →
        ¬ tooManyBytes pData (feed before r₀) ∧
        (before.flatten ++ pData).length ≤ STUN_HEADER_SIZE + MAX_STUN_MESSAGE_SIZE ∧
        (STUN_HEADER_SIZE ≤ (before.flatten ++ pData).length →
          (before.flatten ++ pData).length ≤ STUN_HEADER_SIZE + declaredLength (before.flatten ++ pData)) := by
      intro before pData after hsplit
      obtain ⟨-, hne, hneeded⟩ := Paced.split (hsplit ▸ hpaced)
      exact paced_step h₀ (feed_parsed h₀ before) hne hneeded
    refine ⟨?_, ?_, fun before pData after hsplit => (hsteps before pData after hsplit).1⟩
    · rcases hlast with rfl | ⟨before, pData, rfl⟩
      · simp
      · simpa using (hsteps before pData [] rfl).2.1
    · rcases hlast with rfl | ⟨before, pData, rfl⟩
      · simp
      · simpa using (hsteps before pData [] rfl).2.2

/-- A Binding request with two attributes, cut in its header, between and inside its attributes. -/
def requestPieces : List Bytes :=
  [[0, 1, 0, 0x14, 0x21, 0x12], [0xA4, 0x42, 1, 2, 3, 4, 5, 6, 7, 8, 9, 10, 11, 12], [0x00, 0x03, 0x00, 0x04],
    [0, 0, 0, 6, 0x80, 0x22, 0x00, 0x05, 0x73], [0x74, 0x75, 0x6e, 0x63, 0, 0, 0]]

/-- The pieces are read as the message they are cut from. -/
theorem pieces_equal_one_shot_request :
    letI := Platform.armeabi
    let inPieces := feed requestPieces (freshReader true)
    let atOnce := (addBytes requestPieces.flatten (freshReader true)).2
    inPieces.getState = .bodyValidated ∧ SameMessage inPieces atOnce ∧ Paced requestPieces (freshReader true) ∧
      requestPieces.flatten.length ≤ STUN_HEADER_SIZE + declaredLength requestPieces.flatten := by
  let _ := Platform.armeabi
  have hread : (addBytes requestPieces.flatten (freshReader true)).2.getState = .bodyValidated := by decide
  have hpaced : Paced requestPieces (freshReader true) := by
    refine ⟨by decide, by decide, by decide, by decide, by decide, by decide, by decide, by decide, by decide, by decide,
      trivial⟩
  obtain ⟨hstate, hsame, -, hframe⟩ := pieces_equal_one_shot (freshReader_fresh true) requestPieces
  exact ⟨hstate.trans hread, hsame (by rw [hread]; decide), hpaced, (hframe hpaced).2.1 (by decide)⟩

end NatTester.Guarantees
