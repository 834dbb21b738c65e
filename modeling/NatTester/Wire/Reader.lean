import NatTester.Source.FastHashInvariant
import NatTester.Source.StunReader
import NatTester.Wire.Message
import Mathlib.Tactic.IntervalCases

/-!
# The reader accepts the message grammar

What `AddBytes` leaves in a reader, as a function of the bytes fed so far: the
parse state by the grammar, the header fields by the header, the attribute table
and its counters by the layout of the body.
-/
namespace NatTester.Wire
open NatTester.Lib NatTester.Source CStunMessageReader

variable {cap : Option Nat} {bs : Bytes} {p : Nat} {r : CStunMessageReader}

theorem exec_onStream {α : Type} {m : Hr CDataStream α} {s : CDataStream} {out : Except HRESULT α}
    (h : Proc.exec m r.stream = (out, s)) : Proc.exec (onStream m) r = (out, { r with stream := s }) := by
  rw [onStream, Proc.exec_zoom, h]

/-! ## The header -/

/-- The type field of a message. -/
def typeField (bs : Bytes) : UInt16 := ofBe16 (slice 0 2 bs)

/-- A reader that has read the header of `bs`. -/
def withHeader (bs : Bytes) (r : CStunMessageReader) : CStunMessageReader :=
  { r with
    fMessageIsLegacyFormat := !decide (slice 4 4 bs = be32 STUN_COOKIE)
    msgTypeNormalized := normalizeType (typeField bs)
    msgLength := ofBe16 (slice 2 2 bs)
    transactionid := StunTransactionId.ofBytes (slice 4 16 bs)
    msgClass := classOf (typeField bs) }

theorem withHeader_msgLength (h : STUN_HEADER_SIZE ≤ bs.length) :
    (withHeader bs r).msgLength.toNat = declaredLength bs :=
  toNat_ofBe16 (slice_length_of_le (by simp only [STUN_HEADER_SIZE] at h; omega))

theorem withHeader_append (h : STUN_HEADER_SIZE ≤ bs.length) (more : Bytes) :
    withHeader (bs ++ more) r = withHeader bs r := by
  have h20 : 20 ≤ bs.length := h
  simp only [withHeader, typeField]
  rw [slice_append_left more (by omega), slice_append_left more (by omega),
    slice_append_left more (by omega), slice_append_left more (by omega)]

/-- The two class bits always make one of the four classes. -/
theorem classOf_ne_invalid (msgType : UInt16) : classOf msgType ≠ .invalidMessageClass := by
  have hbits : ∀ b : BitVec 16, b &&& 0x0110#16 = 0x0000#16 ∨ b &&& 0x0110#16 = 0x0010#16 ∨
      b &&& 0x0110#16 = 0x0100#16 ∨ b &&& 0x0110#16 = 0x0110#16 := by
    intro b
    have h4 := Bool.eq_false_or_eq_true (b.getLsbD 4)
    have h8 := Bool.eq_false_or_eq_true (b.getLsbD 8)
    rcases h4 with h4 | h4 <;> rcases h8 with h8 | h8
    · refine .inr (.inr (.inr ?_))
      ext i hi
      interval_cases i <;> simp_all [← BitVec.getLsbD_eq_getElem]
    · refine .inr (.inl ?_)
      ext i hi
      interval_cases i <;> simp_all [← BitVec.getLsbD_eq_getElem]
    · refine .inr (.inr (.inl ?_))
      ext i hi
      interval_cases i <;> simp_all [← BitVec.getLsbD_eq_getElem]
    · refine .inl ?_
      ext i hi
      interval_cases i <;> simp_all [← BitVec.getLsbD_eq_getElem]
  have h := hbits msgType.toBitVec
  simp only [classOf, STUN_IS_REQUEST, STUN_IS_INDICATION, STUN_IS_SUCCESS_RESP, STUN_IS_ERR_RESP,
    ← UInt16.toBitVec_inj, UInt16.toBitVec_and]
  rcases h with h | h | h | h <;> simp [h]

theorem ofBe16_toBitVec (b₀ b₁ : UInt8) : (ofBe16 [b₀, b₁]).toBitVec = b₀.toBitVec ++ b₁.toBitVec := by
  apply BitVec.eq_of_toNat_eq
  have h₀ := b₀.toNat_lt
  have h₁ := b₁.toNat_lt
  have hor := Nat.shiftLeft_add_eq_or_of_lt (show b₁.toNat < 2 ^ 8 from h₁) b₀.toNat
  have hval : (ofBe16 [b₀, b₁]).toNat = b₁.toNat + 256 * b₀.toNat := by
    rw [toNat_ofBe16 rfl]
    simp [ofBeOctets, ofLeOctets]
  rw [BitVec.toNat_append]
  simp only [UInt16.toNat_toBitVec, UInt8.toNat_toBitVec]
  rw [← hor, hval, Nat.shiftLeft_eq]
  omega

theorem topBits_iff (h : 2 ≤ bs.length) : typeField bs &&& 0xc000 = 0 ↔ bs.getD 0 0 &&& 0xC0 = 0 := by
  match bs, h with
  | b₀ :: b₁ :: rest, _ =>
    have hfield : typeField (b₀ :: b₁ :: rest) = ofBe16 [b₀, b₁] := rfl
    rw [hfield, List.getD_cons_zero, ← UInt16.toBitVec_inj, ← UInt8.toBitVec_inj, UInt16.toBitVec_and,
      UInt8.toBitVec_and, ofBe16_toBitVec]
    change (_ ++ _) &&& (0xC0#8 ++ 0#8) = 0#8 ++ 0#8 ↔ _ &&& 0xC0#8 = 0#8
    rw [BitVec.and_append, BitVec.and_zero, BitVec.append_left_inj]

/-- The header `ReadHeader` lets pass. -/
theorem headerValid_iff (h : STUN_HEADER_SIZE ≤ bs.length) (fAllow : Bool) :
    GoodHeader fAllow bs ↔
      (typeField bs &&& 0xc000 == 0 && ofBe16 (slice 2 2 bs) % 4 == 0 &&
        (fAllow || !!decide (slice 4 4 bs = be32 STUN_COOKIE))) = true ∧
      ¬ (ofBe16 (slice 2 2 bs)).toNat > MAX_STUN_MESSAGE_SIZE := by
  have h20 : 20 ≤ bs.length := h
  have hlen : (ofBe16 (slice 2 2 bs)).toNat = declaredLength bs :=
    toNat_ofBe16 (slice_length_of_le (by omega))
  have hmod : ofBe16 (slice 2 2 bs) % 4 = 0 ↔ declaredLength bs % 4 = 0 := by
    rw [← UInt16.toNat_inj, UInt16.toNat_mod, hlen]
    rfl
  have htop := @topBits_iff bs (by omega)
  simp only [Bool.and_eq_true, Bool.or_eq_true, beq_iff_eq, Bool.not_not, decide_eq_true_eq, hlen, hmod,
    htop, Nat.not_lt]
  constructor
  · rintro ⟨h1, h2, h3, h4⟩
    exact ⟨⟨⟨h1, h2⟩, h4.symm⟩, h3⟩
  · rintro ⟨⟨⟨h1, h2⟩, h4⟩, h3⟩
    exact ⟨h1, h2, h3, h4.symm⟩

theorem exec_readHeader (h : CDataStream.Holds cap bs p r.stream) (h20 : STUN_HEADER_SIZE ≤ bs.length) :
    Proc.exec readHeader r =
      Proc.exec (checkHeader (typeField bs) (ofBe16 (slice 2 2 bs)) (slice 4 16 bs))
        { r with stream := { r.stream with pos := 20 } } := by
  have hlen : 20 ≤ bs.length := h20
  have hat : ∀ q, q ≤ 20 → CDataStream.Holds cap bs q { r.stream with pos := q } :=
    fun q hq => h.at_pos (by omega)
  have hseek := exec_onStream (CDataStream.exec_seekDirect 0 r.stream)
  have htype := exec_onStream (r := { r with stream := { r.stream with pos := 0 } })
    ((hat 0 (by omega)).exec_readUint16 (by omega))
  have hlength := exec_onStream (r := { r with stream := { r.stream with pos := 2 } })
    ((hat 2 (by omega)).exec_readUint16 (by omega))
  have hid := exec_onStream (r := { r with stream := { r.stream with pos := 4 } })
    ((hat 4 (by omega)).exec_read (n := STUN_TRANSACTION_ID_LENGTH) hlen)
  unfold readHeader
  rw [Proc.exec_bind_ok hseek, Proc.exec_bind_ok htype, Proc.exec_bind_ok hlength, Proc.exec_bind_ok hid,
    ntohs_ofLeOctets (slice_length_of_le (by omega)), ntohs_ofLeOctets (slice_length_of_le (by omega))]
  rfl

/-- The cookie of a header, as `ReadHeader` compares it. -/
theorem cookie_iff (h20 : STUN_HEADER_SIZE ≤ bs.length) :
    ntohl (UInt32.ofNat (ofLeOctets ((slice 4 16 bs).take 4))) = STUN_COOKIE ↔
      slice 4 4 bs = be32 STUN_COOKIE := by
  have hlen : 20 ≤ bs.length := h20
  have htake : (slice 4 16 bs).take 4 = slice 4 4 bs := by simp [slice, List.take_take]
  have h4 : (slice 4 4 bs).length = 4 := slice_length_of_le (by omega)
  rw [htake, ntohl_ofLeOctets h4, ofBe32_eq_iff h4]

theorem exec_readHeader_good (h : CDataStream.Holds cap bs p r.stream) (h20 : STUN_HEADER_SIZE ≤ bs.length)
    (good : GoodHeader r.fAllowLegacyFormat bs) :
    Proc.exec readHeader r =
      (.ok (), { withHeader bs r with stream := { r.stream with pos := 20 } }) := by
  obtain ⟨hvalid, hbound⟩ := (headerValid_iff h20 r.fAllowLegacyFormat).mp good
  rw [exec_readHeader h h20, checkHeader]
  simp only [Proc.exec_bind, Proc.exec_modify, Proc.exec_get, exec_chkIf, cookie_iff h20, hvalid, hbound,
    classOf_ne_invalid, if_false, Bool.true_eq_false]
  rfl

theorem exec_readHeader_bad (h : CDataStream.Holds cap bs p r.stream) (h20 : STUN_HEADER_SIZE ≤ bs.length)
    (bad : ¬ GoodHeader r.fAllowLegacyFormat bs) : ∃ hr r', Proc.exec readHeader r = (.error hr, r') := by
  rw [headerValid_iff h20, not_and] at bad
  rw [exec_readHeader h h20, checkHeader]
  simp only [Proc.exec_bind, Proc.exec_modify, Proc.exec_get, exec_chkIf, cookie_iff h20]
  cases hvalid : (typeField bs &&& 0xc000 == 0 && ofBe16 (slice 2 2 bs) % 4 == 0 &&
      (r.fAllowLegacyFormat || !!decide (slice 4 4 bs = be32 STUN_COOKIE))) with
  | false => exact ⟨_, _, rfl⟩
  | true =>
    simp only [Bool.true_eq_false, if_false, if_pos (not_not.mp (bad hvalid))]
    exact ⟨_, _, rfl⟩

/-! ## The attributes -/

/-- `i` is the position of the last `t` in `types`, or -1. -/
def LastIndex (t : UInt16) (types : List UInt16) (i : Int) : Prop :=
  (i = -1 ∧ t ∉ types) ∨ ∃ n : Nat, i = n ∧ types[n]? = some t ∧ t ∉ types.drop (n + 1)

theorem LastIndex.push {t : UInt16} {types : List UInt16} {i : Int} (h : LastIndex t types i) (u : UInt16) :
    LastIndex t (types ++ [u]) (if u = t then (types.length : Int) else i) := by
  by_cases hu : u = t
  · rw [if_pos hu]
    refine .inr ⟨types.length, rfl, ?_, ?_⟩
    · simp [hu]
    · simp
  · rw [if_neg hu]
    rcases h with ⟨hi, hmem⟩ | ⟨n, hi, hn, hmem⟩
    · exact .inl ⟨hi, by simp [hmem, Ne.symm hu]⟩
    · obtain ⟨hlt, -⟩ := List.getElem?_eq_some_iff.mp hn
      refine .inr ⟨n, hi, ?_, ?_⟩
      · rw [List.getElem?_append_left hlt, hn]
      · rw [List.drop_append_of_le_length (by omega)]
        simp [hmem, Ne.symm hu]

/-- The attribute table and the counters of a reader, after the entries `xs`. -/
structure Table (r : CStunMessageReader) (xs : List StunAttribute) : Prop where
  filled : r.mapAttributes.Filled (xs.map fun x => ⟨x.attributeType, x⟩)
  fsize : r.mapAttributes.fsize = MAX_NUM_ATTRIBUTES
  tsize : r.mapAttributes.tsize = 53
  count : r.countAttributes = xs.length
  fingerprint : LastIndex STUN_ATTRIBUTE_FINGERPRINT (xs.map (·.attributeType)) r.indexFingerprint
  integrity : LastIndex STUN_ATTRIBUTE_MESSAGEINTEGRITY (xs.map (·.attributeType)) r.indexMessageIntegrity

theorem Table.withStream {xs : List StunAttribute} (t : Table r xs) (stream : CDataStream) :
    Table { r with stream } xs :=
  ⟨t.filled, t.fsize, t.tsize, t.count, t.fingerprint, t.integrity⟩

theorem Table.length_le {xs : List StunAttribute} (t : Table r xs) : xs.length ≤ MAX_NUM_ATTRIBUTES := by
  have h := t.filled.length_le
  rw [List.length_map] at h
  rwa [← t.fsize]

theorem Table.int {xs : List StunAttribute} (t : Table r xs) : r.mapAttributes.fsize ≤ INT_ELEMENTS := by
  rw [t.fsize]
  decide

/-- A reader with one more attribute in its table. -/
def recordAttribute (r : CStunMessageReader) (x : StunAttribute) : CStunMessageReader :=
  countAttribute x { r with mapAttributes := (r.mapAttributes.insert x.attributeType x).2 }

theorem Table.record {xs : List StunAttribute} (t : Table r xs) (h : xs.length < MAX_NUM_ATTRIBUTES)
    (x : StunAttribute) : Table (recordAttribute r x) (xs ++ [x]) where
  filled := by
    have hroom : (xs.map fun x => (⟨x.attributeType, x⟩ : Item UInt16 StunAttribute)).length <
        r.mapAttributes.fsize := by
      rw [List.length_map, t.fsize]
      exact h
    rw [List.map_append]
    exact (t.filled.insert hroom t.int x.attributeType x).2
  fsize := (FastHashBase.insert_fsize ..).trans t.fsize
  tsize := (FastHashBase.insert_tsize ..).trans t.tsize
  count := by simp [recordAttribute, countAttribute, t.count]
  fingerprint := by
    have hpush := t.fingerprint.push x.attributeType
    simpa [recordAttribute, countAttribute, t.count] using hpush
  integrity := by
    have hpush := t.integrity.push x.attributeType
    simpa [recordAttribute, countAttribute, t.count] using hpush

theorem exec_insertAttribute {xs : List StunAttribute} (t : Table r xs) (x : StunAttribute) :
    Proc.exec (insertAttribute x) r =
      if xs.length < MAX_NUM_ATTRIBUTES then (.ok (), recordAttribute r x) else (.error E_FAIL, r) := by
  have hlen : (xs.map fun x => (⟨x.attributeType, x⟩ : Item UInt16 StunAttribute)).length = xs.length :=
    List.length_map _
  by_cases h : xs.length < MAX_NUM_ATTRIBUTES
  · have hins := (t.filled.insert (by rw [hlen, t.fsize]; exact h) t.int x.attributeType x).1
    rw [if_pos h]
    simp [insertAttribute, Proc.exec_bind, hins, recordAttribute]
  · have hfull : xs.length = MAX_NUM_ATTRIBUTES := Nat.le_antisymm t.length_le (Nat.le_of_not_lt h)
    have hins := t.filled.insert_full (by rw [hlen, t.fsize, hfull]) x.attributeType x
    rw [if_neg h]
    simp [insertAttribute, Proc.exec_bind, hins]

variable [Platform]

theorem exec_takeAttribute_ok {xs : List StunAttribute} (t : Table r xs)
    (h : CDataStream.Holds cap bs p r.stream) (hbs : bs.length < 2 ^ 32) (x : StunAttribute)
    (hroom : xs.length < MAX_NUM_ATTRIBUTES) (hsize : x.size.toNat ≤ MAX_STUN_ATTRIBUTE_SIZE)
    (hfits : p + x.size.toNat + paddingFor x.size.toNat ≤ bs.length) :
    Proc.exec (takeAttribute x) r =
      (.ok (4 + x.size.toNat + paddingFor x.size.toNat),
        { recordAttribute r x with
          stream := { r.stream with pos := p + x.size.toNat + paddingFor x.size.toNat } }) := by
  have hins := exec_insertAttribute t x
  have hvalue := h.exec_skip (n := x.size.toNat) (by omega)
  have hpad := (h.at_pos (q := p + x.size.toNat) (by omega)).exec_skip (n := paddingFor x.size.toNat) (by omega)
  have hpadding : (if x.size.toNat % 4 ≠ 0 then 4 - x.size.toNat % 4 else 0) = paddingFor x.size.toNat := by
    unfold paddingFor
    split <;> omega
  rw [if_pos hroom] at hins
  rw [if_pos (by omega)] at hvalue hpad
  have hvalue' := exec_onStream (r := recordAttribute r x) hvalue
  have hskip : Proc.exec
      (if paddingFor x.size.toNat > 0 then CDataStream.seekRelative (paddingFor x.size.toNat) else pure ())
      { r.stream with pos := p + x.size.toNat } =
        (.ok (), { r.stream with pos := p + x.size.toNat + paddingFor x.size.toNat }) := by
    by_cases hzero : paddingFor x.size.toNat > 0
    · rw [if_pos hzero, hpad]
    · have h0 : paddingFor x.size.toNat = 0 := by omega
      rw [if_neg hzero, h0]
      rfl
  have hskip' := exec_onStream
    (r := { recordAttribute r x with stream := { r.stream with pos := p + x.size.toNat } }) hskip
  unfold takeAttribute
  simp only [hpadding]
  rw [Proc.exec_bind_ok (exec_chkIf_false (not_not.mpr hsize) ..), Proc.exec_bind_ok hins,
    Proc.exec_bind_ok hvalue', Proc.exec_bind_ok hskip']
  rfl

theorem exec_takeAttribute_error {xs : List StunAttribute} (t : Table r xs)
    (h : CDataStream.Holds cap bs p r.stream) (hbs : bs.length < 2 ^ 16) (x : StunAttribute)
    (hnot : x.size.toNat ≤ MAX_STUN_ATTRIBUTE_SIZE → xs.length < MAX_NUM_ATTRIBUTES →
      ¬ p + x.size.toNat + paddingFor x.size.toNat ≤ bs.length) :
    ∃ hr r', Proc.exec (takeAttribute x) r = (.error hr, r') := by
  have hple := h.pos_le
  have hpadding : (if x.size.toNat % 4 ≠ 0 then 4 - x.size.toNat % 4 else 0) = paddingFor x.size.toNat := by
    unfold paddingFor
    split <;> omega
  have hpadle : paddingFor x.size.toNat < 4 := by
    unfold paddingFor
    omega
  unfold takeAttribute
  simp only [hpadding]
  by_cases hsize : x.size.toNat ≤ MAX_STUN_ATTRIBUTE_SIZE
  · rw [Proc.exec_bind_ok (exec_chkIf_false (not_not.mpr hsize) ..)]
    have hins := exec_insertAttribute t x
    by_cases hroom : xs.length < MAX_NUM_ATTRIBUTES
    · have hfits := hnot hsize hroom
      simp only [MAX_STUN_ATTRIBUTE_SIZE] at hsize
      rw [if_pos hroom] at hins
      rw [Proc.exec_bind_ok hins]
      have hvalue := h.exec_skip (n := x.size.toNat) (by omega)
      by_cases hfit : p + x.size.toNat ≤ bs.length
      · -- the value is there, so the padding is missing
        rw [if_pos hfit] at hvalue
        have hvalue' := exec_onStream (r := recordAttribute r x) hvalue
        have hpad := (h.at_pos hfit).exec_skip (n := paddingFor x.size.toNat) (by omega)
        rw [if_neg hfits] at hpad
        have hpad' := exec_onStream
          (r := { recordAttribute r x with stream := { r.stream with pos := p + x.size.toNat } }) hpad
        have hpos : paddingFor x.size.toNat > 0 := by omega
        rw [Proc.exec_bind_ok hvalue', if_pos hpos, Proc.exec_bind_error hpad']
        exact ⟨_, _, rfl⟩
      · rw [if_neg hfit] at hvalue
        have hvalue' := exec_onStream (r := recordAttribute r x) hvalue
        rw [Proc.exec_bind_error hvalue']
        exact ⟨_, _, rfl⟩
    · rw [if_neg hroom] at hins
      rw [Proc.exec_bind_error hins]
      exact ⟨_, _, rfl⟩
  · rw [Proc.exec_bind_error (exec_chkIf_true hsize ..)]
    exact ⟨_, _, rfl⟩

/-- The type and the length at the cursor, and what is done with them. -/
theorem exec_readAttribute (h : CDataStream.Holds cap bs p r.stream) (h4 : p + 4 ≤ bs.length) :
    Proc.exec readAttribute r =
      Proc.exec (takeAttribute ⟨ofBe16 (slice p 2 bs), ofBe16 (slice (p + 2) 2 bs), UInt16.ofNat (p + 4)⟩)
        { r with stream := { r.stream with pos := p + 4 } } := by
  have htype := exec_onStream (h.exec_readUint16 (by omega))
  have hlength := exec_onStream (r := { r with stream := { r.stream with pos := p + 2 } })
    ((h.at_pos (q := p + 2) (by omega)).exec_readUint16 (by omega))
  unfold readAttribute
  rw [Proc.exec_bind_ok htype, Proc.exec_bind_ok hlength, Proc.exec_bind_ok (Proc.exec_get _),
    ntohs_ofLeOctets (slice_length_of_le (by omega)), ntohs_ofLeOctets (slice_length_of_le (by omega))]

/-- A turn of the loop on a whole attribute. -/
theorem exec_readAttribute_ok {xs : List StunAttribute} {a : Attribute} {rest : Bytes} (t : Table r xs)
    (h : CDataStream.Holds cap bs p r.stream) (hbs : bs.length < 2 ^ 16) (hroom : xs.length < MAX_NUM_ATTRIBUTES)
    (hrest : bs.drop p = a.bytes ++ rest) :
    Proc.exec readAttribute r =
      (.ok a.extent,
        { recordAttribute r ⟨a.type, UInt16.ofNat a.value.length, UInt16.ofNat (p + 4)⟩ with
          stream := { r.stream with pos := p + a.extent } }) := by
  have hlen := congrArg List.length hrest
  have hext : a.extent = 4 + a.value.length + paddingFor a.value.length := rfl
  simp only [List.length_drop, List.length_append, Attribute.bytes_length] at hlen
  have htype : slice p 2 bs = be16 a.type := by
    rw [show p = p + 0 from rfl, ← slice_drop, hrest]
    simp [Attribute.bytes, slice, List.take_left' (be16_length _)]
  have hlength : slice (p + 2) 2 bs = be16 (UInt16.ofNat a.value.length) := by
    rw [← slice_drop, hrest, Attribute.bytes, List.append_assoc, List.append_assoc, List.append_assoc,
      slice_append_right _ _ _ _ (be16_length _).symm, List.take_left' (be16_length _)]
  rw [exec_readAttribute h (by omega), htype, hlength, ofBe16_be16, ofBe16_be16,
    exec_takeAttribute_ok (t.withStream { r.stream with pos := p + 4 }) (h.at_pos (by omega)) (by omega) _
      hroom (by rw [a.toNat_length]; exact a.value_le) (by rw [a.toNat_length]; omega), a.toNat_length, hext,
    Nat.add_assoc p, Nat.add_assoc p]
  rfl

/-- Otherwise a turn of the loop fails. -/
theorem exec_readAttribute_error {xs : List StunAttribute} (t : Table r xs)
    (h : CDataStream.Holds cap bs p r.stream) (hbs : bs.length < 2 ^ 16)
    (hnot : HasFirst (bs.drop p) → ¬ xs.length < MAX_NUM_ATTRIBUTES) :
    ∃ hr r', Proc.exec readAttribute r = (.error hr, r') := by
  by_cases h4 : p + 4 ≤ bs.length
  · rw [exec_readAttribute h h4]
    refine exec_takeAttribute_error (t.withStream { r.stream with pos := p + 4 }) (h.at_pos h4) hbs _
      fun hsize hroom hfits => ?_
    have hfirst : firstLength (bs.drop p) = (ofBe16 (slice (p + 2) 2 bs)).toNat := by
      rw [firstLength, slice_drop]
    refine hnot ⟨by rwa [hfirst], ?_⟩ hroom
    rw [hfirst, List.length_drop]
    simp only at hfits
    omega
  · have hple := h.pos_le
    unfold readAttribute
    have htype := CDataStream.exec_readUint16 r.stream
    rw [h.pos_eq, h.getSize_eq] at htype
    by_cases h2 : p + 2 ≤ bs.length
    · have hlength := CDataStream.exec_readUint16 { r.stream with pos := p + 2 }
      rw [(h.at_pos h2).getSize_eq, if_neg h4] at hlength
      rw [if_pos h2] at htype
      have hlength' := exec_onStream (r := { r with stream := { r.stream with pos := p + 2 } }) hlength
      rw [Proc.exec_bind_ok (exec_onStream htype), Proc.exec_bind_error hlength']
      exact ⟨_, _, rfl⟩
    · rw [if_neg h2] at htype
      rw [Proc.exec_bind_error (exec_onStream htype)]
      exact ⟨_, _, rfl⟩

/-- A reader with the attributes `as`, which start at `offset`, in its table. -/
def withAttributes (offset : Nat) (as : List Attribute) (r : CStunMessageReader) : CStunMessageReader :=
  (layout offset as).foldl recordAttribute r

omit [Platform] in
theorem withAttributes_update (offset : Nat) (as : List Attribute) (stream : CDataStream)
    (state : ReaderParseState) (r : CStunMessageReader) :
    withAttributes offset as { r with stream, state } = { withAttributes offset as r with stream, state } := by
  unfold withAttributes
  induction layout offset as generalizing r with
  | nil => rfl
  | cons x xs ih => exact ih (recordAttribute r x)

omit [Platform] in
theorem withAttributes_stream (offset : Nat) (as : List Attribute) (stream : CDataStream)
    (r : CStunMessageReader) :
    withAttributes offset as { r with stream } = { withAttributes offset as r with stream } := by
  unfold withAttributes
  induction layout offset as generalizing r with
  | nil => rfl
  | cons x xs ih => exact ih (recordAttribute r x)

omit [Platform] in
/-- Attributes change nothing but the table and its counters. -/
theorem withAttributes_frame {β : Type} (f : CStunMessageReader → β) (hf : ∀ r x, f (recordAttribute r x) = f r)
    (offset : Nat) (as : List Attribute) (r : CStunMessageReader) : f (withAttributes offset as r) = f r := by
  unfold withAttributes
  induction layout offset as generalizing r with
  | nil => rfl
  | cons x xs ih => exact (ih (recordAttribute r x)).trans (hf r x)

omit [Platform] in
@[simp] theorem withAttributes_msgLength (offset : Nat) (as : List Attribute) (r : CStunMessageReader) :
    (withAttributes offset as r).msgLength = r.msgLength := withAttributes_frame (·.msgLength) (fun _ _ => rfl) ..

omit [Platform] in
@[simp] theorem withAttributes_msgTypeNormalized (offset : Nat) (as : List Attribute) (r : CStunMessageReader) :
    (withAttributes offset as r).msgTypeNormalized = r.msgTypeNormalized :=
  withAttributes_frame (·.msgTypeNormalized) (fun _ _ => rfl) ..

omit [Platform] in
@[simp] theorem withAttributes_msgClass (offset : Nat) (as : List Attribute) (r : CStunMessageReader) :
    (withAttributes offset as r).msgClass = r.msgClass := withAttributes_frame (·.msgClass) (fun _ _ => rfl) ..

omit [Platform] in
@[simp] theorem withAttributes_transactionid (offset : Nat) (as : List Attribute) (r : CStunMessageReader) :
    (withAttributes offset as r).transactionid = r.transactionid :=
  withAttributes_frame (·.transactionid) (fun _ _ => rfl) ..

omit [Platform] in
@[simp] theorem withAttributes_fMessageIsLegacyFormat (offset : Nat) (as : List Attribute)
    (r : CStunMessageReader) :
    (withAttributes offset as r).fMessageIsLegacyFormat = r.fMessageIsLegacyFormat :=
  withAttributes_frame (·.fMessageIsLegacyFormat) (fun _ _ => rfl) ..

omit [Platform] in
theorem Table.withAttributes {xs : List StunAttribute} (t : Table r xs) (offset : Nat) (as : List Attribute)
    (h : xs.length + as.length ≤ MAX_NUM_ATTRIBUTES) :
    Table (withAttributes offset as r) (xs ++ layout offset as) := by
  induction as generalizing offset r xs with
  | nil => simpa [layout, Wire.withAttributes] using t
  | cons a as ih =>
    rw [List.length_cons] at h
    have hone := t.record (by omega) ⟨a.type, UInt16.ofNat a.value.length, UInt16.ofNat (offset + 4)⟩
    have hrest := ih hone (offset + a.extent) (by rw [List.length_append, List.length_singleton]; omega)
    simpa [layout, Wire.withAttributes, List.append_assoc] using hrest

theorem exec_readAttributes_end (h : CDataStream.Holds cap bs bs.length r.stream) (fuel : Nat) :
    Proc.exec (readAttributes bs.length fuel bs.length) r =
      (.ok bs.length, { r with stream := { r.stream with pos := bs.length } }) := by
  have hstay : ({ r.stream with pos := bs.length } : CDataStream) = r.stream := by
    rw [← h.pos_eq]
  rw [hstay]
  cases fuel with
  | zero => rfl
  | succ fuel => simp [readAttributes]

omit [Platform] in
theorem drop_ne_body_nil (h : p < bs.length) : bs.drop p ≠ body [] := by
  intro hbody
  have hlength := congrArg List.length hbody
  simp only [List.length_drop, body_nil, List.length_nil] at hlength
  omega

/-- The loop from a position of the body: it ends at the end of the message with
the attributes in the table, or stops before it when the rest is no body. -/
theorem exec_readAttributes (fuel : Nat) {xs : List StunAttribute} (t : Table r xs)
    (h : CDataStream.Holds cap bs p r.stream) (hbs : bs.length < 2 ^ 16) (hfuel : bs.length - p ≤ fuel) :
    (∃ as, bs.drop p = body as ∧ xs.length + as.length ≤ MAX_NUM_ATTRIBUTES ∧
      Proc.exec (readAttributes bs.length fuel p) r =
        (.ok bs.length, { withAttributes p as r with stream := { r.stream with pos := bs.length } })) ∨
    ((∀ as, bs.drop p = body as → ¬ xs.length + as.length ≤ MAX_NUM_ATTRIBUTES) ∧
      ∃ n r', n ≠ bs.length ∧ Proc.exec (readAttributes bs.length fuel p) r = (.ok n, r')) := by
  induction fuel generalizing r p xs with
  | zero =>
    have hple := h.pos_le
    obtain rfl : p = bs.length := by omega
    exact .inl ⟨[], by simp, by simpa using t.length_le, exec_readAttributes_end h 0⟩
  | succ fuel ih =>
    have hple := h.pos_le
    by_cases hend : p = bs.length
    · subst hend
      exact .inl ⟨[], by simp, by simpa using t.length_le, exec_readAttributes_end h (fuel + 1)⟩
    rw [readAttributes, if_pos (by omega)]
    by_cases hfirst : HasFirst (bs.drop p) ∧ xs.length < MAX_NUM_ATTRIBUTES
    · -- one attribute is taken, and the loop goes on behind it
      obtain ⟨hhas, hroom⟩ := hfirst
      have hsplit := first_bytes hhas
      generalize first (bs.drop p) hhas = a at hsplit
      rw [List.drop_drop] at hsplit
      have hlength := congrArg List.length hsplit
      simp only [List.length_drop, List.length_append, Attribute.bytes_length] at hlength
      have hextent := a.extent_pos
      have hturn := exec_readAttribute_ok t h hbs hroom hsplit
      have hrec := t.record hroom ⟨a.type, UInt16.ofNat a.value.length, UInt16.ofNat (p + 4)⟩
      have hnext := ih (hrec.withStream { r.stream with pos := p + a.extent })
        (h.at_pos (q := p + a.extent) (by omega)) (by omega)
      simp only [List.length_append, List.length_singleton] at hnext
      simp only [Proc.exec_bind, Proc.exec_outcome, hturn]
      rcases hnext with ⟨as, hbody, hcount, hrun⟩ | ⟨hno, n, r', hn, hrun⟩
      · refine .inl ⟨a :: as, by rw [hsplit, hbody, body_cons], by rw [List.length_cons]; omega, ?_⟩
        rw [hrun, withAttributes_stream]
        rfl
      · refine .inr ⟨?_, n, r', hn, hrun⟩
        intro as hbody hcount
        cases as with
        | nil => exact drop_ne_body_nil (Nat.lt_of_le_of_ne hple hend) hbody
        | cons b as =>
          obtain ⟨-, hrest⟩ := Attribute.bytes_append_inj (hsplit.symm.trans hbody)
          rw [List.length_cons] at hcount
          exact hno as hrest (by omega)
    · obtain ⟨hr, r', hturn⟩ := exec_readAttribute_error t h hbs fun hhas => fun hroom => hfirst ⟨hhas, hroom⟩
      right
      refine ⟨?_, p, r', hend, ?_⟩
      · intro as hbody hcount
        cases as with
        | nil => exact drop_ne_body_nil (Nat.lt_of_le_of_ne hple hend) hbody
        | cons a as =>
          rw [List.length_cons] at hcount
          exact hfirst ⟨(hasFirst_of_eq hbody).2, by omega⟩
      · simp [Proc.exec_bind, hturn]

theorem exec_readBody (t : Table r []) (h : CDataStream.Holds cap bs p r.stream) (hbs : bs.length < 2 ^ 16)
    (h20 : STUN_HEADER_SIZE ≤ bs.length) :
    (∃ as, bs.drop STUN_HEADER_SIZE = body as ∧ as.length ≤ MAX_NUM_ATTRIBUTES ∧
      Proc.exec readBody r =
        (.ok (), { withAttributes STUN_HEADER_SIZE as r with stream := { r.stream with pos := bs.length } })) ∨
    ((∀ as, bs.drop STUN_HEADER_SIZE = body as → ¬ as.length ≤ MAX_NUM_ATTRIBUTES) ∧
      ∃ hr r', Proc.exec readBody r = (.error hr, r')) := by
  have hseek := CDataStream.exec_seekDirect STUN_HEADER_SIZE r.stream
  rw [h.getSize_eq, if_pos h20] at hseek
  have hseek' := exec_onStream hseek
  have hloop := exec_readAttributes bs.length (t.withStream { r.stream with pos := STUN_HEADER_SIZE })
    (h.at_pos h20) hbs (by omega)
  simp only [List.length_nil, Nat.zero_add] at hloop
  rw [readBody, Proc.exec_bind_ok (Proc.exec_get r), h.getSize_eq, Proc.exec_bind_ok hseek']
  rcases hloop with ⟨as, hbody, hcount, hrun⟩ | ⟨hno, n, r', hn, hrun⟩
  · refine .inl ⟨as, hbody, hcount, ?_⟩
    rw [Proc.exec_bind_ok hrun, exec_chkIf_false (by simp), withAttributes_stream]
  · refine .inr ⟨hno, E_FAIL, r', ?_⟩
    rw [Proc.exec_bind_ok hrun, exec_chkIf_true hn]

/-! ## From the first byte on -/

/-- A reader that has not been fed: fresh or reset, then configured and attached as the callers do. -/
structure Fresh (cap : Option Nat) (r : CStunMessageReader) : Prop where
  stream : CDataStream.Holds cap [] 0 r.stream
  state : r.state = .headerNotRead
  table : Table r []

omit [Platform] in
theorem fresh_reset (h : r.mapAttributes.indexlist.isSome) (hf : r.mapAttributes.fsize = MAX_NUM_ATTRIBUTES)
    (ht : r.mapAttributes.tsize = 53) : Fresh none r.reset where
  stream := CDataStream.holds_empty
  state := rfl
  table := ⟨FastHashBase.reset_filled _ h, hf, ht, rfl, .inl ⟨rfl, by simp⟩, .inl ⟨rfl, by simp⟩⟩

omit [Platform] in
theorem fresh_new : Fresh none CStunMessageReader.new := fresh_reset rfl rfl rfl

omit [Platform] in
theorem Fresh.setAllowLegacyFormat (h : Fresh cap r) (fAllowLegacyFormat : Bool) :
    Fresh cap (r.setAllowLegacyFormat fAllowLegacyFormat) :=
  ⟨h.stream, h.state, h.table.1, h.table.2, h.table.3, h.table.4, h.table.5, h.table.6⟩

omit [Platform] in
theorem Fresh.attach (h : Fresh cap r) (buf : CBuffer) : Fresh (some buf.allocatedSize) (r.attach buf) :=
  ⟨CDataStream.holds_attach buf, h.state, h.table.1, h.table.2, h.table.3, h.table.4, h.table.5, h.table.6⟩

/-- What the reader `r₀` becomes when it is fed `bs`, in any number of pieces. -/
inductive Parsed (cap : Option Nat) (r₀ : CStunMessageReader) (bs : Bytes) : CStunMessageReader → Prop
  | headerNotRead (stream : CDataStream) (p : Nat) (holds : CDataStream.Holds cap bs p stream)
      (short : bs.length < STUN_HEADER_SIZE) : Parsed cap r₀ bs { r₀ with stream }
  | headerValidated (stream : CDataStream) (p : Nat) (holds : CDataStream.Holds cap bs p stream)
      (header : STUN_HEADER_SIZE ≤ bs.length) (good : GoodHeader r₀.fAllowLegacyFormat bs)
      (short : bs.length < STUN_HEADER_SIZE + declaredLength bs) :
      Parsed cap r₀ bs { withHeader bs r₀ with stream, state := .headerValidated }
  | bodyValidated (stream : CDataStream) (p : Nat) (holds : CDataStream.Holds cap bs p stream)
      (as : List Attribute) (message : Message r₀.fAllowLegacyFormat bs as) :
      Parsed cap r₀ bs
        { withAttributes STUN_HEADER_SIZE as (withHeader bs r₀) with stream, state := .bodyValidated }
  | parseError (r : CStunMessageReader) (header : STUN_HEADER_SIZE ≤ bs.length)
      (notShort : GoodHeader r₀.fAllowLegacyFormat bs → STUN_HEADER_SIZE + declaredLength bs ≤ bs.length)
      (notMessage : ∀ as, ¬ Message r₀.fAllowLegacyFormat bs as)
      (state : r.state = .parseError) : Parsed cap r₀ bs r

variable {r₀ : CStunMessageReader}

omit [Platform] in
theorem Fresh.parsed (h : Fresh cap r₀) : Parsed cap r₀ [] r₀ :=
  .headerNotRead r₀.stream 0 h.stream (by decide)

omit [Platform] in
/-- A message that is refused stays refused whatever follows it. -/
theorem refused_append {fAllowLegacyFormat : Bool} (header : STUN_HEADER_SIZE ≤ bs.length)
    (notShort : GoodHeader fAllowLegacyFormat bs → STUN_HEADER_SIZE + declaredLength bs ≤ bs.length)
    {more : Bytes} (hmore : more ≠ []) :
    (GoodHeader fAllowLegacyFormat (bs ++ more) →
      STUN_HEADER_SIZE + declaredLength (bs ++ more) ≤ (bs ++ more).length) ∧
    ∀ as, ¬ Message fAllowLegacyFormat (bs ++ more) as := by
  have hpos := List.length_pos_iff.mpr hmore
  have hdeclared := declaredLength_append header more
  have hgood := @GoodHeader.append_iff fAllowLegacyFormat _ header more
  constructor
  · intro good
    have := notShort (hgood.mp good)
    rw [hdeclared, List.length_append]
    omega
  · intro as m
    have := notShort (hgood.mp m.good)
    have hlen := m.length_eq
    rw [hdeclared, List.length_append] at hlen
    omega

omit [Platform] in
theorem leaveBody_of_le (h : r.state = .bodyValidated → bs.length ≤ r.msgLength.toNat + STUN_HEADER_SIZE) :
    leaveBody bs.length r = r := by
  rw [leaveBody, if_neg]
  rintro ⟨hstate, hgt⟩
  have := h hstate
  omega

/-- `AddBytes` in `HeaderValidated`, while there are not too many bytes. -/
theorem enterBody_cases (h₀ : Fresh cap r₀) {stream : CDataStream} (holds : CDataStream.Holds cap bs p stream)
    (header : STUN_HEADER_SIZE ≤ bs.length) (good : GoodHeader r₀.fAllowLegacyFormat bs)
    (hr : r = { withHeader bs r₀ with stream, state := .headerValidated })
    (hle : bs.length ≤ STUN_HEADER_SIZE + declaredLength bs) :
    (bs.length < STUN_HEADER_SIZE + declaredLength bs ∧ enterBody bs.length r = r) ∨
    (∃ as, Message r₀.fAllowLegacyFormat bs as ∧ enterBody bs.length r =
      { withAttributes STUN_HEADER_SIZE as (withHeader bs r₀) with
        stream := { stream with pos := bs.length }, state := .bodyValidated }) ∨
    ((enterBody bs.length r).state = .parseError ∧ bs.length = STUN_HEADER_SIZE + declaredLength bs ∧
      ∀ as, ¬ Message r₀.fAllowLegacyFormat bs as) := by
  have hdeclared : r.msgLength.toNat = declaredLength bs := by
    rw [hr]
    exact withHeader_msgLength (r := r₀) header
  have hstate : r.state = .headerValidated := by rw [hr]
  have hstream : r.stream = stream := by rw [hr]
  have hbound := good.bounded
  by_cases hlt : bs.length < STUN_HEADER_SIZE + declaredLength bs
  · exact .inl ⟨hlt, by rw [enterBody, hdeclared, if_neg (by omega)]⟩
  have heq : bs.length = STUN_HEADER_SIZE + declaredLength bs := by omega
  have hbs : bs.length < 2 ^ 16 := by
    simp only [STUN_HEADER_SIZE, MAX_STUN_MESSAGE_SIZE] at *
    omega
  have htable : Table r [] := by
    rw [hr]
    exact ⟨h₀.table.1, h₀.table.2, h₀.table.3, h₀.table.4, h₀.table.5, h₀.table.6⟩
  have hread := exec_readBody htable (hstream ▸ holds) hbs header
  rw [enterBody, hdeclared, if_pos ⟨hstate, by omega⟩, if_pos (by omega)]
  rcases hread with ⟨as, hbody, hcount, hrun⟩ | ⟨hno, e, r', hrun⟩
  · refine .inr (.inl ⟨as, ⟨good, heq, hbody, hcount⟩, ?_⟩)
    rw [hrun]
    subst hr
    exact (withAttributes_update STUN_HEADER_SIZE as { stream with pos := bs.length } .bodyValidated _).symm.trans
      (withAttributes_update STUN_HEADER_SIZE as { stream with pos := bs.length } .bodyValidated
        (withHeader bs r₀))
  · rw [hrun]
    exact .inr (.inr ⟨rfl, heq, fun as m => hno as m.body_eq m.count_le⟩)

/-- Behind a good header: `AddBytes` in `HeaderValidated`, and what follows it. -/
theorem parsed_body (h₀ : Fresh cap r₀) {stream : CDataStream} (holds : CDataStream.Holds cap bs p stream)
    (header : STUN_HEADER_SIZE ≤ bs.length) (good : GoodHeader r₀.fAllowLegacyFormat bs)
    (hr : r = { withHeader bs r₀ with stream, state := .headerValidated }) :
    Parsed cap r₀ bs (leaveBody bs.length (enterBody bs.length r)) := by
  have hdeclared := withHeader_msgLength (r := r₀) header
  by_cases hle : bs.length ≤ STUN_HEADER_SIZE + declaredLength bs
  · rcases enterBody_cases h₀ holds header good hr hle with ⟨hlt, henter⟩ | ⟨as, message, henter⟩ |
      ⟨hstate, heq, hno⟩
    · rw [henter, leaveBody_of_le (by simp [hr]), hr]
      exact .headerValidated stream p holds header good hlt
    · rw [henter, leaveBody_of_le (fun _ => by simp only [withAttributes_msgLength, hdeclared]; omega)]
      exact .bodyValidated _ bs.length (holds.at_pos (Nat.le_refl _)) as message
    · rw [leaveBody_of_le (by simp [hstate])]
      exact .parseError _ header (fun _ => by omega) hno hstate
  · have hlength : r.msgLength.toNat = declaredLength bs := by
      rw [hr]
      exact hdeclared
    have hstate : r.state = .headerValidated := by rw [hr]
    rw [enterBody, hlength, if_pos ⟨hstate, by omega⟩, if_neg (by omega), leaveBody_of_le (by simp)]
    exact .parseError _ header (fun _ => by omega) (fun as m => by have := m.length_eq; omega) rfl

omit [Platform] in
theorem enterHeader_good {stream : CDataStream} (holds : CDataStream.Holds cap bs p stream)
    (hstate : r₀.state = .headerNotRead) (header : STUN_HEADER_SIZE ≤ bs.length)
    (good : GoodHeader r₀.fAllowLegacyFormat bs) :
    enterHeader bs.length { r₀ with stream } =
      { withHeader bs r₀ with
        stream := { stream with pos := 20 }
        state := if (withHeader bs r₀).msgLength = 0 then .bodyValidated else .headerValidated } := by
  rw [enterHeader, if_pos ⟨hstate, header⟩, exec_readHeader_good (r := { r₀ with stream }) holds header good]
  rfl

/-- `AddBytes` once the bytes are appended, on a reader that has not read a header. -/
theorem parsed_header (h₀ : Fresh cap r₀) {stream : CDataStream} (holds : CDataStream.Holds cap bs p stream) :
    Parsed cap r₀ bs
      (leaveBody bs.length (enterBody bs.length (enterHeader bs.length { r₀ with stream }))) := by
  by_cases header : STUN_HEADER_SIZE ≤ bs.length
  · by_cases good : GoodHeader r₀.fAllowLegacyFormat bs
    · have hat := holds.at_pos header
      have hdeclared := withHeader_msgLength (r := r₀) header
      rw [enterHeader_good holds h₀.state header good]
      by_cases hzero : (withHeader bs r₀).msgLength = 0
      · -- no body: the header alone is the message, and `ReadBody` is not called
        rw [if_pos hzero, enterBody, if_neg (by simp)]
        rw [hzero] at hdeclared
        by_cases hexact : bs.length = STUN_HEADER_SIZE
        · rw [leaveBody_of_le (fun _ => by simp only [hzero]; omega)]
          have hmessage : Message r₀.fAllowLegacyFormat bs [] :=
            ⟨good, by rw [← hdeclared]; exact hexact, by rw [← hexact]; simp, by simp⟩
          exact .bodyValidated _ STUN_HEADER_SIZE hat [] hmessage
        · rw [leaveBody, if_pos ⟨rfl, by simp only [hzero]; change bs.length > 0 + _; omega⟩]
          refine .parseError _ header (fun _ => ?_) (fun as m => ?_) rfl
          · rw [← hdeclared]
            exact header
          · have := m.length_eq
            rw [← hdeclared] at this
            exact hexact this
      · rw [if_neg hzero]
        exact parsed_body h₀ hat header good rfl
    · obtain ⟨e, r', hrun⟩ := exec_readHeader_bad (r := { r₀ with stream }) holds header good
      rw [enterHeader, if_pos ⟨h₀.state, header⟩, hrun, enterBody, if_neg (by simp), leaveBody_of_le (by simp)]
      exact .parseError _ header (fun g => absurd g good) (fun as m => good m.good) rfl
  · have henter : enterHeader bs.length { r₀ with stream } = { r₀ with stream } := by
      rw [enterHeader, if_neg (by omega)]
    rw [henter, enterBody, if_neg (by simp [h₀.state]), leaveBody_of_le (by simp [h₀.state])]
    exact .headerNotRead stream p holds (by omega)

/-- Bytes are appended wherever the cursor was. -/
theorem exec_appendBytes (holds : CDataStream.Holds cap bs p r.stream) {pData : Bytes} (hne : pData ≠ []) :
    ∃ stream, CDataStream.Holds cap (bs ++ pData) (bs ++ pData).length stream ∧
      Proc.exec (appendBytes pData) r = (.ok (), { r with stream }) := by
  have hseek := CDataStream.exec_seekDirect bs.length r.stream
  rw [holds.getSize_eq, if_pos (Nat.le_refl _)] at hseek
  have hignore : Proc.exec (Proc.ignore (CDataStream.seekDirect bs.length)) r.stream =
      (.ok (), { r.stream with pos := bs.length }) := by rw [Proc.exec_ignore, hseek]
  obtain ⟨⟨⟩, stream, hwrite, hholds⟩ := CDataStream.write_spec hne _ (holds.at_pos (Nat.le_refl _))
  have hsplice : splice bs.length pData bs = bs ++ pData := by
    simp [splice, List.drop_eq_nil_of_le]
  rw [hsplice, ← List.length_append] at hholds
  have hwrite' := exec_onStream (r := { r with stream := { r.stream with pos := bs.length } }) hwrite
  refine ⟨stream, hholds, ?_⟩
  rw [appendBytes, Proc.exec_bind_ok (Proc.exec_get r), holds.getSize_eq,
    Proc.exec_bind_ok (exec_onStream hignore), hwrite']

theorem addBytes_eq (holds : CDataStream.Holds cap bs p r.stream) {pData : Bytes} (hne : pData ≠ [])
    (hstate : r.state ≠ .parseError) :
    ∃ stream, CDataStream.Holds cap (bs ++ pData) (bs ++ pData).length stream ∧
      addBytes pData r = ((advance { r with stream }).state, advance { r with stream }) := by
  have hlen : pData.length ≠ 0 := fun h0 => hne (List.length_eq_zero_iff.mp h0)
  obtain ⟨stream, hholds, hrun⟩ := exec_appendBytes holds hne
  exact ⟨stream, hholds, by rw [addBytes, if_neg hstate, if_neg hlen, hrun]⟩

theorem addBytes_parsed (h₀ : Fresh cap r₀) (h : Parsed cap r₀ bs r) (pData : Bytes) :
    (addBytes pData r).1 = (addBytes pData r).2.state ∧ Parsed cap r₀ (bs ++ pData) (addBytes pData r).2 := by
  by_cases hne : pData = []
  · rw [hne, List.append_nil, addBytes]
    split
    · exact ⟨by simp_all, h⟩
    · exact ⟨rfl, h⟩
  have hpos := List.length_pos_iff.mpr hne
  cases h with
  | headerNotRead stream p holds short =>
    obtain ⟨stream', holds', heq⟩ := addBytes_eq (r := { r₀ with stream }) holds hne (by simp [h₀.state])
    rw [heq, advance, holds'.getSize_eq]
    exact ⟨rfl, parsed_header h₀ holds'⟩
  | headerValidated stream p holds header good short =>
    obtain ⟨stream', holds', heq⟩ := addBytes_eq
      (r := { withHeader bs r₀ with stream, state := .headerValidated }) holds hne (by simp)
    rw [heq, advance, holds'.getSize_eq]
    refine ⟨rfl, ?_⟩
    rw [enterHeader, if_neg (by simp)]
    refine parsed_body h₀ holds' (by rw [List.length_append]; omega) ((GoodHeader.append_iff header pData).mpr good) ?_
    rw [withHeader_append header]
  | bodyValidated stream p holds as message =>
    obtain ⟨stream', holds', heq⟩ := addBytes_eq
      (r := { withAttributes STUN_HEADER_SIZE as (withHeader bs r₀) with stream, state := .bodyValidated })
      holds hne (by simp)
    have header : STUN_HEADER_SIZE ≤ bs.length := by rw [message.length_eq]; omega
    have hdeclared := withHeader_msgLength (r := r₀) header
    have hlength := message.length_eq
    rw [heq, advance, holds'.getSize_eq]
    refine ⟨rfl, ?_⟩
    rw [enterHeader, if_neg (by simp), enterBody, if_neg (by simp), leaveBody, if_pos]
    · obtain ⟨h1, h2⟩ := refused_append header (fun _ => by rw [← hlength]) hne
      exact .parseError _ (by rw [List.length_append]; omega) h1 h2 rfl
    · refine ⟨rfl, ?_⟩
      simp only [withAttributes_msgLength, hdeclared, List.length_append]
      omega
  | parseError r header notShort notMessage state =>
    obtain ⟨h1, h2⟩ := refused_append header notShort hne
    rw [addBytes, if_pos state]
    exact ⟨state.symm, .parseError r (by rw [List.length_append]; omega) h1 h2 state⟩

end NatTester.Wire
