import NatTester.Wire.Reader

/-!
# What the accessors return

A reader in `BodyValidated` answers every accessor from the attributes of the
message it has accepted: an attribute of a type is the last one of that type,
and its data is the value of it.
-/
namespace NatTester.Wire
open NatTester.Lib NatTester.Source CStunMessageReader

/-- The reader has accepted the message `bs`, whose attributes are `as`. -/
structure Accepted (bs : Bytes) (as : List Attribute) (r : CStunMessageReader) : Prop where
  message : Message r.fAllowLegacyFormat bs as
  holds : ∃ cap p, CDataStream.Holds cap bs p r.stream
  state : r.state = .bodyValidated
  table : Table r (layout STUN_HEADER_SIZE as)
  legacy : r.fMessageIsLegacyFormat = !decide (slice 4 4 bs = be32 STUN_COOKIE)
  type : r.msgTypeNormalized = normalizeType (typeField bs)
  msgClass : r.msgClass = classOf (typeField bs)
  transid : r.transactionid = StunTransactionId.ofBytes (slice 4 16 bs)

/-- Feed a reader some pieces, one call after the other. -/
def feed [Platform] (pieces : List Bytes) (r : CStunMessageReader) : CStunMessageReader :=
  pieces.foldl (fun r pData => (addBytes pData r).2) r

variable {cap : Option Nat} {bs : Bytes} {as : List Attribute} {r r₀ : CStunMessageReader}

theorem Parsed.accepted (h₀ : Fresh cap r₀) (h : Parsed cap r₀ bs r) (hstate : r.state = .bodyValidated) :
    ∃ as, Accepted bs as r := by
  cases h with
  | headerNotRead stream p holds short => exact absurd (h₀.state.symm.trans hstate) (by simp)
  | headerValidated stream p holds header good short => cases hstate
  | parseError r header notShort notMessage state => exact absurd (state.symm.trans hstate) (by simp)
  | bodyValidated stream p holds as message =>
    refine ⟨as, ?_, ⟨cap, p, holds⟩, rfl, ?_, ?_, ?_, ?_, ?_⟩
    · have hallow := withAttributes_frame (·.fAllowLegacyFormat) (fun _ _ => rfl) STUN_HEADER_SIZE as
        (withHeader bs r₀)
      simp only [hallow]
      exact message
    · have htable : Table (withHeader bs r₀) [] :=
        ⟨h₀.table.1, h₀.table.2, h₀.table.3, h₀.table.4, h₀.table.5, h₀.table.6⟩
      have hcount := message.count_le
      have hfilled := htable.withAttributes STUN_HEADER_SIZE as (by simpa [MAX_NUM_ATTRIBUTES] using hcount)
      exact ⟨hfilled.1, hfilled.2, hfilled.3, hfilled.4, hfilled.5, hfilled.6⟩
    · simp [withHeader]
    · simp [withHeader]
    · simp [withHeader]
    · simp [withHeader]

theorem feed_parsed [Platform] (h₀ : Fresh cap r₀) (pieces : List Bytes) :
    Parsed cap r₀ pieces.flatten (feed pieces r₀) := by
  suffices h : ∀ bs r, Parsed cap r₀ bs r → Parsed cap r₀ (bs ++ pieces.flatten) (feed pieces r) by
    simpa using h [] r₀ h₀.parsed
  induction pieces with
  | nil => intro bs r h; simpa [feed] using h
  | cons pData pieces ih =>
    intro bs r h
    have hnext := ih (bs ++ pData) _ (addBytes_parsed h₀ h pData).2
    simpa [feed, List.append_assoc] using hnext

/-- A whole message fed at once is accepted. -/
theorem addBytes_message [Platform] (h₀ : Fresh cap r₀) (m : Message r₀.fAllowLegacyFormat bs as) :
    (addBytes bs r₀).1 = .bodyValidated ∧ Accepted bs as (addBytes bs r₀).2 := by
  obtain ⟨hresult, hparsed⟩ := addBytes_parsed h₀ h₀.parsed bs
  rw [List.nil_append] at hparsed
  have hlength := m.length_eq
  have hstate : (addBytes bs r₀).2.state = .bodyValidated := by
    generalize (addBytes bs r₀).2 = r at hparsed
    cases hparsed with
    | headerNotRead stream p holds short => omega
    | headerValidated stream p holds header good short => omega
    | parseError r header notShort notMessage state => exact absurd m (notMessage as)
    | bodyValidated stream p holds as message => rfl
  obtain ⟨as', hacc⟩ := hparsed.accepted h₀ hstate
  obtain rfl := hacc.message.unique m
  exact ⟨hresult.trans hstate, hacc⟩

theorem feed_message [Platform] {cap : Option Nat} {r₀ : CStunMessageReader} (h₀ : Fresh cap r₀)
    (m : Message r₀.fAllowLegacyFormat bs as) : Accepted bs as (feed [bs] r₀) :=
  (addBytes_message h₀ m).2

namespace Accepted

theorem header (h : Accepted bs as r) : STUN_HEADER_SIZE ≤ bs.length := by
  rw [h.message.length_eq]
  omega

theorem bound (h : Accepted bs as r) : bs.length < 2 ^ 16 := by
  have hbound := h.message.good.bounded
  rw [h.message.length_eq]
  simp only [STUN_HEADER_SIZE, MAX_STUN_MESSAGE_SIZE] at *
  omega

theorem locates (h : Accepted bs as r) : List.Forall₂ (Locates bs) (layout STUN_HEADER_SIZE as) as := by
  have hsplit : bs.take STUN_HEADER_SIZE ++ body as = bs := by
    rw [← h.message.body_eq, List.take_append_drop]
  have htake : (bs.take STUN_HEADER_SIZE).length = STUN_HEADER_SIZE := by
    rw [List.length_take, Nat.min_eq_left h.header]
  have hloc := layout_locates (bs.take STUN_HEADER_SIZE) as (by
    rw [← List.length_append, hsplit]
    exact h.bound)
  rwa [htake, hsplit] at hloc

theorem dataAt_eq (h : Accepted bs as r) {offset n : Nat} (hn : offset + n ≤ bs.length) :
    r.dataAt offset n = slice offset n bs := by
  obtain ⟨cap, p, holds⟩ := h.holds
  exact holds.slice_memory hn

theorem dataPointer (h : Accepted bs as r) : r.dataPointerNull = false ∧ r.stream.spBuffer.isSome = true := by
  obtain ⟨cap, p, holds⟩ := h.holds
  have hheader := h.header
  have hsize := holds.size_le
  rw [holds.getSize_eq] at hsize
  obtain ⟨memory, size, hbuf⟩ := CDataStream.buffer_of_room (s := r.stream) (by
    simp only [STUN_HEADER_SIZE] at hheader
    omega)
  simp [dataPointerNull, hbuf]

/-- The attribute a lookup finds is the last one of its type. -/
theorem lookup_eq (h : Accepted bs as r) (t : UInt16) :
    r.mapAttributes.lookup t = (layout STUN_HEADER_SIZE as).reverse.find? fun x => x.attributeType = t := by
  rw [h.table.filled.lookup_eq (by rw [h.table.tsize]; decide), ← List.map_reverse, List.find?_map]
  cases hfind : (layout STUN_HEADER_SIZE as).reverse.find? fun x => x.attributeType = t with
  | none => simp only [Function.comp_def, hfind, Option.map_none]
  | some x => simp only [Function.comp_def, hfind, Option.map_some]

end Accepted

/-- The table entry of the attribute `a` behind the attributes `before`. -/
def entryAt (before : List Attribute) (a : Attribute) : StunAttribute :=
  ⟨a.type, UInt16.ofNat a.value.length, UInt16.ofNat (STUN_HEADER_SIZE + (body before).length + 4)⟩

theorem layout_split (before after : List Attribute) (a : Attribute) :
    layout STUN_HEADER_SIZE (before ++ a :: after) =
      layout STUN_HEADER_SIZE before ++
        entryAt before a ::
        layout (STUN_HEADER_SIZE + (body before).length + a.extent) after := by
  rw [layout_append, layout, entryAt]

theorem layout_types (offset : Nat) (as : List Attribute) :
    (layout offset as).map (·.attributeType) = as.map (·.type) := by
  induction as generalizing offset with
  | nil => rfl
  | cons a as ih => simp [layout, ih]

/-- No attribute of a type, no entry of it. -/
theorem layout_find?_eq_none (offset : Nat) {t : UInt16} (h : ∀ a ∈ as, a.type ≠ t) :
    (layout offset as).reverse.find? (fun x => x.attributeType = t) = none := by
  rw [List.find?_eq_none]
  intro x hx
  have hmem : x.attributeType ∈ (layout offset as).map (·.attributeType) :=
    List.mem_map_of_mem (List.mem_reverse.mp hx)
  rw [layout_types] at hmem
  obtain ⟨a, ha, hax⟩ := List.mem_map.mp hmem
  simpa [← hax] using h a ha

namespace Accepted

theorem entryAt_offset {before after : List Attribute} {a : Attribute} (h : Accepted bs (before ++ a :: after) r) :
    (entryAt before a).offset.toNat = STUN_HEADER_SIZE + (body before).length + 4 := by
  have hbound := h.bound
  have hbody := congrArg List.length h.message.body_eq
  have hlength := h.message.length_eq
  simp only [List.length_drop, body_append, body_cons, List.length_append, Attribute.bytes_length,
    Attribute.extent] at hbody
  exact UInt16.toNat_ofNat_of_lt' (show _ < 2 ^ 16 by omega)

theorem dataAt_split {before after : List Attribute} {a : Attribute} (h : Accepted bs (before ++ a :: after) r) :
    r.dataAt (entryAt before a).offset.toNat a.value.length = a.value := by
  have hloc := List.forall₂_drop before.length h.locates
  rw [layout_split, List.drop_left, List.drop_left' (layout_length ..)] at hloc
  obtain ⟨loc, -⟩ := List.forall₂_cons.mp hloc
  have hsize := loc.size_eq
  have hvalue := loc.value_eq
  have hinside := loc.inside
  rw [hsize] at hvalue hinside
  rw [h.dataAt_eq hinside, hvalue]

/-- A lookup finds an attribute that no other of its type follows. -/
theorem lookup_split {before after : List Attribute} {a : Attribute} (h : Accepted bs (before ++ a :: after) r)
    (hafter : ∀ b ∈ after, b.type ≠ a.type) : r.mapAttributes.lookup a.type = some (entryAt before a) := by
  have hnone := layout_find?_eq_none (STUN_HEADER_SIZE + (body before).length + a.extent) hafter
  rw [h.lookup_eq, layout_split, List.reverse_append, List.reverse_cons, List.find?_append, List.find?_append, hnone]
  simp [entryAt]

end Accepted

/-- Related lists agree on what they find, when the relation respects the test. -/
theorem forall₂_find? {α β : Type} {R : α → β → Prop} {f : α → Bool} {g : β → Bool} {xs : List α} {ys : List β}
    (h : List.Forall₂ R xs ys) (hfg : ∀ x y, R x y → f x = g y) :
    (xs.find? f = none ∧ ys.find? g = none) ∨ ∃ x y, xs.find? f = some x ∧ ys.find? g = some y ∧ R x y := by
  induction h with
  | nil => exact .inl ⟨rfl, rfl⟩
  | @cons x y xs ys hxy _ ih =>
    have heq := hfg x y hxy
    cases hg : g y with
    | true => exact .inr ⟨x, y, by simp [heq, hg], by simp [hg], hxy⟩
    | false => simpa [List.find?_cons, heq, hg] using ih

namespace Accepted

/-- What a lookup finds, and where its data is. -/
theorem lookup_cases (h : Accepted bs as r) (t : UInt16) :
    (r.mapAttributes.lookup t = none ∧ lastValue t as = none) ∨
    ∃ x v, r.mapAttributes.lookup t = some x ∧ lastValue t as = some v ∧ x.attributeType = t ∧
      x.size.toNat = v.length ∧ x.offset.toNat + v.length ≤ bs.length ∧
      slice x.offset.toNat v.length bs = v := by
  have hrev := List.forall₂_reverse_iff.mpr h.locates
  have hfind := forall₂_find? (f := fun x => decide (x.attributeType = t)) (g := fun a => decide (a.type = t)) hrev
    fun x a hxa => by rw [hxa.type_eq]
  rw [h.lookup_eq]
  rcases hfind with ⟨hx, ha⟩ | ⟨x, a, hx, ha, loc⟩
  · exact .inl ⟨hx, by rw [lastValue, ha]; rfl⟩
  · have htype := List.find?_some ha
    have hsize := loc.size_eq
    have hvalue := loc.value_eq
    have hinside := loc.inside
    rw [hsize] at hvalue hinside
    exact .inr ⟨x, a.value, hx, by rw [lastValue, ha]; rfl, loc.type_eq.trans (by simpa using htype), hsize,
      hinside, hvalue⟩

/-- A type without a value is not found. -/
theorem lookup_none (h : Accepted bs as r) {t : UInt16} (hnone : lastValue t as = none) :
    r.mapAttributes.lookup t = none := by
  rcases h.lookup_cases t with ⟨hx, -⟩ | ⟨x, v, -, hv, -⟩
  · exact hx
  · rw [hnone] at hv
    cases hv

theorem getAttributeCount_eq (h : Accepted bs as r) : r.getAttributeCount = as.length := by
  rw [getAttributeCount, h.table.filled.size_eq, List.length_map, layout_length]

/-- The attribute at a position of the message. -/
theorem getAttributeByIndex_eq [Platform] (h : Accepted bs as r) {index : Int32} (hindex : 0 ≤ index.toInt) :
    r.getAttributeByIndex index =
      (match (layout STUN_HEADER_SIZE as)[index.toInt.toNat]? with
        | none => .error E_FAIL
        | some x => .ok x, r) := by
  have hbound : index.toInt < 2 ^ Platform.sizeBits := by
    have hlt := index.toInt_lt
    have hpow : 2 ^ 32 ≤ 2 ^ Platform.sizeBits := Nat.pow_le_pow_right (by decide) Platform.sizeBits_ge
    have hpow' : (2 ^ 32 : Int) ≤ 2 ^ Platform.sizeBits := by exact_mod_cast hpow
    omega
  have htable := h.table.filled.lookupByIndex_eq h.table.int index.toInt.toNat
  rw [List.getElem?_map] at htable
  simp only [getAttributeByIndex, FastHashBase.lookupValueByIndex, Int.emod_eq_of_lt hindex hbound, htable]
  cases (layout STUN_HEADER_SIZE as)[index.toInt.toNat]? <;> rfl

theorem getAddressHelper_eq (h : Accepted bs as r) (t : UInt16) :
    r.getAddressHelper t =
      match lastValue t as with
      | none => .error E_FAIL
      | some v => Source.getMappedAddress v := by
  rcases h.lookup_cases t with ⟨hx, hv⟩ | ⟨x, v, hx, hv, -, hsize, hinside, hslice⟩
  · simp only [getAddressHelper, hx, hv]
  · simp only [getAddressHelper, hx, hv]
    rw [hsize, h.dataAt_eq hinside, hslice]

theorem getResponsePort_eq (h : Accepted bs as r) :
    r.getResponsePort =
      match lastValue STUN_ATTRIBUTE_RESPONSE_PORT as with
      | none => .error E_FAIL
      | some v => if v.length = 2 then .ok (ofBe16 v) else .error E_UNEXPECTED := by
  rcases h.lookup_cases STUN_ATTRIBUTE_RESPONSE_PORT with ⟨hx, hv⟩ | ⟨x, v, hx, hv, -, hsize, hinside, hslice⟩
  · simp only [getResponsePort, hx, hv]
  · simp only [getResponsePort, hx, hv, h.dataPointer.1]
    have hiff : x.size = STUN_ATTRIBUTE_RESPONSE_PORT_SIZE ↔ v.length = 2 := by
      rw [← UInt16.toNat_inj, hsize]
      rfl
    by_cases h2 : v.length = 2
    · rw [if_neg (not_not.mpr (hiff.mpr h2)), if_pos h2, h.dataAt_eq (by omega), ← h2, hslice,
        ntohs_ofLeOctets h2]
      rfl
    · rw [if_pos (mt hiff.mp h2), if_neg h2]

theorem getChangeRequest_eq (h : Accepted bs as r) :
    r.getChangeRequest =
      match lastValue STUN_ATTRIBUTE_CHANGEREQUEST as with
      | none => (E_FAIL, ⟨false, false⟩)
      | some v =>
        if v.length = 4 then (S_OK, ⟨ofBe32 v &&& 0x0004 ≠ 0, ofBe32 v &&& 0x0002 ≠ 0⟩)
        else (E_UNEXPECTED, ⟨false, false⟩) := by
  rcases h.lookup_cases STUN_ATTRIBUTE_CHANGEREQUEST with ⟨hx, hv⟩ | ⟨x, v, hx, hv, -, hsize, hinside, hslice⟩
  · simp only [getChangeRequest, hx, hv]
  · simp only [getChangeRequest, hx, hv, h.dataPointer.1]
    have hiff : x.size = STUN_ATTRIBUTE_CHANGEREQUEST_SIZE ↔ v.length = 4 := by
      rw [← UInt16.toNat_inj, hsize]
      rfl
    by_cases h4 : v.length = 4
    · have hdata : r.dataAt x.offset.toNat 4 = v := by rw [h.dataAt_eq (by omega), ← h4, hslice]
      rw [if_neg (not_not.mpr (hiff.mpr h4)), if_pos h4, hdata, ntohl_ofLeOctets h4]
      rfl
    · rw [if_pos (mt hiff.mp h4), if_neg h4]

theorem getPaddingAttributeSize_eq (h : Accepted bs as r) :
    r.getPaddingAttributeSize =
      match lastValue STUN_ATTRIBUTE_PADDING as with
      | none => (E_FAIL, 0)
      | some v => (S_OK, UInt16.ofNat v.length) := by
  rcases h.lookup_cases STUN_ATTRIBUTE_PADDING with ⟨hx, hv⟩ | ⟨x, v, hx, hv, -, hsize, -, -⟩
  · simp only [getPaddingAttributeSize, hx, hv]
  · simp only [getPaddingAttributeSize, hx, hv, ← hsize, UInt16.ofNat_toNat]

/-- The error code, from a value that has its four octets. -/
theorem getErrorCode_eq (h : Accepted bs as r) {v : Bytes} (hv : lastValue STUN_ATTRIBUTE_ERRORCODE as = some v)
    (h4 : 4 ≤ v.length) :
    r.getErrorCode = .ok (UInt16.ofNat ((v.getD 2 0 &&& 0x07).toNat * 100 + (v.getD 3 0).toNat)) := by
  rcases h.lookup_cases STUN_ATTRIBUTE_ERRORCODE with ⟨-, hnone⟩ | ⟨x, v', hx, hv', -, -, hinside, hslice⟩
  · simp [hnone] at hv
  · obtain rfl : v' = v := by simpa [hv'] using hv
    have hdata : r.dataAt (x.offset.toNat + 2) 2 = slice 2 2 v' := by
      have hinner := slice_take (n := 2) (bs.drop x.offset.toNat) (show 2 + 2 ≤ v'.length from h4)
      rw [← slice, hslice] at hinner
      rw [h.dataAt_eq (by omega), ← slice_drop, hinner]
    have hget : ∀ i, i < 2 → (slice 2 2 v').getD i 0 = v'.getD (2 + i) 0 := by
      intro i hi
      simp [slice, List.getD_eq_getElem?_getD, hi, List.getElem?_drop]
    simp only [getErrorCode, hx, hdata, hget 0 (by omega), hget 1 (by omega)]

theorem getStringAttributeByType_eq (h : Accepted bs as r) (t : UInt16) (size : Nat) :
    r.getStringAttributeByType t size =
      match lastValue t as with
      | none => .error E_INVALIDARG
      | some v => if v.length < size then .ok (v ++ [0]) else .error E_INVALIDARG := by
  rcases h.lookup_cases t with ⟨hx, hv⟩ | ⟨x, v, hx, hv, -, hsize, hinside, hslice⟩
  · simp only [getStringAttributeByType, hx, hv]
  · simp only [getStringAttributeByType, hx, hv, hsize]
    by_cases hlt : v.length < size
    · rw [if_neg (by omega), if_pos hlt, h.dataAt_eq hinside, hslice]
    · rw [if_pos (by omega), if_neg hlt]

end Accepted

end NatTester.Wire
