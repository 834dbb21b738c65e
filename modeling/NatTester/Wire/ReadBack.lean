import NatTester.Wire.Calls

/-!
# The getters read the calls back

The typed getter of the reader returns the argument of the last call of its
kind. A modern getter with a legacy fallback finds the type of the mode.
-/
namespace NatTester.Wire
open NatTester.Lib NatTester.Source CStunMessageReader CStunMessageBuilder

/-- A call with a getter, as the mode allows it. -/
def Getter (fLegacyMode : Bool) : Call → Prop
  | .rawAttribute _ _ => False
  | .unknownAttributes _ => False
  | .responsePort _ => fLegacyMode = false
  | _ => True

/-- A string is read back into every array that has room for it, its padding and its NUL. -/
def StringReadBack (r : CStunMessageReader) (t : UInt16) (psz : Bytes) : Prop :=
  ∀ size, (cstr psz).length + paddingFor (cstr psz).length < size →
    ∃ value, r.getStringAttributeByType t size = .ok value ∧ cstr value = cstr psz

/-- The getter of a call's kind returns its argument. -/
def ReadBack (r : CStunMessageReader) : Call → Prop
  | .userName psz => StringReadBack r STUN_ATTRIBUTE_USERNAME psz
  | .realm psz => StringReadBack r STUN_ATTRIBUTE_REALM psz
  | .nonce psz => StringReadBack r STUN_ATTRIBUTE_NONCE psz
  | .mappedAddress addr => r.getMappedAddress = .ok addr
  | .xorMappedAddress addr => r.getXorMappedAddress = .ok addr
  | .responseOriginAddress addr => r.getResponseOriginAddress = .ok addr
  | .otherAddress addr => r.getOtherAddress = .ok addr
  | .changeRequest changeAttrib => r.getChangeRequest = (S_OK, changeAttrib)
  | .padding paddingSize =>
    r.getPaddingAttributeSize = (S_OK, UInt16.ofNat (paddingSize.toNat + paddingFor paddingSize.toNat))
  | .errorCode errorNumber _ => r.getErrorCode = .ok errorNumber
  | .responsePort port => r.getResponsePort = .ok port
  | .unknownAttributes _ => True
  | .rawAttribute _ _ => True

section Getters
variable {bs : Bytes} {as : List Attribute} {r : CStunMessageReader}

theorem string_readBack (h : Accepted bs as r) {t : UInt16} {legacy : Bool} {psz : Bytes}
    (hlast : lastValue t as = some (modeValue legacy (cstr psz))) : StringReadBack r t psz := by
  intro size hsize
  have hlen : (modeValue legacy (cstr psz)).length < size := by
    rw [modeValue_length]
    split <;> omega
  refine ⟨modeValue legacy (cstr psz) ++ [0], ?_, ?_⟩
  · rw [h.getStringAttributeByType_eq, hlast]
    exact if_pos hlen
  · cases legacy with
    | false => exact cstr_cstr_append_zero psz []
    | true =>
      have hzeros : modeValue true (cstr psz) ++ [0] =
          cstr psz ++ List.replicate (paddingFor (cstr psz).length + 1) 0 := by
        rw [List.replicate_succ', ← List.append_assoc]
        rfl
      rw [hzeros, cstr_append_zeros]

theorem address_readBack (h : Accepted bs as r) {t : UInt16} {addr : CSocketAddress}
    (hlast : lastValue t as = some addr.wireValue) : r.getAddressHelper t = .ok addr := by
  rw [h.getAddressHelper_eq, hlast]
  exact getMappedAddress_wireValue addr

/-- The modern type is tried first, and is the only one a modern message has. -/
theorem fallback_readBack (h : Accepted bs as r) {t legacyType : UInt16} {legacy : Bool} {addr : CSocketAddress}
    (hlast : lastValue (if legacy then legacyType else t) as = some addr.wireValue)
    (hnone : legacy = true → lastValue t as = none) : r.getAddressFallback t legacyType = .ok addr := by
  cases legacy with
  | false =>
    have hmodern : r.getAddressHelper t = .ok addr := address_readBack h hlast
    rw [getAddressFallback, hmodern]
  | true =>
    have hlegacy : r.getAddressHelper legacyType = .ok addr := address_readBack h hlast
    have hfail : r.getAddressHelper t = .error E_FAIL := by rw [h.getAddressHelper_eq, hnone rfl]
    rw [getAddressFallback, hfail, hlegacy]

theorem modeValue_wireValue (legacy : Bool) (addr : CSocketAddress) :
    modeValue legacy addr.wireValue = addr.wireValue := by
  refine modeValue_of_aligned legacy ?_
  rw [addr.wireValue_length]
  split <;> rfl

theorem changeRequest_readBack (h : Accepted bs as r) {changeAttrib : StunChangeRequestAttribute}
    (hlast : lastValue STUN_ATTRIBUTE_CHANGEREQUEST as = some (be32 (changeData changeAttrib))) :
    r.getChangeRequest = (S_OK, changeAttrib) := by
  rw [h.getChangeRequest_eq, hlast]
  simp only [be32_length, ofBe32_be32, ↓reduceIte]
  obtain ⟨fChangeIP, fChangePort⟩ := changeAttrib
  cases fChangeIP <;> cases fChangePort <;> rfl

theorem roundedPadding_eq (n : UInt16) : roundedPadding n = UInt16.ofNat (n.toNat + paddingFor n.toNat) := by
  have hlt := n.toNat_lt
  have hmod : (n % 4).toNat = n.toNat % 4 := UInt16.toNat_mod ..
  have h4 : (4 : UInt16).toNat = 4 := rfl
  apply UInt16.toNat.inj
  rw [UInt16.toNat_ofNat', roundedPadding]
  by_cases h : n % 4 = 0
  · have hzero : n.toNat % 4 = 0 := by rw [← hmod, h]; rfl
    rw [if_neg (not_not.mpr h), paddingFor_of_aligned hzero]
    omega
  · have hpos : n.toNat % 4 ≠ 0 := by
      rw [← hmod]
      exact fun h0 => h (UInt16.toNat.inj h0)
    rw [if_pos h, UInt16.toNat_sub, UInt16.toNat_add, hmod, paddingFor, h4]
    omega

theorem padding_readBack (h : Accepted bs as r) {paddingSize : UInt16}
    (hlast : lastValue STUN_ATTRIBUTE_PADDING as = some (zeros (roundedPadding paddingSize).toNat)) :
    r.getPaddingAttributeSize = (S_OK, UInt16.ofNat (paddingSize.toNat + paddingFor paddingSize.toNat)) := by
  rw [h.getPaddingAttributeSize_eq, hlast, ← roundedPadding_eq]
  simp

theorem errorCode_readBack (h : Accepted bs as r) {legacy : Bool} {errorNumber : UInt16} {reason : Bytes}
    (hhi : errorNumber ≤ 600)
    (hlast : lastValue STUN_ATTRIBUTE_ERRORCODE as = some (modeValue legacy (errorValue errorNumber reason))) :
    r.getErrorCode = .ok errorNumber := by
  obtain ⟨rest, hvalue⟩ : ∃ rest, modeValue legacy (errorValue errorNumber reason) =
      0 :: 0 :: UInt8.ofNat (errorNumber.toNat / 100) :: UInt8.ofNat (errorNumber.toNat % 100) :: rest := by
    cases legacy with
    | false => exact ⟨reason, rfl⟩
    | true => exact ⟨reason ++ zeros (paddingFor (errorValue errorNumber reason).length), rfl⟩
  have hle : errorNumber.toNat ≤ 600 := hhi
  rw [h.getErrorCode_eq hlast (by rw [hvalue]; simp), hvalue]
  simp only [List.getD_cons_succ, List.getD_cons_zero]
  have hclass : (UInt8.ofNat (errorNumber.toNat / 100) &&& 0x07).toNat = errorNumber.toNat / 100 := by
    have hseven := Nat.and_two_pow_sub_one_eq_mod (errorNumber.toNat / 100) 3
    rw [UInt8.toNat_and, UInt8.toNat_ofNat_of_lt' (show _ < 2 ^ 8 by omega)]
    exact hseven.trans (Nat.mod_eq_of_lt (by omega))
  rw [hclass, UInt8.toNat_ofNat_of_lt' (show _ < 2 ^ 8 by omega), Nat.mul_comm, Nat.div_add_mod,
    UInt16.ofNat_toNat]

theorem responsePort_readBack (h : Accepted bs as r) {port : UInt16}
    (hlast : lastValue STUN_ATTRIBUTE_RESPONSE_PORT as = some (be16 port)) : r.getResponsePort = .ok port := by
  rw [h.getResponsePort_eq, hlast]
  simp

end Getters

/-- In legacy mode no call with a getter writes one of the three modern address types. -/
theorem getter_legacy_type {call : Call} (h : Getter true call) :
    call.type true ≠ STUN_ATTRIBUTE_XORMAPPEDADDRESS ∧ call.type true ≠ STUN_ATTRIBUTE_RESPONSE_ORIGIN ∧
      call.type true ≠ STUN_ATTRIBUTE_OTHER_ADDRESS := by
  cases call with
  | rawAttribute _ _ => cases h
  | unknownAttributes _ => cases h
  | _ => simp only [Call.type]; decide

/-- A call with a getter is no signature. -/
theorem getter_type {legacy : Bool} {call : Call} (h : Getter legacy call) :
    call.type legacy ≠ STUN_ATTRIBUTE_MESSAGEINTEGRITY := by
  cases call with
  | rawAttribute _ _ => cases h
  | unknownAttributes _ => cases h
  | _ => cases legacy <;> simp only [Call.type] <;> decide

/-- The last call of its kind is read back, also when the message was signed. -/
theorem call_readBack_signed {legacy : Bool} {transid : StunTransactionId} {calls before after : List Call}
    {call : Call} {closing : List Attribute} {bs : Bytes} {r : CStunMessageReader} (hfit : ValuesFit transid calls)
    (hclosing : ∀ a ∈ closing, a.type = STUN_ATTRIBUTE_MESSAGEINTEGRITY)
    (hgetter : ∀ c ∈ calls, Getter legacy c) (hvalid : ∀ c ∈ calls, c.Valid)
    (hacc : Accepted bs (attributesOf legacy transid calls hfit ++ closing) r)
    (htransid : r.getTransactionId = transid) (hsplit : calls = before ++ call :: after)
    (hafter : ∀ c ∈ after, c.type legacy ≠ call.type legacy) : ReadBack r call := by
  subst hsplit
  have hcall := hgetter call (List.mem_append_right _ List.mem_cons_self)
  have hskip : ∀ t, t ≠ STUN_ATTRIBUTE_MESSAGEINTEGRITY →
      lastValue t (attributesOf legacy transid (before ++ call :: after) hfit ++ closing) =
        lastValue t (attributesOf legacy transid (before ++ call :: after) hfit) := by
    intro t ht
    rw [lastValue_append, lastValue_eq_none]
    · rfl
    · intro hmem
      obtain ⟨a, ha, rfl⟩ := List.mem_map.mp hmem
      exact ht (hclosing a ha)
  have hlast := lastValue_calls legacy transid hfit hafter
  rw [← hskip _ (getter_type hcall)] at hlast
  have hmodern : ∀ t, t ≠ STUN_ATTRIBUTE_MESSAGEINTEGRITY → (∀ c, Getter true c → c.type true ≠ t) →
      legacy = true → lastValue t (attributesOf legacy transid (before ++ call :: after) hfit ++ closing) = none := by
    rintro t hmi ht rfl
    rw [hskip t hmi]
    exact lastValue_calls_none true transid hfit fun c hc => ht c (hgetter c hc)
  cases call with
  | userName psz => exact string_readBack hacc hlast
  | realm psz => exact string_readBack hacc hlast
  | nonce psz => exact string_readBack hacc hlast
  | mappedAddress addr =>
    simp only [Call.value, modeValue_wireValue] at hlast
    exact address_readBack hacc hlast
  | xorMappedAddress addr =>
    simp only [Call.value, modeValue_wireValue] at hlast
    have hget := fallback_readBack hacc hlast (hmodern _ (by decide) fun c hc => (getter_legacy_type hc).1)
    simp only [ReadBack, getXorMappedAddress, hget]
    rw [getTransactionId] at htransid
    simp [Except.map, htransid]
  | responseOriginAddress addr =>
    simp only [Call.value, modeValue_wireValue] at hlast
    exact fallback_readBack hacc hlast (hmodern _ (by decide) fun c hc => (getter_legacy_type hc).2.1)
  | otherAddress addr =>
    simp only [Call.value, modeValue_wireValue] at hlast
    exact fallback_readBack hacc hlast (hmodern _ (by decide) fun c hc => (getter_legacy_type hc).2.2)
  | changeRequest changeAttrib =>
    rw [Call.value, modeValue_of_aligned legacy (by rw [be32_length])] at hlast
    exact changeRequest_readBack hacc hlast
  | padding paddingSize =>
    rw [Call.value, modeValue_of_aligned legacy (by rw [zeros_length, roundedPadding_aligned])] at hlast
    exact padding_readBack hacc hlast
  | errorCode errorNumber psz => exact errorCode_readBack hacc (hvalid _ (List.mem_append_right _ List.mem_cons_self)).2.1 hlast
  | responsePort port =>
    obtain rfl : legacy = false := hcall
    exact responsePort_readBack hacc hlast
  | unknownAttributes _ => trivial
  | rawAttribute _ _ => trivial

theorem call_readBack {legacy : Bool} {transid : StunTransactionId} {calls before after : List Call} {call : Call}
    {bs : Bytes} {r : CStunMessageReader} (hfit : ValuesFit transid calls) (hgetter : ∀ c ∈ calls, Getter legacy c)
    (hvalid : ∀ c ∈ calls, c.Valid) (hacc : Accepted bs (attributesOf legacy transid calls hfit) r)
    (htransid : r.getTransactionId = transid) (hsplit : calls = before ++ call :: after)
    (hafter : ∀ c ∈ after, c.type legacy ≠ call.type legacy) : ReadBack r call := by
  rw [← List.append_nil (attributesOf ..)] at hacc
  exact call_readBack_signed hfit (by simp) hgetter hvalid hacc htransid hsplit hafter

end NatTester.Wire
