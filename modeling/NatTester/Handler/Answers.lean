import NatTester.Handler.Pipeline

/-!
# The responses as a fresh reader finds them

Both responses of the handler are read from the caller's buffer by a fresh
reader, with the type, the transaction id and the attributes they were made of.
-/
namespace NatTester.Handler
open NatTester.Lib NatTester.Source NatTester.Wire CStunRequestHandler CStunMessageReader CStunMessageBuilder

variable [Platform] {h : CStunRequestHandler} {r : CStunMessageReader}

/-- A string attribute is in the message when the string is not empty. -/
def StringSent (r : CStunMessageReader) (t : UInt16) (sz : AuthString) : Prop :=
  (sz.str = [] → r.getAttributeByType t = .error E_FAIL) ∧ (sz.str ≠ [] → StringReadBack r t sz.chars)

/-- An error response to the request, carrying the code and the challenge of `error`. -/
structure ErrorAnswer (request : CStunMessageReader) (error : StunErrorCode) (r : CStunMessageReader) : Prop where
  state : r.getState = .bodyValidated
  type : r.getMessageType = request.getMessageType
  msgClass : r.getMessageClass = .failureResponse
  transid : r.getTransactionId = request.getTransactionId
  code : r.getErrorCode = .ok error.errorcode
  challenge : error.errorcode = STUN_ERROR_STALENONCE ∨ error.errorcode = STUN_ERROR_UNAUTHORIZED →
    StringSent r STUN_ATTRIBUTE_NONCE error.szNonce ∧ StringSent r STUN_ATTRIBUTE_REALM error.szRealm

/-- A success response to the request, for the addresses it was built of. -/
structure SuccessAnswer [Digests] (request : CStunMessageReader) (addrRemote : CSocketAddress)
    (addrOther : Option CSocketAddress) (integrity : StunMessageIntegrity) (r : CStunMessageReader) : Prop where
  state : r.getState = .bodyValidated
  type : r.getMessageType = StunMsgTypeBinding
  msgClass : r.getMessageClass = .successResponse
  transid : r.getTransactionId = request.getTransactionId
  mapped : r.getMappedAddress = .ok addrRemote
  xorMapped : r.getXorMappedAddress = .ok addrRemote
  other : ∀ addr, addrOther = some addr → r.getOtherAddress = .ok addr
  signed : r.hasMessageIntegrityAttribute = integrity.fSendWithIntegrity
  validates : integrity.fSendWithIntegrity = true →
    SUCCEEDED (r.validateMessageIntegrity (credentialOf integrity).key) = true

/-- The message has an attribute of the type. -/
def Carries (r : CStunMessageReader) (t : UInt16) : Prop := (r.mapAttributes.lookup t).isSome = true

/-- The message has a RESPONSE-ORIGIN, under its modern type or its legacy one. -/
def CarriesOrigin (r : CStunMessageReader) : Prop :=
  Carries r STUN_ATTRIBUTE_RESPONSE_ORIGIN ∨ Carries r STUN_ATTRIBUTE_SOURCEADDRESS

/-- The message has an OTHER-ADDRESS, under its modern type or its legacy one. -/
def CarriesOther (r : CStunMessageReader) : Prop :=
  Carries r STUN_ATTRIBUTE_OTHER_ADDRESS ∨ Carries r STUN_ATTRIBUTE_CHANGEDADDRESS

/-- The addresses of the server that a response names. -/
structure NamedAddresses (addrOrigin addrOther : Option CSocketAddress) (r : CStunMessageReader) : Prop where
  origin : CarriesOrigin r → ∃ addr, addrOrigin = some addr ∧ r.getResponseOriginAddress = .ok addr
  other : CarriesOther r → addrOther.isSome = true

omit [Platform] in
/-- Every attribute but the signature was made by a call. -/
theorem carries_call {legacy : Bool} {transid : StunTransactionId} {calls : List Call}
    {hfit : ValuesFit transid calls} {closing : List Attribute} {bs : Bytes}
    (hclosing : ∀ a ∈ closing, a.type = STUN_ATTRIBUTE_MESSAGEINTEGRITY)
    (hacc : Accepted bs (attributesOf legacy transid calls hfit ++ closing) r) {t : UInt16}
    (ht : t ≠ STUN_ATTRIBUTE_MESSAGEINTEGRITY) (hcarries : Carries r t) :
    ∃ call ∈ calls, call.type legacy = t := by
  by_contra hnot
  have hnone : lastValue t (attributesOf legacy transid calls hfit ++ closing) = none := by
    refine lastValue_eq_none ?_
    rw [List.map_append, types_attributesOf, List.mem_append]
    rintro (hmem | hmem)
    · obtain ⟨call, hcall, htype⟩ := List.mem_map.mp hmem
      exact hnot ⟨call, hcall, htype⟩
    · obtain ⟨a, ha, rfl⟩ := List.mem_map.mp hmem
      exact ht (hclosing a ha)
  rw [Carries, hacc.lookup_none hnone] at hcarries
  cases hcarries

omit [Platform] in
theorem errorCalls_stringSent {error : StunErrorCode} (hsend : Sendable error) {legacy : Bool}
    {transid : StunTransactionId} {bs : Bytes}
    (hacc : Accepted bs (attributesOf legacy transid (errorCalls error) (errorCalls_fit hsend transid)) r)
    (htransid : r.getTransactionId = transid)
    (hchallenge : error.errorcode = STUN_ERROR_STALENONCE ∨ error.errorcode = STUN_ERROR_UNAUTHORIZED) :
    StringSent r STUN_ATTRIBUTE_NONCE error.szNonce ∧ StringSent r STUN_ATTRIBUTE_REALM error.szRealm := by
  have hcalls : errorCalls error =
      .errorCode error.errorcode failedReason ::
        (stringCalls .nonce error.szNonce ++ stringCalls .realm error.szRealm) := by
    rw [errorCalls, if_pos hchallenge]
  have hmissing : ∀ t, (∀ call ∈ errorCalls error, call.type legacy ≠ t) → r.getAttributeByType t = .error E_FAIL := by
    intro t ht
    rw [getAttributeByType, hacc.lookup_none (lastValue_calls_none legacy transid _ ht)]
  have hread : ∀ before call after, errorCalls error = before ++ call :: after →
      (∀ c ∈ after, c.type legacy ≠ call.type legacy) → ReadBack r call := fun _ _ _ =>
    call_readBack _ (errorCalls_getter legacy) (errorCalls_valid hsend) hacc htransid
  have hdistinct : STUN_ATTRIBUTE_REALM ≠ STUN_ATTRIBUTE_NONCE := by decide
  refine ⟨⟨fun hnil => hmissing _ ?_, fun hne => ?_⟩, ⟨fun hnil => hmissing _ ?_, fun hne => ?_⟩⟩
  · exact errorCalls_forall (show STUN_ATTRIBUTE_ERRORCODE ≠ _ by decide) (fun hne => absurd hnil hne)
      fun _ => hdistinct
  · have hsplit : errorCalls error = [.errorCode error.errorcode failedReason] ++
        .nonce error.szNonce.chars :: stringCalls .realm error.szRealm := by
      rw [hcalls, stringCalls, if_neg hne]
      rfl
    refine hread _ _ _ hsplit fun c hc => ?_
    rw [stringCalls] at hc
    split at hc
    · cases hc
    · rw [List.mem_singleton.mp hc]
      exact hdistinct
  · exact errorCalls_forall (show STUN_ATTRIBUTE_ERRORCODE ≠ _ by decide) (fun _ => hdistinct.symm)
      fun hne => absurd hnil hne
  · have hlast : stringCalls .realm error.szRealm = [.realm error.szRealm.chars] := if_neg hne
    refine hread (.errorCode error.errorcode failedReason :: stringCalls .nonce error.szNonce)
      (.realm error.szRealm.chars) [] ?_ (by simp)
    rw [hcalls, hlast]
    rfl

/-- The error response, in the caller's buffer. -/
theorem buildErrorResponse_read (hready : Ready h) (hmethod : h.reader.getMessageType < 0x1000)
    (hsend : Sendable h.error) :
    ∃ buf, h.buildErrorResponse = h.setBufferOut buf ∧
      buf.allocatedSize = h.pMsgOut.spBufferOut.allocatedSize ∧ buf.size ≤ MAX_STUN_MESSAGE_SIZE ∧
      (addBytes buf.contents CStunMessageReader.new).1 = .bodyValidated ∧
      ReadFrame h.error.msgtype h.error.msgclass h.transid
        (attributesOf h.fLegacyMode h.transid (errorCalls h.error) (errorCalls_fit hsend h.transid))
        (addBytes buf.contents CStunMessageReader.new).2 := by
  have hfit := errorCalls_fit hsend h.transid
  have hbytes := errorCalls_bytes_le hsend h.fLegacyMode h.transid
  have hbody := body_attributesOf h.fLegacyMode h.transid hfit
  have hlen := frame_length (msgTypeField h.error.msgtype h.error.msgclass)
    (UInt16.ofNat (callBytes h.fLegacyMode h.transid (errorCalls h.error)).length) h.transid
    (callBytes h.fLegacyMode h.transid (errorCalls h.error))
  have hroom := hready.room
  simp only [MAX_STUN_MESSAGE_SIZE] at hroom
  obtain ⟨buf, hbuf, hcontents, hsize, halloc⟩ := withBuilder_contents hready.room
    (by rw [hlen]; simp only [STUN_HEADER_SIZE, MAX_STUN_MESSAGE_SIZE]; omega)
    (errorResponse_built (by omega) hsend)
  refine ⟨buf, hbuf, halloc, ?_, ?_⟩
  · rw [hsize, hlen]
    simp only [STUN_HEADER_SIZE, MAX_STUN_MESSAGE_SIZE]
    omega
  have hcount := errorCalls_length h.error
  have hmsgtype : h.error.msgtype < 0x1000 := by rw [hready.msgtype]; exact hmethod
  have hmsgclass : h.error.msgclass ≠ .invalidMessageClass := by rw [hready.msgclass]; decide
  obtain ⟨hresult, hread⟩ := read_frame fresh_new h.transid (.inr rfl) hmsgtype hmsgclass
    (attributesOf h.fLegacyMode h.transid (errorCalls h.error) hfit)
    (by rw [attributesOf_length]; omega) (by rw [hbody]; simp only [MAX_STUN_MESSAGE_SIZE]; omega)
  rw [hbody, ← hcontents] at hresult hread
  exact ⟨hresult, hread⟩

omit [Platform] in
theorem errorAnswer_of_readFrame (hready : Ready h) (hsend : Sendable h.error)
    (hread : ReadFrame h.error.msgtype h.error.msgclass h.transid
      (attributesOf h.fLegacyMode h.transid (errorCalls h.error) (errorCalls_fit hsend h.transid)) r) :
    ErrorAnswer h.reader h.error r := by
  refine ⟨hread.accepted.state, hread.type_eq.trans hready.msgtype, hread.class_eq.trans hready.msgclass,
    hread.transid_eq.trans hready.transid, ?_, errorCalls_stringSent hsend hread.accepted hread.transid_eq⟩
  have htail : ∀ c ∈ (errorCalls h.error).tail, c.type h.fLegacyMode ≠ STUN_ATTRIBUTE_ERRORCODE := by
    intro c hc
    rw [errorCalls, List.tail_cons] at hc
    split at hc
    · rcases List.mem_append.mp hc with hs | hs <;> rw [stringCalls] at hs <;> split at hs
      · cases hs
      · rw [List.mem_singleton.mp hs]
        exact show STUN_ATTRIBUTE_NONCE ≠ _ by decide
      · cases hs
      · rw [List.mem_singleton.mp hs]
        exact show STUN_ATTRIBUTE_REALM ≠ _ by decide
    · cases hc
  exact call_readBack _ (errorCalls_getter h.fLegacyMode) (errorCalls_valid hsend) hread.accepted
    hread.transid_eq (List.nil_append _).symm htail

omit [Platform] in
/-- An error response names no address. -/
theorem errorAddresses_of_readFrame (hsend : Sendable h.error)
    (hread : ReadFrame h.error.msgtype h.error.msgclass h.transid
      (attributesOf h.fLegacyMode h.transid (errorCalls h.error) (errorCalls_fit hsend h.transid)) r) :
    NamedAddresses none none r := by
  have hacc := hread.accepted
  rw [← List.append_nil (attributesOf ..)] at hacc
  have habsent : ∀ t, t ≠ STUN_ATTRIBUTE_MESSAGEINTEGRITY → t ≠ STUN_ATTRIBUTE_ERRORCODE → t ≠ STUN_ATTRIBUTE_NONCE →
      t ≠ STUN_ATTRIBUTE_REALM → ¬ Carries r t := by
    intro t hsigned hcode hnonce hrealm hcarries
    obtain ⟨call, hcall, htype⟩ := carries_call (by simp) hacc hsigned hcarries
    exact errorCalls_forall (P := fun call => call.type h.fLegacyMode ≠ t) hcode.symm (fun _ => hnonce.symm)
      (fun _ => hrealm.symm) call hcall htype
  refine ⟨fun hcarries => ?_, fun hcarries => ?_⟩
  · rcases hcarries with hc | hc <;> exact absurd hc (habsent _ (by decide) (by decide) (by decide) (by decide))
  · rcases hcarries with hc | hc <;> exact absurd hc (habsent _ (by decide) (by decide) (by decide) (by decide))

theorem buildErrorResponse_answer (hready : Ready h) (hmethod : h.reader.getMessageType < 0x1000)
    (hsend : Sendable h.error) :
    ∃ buf, h.buildErrorResponse = h.setBufferOut buf ∧
      buf.allocatedSize = h.pMsgOut.spBufferOut.allocatedSize ∧ buf.size ≤ MAX_STUN_MESSAGE_SIZE ∧
      (addBytes buf.contents CStunMessageReader.new).1 = .bodyValidated ∧
      ErrorAnswer h.reader h.error (addBytes buf.contents CStunMessageReader.new).2 := by
  obtain ⟨buf, hbuf, halloc, hsize, hstate, hread⟩ := buildErrorResponse_read hready hmethod hsend
  exact ⟨buf, hbuf, halloc, hsize, hstate, errorAnswer_of_readFrame hready hsend hread⟩

/-! ## The success response -/

section Success
variable [Digests] {addrOrigin : CSocketAddress} {addrOther : Option CSocketAddress}

omit [Platform] in
theorem signature_types (integrity : StunMessageIntegrity) (transid : StunTransactionId) (bs : Bytes) :
    ∀ a ∈ signature integrity transid bs, a.type = STUN_ATTRIBUTE_MESSAGEINTEGRITY := by
  intro a ha
  rw [signature] at ha
  split at ha
  · rw [List.mem_singleton.mp ha]
    rfl
  · cases ha

omit [Platform] in
theorem signature_length (integrity : StunMessageIntegrity) (transid : StunTransactionId) (bs : Bytes) :
    (signature integrity transid bs).length ≤ 1 ∧ (body (signature integrity transid bs)).length ≤ 24 := by
  rw [signature]
  split
  · rw [body_cons, body_nil, List.append_nil, Credential.integrityAttribute_length]
    exact ⟨Nat.le_refl 1, Nat.le_refl 24⟩
  · exact ⟨Nat.zero_le 1, Nat.zero_le 24⟩

omit [Platform] [Digests] in
/-- An origin is sent when its IP is not zero, another address when there is one. -/
theorem successCalls_type (addrRemote addrOrigin : CSocketAddress) (addrOther : Option CSocketAddress) (legacy : Bool) :
    ∀ call ∈ successCalls addrRemote addrOrigin addrOther,
      (call.type legacy = STUN_ATTRIBUTE_RESPONSE_ORIGIN ∨ call.type legacy = STUN_ATTRIBUTE_SOURCEADDRESS →
        addrOrigin.isIPAddressZero = false) ∧
      (call.type legacy = STUN_ATTRIBUTE_OTHER_ADDRESS ∨ call.type legacy = STUN_ATTRIBUTE_CHANGEDADDRESS →
        addrOther.isSome = true) := by
  refine successCalls_forall _ _ _ ⟨fun ht => ?_, fun ht => ?_⟩ (fun hsent => ⟨fun _ => hsent, fun ht => ?_⟩)
    (fun addr hother => ⟨fun ht => ?_, fun _ => by rw [hother]; rfl⟩) ⟨fun ht => ?_, fun ht => ?_⟩
  all_goals exact absurd ht (by cases legacy <;> simp only [Call.type] <;> decide)

omit [Platform] [Digests] in
/-- The addresses are found under the type of the mode they were written in. -/
theorem successCalls_named {legacy : Bool} {transid : StunTransactionId} {addrRemote : CSocketAddress}
    {closing : List Attribute} {bs : Bytes} (hclosing : ∀ a ∈ closing, a.type = STUN_ATTRIBUTE_MESSAGEINTEGRITY)
    (hacc : Accepted bs (attributesOf legacy transid (successCalls addrRemote addrOrigin addrOther)
      (successCalls_fit _ _ _ transid) ++ closing) r) (htransid : r.getTransactionId = transid) :
    NamedAddresses (if addrOrigin.isIPAddressZero then none else some addrOrigin) addrOther r := by
  have hcall : ∀ {t}, t ≠ STUN_ATTRIBUTE_MESSAGEINTEGRITY → Carries r t →
      ∃ call ∈ successCalls addrRemote addrOrigin addrOther, call.type legacy = t := fun ht =>
    carries_call hclosing hacc ht
  refine ⟨fun hcarries => ?_, fun hcarries => ?_⟩
  · have hsent : addrOrigin.isIPAddressZero = false := by
      rcases hcarries with hc | hc
      · obtain ⟨call, hmem, htype⟩ := hcall (by decide) hc
        exact (successCalls_type _ _ _ legacy call hmem).1 (.inl htype)
      · obtain ⟨call, hmem, htype⟩ := hcall (by decide) hc
        exact (successCalls_type _ _ _ legacy call hmem).1 (.inr htype)
    have hsplit : successCalls addrRemote addrOrigin addrOther =
        [.mappedAddress addrRemote] ++ .responseOriginAddress addrOrigin ::
          ((addrOther.map Call.otherAddress).toList ++ [.xorMappedAddress addrRemote]) := by
      rw [successCalls, if_pos hsent]
      rfl
    refine ⟨addrOrigin, by rw [hsent]; rfl, ?_⟩
    refine call_readBack_signed _ hclosing (successCalls_getter _ _ _ legacy) (successCalls_valid _ _ _) hacc htransid
      hsplit fun c hc => ?_
    rcases List.mem_append.mp hc with hc | hc
    · cases addrOther with
      | none => cases hc
      | some addr =>
        rw [List.mem_singleton.mp hc]
        cases legacy <;> simp only [Call.type] <;> decide
    · rw [List.mem_singleton.mp hc]
      cases legacy <;> simp only [Call.type] <;> decide
  · rcases hcarries with hc | hc
    · obtain ⟨call, hmem, htype⟩ := hcall (by decide) hc
      exact (successCalls_type _ _ _ legacy call hmem).2 (.inl htype)
    · obtain ⟨call, hmem, htype⟩ := hcall (by decide) hc
      exact (successCalls_type _ _ _ legacy call hmem).2 (.inr htype)

omit [Platform] [Digests] in
/-- Of each kind of address there is one call at most. -/
theorem successCalls_readBack {legacy : Bool} {transid : StunTransactionId} {addrRemote : CSocketAddress}
    {closing : List Attribute} {bs : Bytes} (hclosing : ∀ a ∈ closing, a.type = STUN_ATTRIBUTE_MESSAGEINTEGRITY)
    (hacc : Accepted bs (attributesOf legacy transid (successCalls addrRemote addrOrigin addrOther)
      (successCalls_fit _ _ _ transid) ++ closing) r) (htransid : r.getTransactionId = transid) :
    r.getMappedAddress = .ok addrRemote ∧ r.getXorMappedAddress = .ok addrRemote ∧
      ∀ addr, addrOther = some addr → r.getOtherAddress = .ok addr := by
  have hread : ∀ before call after, successCalls addrRemote addrOrigin addrOther = before ++ call :: after →
      (∀ c ∈ after, c.type legacy ≠ call.type legacy) → ReadBack r call := fun _ _ _ =>
    call_readBack_signed _ hclosing (successCalls_getter _ _ _ legacy) (successCalls_valid _ _ _) hacc htransid
  refine ⟨?_, ?_, ?_⟩
  · refine hread [] (.mappedAddress addrRemote) _ rfl fun c hc => ?_
    have htypes : c.type legacy = (Call.responseOriginAddress addrRemote).type legacy ∨
        c.type legacy = (Call.otherAddress addrRemote).type legacy ∨
        c.type legacy = (Call.xorMappedAddress addrRemote).type legacy := by
      simp only [List.mem_append, List.mem_singleton] at hc
      rcases hc with hc | hc | rfl
      · split at hc
        · rw [List.mem_singleton.mp hc]
          exact .inl rfl
        · cases hc
      · cases addrOther with
        | none => cases hc
        | some addr =>
          rw [List.mem_singleton.mp hc]
          exact .inr (.inl rfl)
      · exact .inr (.inr rfl)
    rcases htypes with ht | ht | ht <;> rw [ht] <;> cases legacy <;> simp only [Call.type] <;> decide
  · refine hread (.mappedAddress addrRemote ::
      ((if addrOrigin.isIPAddressZero = false then [.responseOriginAddress addrOrigin] else []) ++
        (addrOther.map Call.otherAddress).toList)) (.xorMappedAddress addrRemote) [] ?_ (by simp)
    rw [successCalls, List.cons_append, List.append_assoc]
  · rintro addr rfl
    refine hread (.mappedAddress addrRemote ::
      (if addrOrigin.isIPAddressZero = false then [.responseOriginAddress addrOrigin] else []))
      (.otherAddress addr) [.xorMappedAddress addrRemote] rfl fun c hc => ?_
    rw [List.mem_singleton.mp hc]
    cases legacy <;> simp only [Call.type] <;> decide

omit [Platform] in
theorem hasMessageIntegrityAttribute_eq {legacy : Bool} {transid : StunTransactionId} {addrRemote : CSocketAddress}
    {integrity : StunMessageIntegrity} {bs signed : Bytes}
    (hacc : Accepted bs (attributesOf legacy transid (successCalls addrRemote addrOrigin addrOther)
      (successCalls_fit _ _ _ transid) ++ signature integrity transid signed) r) :
    r.hasMessageIntegrityAttribute = integrity.fSendWithIntegrity := by
  have hcalls : ∀ call ∈ successCalls addrRemote addrOrigin addrOther,
      call.type legacy ≠ STUN_ATTRIBUTE_MESSAGEINTEGRITY := fun call hcall =>
    getter_type (successCalls_getter _ _ _ legacy call hcall)
  rw [hasMessageIntegrityAttribute]
  cases hsend : integrity.fSendWithIntegrity with
  | true =>
    rw [signature, if_pos hsend] at hacc
    have hlookup := hacc.lookup_split (by simp)
    change r.mapAttributes.lookup STUN_ATTRIBUTE_MESSAGEINTEGRITY = _ at hlookup
    rw [hlookup]
    rfl
  | false =>
    rw [signature, if_neg (by rw [hsend]; decide), List.append_nil] at hacc
    rw [hacc.lookup_none (lastValue_calls_none legacy transid _ hcalls)]
    rfl

/-- The attributes of a success response. -/
def successAttributes (addrOrigin : CSocketAddress) (addrOther : Option CSocketAddress) (h : CStunRequestHandler) :
    List Attribute :=
  attributesOf h.fLegacyMode h.transid (successCalls h.pMsgIn.addrRemote addrOrigin addrOther)
      (successCalls_fit _ _ _ h.transid) ++
    signature h.integrity h.transid
      (callBytes h.fLegacyMode h.transid (successCalls h.pMsgIn.addrRemote addrOrigin addrOther))

/-- The success response, in the caller's buffer. -/
theorem successResponse_read (hready : Ready h) (addrOrigin : CSocketAddress) (addrOther : Option CSocketAddress) :
    ∃ buf, h.withBuilder (h.successResponse addrOrigin addrOther) = h.setBufferOut buf ∧
      buf.allocatedSize = h.pMsgOut.spBufferOut.allocatedSize ∧ buf.size ≤ MAX_STUN_MESSAGE_SIZE ∧
      (addBytes buf.contents CStunMessageReader.new).1 = .bodyValidated ∧
      ReadFrame StunMsgTypeBinding .successResponse h.transid (successAttributes addrOrigin addrOther h)
        (addBytes buf.contents CStunMessageReader.new).2 := by
  have hfit := successCalls_fit h.pMsgIn.addrRemote addrOrigin addrOther h.transid
  have hbytes := successCalls_bytes_le h.pMsgIn.addrRemote addrOrigin addrOther h.fLegacyMode h.transid
  have hcount := successCalls_length h.pMsgIn.addrRemote addrOrigin addrOther
  have hbody := body_attributesOf h.fLegacyMode h.transid hfit
  have hattributes := attributesOf_length h.fLegacyMode h.transid hfit
  have hsignature := signature_length h.integrity h.transid
    (callBytes h.fLegacyMode h.transid (successCalls h.pMsgIn.addrRemote addrOrigin addrOther))
  have hall : successBody addrOrigin addrOther h =
      body (attributesOf h.fLegacyMode h.transid (successCalls h.pMsgIn.addrRemote addrOrigin addrOther) hfit ++
        signature h.integrity h.transid
          (callBytes h.fLegacyMode h.transid (successCalls h.pMsgIn.addrRemote addrOrigin addrOther))) := by
    rw [body_append, hbody]
    rfl
  have hsize : (successBody addrOrigin addrOther h).length ≤ 120 := by
    simp only [successBody, List.length_append]
    omega
  have hlen := frame_length (msgTypeField StunMsgTypeBinding .successResponse)
    (UInt16.ofNat (successBody addrOrigin addrOther h).length) h.transid (successBody addrOrigin addrOther h)
  have hroom := hready.room
  simp only [MAX_STUN_MESSAGE_SIZE] at hroom
  obtain ⟨buf, hbuf, hcontents, hbufSize, halloc⟩ := withBuilder_contents hready.room
    (by rw [hlen]; simp only [STUN_HEADER_SIZE, MAX_STUN_MESSAGE_SIZE]; omega)
    (successResponse_built (by omega) hready.signed addrOrigin addrOther)
  refine ⟨buf, hbuf, halloc, ?_, ?_⟩
  · rw [hbufSize, hlen]
    simp only [STUN_HEADER_SIZE, MAX_STUN_MESSAGE_SIZE]
    omega
  rw [hall] at hcontents hsize
  have hbinding : StunMsgTypeBinding < 0x1000 := by decide
  have hsuccess : StunMessageClass.successResponse ≠ .invalidMessageClass := by decide
  obtain ⟨hresult, hread⟩ := read_frame fresh_new h.transid (.inr rfl) hbinding hsuccess
    (attributesOf h.fLegacyMode h.transid (successCalls h.pMsgIn.addrRemote addrOrigin addrOther) hfit ++
      signature h.integrity h.transid
        (callBytes h.fLegacyMode h.transid (successCalls h.pMsgIn.addrRemote addrOrigin addrOther)))
    (by rw [List.length_append, hattributes]; omega) (by simp only [MAX_STUN_MESSAGE_SIZE]; omega)
  rw [← hcontents] at hresult hread
  exact ⟨hresult, hread⟩

omit [Platform] in
theorem successAnswer_of_readFrame (hready : Ready h)
    (hread : ReadFrame StunMsgTypeBinding .successResponse h.transid (successAttributes addrOrigin addrOther h) r) :
    SuccessAnswer h.reader h.pMsgIn.addrRemote addrOther h.integrity r := by
  obtain ⟨hmapped, hxor, hother⟩ := successCalls_readBack (signature_types _ _ _) hread.accepted hread.transid_eq
  refine ⟨hread.accepted.state, hread.type_eq, hread.class_eq, hread.transid_eq.trans hready.transid, hmapped,
    hxor, hother, hasMessageIntegrityAttribute_eq hread.accepted, fun hsend => ?_⟩
  have hbody := body_attributesOf h.fLegacyMode h.transid
    (successCalls_fit h.pMsgIn.addrRemote addrOrigin addrOther h.transid)
  have hsigned := hread.accepted
  rw [successAttributes, signature, if_pos hsend, ← hbody] at hsigned
  have hok := Credential.validate_signed (hready.signed hsend) (.inl rfl) hsigned
  rw [Credential.validate_eq hread.accepted] at hok
  rw [hok]
  rfl

omit [Platform] in
/-- A success response names the addresses it was built of. -/
theorem successAddresses_of_readFrame
    (hread : ReadFrame StunMsgTypeBinding .successResponse h.transid (successAttributes addrOrigin addrOther h) r) :
    NamedAddresses (if addrOrigin.isIPAddressZero then none else some addrOrigin) addrOther r :=
  successCalls_named (signature_types _ _ _) hread.accepted hread.transid_eq

theorem successResponse_answer (hready : Ready h) (addrOrigin : CSocketAddress) (addrOther : Option CSocketAddress) :
    ∃ buf, h.withBuilder (h.successResponse addrOrigin addrOther) = h.setBufferOut buf ∧
      buf.allocatedSize = h.pMsgOut.spBufferOut.allocatedSize ∧ buf.size ≤ MAX_STUN_MESSAGE_SIZE ∧
      (addBytes buf.contents CStunMessageReader.new).1 = .bodyValidated ∧
      SuccessAnswer h.reader h.pMsgIn.addrRemote addrOther h.integrity
        (addBytes buf.contents CStunMessageReader.new).2 := by
  obtain ⟨buf, hbuf, halloc, hsize, hstate, hread⟩ := successResponse_read hready addrOrigin addrOther
  exact ⟨buf, hbuf, halloc, hsize, hstate, successAnswer_of_readFrame hready hread⟩

end Success

end NatTester.Handler
