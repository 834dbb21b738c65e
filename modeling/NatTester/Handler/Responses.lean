import NatTester.Source.MessageHandler
import NatTester.Wire.Integrity
import NatTester.Wire.ReadBack

/-!
# The two responses of the request handler

Every call the handler makes of the builder succeeds: an error response is its
code and at most a nonce and a realm, a success response the addresses and at
most a signature. Both fit into the 800 bytes the caller's buffer has at least,
so the builder never leaves it.
-/
namespace NatTester.Handler
open NatTester.Lib NatTester.Source NatTester.Wire CStunRequestHandler CStunMessageBuilder

/-! ## Error responses -/

/-- The calls `addStringIfSet` comes to. -/
def stringCalls (call : Bytes → Call) (sz : AuthString) : List Call :=
  if sz.str = [] then [] else [call sz.chars]

/-- The attributes of an error response. -/
def errorCalls (error : StunErrorCode) : List Call :=
  .errorCode error.errorcode failedReason ::
    if error.errorcode = STUN_ERROR_STALENONCE ∨ error.errorcode = STUN_ERROR_UNAUTHORIZED then
      stringCalls .nonce error.szNonce ++ stringCalls .realm error.szRealm
    else []

/-- An error the handler sends: one of its three codes, strings that are terminated. -/
structure Sendable (error : StunErrorCode) : Prop where
  code : error.errorcode = STUN_ERROR_BADREQUEST ∨ error.errorcode = STUN_ERROR_UNAUTHORIZED ∨
    error.errorcode = STUN_ERROR_STALENONCE
  nonce : error.szNonce.str.length ≤ 64
  realm : error.szRealm.str.length ≤ 64

theorem str_ne_nil_iff (sz : AuthString) : sz.chars.getD 0 0 ≠ 0 ↔ sz.str ≠ [] := by
  have hlen : sz.chars.length = 65 := sz.chars_length
  rw [AuthString.str, ne_eq, ne_eq, cstr_eq_nil_iff]
  cases hchars : sz.chars with
  | nil => rw [hchars] at hlen; cases hlen
  | cons c cs => simp

theorem addStringIfSet_built [Platform] {cap : Option Nat} {legacy : Bool} {transid : StunTransactionId} {c : Bytes}
    (call : Bytes → Call) {t : UInt16} {sz : AuthString} (hrun : (call sz.chars).run = addStringAttribute t (some sz.chars))
    (hvalid : sz.str ≠ [] → (call sz.chars).Valid) (hsize : ((call sz.chars).value transid).length < 2 ^ 16) :
    Proc.Ensures (Built cap legacy transid c) (addStringIfSet t sz) fun _ =>
      Built cap legacy transid (c ++ callBytes legacy transid (stringCalls call sz)) := by
  have hset := str_ne_nil_iff sz
  refine .ite (fun h => ?_) fun h => ?_
  · have hne := hset.mp h
    rw [stringCalls, if_neg hne, ← hrun]
    have hone := (@Call.run_built _ cap legacy _ c _ (hvalid hne) hsize).ignore
    simpa [callBytes] using hone
  · have hnil : sz.str = [] := not_not.mp (mt hset.mpr h)
    rw [stringCalls, if_pos hnil]
    exact .pure fun b hb => by simpa [callBytes] using hb

theorem Sendable.code_ne_zero {error : StunErrorCode} (h : Sendable error) : error.errorcode ≠ 0 := by
  rcases h.code with hc | hc | hc <;> rw [hc] <;> decide

theorem Sendable.range {error : StunErrorCode} (h : Sendable error) : 300 ≤ error.errorcode ∧ error.errorcode ≤ 600 := by
  rcases h.code with hc | hc | hc <;> rw [hc] <;> decide

/-- What holds of the code, of a nonce and of a realm holds of all calls of an error. -/
theorem errorCalls_forall {error : StunErrorCode} {P : Call → Prop}
    (hcode : P (.errorCode error.errorcode failedReason))
    (hnonce : error.szNonce.str ≠ [] → P (.nonce error.szNonce.chars))
    (hrealm : error.szRealm.str ≠ [] → P (.realm error.szRealm.chars)) : ∀ call ∈ errorCalls error, P call := by
  have hstring : ∀ (call : Bytes → Call) (sz : AuthString), (sz.str ≠ [] → P (call sz.chars)) →
      ∀ c ∈ stringCalls call sz, P c := by
    intro call sz hP c hc
    rw [stringCalls] at hc
    split at hc
    · cases hc
    · rw [List.mem_singleton.mp hc]
      exact hP ‹_›
  intro call hcall
  rcases List.mem_cons.mp hcall with rfl | hrest
  · exact hcode
  · split at hrest
    · rcases List.mem_append.mp hrest with hn | hr
      · exact hstring .nonce _ hnonce call hn
      · exact hstring .realm _ hrealm call hr
    · cases hrest

section ErrorCalls
variable {error : StunErrorCode} (h : Sendable error) (legacy : Bool) (transid : StunTransactionId)
include h

theorem errorCalls_valid : ∀ call ∈ errorCalls error, call.Valid :=
  errorCalls_forall ⟨h.range.1, h.range.2, by decide⟩ (fun hne => hne) fun hne => hne

omit h in
theorem errorCalls_getter : ∀ call ∈ errorCalls error, Getter legacy call :=
  errorCalls_forall trivial (fun _ => trivial) fun _ => trivial

theorem errorCalls_value_le : ∀ call ∈ errorCalls error, (call.value transid).length ≤ 64 := by
  refine errorCalls_forall ?_ (fun _ => h.nonce) fun _ => h.realm
  rw [Call.value, errorValue_length]
  decide

theorem errorCalls_fit : ValuesFit transid (errorCalls error) := fun call hcall =>
  Nat.le_trans (errorCalls_value_le h transid call hcall) (by decide)

omit h in
variable (error) in
theorem errorCalls_length : (errorCalls error).length ≤ 3 := by
  have hstring : ∀ (call : Bytes → Call) (sz : AuthString), (stringCalls call sz).length ≤ 1 := by
    intro call sz
    rw [stringCalls]
    split <;> simp
  have hnonce := hstring .nonce error.szNonce
  have hrealm := hstring .realm error.szRealm
  rw [errorCalls]
  split
  · simp only [List.length_cons, List.length_append]
    omega
  · simp

theorem errorCalls_bytes_le : (callBytes legacy transid (errorCalls error)).length ≤ 204 := by
  have hbytes := callBytes_length_le legacy transid (k := 64) rfl (errorCalls_value_le h transid)
  have hcount := errorCalls_length error
  omega

end ErrorCalls

theorem addErrorDetails_built [Platform] {cap : Option Nat} {legacy : Bool} {transid : StunTransactionId} {c : Bytes}
    {error : StunErrorCode} (h : Sendable error) :
    Proc.Ensures (Built cap legacy transid c) (addErrorDetails error) fun _ =>
      Built cap legacy transid (c ++ callBytes legacy transid (errorCalls error).tail) := by
  have hnot : ¬ (error.errorcode = STUN_ERROR_UNKNOWNATTRIB ∧ error.attribUnknown ≠ 0) := by
    rcases h.code with hc | hc | hc <;> rw [hc] <;> exact fun hu => absurd hu.1 (by decide)
  have hnonce : (cstr error.szNonce.chars).length ≤ 64 := h.nonce
  have hrealm : (cstr error.szRealm.chars).length ≤ 64 := h.realm
  rw [addErrorDetails, if_neg hnot, errorCalls, List.tail_cons]
  by_cases hchallenge : error.errorcode = STUN_ERROR_STALENONCE ∨ error.errorcode = STUN_ERROR_UNAUTHORIZED
  · rw [if_pos hchallenge, if_pos hchallenge, callBytes, List.flatMap_append, ← List.append_assoc]
    exact (addStringIfSet_built .nonce rfl (fun hne => hne) (by simp only [Call.value]; omega)).bind
      fun _ => addStringIfSet_built .realm rfl (fun hne => hne) (by simp only [Call.value]; omega)
  · rw [if_neg hchallenge, if_neg hchallenge]
    exact .pure fun b hb => by simpa [callBytes] using hb

theorem errorResponse_built [Platform] {n : Nat} (hn : 200 ≤ n) {h : CStunRequestHandler} (hsend : Sendable h.error) :
    Proc.Ensures (Built (some n) false StunTransactionId.zero []) h.errorResponse fun _ =>
      Built (some n) h.fLegacyMode h.transid
        (frame (msgTypeField h.error.msgtype h.error.msgclass)
          (UInt16.ofNat (callBytes h.fLegacyMode h.transid (errorCalls h.error)).length) h.transid
          (callBytes h.fLegacyMode h.transid (errorCalls h.error))) := by
  have hcalls : callBytes h.fLegacyMode h.transid (errorCalls h.error) =
      Call.bytes h.fLegacyMode h.transid (.errorCode h.error.errorcode failedReason) ++
        callBytes h.fLegacyMode h.transid (errorCalls h.error).tail := by
    rw [errorCalls, List.tail_cons, callBytes, List.flatMap_cons]
    rfl
  have hcode := @Call.run_built _ (some n) h.fLegacyMode h.transid
    (frame (msgTypeField h.error.msgtype h.error.msgclass) 0 h.transid []) _
    (errorCalls_valid hsend _ List.mem_cons_self)
    (Nat.lt_of_le_of_lt (errorCalls_fit hsend h.transid _ List.mem_cons_self) (by decide))
  have hdetails := @addErrorDetails_built _ (some n) h.fLegacyMode h.transid
    (frame (msgTypeField h.error.msgtype h.error.msgclass) 0 h.transid
      (Call.bytes h.fLegacyMode h.transid (.errorCode h.error.errorcode failedReason))) _ hsend
  rw [frame_append, List.nil_append] at hcode
  rw [frame_append, ← hcalls] at hdetails
  have hfix := @fixLengthField_built _ (some n) h.fLegacyMode h.transid
    (msgTypeField h.error.msgtype h.error.msgclass) 0 h.transid
    (callBytes h.fLegacyMode h.transid (errorCalls h.error))
  have hget := (@getResult_built _ (some n) h.fLegacyMode h.transid
    (msgTypeField h.error.msgtype h.error.msgclass)
    (UInt16.ofNat (callBytes h.fLegacyMode h.transid (errorCalls h.error)).length) h.transid
    (callBytes h.fLegacyMode h.transid (errorCalls h.error))).conseq (fun _ hb => hb) fun _ _ hb => hb.1
  have hfinish := hcode.ignore.bind fun _ => hdetails.bind fun _ => hfix.ignore.bind fun _ => hget.ignore
  exact (@setLegacyMode_built (some n) false _ [] h.fLegacyMode).bind fun _ =>
    startedIgnored_built StunTransactionId.zero (by rintro k ⟨⟩; exact hn) _ _ hfinish

/-! ## Success responses -/

/-- The address attributes of a success response. -/
def successCalls (addrRemote addrOrigin : CSocketAddress) (addrOther : Option CSocketAddress) : List Call :=
  .mappedAddress addrRemote ::
    ((if addrOrigin.isIPAddressZero = false then [.responseOriginAddress addrOrigin] else []) ++
      ((addrOther.map Call.otherAddress).toList ++ [.xorMappedAddress addrRemote]))

/-- The credential of a signature the handler is to send. -/
def credentialOf (integrity : StunMessageIntegrity) : Credential :=
  if integrity.fUseLongTerm then
    .longTerm integrity.szUser.chars integrity.szRealm.chars integrity.szPassword.chars
  else .shortTerm integrity.szPassword.chars

/-- What follows the address attributes. -/
def signature [Digests] (integrity : StunMessageIntegrity) (transid : StunTransactionId) (body : Bytes) :
    List Attribute :=
  if integrity.fSendWithIntegrity then
    [(credentialOf integrity).integrityAttribute (msgTypeField StunMsgTypeBinding .successResponse) transid body]
  else []

section SuccessCalls
variable (addrRemote addrOrigin : CSocketAddress) (addrOther : Option CSocketAddress) (legacy : Bool)
  (transid : StunTransactionId)

/-- All calls of a success response are of an address. -/
theorem successCalls_forall {P : Call → Prop} (hmapped : P (.mappedAddress addrRemote))
    (horigin : addrOrigin.isIPAddressZero = false → P (.responseOriginAddress addrOrigin))
    (hother : ∀ addr, addrOther = some addr → P (.otherAddress addr))
    (hxor : P (.xorMappedAddress addrRemote)) : ∀ call ∈ successCalls addrRemote addrOrigin addrOther, P call := by
  intro call hcall
  simp only [successCalls, List.mem_cons, List.mem_append, List.not_mem_nil, or_false] at hcall
  rcases hcall with rfl | hcall | hcall | rfl
  · exact hmapped
  · split at hcall
    · rw [List.mem_singleton.mp hcall]
      exact horigin ‹_›
    · cases hcall
  · cases addrOther with
    | none => cases hcall
    | some addr =>
      rw [List.mem_singleton.mp hcall]
      exact hother addr rfl
  · exact hxor

theorem successCalls_valid : ∀ call ∈ successCalls addrRemote addrOrigin addrOther, call.Valid :=
  successCalls_forall _ _ _ trivial (fun _ => trivial) (fun _ _ => trivial) trivial

theorem successCalls_getter : ∀ call ∈ successCalls addrRemote addrOrigin addrOther, Getter legacy call :=
  successCalls_forall _ _ _ trivial (fun _ => trivial) (fun _ _ => trivial) trivial

theorem successCalls_value_le :
    ∀ call ∈ successCalls addrRemote addrOrigin addrOther, (call.value transid).length ≤ 20 := by
  have haddr : ∀ addr : CSocketAddress, addr.wireValue.length ≤ 20 := by
    intro addr
    rw [addr.wireValue_length]
    split <;> decide
  exact successCalls_forall _ _ _ (haddr _) (fun _ => haddr _) (fun _ _ => haddr _) (haddr _)

theorem successCalls_fit : ValuesFit transid (successCalls addrRemote addrOrigin addrOther) := fun call hcall =>
  Nat.le_trans (successCalls_value_le addrRemote addrOrigin addrOther transid call hcall) (by decide)

theorem successCalls_length : (successCalls addrRemote addrOrigin addrOther).length ≤ 4 := by
  rw [successCalls]
  cases addrOther <;> split <;> simp

theorem successCalls_bytes_le :
    (callBytes legacy transid (successCalls addrRemote addrOrigin addrOther)).length ≤ 96 := by
  have hbytes := callBytes_length_le legacy transid (k := 20) rfl
    (successCalls_value_le addrRemote addrOrigin addrOther transid)
  have hcount := successCalls_length addrRemote addrOrigin addrOther
  omega

end SuccessCalls

section SuccessBuilt
variable [Platform] {cap : Option Nat} {legacy : Bool} {transid : StunTransactionId} {c : Bytes}

theorem address_built (call : Call) (hvalid : call.Valid) (hsize : (call.value transid).length < 2 ^ 16) :
    Proc.Ensures (Built cap legacy transid c) (Proc.ignore call.run) fun _ =>
      Built cap legacy transid (c ++ callBytes legacy transid [call]) := by
  have hone := (@Call.run_built _ cap legacy _ c _ hvalid hsize).ignore
  simpa [callBytes] using hone

omit [Platform] in
theorem wireValue_lt (addr : CSocketAddress) : addr.wireValue.length < 2 ^ 16 := by
  rw [addr.wireValue_length]
  split <;> decide

theorem addOrigin_built (addrOrigin : CSocketAddress) :
    Proc.Ensures (Built cap legacy transid c) (addOrigin addrOrigin) fun _ =>
      Built cap legacy transid (c ++ callBytes legacy transid
        (if addrOrigin.isIPAddressZero = false then [.responseOriginAddress addrOrigin] else [])) := by
  refine .ite (fun h => ?_) fun h => ?_
  · rw [if_pos h]
    exact address_built (.responseOriginAddress addrOrigin) trivial (wireValue_lt addrOrigin)
  · rw [if_neg h]
    exact .pure fun b hb => by simpa [callBytes] using hb

theorem addOther_built (addrOther : Option CSocketAddress) :
    Proc.Ensures (Built cap legacy transid c) (addOther addrOther) fun _ =>
      Built cap legacy transid (c ++ callBytes legacy transid (addrOther.map Call.otherAddress).toList) := by
  cases addrOther with
  | none => exact .pure fun b hb => by simpa [callBytes] using hb
  | some addr => exact address_built (.otherAddress addr) trivial (wireValue_lt addr)

theorem addIntegrity_built [Digests] {integrity : StunMessageIntegrity}
    (husable : integrity.fSendWithIntegrity = true → (credentialOf integrity).Usable) (len : UInt16) (body : Bytes) :
    Proc.Ensures
      (Built cap legacy transid (frame (msgTypeField StunMsgTypeBinding .successResponse) len transid body))
      (addIntegrity integrity) fun _ b => ∃ len', Built cap legacy transid
        (frame (msgTypeField StunMsgTypeBinding .successResponse) len' transid
          (body ++ Wire.body (signature integrity transid body))) b := by
  have hadd : addIntegrity integrity =
      if integrity.fSendWithIntegrity then Proc.ignore (credentialOf integrity).sign else pure () := by
    rw [addIntegrity, credentialOf]
    cases integrity.fUseLongTerm <;> rfl
  rw [hadd, signature]
  refine .ite (fun h => ?_) fun h => ?_
  · have hsign := (@Credential.sign_built _ _ cap legacy transid _ (husable h)
      (msgTypeField StunMsgTypeBinding .successResponse) len transid body).ignore
    refine hsign.conseq (fun _ hb => hb) fun _ b hb => ⟨UInt16.ofNat (body.length + 24), ?_⟩
    rwa [if_pos h, body_cons, body_nil, List.append_nil]
  · rw [if_neg h]
    exact .pure fun b hb => ⟨len, by simpa using hb⟩

/-- The body of a success response. -/
def successBody [Digests] (addrOrigin : CSocketAddress) (addrOther : Option CSocketAddress)
    (h : CStunRequestHandler) : Bytes :=
  let addresses := callBytes h.fLegacyMode h.transid (successCalls h.pMsgIn.addrRemote addrOrigin addrOther)
  addresses ++ body (signature h.integrity h.transid addresses)

theorem successResponse_built [Digests] {n : Nat} (hn : 200 ≤ n) {h : CStunRequestHandler}
    (husable : h.integrity.fSendWithIntegrity = true → (credentialOf h.integrity).Usable)
    (addrOrigin : CSocketAddress) (addrOther : Option CSocketAddress) :
    Proc.Ensures (Built (some n) false StunTransactionId.zero []) (h.successResponse addrOrigin addrOther) fun _ =>
      Built (some n) h.fLegacyMode h.transid
        (frame (msgTypeField StunMsgTypeBinding .successResponse)
          (UInt16.ofNat (successBody addrOrigin addrOther h).length) h.transid
          (successBody addrOrigin addrOther h)) := by
  have hmapped := @address_built _ (some n) h.fLegacyMode h.transid
    (frame (msgTypeField StunMsgTypeBinding .successResponse) 0 h.transid [])
    (.mappedAddress h.pMsgIn.addrRemote) trivial (wireValue_lt _)
  rw [frame_append, List.nil_append] at hmapped
  refine (@setLegacyMode_built (some n) false _ [] h.fLegacyMode).bind fun _ =>
    startedIgnored_built StunTransactionId.zero (by rintro k ⟨⟩; exact hn) _ _ ?_
  refine hmapped.bind fun _ => (addOrigin_built addrOrigin).bind fun _ => (addOther_built addrOther).bind fun _ =>
    (address_built (.xorMappedAddress h.pMsgIn.addrRemote) trivial (wireValue_lt _)).bind fun _ => ?_
  have hbytes : frame (msgTypeField StunMsgTypeBinding .successResponse) 0 h.transid
        (callBytes h.fLegacyMode h.transid [.mappedAddress h.pMsgIn.addrRemote]) ++
        callBytes h.fLegacyMode h.transid
          (if addrOrigin.isIPAddressZero = false then [.responseOriginAddress addrOrigin] else []) ++
        callBytes h.fLegacyMode h.transid (addrOther.map Call.otherAddress).toList ++
        callBytes h.fLegacyMode h.transid [.xorMappedAddress h.pMsgIn.addrRemote] =
      frame (msgTypeField StunMsgTypeBinding .successResponse) 0 h.transid
        (callBytes h.fLegacyMode h.transid (successCalls h.pMsgIn.addrRemote addrOrigin addrOther)) := by
    rw [frame_append, frame_append, frame_append, successCalls]
    simp only [callBytes, List.flatMap_cons, List.flatMap_nil, List.flatMap_append, List.append_nil,
      List.append_assoc]
  rw [hbytes]
  refine (addIntegrity_built husable 0 _).bind fun _ => ?_
  rintro b ⟨len', hb⟩
  exact (@fixLengthField_built _ (some n) h.fLegacyMode h.transid _ len' h.transid
    (successBody addrOrigin addrOther h)).ignore b hb

end SuccessBuilt

/-! ## The buffer of the caller -/

/-- What a builder attached to the output buffer wrote is in that buffer. -/
theorem withBuilder_contents {h : CStunRequestHandler} {m : Hr CStunMessageBuilder Unit} {legacy : Bool}
    {transid : StunTransactionId} {c : Bytes} (hroom : MAX_STUN_MESSAGE_SIZE ≤ h.pMsgOut.spBufferOut.allocatedSize)
    (hc : c.length ≤ MAX_STUN_MESSAGE_SIZE)
    (hm : Proc.Ensures (Built (some h.pMsgOut.spBufferOut.allocatedSize) false StunTransactionId.zero []) m fun _ =>
      Built (some h.pMsgOut.spBufferOut.allocatedSize) legacy transid c) :
    ∃ buf, h.withBuilder m = h.setBufferOut buf ∧ buf.contents = c ∧ buf.size = c.length ∧
      buf.allocatedSize = h.pMsgOut.spBufferOut.allocatedSize := by
  have hnew := newOn_built (h.pMsgOut.spBufferOut.setSize 0).2
  rw [CBuffer.setSize_allocatedSize] at hnew
  obtain ⟨-, hbuilt⟩ := hm.state hnew
  simp only [MAX_STUN_MESSAGE_SIZE] at hroom hc
  obtain ⟨buf, hshared, hcontents, hsize, halloc⟩ := hbuilt.holds.shared_contents (by omega) (by omega)
  refine ⟨buf, ?_, hcontents, hsize, halloc⟩
  rw [withBuilder, hshared]
  rfl

end NatTester.Handler
