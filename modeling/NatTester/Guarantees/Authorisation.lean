import NatTester.Guarantees.RequestHandler

/-!
# No success without authorisation

The answer of the provider decides the response: success only when there is no
provider, when it allows the request, or when it allows it conditionally and the
request validates. Then the response is signed with the credential of the
request; a challenge is sent with the nonce and the realm of the provider.
-/
namespace NatTester.Guarantees
open NatTester.Lib NatTester.Source NatTester.Wire NatTester.Handler CStunRequestHandler CStunMessageReader

section Authorisation
variable [Digests]

/-- The provider allows the request under the condition that it validates, and it does. -/
def Conditional (auth : IStunAuth) (r : CStunMessageReader) : Prop :=
  Checked auth r ∧ (answerOf auth r).responseType = .allowConditional ∧
    SUCCEEDED ((credentialFor auth r).validate r) = true

/-- The request may be answered with success. -/
def Authorised (pAuth : Option IStunAuth) (r : CStunMessageReader) : Prop :=
  pAuth = none ∨ ∃ auth, pAuth = some auth ∧
    ((Checked auth r ∧ (answerOf auth r).responseType = .allow) ∨ Conditional auth r)

/-- The response is an error of the given code. -/
def Refused (code : UInt16) (answer : CStunMessageReader) : Prop :=
  answer.getMessageClass = .failureResponse ∧ answer.getErrorCode = .ok code

/-- The response carries the nonce and the realm of the provider. -/
def Challenged (auth : IStunAuth) (r answer : CStunMessageReader) : Prop :=
  StringSent answer STUN_ATTRIBUTE_NONCE (answerOf auth r).szNonce ∧
    StringSent answer STUN_ATTRIBUTE_REALM (answerOf auth r).szRealm

/-- How the response depends on the provider. -/
structure Decided (msgIn : StunMessageIn) (pAuth : Option IStunAuth) (answer : CStunMessageReader) : Prop where
  authorised : answer.getMessageClass = .successResponse → Authorised pAuth msgIn.reader
  signed : answer.getMessageClass = .successResponse →
    (answer.hasMessageIntegrityAttribute = true ↔ ∃ auth, pAuth = some auth ∧ Conditional auth msgIn.reader) ∧
    ∀ auth, pAuth = some auth → Conditional auth msgIn.reader →
      SUCCEEDED ((credentialFor auth msgIn.reader).validate answer) = true
  staleNonce : ∀ auth, AuthReached msgIn → pAuth = some auth → Checked auth msgIn.reader →
    (answerOf auth msgIn.reader).responseType = .staleNonce → Refused 438 answer ∧ Challenged auth msgIn.reader answer
  unauthorized : ∀ auth, AuthReached msgIn → pAuth = some auth → Checked auth msgIn.reader →
    (answerOf auth msgIn.reader).responseType = .unauthorized ∨
      (answerOf auth msgIn.reader).responseType = .allowConditional ∧ ¬ Conditional auth msgIn.reader →
    Refused 401 answer ∧ Challenged auth msgIn.reader answer
  rejected : ∀ auth, AuthReached msgIn → pAuth = some auth →
    ¬ Checked auth msgIn.reader ∨ (answerOf auth msgIn.reader).responseType = .reject → Refused 400 answer

omit [Digests] in
theorem stringSent_congr {answer : CStunMessageReader} {t : UInt16} {sz sz' : AuthString} (h : sz.str = sz'.str)
    (hs : StringSent answer t sz) : StringSent answer t sz' := by
  have hcstr : cstr sz.chars = cstr sz'.chars := h
  refine ⟨fun hnil => hs.1 (h.trans hnil), fun hne => ?_⟩
  have hread := hs.2 fun hnil => hne (h.symm.trans hnil)
  simp only [StringReadBack, hcstr] at hread ⊢
  exact hread

/-- A success response has passed the authorisation stage. -/
theorem outcome_authorised {pAuth : Option IStunAuth} {r : CStunMessageReader} {h : CStunRequestHandler}
    (ho : AuthOutcome pAuth r h) (hcode : h.error.errorcode = 0) :
    Authorised pAuth r ∧
      (h.integrity.fSendWithIntegrity = true ↔ ∃ auth, pAuth = some auth ∧ Conditional auth r) ∧
      ∀ auth, pAuth = some auth → Conditional auth r → (credentialOf h.integrity).key = (credentialFor auth r).key := by
  have hnonzero : ∀ code : UInt16, code ≠ 0 → h.error.errorcode ≠ code := fun code hne hc => hne (hc.symm.trans hcode)
  cases ho with
  | noProvider hnone _ unsigned =>
    refine ⟨.inl hnone, ?_, fun auth hsome => by rw [hnone] at hsome; cases hsome⟩
    rw [unsigned, hnone]
    simp
  | allow auth hsome checked type _ unsigned =>
    have hnot : ∀ auth', pAuth = some auth' → ¬ Conditional auth' r := by
      rintro auth' hsome' ⟨-, hcond, -⟩
      obtain rfl : auth = auth' := Option.some.inj (hsome.symm.trans hsome')
      rw [type] at hcond
      cases hcond
    refine ⟨.inr ⟨auth, hsome, .inl ⟨checked, type⟩⟩, ?_, fun auth' hsome' hcond => absurd hcond (hnot auth' hsome')⟩
    rw [unsigned]
    constructor
    · intro hf
      cases hf
    · rintro ⟨auth', hsome', hcond⟩
      exact absurd hcond (hnot auth' hsome')
  | signed auth hsome checked type valid _ signed key =>
    have hcond : Conditional auth r := ⟨checked, type, valid⟩
    refine ⟨.inr ⟨auth, hsome, .inr hcond⟩, ⟨fun _ => ⟨auth, hsome, hcond⟩, fun _ => signed⟩, ?_⟩
    intro auth' hsome' _
    obtain rfl : auth = auth' := Option.some.inj (hsome.symm.trans hsome')
    exact key
  | challenged auth hsome checked code _ _ =>
    rcases code with ⟨-, hc⟩ | ⟨-, hc⟩
    · exact absurd hc (hnonzero _ (by decide))
    · exact absurd hc (hnonzero _ (by decide))
  | refused auth hsome why hc => exact absurd hc (hnonzero _ (by decide))

/-- What a provider that does not allow the request comes to. -/
theorem outcome_refusal {auth : IStunAuth} {r : CStunMessageReader} {h : CStunRequestHandler}
    (ho : AuthOutcome (some auth) r h) :
    (Checked auth r → (answerOf auth r).responseType = .staleNonce →
      h.error.errorcode = STUN_ERROR_STALENONCE ∧ h.error.szNonce.str = (answerOf auth r).szNonce.str ∧
        h.error.szRealm.str = (answerOf auth r).szRealm.str) ∧
    (Checked auth r → (answerOf auth r).responseType = .unauthorized ∨
        (answerOf auth r).responseType = .allowConditional ∧ ¬ Conditional auth r →
      h.error.errorcode = STUN_ERROR_UNAUTHORIZED ∧ h.error.szNonce.str = (answerOf auth r).szNonce.str ∧
        h.error.szRealm.str = (answerOf auth r).szRealm.str) ∧
    (¬ Checked auth r ∨ (answerOf auth r).responseType = .reject → h.error.errorcode = STUN_ERROR_BADREQUEST) := by
  cases ho with
  | noProvider hnone => cases hnone
  | allow auth' hsome checked type =>
    obtain rfl : auth = auth' := Option.some.inj hsome
    simp [type, checked]
  | signed auth' hsome checked type valid =>
    obtain rfl : auth = auth' := Option.some.inj hsome
    have hcond : Conditional auth r := ⟨checked, type, valid⟩
    simp [type, checked, hcond]
  | challenged auth' hsome checked code nonce realm =>
    obtain rfl : auth = auth' := Option.some.inj hsome
    rcases code with ⟨type, hc⟩ | ⟨type | ⟨type, -⟩, hc⟩
    · simp [type, checked, hc, nonce, realm]
    · simp [type, checked, hc, nonce, realm]
    · simp [type, checked, hc, nonce, realm]
  | refused auth' hsome why hc =>
    obtain rfl : auth = auth' := Option.some.inj hsome
    rcases why with hnot | type
    · simp [hnot, hc]
    · simp [type, hc]

variable [Platform]

omit [Platform] in
/-- An error response decides nothing but its own code and challenge. -/
theorem decided_error {msgIn : StunMessageIn} {pAuth : Option IStunAuth} {answer : CStunMessageReader}
    {h : CStunRequestHandler} (ho : AuthOutcome pAuth msgIn.reader h) (ha : ErrorAnswer msgIn.reader h.error answer) :
    Decided msgIn pAuth answer := by
  have hfail : answer.getMessageClass ≠ .successResponse := by
    rw [ha.msgClass]
    decide
  have hrefused : ∀ code, h.error.errorcode = code → Refused code answer := by
    rintro code rfl
    exact ⟨ha.msgClass, ha.code⟩
  have hchallenged : ∀ auth, h.error.errorcode = STUN_ERROR_STALENONCE ∨ h.error.errorcode = STUN_ERROR_UNAUTHORIZED →
      h.error.szNonce.str = (answerOf auth msgIn.reader).szNonce.str ∧
        h.error.szRealm.str = (answerOf auth msgIn.reader).szRealm.str → Challenged auth msgIn.reader answer := by
    rintro auth hcode ⟨hnonce, hrealm⟩
    obtain ⟨hn, hr⟩ := ha.challenge hcode
    exact ⟨stringSent_congr hnonce hn, stringSent_congr hrealm hr⟩
  refine ⟨fun hs => absurd hs hfail, fun hs => absurd hs hfail, ?_, ?_, ?_⟩
  · rintro auth - rfl hchecked htype
    obtain ⟨hcode, hstrings⟩ := (outcome_refusal ho).1 hchecked htype
    exact ⟨hrefused _ hcode, hchallenged auth (.inl hcode) hstrings⟩
  · rintro auth - rfl hchecked htype
    obtain ⟨hcode, hstrings⟩ := (outcome_refusal ho).2.1 hchecked htype
    exact ⟨hrefused _ hcode, hchallenged auth (.inr hcode) hstrings⟩
  · rintro auth - rfl hwhy
    exact hrefused _ ((outcome_refusal ho).2.2 hwhy)

omit [Platform] in
/-- Where the stage has let the request pass, no provider has refused it. -/
theorem decided_passed {msgIn : StunMessageIn} {pAuth : Option IStunAuth} {answer : CStunMessageReader}
    {h : CStunRequestHandler} (ho : AuthOutcome pAuth msgIn.reader h) (hcode : h.error.errorcode = 0)
    (hsigned : answer.getMessageClass = .successResponse →
      (answer.hasMessageIntegrityAttribute = h.integrity.fSendWithIntegrity) ∧
      (h.integrity.fSendWithIntegrity = true →
        ∀ credential : Credential, credential.key = (credentialOf h.integrity).key →
          SUCCEEDED (credential.validate answer) = true)) : Decided msgIn pAuth answer := by
  obtain ⟨hauth, hiff, hkey⟩ := outcome_authorised ho hcode
  have hnonzero : ∀ code : UInt16, code ≠ 0 → h.error.errorcode ≠ code := fun code hne hc => hne (hc.symm.trans hcode)
  refine ⟨fun _ => hauth, fun hs => ⟨?_, ?_⟩, ?_, ?_, ?_⟩
  · rw [(hsigned hs).1]
    exact hiff
  · intro auth hsome hcond
    exact (hsigned hs).2 (hiff.mpr ⟨auth, hsome, hcond⟩) _ (hkey auth hsome hcond).symm
  · rintro auth - rfl hchecked htype
    exact absurd ((outcome_refusal ho).1 hchecked htype).1 (hnonzero _ (by decide))
  · rintro auth - rfl hchecked htype
    exact absurd ((outcome_refusal ho).2.1 hchecked htype).1 (hnonzero _ (by decide))
  · rintro auth - rfl hwhy
    exact absurd ((outcome_refusal ho).2.2 hwhy) (hnonzero _ (by decide))

/-- A response is a success only with authorisation, and a refusal says which. -/
theorem success_is_authorised {cap : Option Nat} {r₀ : CStunMessageReader} (h₀ : Fresh cap r₀) (pieces : List Bytes)
    {msgIn : StunMessageIn} (hreader : msgIn.reader = feed pieces r₀)
    (hstate : msgIn.reader.getState = .bodyValidated) (hclass : msgIn.reader.getMessageClass = .request)
    (addressSet : TransportAddressSet) (pAuth : Option IStunAuth) {msgOut : StunMessageOut}
    (hroom : MAX_STUN_MESSAGE_SIZE ≤ msgOut.spBufferOut.allocatedSize) :
    ∃ out, Proc.exec (processRequest msgIn addressSet pAuth) msgOut = (.ok (), out) ∧
      Decided msgIn pAuth (readBuffer out.spBufferOut).2 := by
  have hmethod : msgIn.reader.getMessageType < 0x1000 := by
    rw [hreader] at hstate ⊢
    exact fed_method h₀ pieces hstate
  obtain ⟨out, hrun, hholds, hanswered⟩ := processRequest_answered addressSet pAuth
    hmethod hroom hstate hclass
  refine ⟨out, hrun, ?_⟩
  obtain ⟨as, hacc⟩ := hholds.reads
  generalize (readBuffer out.spBufferOut).2 = answer at hanswered hacc
  cases hanswered with
  | early notReached error code ha =>
    have hfail : answer.getMessageClass ≠ .successResponse := by
      rw [ha.msgClass]
      decide
    exact ⟨fun hs => absurd hs hfail, fun hs => absurd hs hfail, fun _ hr => absurd hr notReached,
      fun _ hr => absurd hr notReached, fun _ hr => absurd hr notReached⟩
  | denied reached h outcome sendable ha => exact decided_error outcome ha
  | bad reached h outcome allowed error code ha =>
    refine decided_passed outcome allowed fun hs => ?_
    rw [ha.msgClass] at hs
    cases hs
  | success reached h outcome allowed addrOther ha =>
    refine decided_passed outcome allowed fun _ => ⟨ha.signed, fun hsend credential hkey => ?_⟩
    rw [Credential.validate_eq hacc, hkey]
    exact ha.validates hsend

end Authorisation

/-- A provider that answers every request with a stale nonce `n`. -/
def staleProvider : IStunAuth := fun _ =>
  (S_OK, ⟨.staleNonce, .authCredLongTerm, AuthString.zero, AuthString.zero, AuthString.zero.overlay [0x6E]⟩)

/-- A provider that allows what validates under the password `k`. -/
def conditionalProvider : IStunAuth := fun _ =>
  (S_OK, ⟨.allowConditional, .authCredShortTerm, AuthString.zero.overlay [0x6B], AuthString.zero, AuthString.zero⟩)

/-- A Binding request with a MESSAGE-INTEGRITY. -/
abbrev signedRequest : Bytes :=
  [0x00, 0x01, 0x00, 0x18, 0x21, 0x12, 0xA4, 0x42, 0, 0, 0, 0, 0, 0, 0, 0, 0, 0, 0, 1, 0x00, 0x08, 0x00, 0x14,
    0x87, 0xbd, 0xfa, 0xe4, 0xd9, 0x30, 0x2a, 0x93, 0xe5, 0x8e, 0xcb, 0x96, 0xa2, 0x28, 0xc0, 0xb0, 0x05, 0x7a, 0x3b, 0x08]

set_option maxRecDepth 8000 in
/-- The signed request is answered with a success that is signed in turn; the one without is refused with a stale
nonce by the other provider. -/
theorem success_is_authorised_signed :
    let _ := Platform.armeabi
    let _ := requestDigests
    let signed := receivedOnPrimary (feed [signedRequest] CStunMessageReader.new)
    let unsigned := receivedOnPrimary (feed [bindingRequest] CStunMessageReader.new)
    (∃ out, Proc.exec (processRequest signed primaryOnly (some conditionalProvider)) (emptyAnswer 800) = (.ok (), out) ∧
      (readBuffer out.spBufferOut).2.getMessageClass = .successResponse ∧
      (readBuffer out.spBufferOut).2.hasMessageIntegrityAttribute = true ∧
      SUCCEEDED ((credentialFor conditionalProvider signed.reader).validate (readBuffer out.spBufferOut).2) = true) ∧
    ∃ out, Proc.exec (processRequest unsigned primaryOnly (some staleProvider)) (emptyAnswer 800) = (.ok (), out) ∧
      Refused 438 (readBuffer out.spBufferOut).2 := by
  intro platform digests signed unsigned
  have hroom : MAX_STUN_MESSAGE_SIZE ≤ (emptyAnswer 800).spBufferOut.allocatedSize := emptyAnswer_room (by decide)
  constructor
  · have hreader : signed.reader = feed [signedRequest] CStunMessageReader.new := receivedOnPrimary_reader _
    have hconditional : Conditional conditionalProvider signed.reader := by
      rw [hreader]
      exact ⟨rfl, rfl, by decide⟩
    have hsuccess : (readBuffer (Proc.exec (processRequest signed primaryOnly (some conditionalProvider))
        (emptyAnswer 800)).2.spBufferOut).2.getMessageClass = .successResponse := by decide
    obtain ⟨out, hrun, hdecided⟩ := success_is_authorised fresh_new [signedRequest] hreader (by rw [hreader]; decide)
      (by rw [hreader]; decide) primaryOnly (some conditionalProvider) hroom
    rw [hrun] at hsuccess
    obtain ⟨hiff, hvalidates⟩ := hdecided.signed hsuccess
    exact ⟨out, hrun, hsuccess, hiff.mpr ⟨_, rfl, hconditional⟩, hvalidates _ rfl hconditional⟩
  · have hreader : unsigned.reader = feed [bindingRequest] CStunMessageReader.new := receivedOnPrimary_reader _
    have hreached : AuthReached unsigned := by
      rw [AuthReached, hreader]
      decide
    obtain ⟨out, hrun, hdecided⟩ := success_is_authorised fresh_new [bindingRequest] hreader (by rw [hreader]; decide)
      (by rw [hreader]; decide) primaryOnly (some staleProvider) hroom
    exact ⟨out, hrun, (hdecided.staleNonce staleProvider hreached rfl rfl rfl).1⟩

end NatTester.Guarantees
