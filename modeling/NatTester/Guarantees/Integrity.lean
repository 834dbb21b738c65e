import NatTester.Wire.Calls
import NatTester.Wire.Integrity

/-!
# Integrity and fingerprint round trip

A message of any attribute calls is signed with a short-term or a long-term
credential, then may be given a fingerprint. The length field the signature
covers is the one of the signed message alone; the reader takes the fingerprint
out of it again. The digests are arbitrary functions.
-/
namespace NatTester.Guarantees
open NatTester.Lib NatTester.Source NatTester.Wire CStunMessageReader CStunMessageBuilder

section Signed
variable [Platform] [Digests]

/-- The end of a signed message. -/
def finishSigned : Bool → Hr CStunMessageBuilder (Option CBuffer)
  | false => getResult
  | true => do
    addFingerprintAttribute
    getResult

def buildSigned (fLegacyMode : Bool) (msgType : StunMessageType) (msgClass : StunMessageClass)
    (transid : StunTransactionId) (calls : List Call) (credential : Credential) (fFingerprint : Bool) :
    Hr CStunMessageBuilder (Option CBuffer) := do
  setLegacyMode fLegacyMode
  addHeader msgType msgClass
  addTransactionId transid
  runCalls calls
  credential.sign
  finishSigned fFingerprint

/-- The attributes behind the calls' own. -/
def closing (ty : UInt16) (transid : StunTransactionId) (as : List Attribute) (credential : Credential)
    (fFingerprint : Bool) : List Attribute :=
  credential.integrityAttribute ty transid (body as) ::
    if fFingerprint then
      [fingerprintAttribute ty transid (body (as ++ [credential.integrityAttribute ty transid (body as)]))]
    else []

omit [Platform] in
theorem closing_length (ty : UInt16) (transid : StunTransactionId) (as : List Attribute) (credential : Credential)
    (fFingerprint : Bool) :
    (closing ty transid as credential fFingerprint).length = 1 + (if fFingerprint then 1 else 0) ∧
    (body (closing ty transid as credential fFingerprint)).length = 24 + (if fFingerprint then 8 else 0) := by
  cases fFingerprint with
  | false => simp only [closing, Bool.false_eq_true, ↓reduceIte, body_cons, body_nil, List.append_nil,
      List.length_cons, List.length_nil, Credential.integrityAttribute_length, Nat.add_zero, Nat.zero_add, and_self]
  | true => simp only [closing, ↓reduceIte, body_cons, body_nil, List.append_nil, List.length_cons, List.length_nil,
      List.length_append, Credential.integrityAttribute_length, fingerprintAttribute_length, Nat.zero_add, and_self]

theorem buildSigned_contents {fLegacyMode : Bool} (msgType : StunMessageType) (msgClass : StunMessageClass)
    {transid : StunTransactionId} {calls : List Call} {credential : Credential} (fFingerprint : Bool)
    (hvalid : ∀ call ∈ calls, call.Valid) (hfit : ValuesFit transid calls) (husable : credential.Usable)
    {as : List Attribute} (has : body as = callBytes fLegacyMode transid calls)
    (hbody : (body as).length ≤ MAX_STUN_MESSAGE_SIZE) :
    ∃ buf b, Proc.exec (buildSigned fLegacyMode msgType msgClass transid calls credential fFingerprint)
        CStunMessageBuilder.new = (.ok (some buf), b) ∧
      buf.contents =
        let ty := msgTypeField msgType msgClass
        let all := as ++ closing ty transid as credential fFingerprint
        frame ty (UInt16.ofNat (body all).length) transid (body all) := by
  have hcalls := @runCalls_built _ none fLegacyMode transid
    (frame (msgTypeField msgType msgClass) 0 transid []) _ hvalid hfit
  rw [frame_append, List.nil_append, ← has] at hcalls
  have hsign := @Credential.sign_built _ _ none fLegacyMode transid _ husable
    (msgTypeField msgType msgClass) 0 transid (body as)
  have hsigned : body as ++ (credential.integrityAttribute (msgTypeField msgType msgClass) transid (body as)).bytes =
      body (as ++ [credential.integrityAttribute (msgTypeField msgType msgClass) transid (body as)]) := by simp
  have hfinish : Proc.Ensures (Built none fLegacyMode transid
      (frame (msgTypeField msgType msgClass) (UInt16.ofNat ((body as).length + 24)) transid
        (body (as ++ [credential.integrityAttribute (msgTypeField msgType msgClass) transid (body as)]))))
      (finishSigned fFingerprint) fun result _ =>
        ∃ buf, result = some buf ∧ buf.contents =
          frame (msgTypeField msgType msgClass)
            (UInt16.ofNat (body (as ++ closing (msgTypeField msgType msgClass) transid as credential fFingerprint)).length)
            transid (body (as ++ closing (msgTypeField msgType msgClass) transid as credential fFingerprint)) := by
    cases fFingerprint with
    | false =>
      exact (getResult_built _ _ transid _).conseq (fun _ h => h) fun _ _ h => h.2
    | true =>
      have hprint := @addFingerprintAttribute_built _ none fLegacyMode transid _
        (msgTypeField msgType msgClass) (UInt16.ofNat ((body as).length + 24)) transid
        (body (as ++ [credential.integrityAttribute (msgTypeField msgType msgClass) transid (body as)])) (by
          rw [← hsigned, List.length_append, Credential.integrityAttribute_length]
          simp only [MAX_STUN_MESSAGE_SIZE] at hbody
          omega)
      refine hprint.bind fun _ => (getResult_built _ _ transid _).conseq (fun _ h => h) fun result _ h => ?_
      obtain ⟨-, buf, hbuf, hcontents⟩ := h
      refine ⟨buf, hbuf, hcontents.trans ?_⟩
      simp only [closing, ↓reduceIte, body_append, body_cons, body_nil, List.append_nil, List.append_assoc]
      rfl
  rw [hsigned] at hsign
  have hrun := (@setLegacyMode_built none false _ [] fLegacyMode).bind fun _ =>
    started_built StunTransactionId.zero (by simp) msgType msgClass
      (hcalls.bind fun _ => hsign.bind fun _ => hfinish)
  obtain ⟨result, b, heq, buf, rfl, hcontents⟩ := hrun _ new_built
  exact ⟨buf, b, heq, hcontents⟩

/-- A signed message validates under the credential it was signed with, and its
fingerprint is valid. -/
theorem integrity_round_trip (fLegacyMode fFingerprint : Bool) (method : StunMessageType)
    (msgClass : StunMessageClass) (transid : StunTransactionId) (calls : List Call) (credential : Credential)
    (hvalid : ∀ call ∈ calls, call.Valid) (husable : credential.Usable)
    (hcount : calls.length + 1 + (if fFingerprint then 1 else 0) ≤ 30)
    (hfit : ValuesFit transid calls)
    (hbody : (callBytes fLegacyMode transid calls).length + 24 + (if fFingerprint then 8 else 0) ≤
      MAX_STUN_MESSAGE_SIZE) :
    ∃ buf b, Proc.exec (buildSigned fLegacyMode method msgClass transid calls credential fFingerprint)
        CStunMessageBuilder.new = (.ok (some buf), b) ∧
      let result := addBytes buf.contents CStunMessageReader.new
      result.1 = .bodyValidated ∧ result.2.getState = .bodyValidated ∧
      SUCCEEDED (credential.validate result.2) = true ∧
      (fFingerprint = true → result.2.isFingerprintAttributeValid = true) := by
  have has := body_attributesOf fLegacyMode transid hfit
  have hasLength := attributesOf_length fLegacyMode transid hfit
  generalize attributesOf fLegacyMode transid calls hfit = as at has hasLength
  have hclosing := closing_length (msgTypeField method msgClass) transid as credential fFingerprint
  obtain ⟨buf, b, hrun, hcontents⟩ := buildSigned_contents method msgClass fFingerprint hvalid hfit husable has
    (by rw [has]; omega)
  obtain ⟨hresult, haccepted⟩ := addBytes_message fresh_new
    (frame_message (msgTypeField_topBits method msgClass) transid (.inr rfl)
      (as ++ closing (msgTypeField method msgClass) transid as credential fFingerprint)
      (by rw [List.length_append, hclosing.1]; omega)
      (by rw [body_append, List.length_append, hclosing.2, has]; omega))
  refine ⟨buf, b, hrun, ?_⟩
  dsimp only at hcontents ⊢
  rw [hcontents]
  refine ⟨hresult, haccepted.state, ?_, ?_⟩
  · have hsigned := haccepted
    rw [closing] at hsigned
    have hok := Credential.validate_signed husable (by
      cases fFingerprint with
      | false => exact .inl rfl
      | true => exact .inr ⟨_, rfl, rfl, be32_length _⟩) hsigned
    rw [closing, hok]
    rfl
  · rintro rfl
    have hprinted := haccepted
    rw [closing, if_pos rfl, ← List.singleton_append, ← List.append_assoc] at hprinted
    rw [closing, if_pos rfl, ← List.singleton_append, ← List.append_assoc]
    exact fingerprint_valid hprinted

end Signed

/-- The HMAC-SHA1 with the key `k` and the CRC-32 of the request below. -/
abbrev requestDigests : Digests where
  hmacSha1 _ _ := [0x87, 0xbd, 0xfa, 0xe4, 0xd9, 0x30, 0x2a, 0x93, 0xe5, 0x8e, 0xcb, 0x96, 0xa2, 0x28, 0xc0, 0xb0,
    0x05, 0x7a, 0x3b, 0x08]
  hmacSha1_length _ _ := rfl
  md5 _ := [0xd4, 0x1d, 0x8c, 0xd9, 0x8f, 0x00, 0xb2, 0x04, 0xe9, 0x80, 0x09, 0x98, 0xec, 0xf8, 0x42, 0x7e]
  md5_length _ := rfl
  crc32 _ := 0x824b8f45

/-- A request signed with the password `k`, with a fingerprint. -/
theorem integrity_round_trip_request :
    let _ := Platform.armeabi
    let _ := requestDigests
    ∃ buf b, Proc.exec (buildSigned false StunMsgTypeBinding .request
        (StunTransactionId.ofBytes (be32 STUN_COOKIE)) [.userName [0x61]] (.shortTerm [0x6b]) true)
        CStunMessageBuilder.new = (.ok (some buf), b) ∧
      let result := addBytes buf.contents CStunMessageReader.new
      result.1 = .bodyValidated ∧ SUCCEEDED (Credential.validate result.2 (.shortTerm [0x6b])) = true ∧
      result.2.isFingerprintAttributeValid = true := by
  let _ := Platform.armeabi
  let _ := requestDigests
  obtain ⟨buf, b, hrun, hresult, -, hvalidates, hprint⟩ := integrity_round_trip false true StunMsgTypeBinding
    .request (StunTransactionId.ofBytes (be32 STUN_COOKIE)) [.userName [0x61]] (.shortTerm [0x6b])
    (by simp [Call.Valid, cstr]) (by simp [Credential.Usable, cstr]) (by decide) (by decide) (by decide)
  exact ⟨buf, b, hrun, hresult, hvalidates, hprint rfl⟩

end NatTester.Guarantees
