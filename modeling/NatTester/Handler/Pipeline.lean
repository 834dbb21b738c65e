import NatTester.Handler.Responses

/-!
# The stages of a request

What each stage of `ProcessRequestImpl` leaves behind: the error code it may
set, and that the state stays ready for one of the two responses.
-/
namespace NatTester.Handler
open NatTester.Lib NatTester.Source NatTester.Wire CStunRequestHandler

variable {h : CStunRequestHandler}

/-- The state between two stages. -/
structure Ready (h : CStunRequestHandler) : Prop where
  msgtype : h.error.msgtype = h.reader.getMessageType
  msgclass : h.error.msgclass = .failureResponse
  transid : h.transid = h.reader.getTransactionId
  legacy : h.fLegacyMode = h.reader.isMessageLegacyFormat
  nonce : h.error.szNonce.str.length ≤ 64
  realm : h.error.szRealm.str.length ≤ 64
  room : MAX_STUN_MESSAGE_SIZE ≤ h.pMsgOut.spBufferOut.allocatedSize
  signed : h.integrity.fSendWithIntegrity = true → (credentialOf h.integrity).Usable

theorem Ready.setErrorcode (hr : Ready h) (errorcode : UInt16) : Ready (h.setErrorcode errorcode) :=
  ⟨hr.msgtype, hr.msgclass, hr.transid, hr.legacy, hr.nonce, hr.realm, hr.room, hr.signed⟩

theorem Ready.setBufferOut (hr : Ready h) {buf : CBuffer}
    (hbuf : buf.allocatedSize = h.pMsgOut.spBufferOut.allocatedSize) : Ready (h.setBufferOut buf) :=
  ⟨hr.msgtype, hr.msgclass, hr.transid, hr.legacy, hr.nonce, hr.realm, hbuf ▸ hr.room, hr.signed⟩

/-! ## Before authorisation -/

/-- The request is for the Binding method and does not ask for a port over a connection. -/
def AuthReached (msgIn : StunMessageIn) : Prop :=
  msgIn.reader.getMessageType = StunMsgTypeBinding ∧
    ¬ (responseport msgIn.reader ≠ 0 ∧ msgIn.fConnectionOriented = true)

/-- The state before `ValidateAuth`. -/
def start (msgIn : StunMessageIn) (addressSet : TransportAddressSet) (pAuth : Option IStunAuth)
    (spBufferOut : CBuffer) : CStunRequestHandler :=
  requireBinding (honourResponsePort (prepare (CStunRequestHandler.new pAuth addressSet msgIn
    ⟨msgIn.socketrole, msgIn.addrRemote, (spBufferOut.setSize 0).2⟩)))

/-- What the start of every request agrees on. -/
structure Started (msgIn : StunMessageIn) (addressSet : TransportAddressSet) (pAuth : Option IStunAuth)
    (spBufferOut : CBuffer) (h : CStunRequestHandler) : Prop where
  auth : h.pAuth = pAuth
  addrSet : h.pAddrSet = addressSet
  msgIn_eq : h.pMsgIn = msgIn
  unsigned : h.integrity.fSendWithIntegrity = false
  buffer : h.pMsgOut.spBufferOut = (spBufferOut.setSize 0).2
  ready : Ready h

theorem Started.setErrorcode {msgIn : StunMessageIn} {addressSet : TransportAddressSet} {pAuth : Option IStunAuth}
    {spBufferOut : CBuffer} (hs : Started msgIn addressSet pAuth spBufferOut h) (errorcode : UInt16) :
    Started msgIn addressSet pAuth spBufferOut (h.setErrorcode errorcode) :=
  ⟨hs.auth, hs.addrSet, hs.msgIn_eq, hs.unsigned, hs.buffer, hs.ready.setErrorcode errorcode⟩

section Start
variable {msgIn : StunMessageIn} {addressSet : TransportAddressSet} {pAuth : Option IStunAuth} {spBufferOut : CBuffer}

variable (msgIn addressSet pAuth) in
theorem started_prepare (hroom : MAX_STUN_MESSAGE_SIZE ≤ spBufferOut.allocatedSize) :
    Started msgIn addressSet pAuth spBufferOut (prepare (CStunRequestHandler.new pAuth addressSet msgIn
      ⟨msgIn.socketrole, msgIn.addrRemote, (spBufferOut.setSize 0).2⟩)) where
  auth := rfl
  addrSet := rfl
  msgIn_eq := rfl
  unsigned := rfl
  buffer := rfl
  ready := by
    have hzero : AuthString.zero.str.length ≤ 64 := by decide
    refine ⟨rfl, rfl, rfl, rfl, hzero, hzero, ?_, fun hsend => by cases hsend⟩
    change MAX_STUN_MESSAGE_SIZE ≤ (spBufferOut.setSize 0).2.allocatedSize
    rw [CBuffer.setSize_allocatedSize]
    exact hroom

theorem Started.honourResponsePort (hs : Started msgIn addressSet pAuth spBufferOut h) :
    Started msgIn addressSet pAuth spBufferOut (honourResponsePort h) ∧
    ((honourResponsePort h).error.errorcode =
      if responseport msgIn.reader ≠ 0 ∧ msgIn.fConnectionOriented = true then STUN_ERROR_BADREQUEST
      else h.error.errorcode) := by
  have hread : h.reader = msgIn.reader := by rw [CStunRequestHandler.reader, hs.msgIn_eq]
  have hover : h.pMsgIn.fConnectionOriented = msgIn.fConnectionOriented := by rw [hs.msgIn_eq]
  rw [CStunRequestHandler.honourResponsePort, hread, hover]
  have hr := hs.ready
  by_cases hport : responseport msgIn.reader ≠ 0
  · rw [if_pos hport]
    by_cases hconn : msgIn.fConnectionOriented = true
    · rw [if_pos hconn, if_pos ⟨hport, hconn⟩]
      exact ⟨⟨hs.auth, hs.addrSet, hs.msgIn_eq, hs.unsigned, hs.buffer,
        ⟨hr.msgtype, hr.msgclass, hr.transid, hr.legacy, hr.nonce, hr.realm, hr.room, hr.signed⟩⟩, rfl⟩
    · rw [if_neg hconn, if_neg fun hboth => hconn hboth.2]
      exact ⟨⟨hs.auth, hs.addrSet, hs.msgIn_eq, hs.unsigned, hs.buffer,
        ⟨hr.msgtype, hr.msgclass, hr.transid, hr.legacy, hr.nonce, hr.realm, hr.room, hr.signed⟩⟩, rfl⟩
  · rw [if_neg hport, if_neg fun hboth => hport hboth.1]
    exact ⟨hs, rfl⟩

theorem Started.requireBinding (hs : Started msgIn addressSet pAuth spBufferOut h) :
    Started msgIn addressSet pAuth spBufferOut (requireBinding h) ∧
    ((requireBinding h).error.errorcode =
      if h.error.errorcode = 0 ∧ msgIn.reader.getMessageType ≠ StunMsgTypeBinding then STUN_ERROR_BADREQUEST
      else h.error.errorcode) := by
  have hread : h.reader = msgIn.reader := by rw [CStunRequestHandler.reader, hs.msgIn_eq]
  rw [CStunRequestHandler.requireBinding, hread]
  by_cases hbad : h.error.errorcode = 0 ∧ msgIn.reader.getMessageType ≠ StunMsgTypeBinding
  · rw [if_pos hbad, if_pos hbad]
    exact ⟨hs.setErrorcode STUN_ERROR_BADREQUEST, rfl⟩
  · rw [if_neg hbad, if_neg hbad]
    exact ⟨hs, rfl⟩

variable (msgIn addressSet pAuth) in
/-- Authorisation is reached with no error, or the request is a bad one. -/
theorem start_spec (hroom : MAX_STUN_MESSAGE_SIZE ≤ spBufferOut.allocatedSize) :
    Started msgIn addressSet pAuth spBufferOut (start msgIn addressSet pAuth spBufferOut) ∧
    ((AuthReached msgIn ∧ (start msgIn addressSet pAuth spBufferOut).error.errorcode = 0) ∨
      (¬ AuthReached msgIn ∧ (start msgIn addressSet pAuth spBufferOut).error.errorcode = STUN_ERROR_BADREQUEST)) := by
  obtain ⟨hport, hportCode⟩ := (started_prepare msgIn addressSet pAuth hroom).honourResponsePort
  obtain ⟨hbind, hbindCode⟩ := hport.requireBinding
  refine ⟨hbind, ?_⟩
  rw [start, hbindCode, hportCode, AuthReached]
  by_cases hconn : responseport msgIn.reader ≠ 0 ∧ msgIn.fConnectionOriented = true
  · rw [if_pos hconn]
    exact .inr ⟨fun hreach => hreach.2 hconn, if_neg fun hzero => absurd hzero.1 (by decide)⟩
  · rw [if_neg hconn]
    by_cases htype : msgIn.reader.getMessageType = StunMsgTypeBinding
    · exact .inl ⟨⟨htype, hconn⟩, if_neg fun hbad => hbad.2 htype⟩
    · exact .inr ⟨fun hreach => htype hreach.1, if_pos ⟨rfl, htype⟩⟩

end Start

/-! ## Authorisation -/

theorem stage_zero {m : Hr CStunRequestHandler Unit} (hcode : h.error.errorcode = 0) :
    stage m h =
      match Proc.exec m h with
      | (.ok _, h) => h
      | (.error _, h) => if h.error.errorcode = 0 then h.setErrorcode STUN_ERROR_BADREQUEST else h :=
  if_pos hcode

theorem stage_nonzero {m : Hr CStunRequestHandler Unit} (hcode : h.error.errorcode ≠ 0) : stage m h = h :=
  if_neg hcode

section Auth
variable [Digests]

theorem stage_validateAuth (hcode : h.error.errorcode = 0) :
    stage validateAuth h =
      match h.pAuth with
      | none => h
      | some auth =>
        let answer := auth (authAttributes h.reader)
        if SUCCEEDED answer.1 then
          copyChallenge (terminated answer.2) (applyAuthResponse (authAttributes h.reader) (terminated answer.2) h)
        else h.setErrorcode STUN_ERROR_BADREQUEST := by
  rw [stage_zero hcode, validateAuth, Proc.exec_bind_ok (Proc.exec_get h)]
  cases h.pAuth with
  | none => rfl
  | some auth =>
    cases hans : SUCCEEDED (auth (authAttributes h.reader)).1 with
    | true =>
      have hchk : chk (σ := CStunRequestHandler) (auth (authAttributes h.reader)).1 = pure () := by
        rw [chk, FAILED_eq_not, hans]
        rfl
      simp only [hchk, hans, ↓reduceIte, Proc.exec_bind, Proc.exec_pure, Proc.exec_modify]
    | false =>
      have hchk : chk (σ := CStunRequestHandler) (auth (authAttributes h.reader)).1 =
          throw (auth (authAttributes h.reader)).1 := by
        rw [chk, FAILED_eq_not, hans]
        rfl
      simp only [hchk, hans, Bool.false_eq_true, ↓reduceIte, Proc.exec_bind, Proc.exec_throw, hcode]

omit [Digests] in
/-- The string of an attribute that was copied is at most 64 bytes long. -/
theorem readAuthString_length (t : UInt16) (r : CStunMessageReader) : (readAuthString t r).str.length ≤ 64 := by
  rw [readAuthString]
  cases hget : r.getStringAttributeByType t (MAX_STUN_AUTH_STRING_SIZE + 1) with
  | error hr => exact show AuthString.zero.str.length ≤ 64 by decide
  | ok value =>
    obtain ⟨data, hdata, rfl⟩ : ∃ data : Bytes, data.length ≤ 64 ∧ value = data ++ [0] := by
      rw [CStunMessageReader.getStringAttributeByType] at hget
      split at hget
      · cases hget
      · split at hget
        · cases hget
        · rename_i attrib _ hsize
          refine ⟨_, ?_, (Except.ok.inj hget).symm⟩
          rw [CStunMessageReader.dataAt, slice_length]
          simp only [MAX_STUN_AUTH_STRING_SIZE] at hsize
          omega
    have hover : (AuthString.zero.overlay (data ++ [0])).chars =
        data ++ 0 :: (AuthString.zero.chars.drop (data ++ [0]).length).take (64 - data.length) := by
      obtain ⟨n, hn⟩ : ∃ n, 65 - data.length = n + 1 := ⟨64 - data.length, by omega⟩
      simp only [AuthString.overlay, List.append_assoc, List.singleton_append]
      rw [List.take_append, List.take_of_length_le (by omega), hn, List.take_succ_cons]
      congr 3
      omega
    rw [AuthString.str, hover]
    have hcut : cstr (data ++ 0 :: (AuthString.zero.chars.drop (data ++ [0]).length).take (64 - data.length)) =
        cstr data := by
      rw [cstr, cstr, List.takeWhile_append]
      split
      · rename_i hall
        rw [List.takeWhile_cons_of_neg (by simp), List.append_nil]
        exact ((List.takeWhile_prefix _).eq_of_length hall).symm
      · rfl
    rw [hcut]
    exact Nat.le_trans (cstr_length_le data) hdata

/-- The credential a request is checked against. -/
def requestCredential (authattributes : AuthAttributes) (authresponse : AuthResponse) : Credential :=
  match authresponse.authCredMech with
  | .authCredLongTerm =>
    .longTerm authattributes.szUser.chars authattributes.szRealm.chars authresponse.szPassword.chars
  | .authCredShortTerm => .shortTerm authresponse.szPassword.chars

theorem checkCredential_eq (authattributes : AuthAttributes) (authresponse : AuthResponse) (r : CStunMessageReader) :
    checkCredential authattributes authresponse r = (requestCredential authattributes authresponse).validate r := by
  rw [checkCredential, requestCredential]
  cases authresponse.authCredMech <;> rfl

/-- No message validates under an empty password. -/
theorem validate_usable {authattributes : AuthAttributes} {authresponse : AuthResponse} {r : CStunMessageReader}
    (huser : authattributes.szUser.str.length ≤ 64) (hrealm : authattributes.szRealm.str.length ≤ 64)
    (hpassword : authresponse.szPassword.str.length ≤ 64)
    (hok : SUCCEEDED ((requestCredential authattributes authresponse).validate r) = true) :
    (requestCredential authattributes authresponse).Usable := by
  rw [requestCredential] at hok ⊢
  cases hmech : authresponse.authCredMech with
  | authCredLongTerm =>
    simp only [AuthString.str] at huser hrealm hpassword
    simp only [Credential.Usable, MAX_STUN_AUTH_STRING_SIZE]
    omega
  | authCredShortTerm =>
    intro hnil
    rw [hmech] at hok
    simp only [Credential.validate, CStunMessageReader.validateMessageIntegrityShort, hnil,
      CStunMessageReader.validateMessageIntegrity] at hok
    split at hok
    · cases hok
    · split at hok
      · cases hok
      · split at hok <;> cases hok

/-- What the provider of a request answered, with its strings terminated. -/
def answerOf (auth : IStunAuth) (r : CStunMessageReader) : AuthResponse := terminated (auth (authAttributes r)).2

/-- `DoAuthCheck` succeeded. -/
def Checked (auth : IStunAuth) (r : CStunMessageReader) : Prop := SUCCEEDED (auth (authAttributes r)).1 = true

/-- The credential under which the answer of the provider is conditional. -/
def credentialFor (auth : IStunAuth) (r : CStunMessageReader) : Credential :=
  requestCredential (authAttributes r) (answerOf auth r)

/-- How `ValidateAuth` ends, by the provider and its answer. -/
inductive AuthOutcome (pAuth : Option IStunAuth) (r : CStunMessageReader) (h : CStunRequestHandler) : Prop
  | noProvider (none : pAuth = none) (code : h.error.errorcode = 0)
      (unsigned : h.integrity.fSendWithIntegrity = false)
  | allow (auth : IStunAuth) (some : pAuth = some auth) (checked : Checked auth r)
      (type : (answerOf auth r).responseType = .allow) (code : h.error.errorcode = 0)
      (unsigned : h.integrity.fSendWithIntegrity = false)
  | signed (auth : IStunAuth) (some : pAuth = some auth) (checked : Checked auth r)
      (type : (answerOf auth r).responseType = .allowConditional)
      (valid : SUCCEEDED ((credentialFor auth r).validate r) = true) (code : h.error.errorcode = 0)
      (signed : h.integrity.fSendWithIntegrity = true) (key : (credentialOf h.integrity).key = (credentialFor auth r).key)
  | challenged (auth : IStunAuth) (some : pAuth = some auth) (checked : Checked auth r)
      (code : (answerOf auth r).responseType = .staleNonce ∧ h.error.errorcode = STUN_ERROR_STALENONCE ∨
        ((answerOf auth r).responseType = .unauthorized ∨ (answerOf auth r).responseType = .allowConditional ∧
          SUCCEEDED ((credentialFor auth r).validate r) = false) ∧ h.error.errorcode = STUN_ERROR_UNAUTHORIZED)
      (nonce : h.error.szNonce.str = (answerOf auth r).szNonce.str)
      (realm : h.error.szRealm.str = (answerOf auth r).szRealm.str)
  | refused (auth : IStunAuth) (some : pAuth = some auth)
      (refused : ¬ Checked auth r ∨ (answerOf auth r).responseType = .reject)
      (code : h.error.errorcode = STUN_ERROR_BADREQUEST)

omit [Digests] in
theorem answerOf_lengths (auth : IStunAuth) (r : CStunMessageReader) :
    (answerOf auth r).szNonce.str.length ≤ 64 ∧ (answerOf auth r).szRealm.str.length ≤ 64 ∧
      (answerOf auth r).szPassword.str.length ≤ 64 :=
  ⟨AuthString.terminate_str_length _, AuthString.terminate_str_length _, AuthString.terminate_str_length _⟩

/-- The signature of the response is made with the credential of the request. -/
theorem setIntegrity_credential {attributes : AuthAttributes} {response : AuthResponse}
    (huser : attributes.szUser.str.length ≤ 64) (hrealm : attributes.szRealm.str.length ≤ 64)
    (hpassword : response.szPassword.str.length ≤ 64) (hok : (requestCredential attributes response).Usable) :
    (credentialOf (setIntegrity attributes response h).integrity).key = (requestCredential attributes response).key ∧
      (credentialOf (setIntegrity attributes response h).integrity).Usable := by
  have hu := AuthString.strcpy_str h.integrity.szUser huser
  have hr := AuthString.strcpy_str h.integrity.szRealm hrealm
  have hp := AuthString.strcpy_str h.integrity.szPassword hpassword
  simp only [AuthString.str] at hu hr hp
  simp only [requestCredential] at hok ⊢
  cases hmech : response.authCredMech with
  | authCredLongTerm =>
    rw [hmech] at hok
    simp only [credentialOf, CStunRequestHandler.setIntegrity, hmech, decide_true, ↓reduceIte, Credential.key,
      Credential.Usable, longTermText, hu, hr, hp] at hok ⊢
    exact ⟨trivial, hok⟩
  | authCredShortTerm =>
    rw [hmech] at hok
    simp only [credentialOf, CStunRequestHandler.setIntegrity, hmech, reduceCtorEq, decide_false, Bool.false_eq_true,
      ↓reduceIte, Credential.key, Credential.Usable, hp] at hok ⊢
    exact ⟨trivial, hok⟩

omit [Digests] in
theorem copyChallenge_spec (hr : Ready h) {response : AuthResponse} (hnonce : response.szNonce.str.length ≤ 64)
    (hrealm : response.szRealm.str.length ≤ 64)
    (hcode : h.error.errorcode = STUN_ERROR_UNAUTHORIZED ∨ h.error.errorcode = STUN_ERROR_STALENONCE) :
    Ready (copyChallenge response h) ∧ (copyChallenge response h).error.errorcode = h.error.errorcode ∧
      (copyChallenge response h).error.szNonce.str = response.szNonce.str ∧
      (copyChallenge response h).error.szRealm.str = response.szRealm.str ∧
      (copyChallenge response h).pMsgIn = h.pMsgIn ∧ (copyChallenge response h).pMsgOut = h.pMsgOut := by
  have hn := AuthString.strcpy_str h.error.szNonce hnonce
  have hm := AuthString.strcpy_str h.error.szRealm hrealm
  rw [copyChallenge, if_pos hcode]
  exact ⟨⟨hr.msgtype, hr.msgclass, hr.transid, hr.legacy, by rw [hn]; exact hnonce, by rw [hm]; exact hrealm, hr.room,
    hr.signed⟩, rfl, hn, hm, rfl, rfl⟩

omit [Digests] in
theorem copyChallenge_other {response : AuthResponse}
    (hcode : ¬ (h.error.errorcode = STUN_ERROR_UNAUTHORIZED ∨ h.error.errorcode = STUN_ERROR_STALENONCE)) :
    copyChallenge response h = h := if_neg hcode

/-- What a check that succeeded decides. -/
theorem answered_spec {msgIn : StunMessageIn} {addressSet : TransportAddressSet} {auth : IStunAuth}
    {spBufferOut : CBuffer} (hs : Started msgIn addressSet (some auth) spBufferOut h) (hcode : h.error.errorcode = 0)
    (hchecked : Checked auth msgIn.reader) {h' : CStunRequestHandler}
    (heq : h' = copyChallenge (answerOf auth msgIn.reader)
      (applyAuthResponse (authAttributes msgIn.reader) (answerOf auth msgIn.reader) h)) :
    Ready h' ∧ AuthOutcome (some auth) msgIn.reader h' ∧ h'.pMsgIn = msgIn ∧ h'.pMsgOut = h.pMsgOut := by
  have hread : h.reader = msgIn.reader := by rw [CStunRequestHandler.reader, hs.msgIn_eq]
  have hready := hs.ready
  obtain ⟨hnonce, hrealm, hpassword⟩ := answerOf_lengths auth msgIn.reader
  rw [applyAuthResponse] at heq
  cases htype : (answerOf auth msgIn.reader).responseType with
  | allow =>
    simp only [htype] at heq
    rw [copyChallenge_other (h := h) (by rw [hcode]; decide)] at heq
    subst heq
    exact ⟨hready, .allow auth rfl hchecked htype hcode hs.unsigned, hs.msgIn_eq, rfl⟩
  | staleNonce =>
    simp only [htype] at heq
    subst heq
    obtain ⟨hr, hc, hn, hm, hin, hout⟩ := copyChallenge_spec (hready.setErrorcode STUN_ERROR_STALENONCE)
      hnonce hrealm (.inr rfl)
    exact ⟨hr, .challenged auth rfl hchecked (.inl ⟨htype, hc⟩) hn hm, hin.trans hs.msgIn_eq, hout⟩
  | unauthorized =>
    simp only [htype] at heq
    subst heq
    obtain ⟨hr, hc, hn, hm, hin, hout⟩ := copyChallenge_spec (hready.setErrorcode STUN_ERROR_UNAUTHORIZED)
      hnonce hrealm (.inl rfl)
    exact ⟨hr, .challenged auth rfl hchecked (.inr ⟨.inl htype, hc⟩) hn hm, hin.trans hs.msgIn_eq, hout⟩
  | reject =>
    simp only [htype] at heq
    rw [copyChallenge_other (h := h.setErrorcode STUN_ERROR_BADREQUEST)
      (show ¬ (STUN_ERROR_BADREQUEST = _ ∨ STUN_ERROR_BADREQUEST = _) by decide)] at heq
    subst heq
    exact ⟨hready.setErrorcode _, .refused auth rfl (.inr htype) rfl, hs.msgIn_eq, rfl⟩
  | allowConditional =>
    have huser := readAuthString_length STUN_ATTRIBUTE_USERNAME msgIn.reader
    have hrealm' := readAuthString_length STUN_ATTRIBUTE_REALM msgIn.reader
    simp only [htype, checkCredential_eq, hread] at heq
    change h' = copyChallenge _ (if SUCCEEDED ((credentialFor auth msgIn.reader).validate msgIn.reader) then _ else _)
      at heq
    cases hvalid : SUCCEEDED ((credentialFor auth msgIn.reader).validate msgIn.reader) with
    | true =>
      obtain ⟨hkey, hsigned⟩ := setIntegrity_credential (h := h) huser hrealm' hpassword
        (validate_usable huser hrealm' hpassword hvalid)
      rw [if_pos hvalid, copyChallenge_other (h := setIntegrity _ _ h)
        (show ¬ (h.error.errorcode = _ ∨ h.error.errorcode = _) by rw [hcode]; decide)] at heq
      subst heq
      exact ⟨⟨hready.msgtype, hready.msgclass, hready.transid, hready.legacy, hready.nonce, hready.realm,
        hready.room, fun _ => hsigned⟩, .signed auth rfl hchecked htype hvalid hcode rfl hkey, hs.msgIn_eq, rfl⟩
    | false =>
      rw [if_neg (by rw [hvalid]; decide)] at heq
      subst heq
      obtain ⟨hr, hc, hn, hm, hin, hout⟩ := copyChallenge_spec (hready.setErrorcode STUN_ERROR_UNAUTHORIZED)
        hnonce hrealm (.inl rfl)
      exact ⟨hr, .challenged auth rfl hchecked (.inr ⟨.inr ⟨htype, hvalid⟩, hc⟩) hn hm, hin.trans hs.msgIn_eq, hout⟩

/-- The authorisation stage, when it is reached. -/
theorem authorise_spec {msgIn : StunMessageIn} {addressSet : TransportAddressSet} {pAuth : Option IStunAuth}
    {spBufferOut : CBuffer} (hs : Started msgIn addressSet pAuth spBufferOut h) (hcode : h.error.errorcode = 0) :
    Ready (stage validateAuth h) ∧ AuthOutcome pAuth msgIn.reader (stage validateAuth h) ∧
      (stage validateAuth h).pMsgIn = msgIn ∧ (stage validateAuth h).pMsgOut = h.pMsgOut := by
  have hread : h.reader = msgIn.reader := by rw [CStunRequestHandler.reader, hs.msgIn_eq]
  have hstage := stage_validateAuth hcode
  rw [hs.auth, hread] at hstage
  cases pAuth with
  | none =>
    rw [hstage]
    exact ⟨hs.ready, .noProvider rfl hcode hs.unsigned, hs.msgIn_eq, rfl⟩
  | some auth =>
    by_cases hchecked : Checked auth msgIn.reader
    · exact answered_spec hs hcode hchecked (hstage.trans (if_pos hchecked))
    · rw [hstage.trans (if_neg hchecked)]
      exact ⟨hs.ready.setErrorcode _, .refused auth rfl (.inl hchecked) rfl, hs.msgIn_eq, rfl⟩

end Auth

/-! ## The Binding request -/

/-- The role a response leaves from, when the change request can be honoured. -/
def outputRole (h : CStunRequestHandler) : Option SocketRole :=
  let changerequest := h.reader.getChangeRequest
  if SUCCEEDED changerequest.1 ∧ (changerequest.2.fChangeIP ∨ changerequest.2.fChangePort) then
    let socketOutput := h.pMsgIn.socketrole
    let socketOutput := if changerequest.2.fChangeIP then socketOutput.swapIP else socketOutput
    let socketOutput := if changerequest.2.fChangePort then socketOutput.swapPort else socketOutput
    if h.hasAddress socketOutput = false ∨ h.pMsgIn.fConnectionOriented = true then none else some socketOutput
  else some h.pMsgIn.socketrole

theorem exec_badRequestIf (cond : Prop) [Decidable cond] (h : CStunRequestHandler) :
    Proc.exec (badRequestIf cond) h =
      if cond then (.error E_FAIL, h.setErrorcode STUN_ERROR_BADREQUEST) else (.ok (), h) := by
  unfold badRequestIf
  split <;> rfl

theorem exec_selectOutput (h : CStunRequestHandler) :
    Proc.exec selectOutput h =
      match outputRole h with
      | some socketOutput => (.ok socketOutput, h)
      | none => (.error E_FAIL, h.setErrorcode STUN_ERROR_BADREQUEST) := by
  rw [selectOutput, Proc.exec_bind_ok (Proc.exec_get h), outputRole]
  by_cases hchange : SUCCEEDED h.reader.getChangeRequest.1 ∧
      (h.reader.getChangeRequest.2.fChangeIP ∨ h.reader.getChangeRequest.2.fChangePort)
  · simp only [hchange, and_self, ↓reduceIte, Proc.exec_bind, exec_badRequestIf]
    generalize (if h.reader.getChangeRequest.2.fChangePort = true then _ else _ : SocketRole) = socketOutput
    by_cases hbad : h.hasAddress socketOutput = false ∨ h.pMsgIn.fConnectionOriented = true
    · rw [if_pos hbad, if_pos hbad]
    · rw [if_neg hbad, if_neg hbad]
      rfl
  · simp only [hchange, ↓reduceIte, Proc.exec_pure]

/-- The handler about to build its success response. -/
def answering (socketOutput : SocketRole) (h : CStunRequestHandler) : CStunRequestHandler :=
  { h with pMsgOut :=
    { h.pMsgOut with socketrole := socketOutput, spBufferOut := (h.pMsgOut.spBufferOut.setSize 0).2 } }

section Binding
variable [Platform] [Digests]

theorem stage_processBindingRequest (hcode : h.error.errorcode = 0) :
    stage processBindingRequest h =
      if h.fRequestHasResponsePort = true ∧ SUCCEEDED h.reader.getPaddingAttributeSize.1 = true then
        (h.setBufferOut (h.pMsgOut.spBufferOut.setSize 0).2).setErrorcode STUN_ERROR_BADREQUEST
      else
        match outputRole h with
        | none => (h.setBufferOut (h.pMsgOut.spBufferOut.setSize 0).2).setErrorcode STUN_ERROR_BADREQUEST
        | some socketOutput =>
          let h := answering socketOutput h
          h.withBuilder (h.successResponse (h.originAddress socketOutput) h.otherAddress) := by
  have hbad : STUN_ERROR_BADREQUEST ≠ 0 := by decide
  rw [stage_zero hcode, processBindingRequest]
  generalize hempty : h.setBufferOut (h.pMsgOut.spBufferOut.setSize 0).2 = e
  have hport : e.fRequestHasResponsePort = h.fRequestHasResponsePort := by rw [← hempty]; rfl
  have hreader : e.reader = h.reader := by rw [← hempty]; rfl
  have hrole : outputRole e = outputRole h := by rw [← hempty]; rfl
  simp only [Proc.exec_bind, Proc.exec_modify, Proc.exec_get, hempty, exec_badRequestIf, hport, hreader]
  by_cases hpad : h.fRequestHasResponsePort = true ∧ SUCCEEDED h.reader.getPaddingAttributeSize.1 = true
  · rw [if_pos hpad, if_pos hpad]
    exact if_neg hbad
  · rw [if_neg hpad, if_neg hpad]
    simp only [exec_selectOutput, hrole]
    cases outputRole h with
    | none => exact if_neg hbad
    | some socketOutput =>
      rw [← hempty]
      rfl

omit [Platform] [Digests] in
theorem Ready.answering (hr : Ready h) (socketOutput : SocketRole) : Ready (answering socketOutput h) := by
  refine ⟨hr.msgtype, hr.msgclass, hr.transid, hr.legacy, hr.nonce, hr.realm, ?_, hr.signed⟩
  change _ ≤ (h.pMsgOut.spBufferOut.setSize 0).2.allocatedSize
  rw [CBuffer.setSize_allocatedSize]
  exact hr.room

omit [Platform] [Digests] in
theorem Ready.emptied (hr : Ready h) :
    Ready ((h.setBufferOut (h.pMsgOut.spBufferOut.setSize 0).2).setErrorcode STUN_ERROR_BADREQUEST) :=
  (hr.setBufferOut (CBuffer.setSize_allocatedSize _ 0)).setErrorcode _

end Binding

end NatTester.Handler
