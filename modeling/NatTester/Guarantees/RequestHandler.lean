import NatTester.Guarantees.Integrity
import NatTester.Handler.Route

/-!
# Every request is answered

`ProcessRequest` on any reader that has accepted a request leaves exactly one
well-formed answer in the buffer of the caller; on anything else it leaves none.
-/
namespace NatTester.Guarantees
open NatTester.Lib NatTester.Source NatTester.Wire NatTester.Handler CStunRequestHandler CStunMessageReader

section Handler
variable [Platform] [Digests] {h : CStunRequestHandler} {msgIn : StunMessageIn} {addressSet : TransportAddressSet}
  {pAuth : Option IStunAuth} {msgOut : StunMessageOut}

omit [Digests] in
/-- The method of an accepted message has twelve bits. -/
theorem fed_method {cap : Option Nat} {r₀ : CStunMessageReader} (h₀ : Fresh cap r₀) (pieces : List Bytes)
    (hstate : (feed pieces r₀).getState = .bodyValidated) : (feed pieces r₀).getMessageType < 0x1000 := by
  obtain ⟨as, hacc⟩ := (feed_parsed h₀ pieces).accepted h₀ hstate
  rw [getMessageType, hacc.type]
  exact normalizeType_lt _

/-- How every accepted request is answered. -/
inductive Answered (msgIn : StunMessageIn) (pAuth : Option IStunAuth) (r : CStunMessageReader) : Prop
  | early (notReached : ¬ AuthReached msgIn) (error : StunErrorCode) (code : error.errorcode = STUN_ERROR_BADREQUEST)
      (answer : ErrorAnswer msgIn.reader error r)
  | denied (reached : AuthReached msgIn) (h : CStunRequestHandler) (outcome : AuthOutcome pAuth msgIn.reader h)
      (sendable : Sendable h.error) (answer : ErrorAnswer msgIn.reader h.error r)
  | bad (reached : AuthReached msgIn) (h : CStunRequestHandler) (outcome : AuthOutcome pAuth msgIn.reader h)
      (allowed : h.error.errorcode = 0) (error : StunErrorCode) (code : error.errorcode = STUN_ERROR_BADREQUEST)
      (answer : ErrorAnswer msgIn.reader error r)
  | success (reached : AuthReached msgIn) (h : CStunRequestHandler) (outcome : AuthOutcome pAuth msgIn.reader h)
      (allowed : h.error.errorcode = 0) (addrOther : Option CSocketAddress)
      (answer : SuccessAnswer msgIn.reader msgIn.addrRemote addrOther h.integrity r)

variable (addressSet pAuth) in
theorem processRequest_answered (hmethod : msgIn.reader.getMessageType < 0x1000)
    (hroom : MAX_STUN_MESSAGE_SIZE ≤ msgOut.spBufferOut.allocatedSize)
    (hstate : msgIn.reader.getState = .bodyValidated) (hclass : msgIn.reader.getMessageClass = .request) :
    ∃ out, Proc.exec (processRequest msgIn addressSet pAuth) msgOut = (.ok (), out) ∧
      HoldsMessage msgOut.spBufferOut out.spBufferOut ∧ Answered msgIn pAuth (readBuffer out.spBufferOut).2 := by
  obtain ⟨out, hrun, hholds, -, hsent⟩ := processRequest_sent addressSet pAuth hmethod hroom hstate hclass
  refine ⟨out, hrun, hholds, ?_⟩
  cases hsent with
  | early notReached error code answer _ => exact .early notReached error code answer
  | denied reached h outcome sendable answer _ => exact .denied reached h outcome sendable answer
  | bad reached h outcome allowed _ error code answer _ => exact .bad reached h outcome allowed error code answer
  | success reached h outcome allowed _ _ _ _ _ answer _ => exact .success reached h outcome allowed _ answer

/-- A well-formed answer to a request. -/
structure WellFormedAnswer (request : CStunMessageReader) (addrRemote : CSocketAddress) (r : CStunMessageReader) :
    Prop where
  state : r.getState = .bodyValidated
  type : r.getMessageType = request.getMessageType
  transid : r.getTransactionId = request.getTransactionId
  answer :
    (r.getMessageClass = .failureResponse ∧
      (r.getErrorCode = .ok 400 ∨ r.getErrorCode = .ok 401 ∨ r.getErrorCode = .ok 438)) ∨
    (r.getMessageClass = .successResponse ∧ r.getMessageType = StunMsgTypeBinding ∧
      r.getMappedAddress = .ok addrRemote ∧ r.getXorMappedAddress = .ok addrRemote)

omit [Platform] [Digests] in
theorem WellFormedAnswer.mapped {request r : CStunMessageReader} {addrRemote : CSocketAddress}
    (h : WellFormedAnswer request addrRemote r) (hsuccess : r.getMessageClass = .successResponse) :
    r.getMappedAddress = .ok addrRemote ∧ r.getXorMappedAddress = .ok addrRemote := by
  rcases h.answer with ⟨hfailure, -⟩ | ⟨-, -, hmapped⟩
  · rw [hsuccess] at hfailure
    cases hfailure
  · exact hmapped

omit [Platform] [Digests] in
theorem ErrorAnswer.wellFormed {request r : CStunMessageReader} {error : StunErrorCode} {addrRemote : CSocketAddress}
    (ha : ErrorAnswer request error r)
    (hcode : error.errorcode = STUN_ERROR_BADREQUEST ∨ error.errorcode = STUN_ERROR_UNAUTHORIZED ∨
      error.errorcode = STUN_ERROR_STALENONCE) : WellFormedAnswer request addrRemote r := by
  refine ⟨ha.state, ha.type, ha.transid, .inl ⟨ha.msgClass, ?_⟩⟩
  rw [ha.code]
  rcases hcode with hc | hc | hc <;> rw [hc]
  · exact .inl rfl
  · exact .inr (.inl rfl)
  · exact .inr (.inr rfl)

omit [Platform] in
theorem SuccessAnswer.wellFormed {request r : CStunMessageReader} {addrRemote : CSocketAddress}
    {addrOther : Option CSocketAddress} {integrity : StunMessageIntegrity}
    (ha : SuccessAnswer request addrRemote addrOther integrity r)
    (htype : request.getMessageType = StunMsgTypeBinding) : WellFormedAnswer request addrRemote r :=
  ⟨ha.state, ha.type.trans htype.symm, ha.transid, .inr ⟨ha.msgClass, ha.type, ha.mapped, ha.xorMapped⟩⟩

omit [Platform] in
theorem Answered.wellFormed {r : CStunMessageReader} (ha : Answered msgIn pAuth r) :
    WellFormedAnswer msgIn.reader msgIn.addrRemote r := by
  cases ha with
  | early _ error code answer => exact ErrorAnswer.wellFormed answer (.inl code)
  | denied _ h _ sendable answer => exact ErrorAnswer.wellFormed answer sendable.code
  | bad _ h _ _ error code answer => exact ErrorAnswer.wellFormed answer (.inl code)
  | success reached h _ _ addrOther answer => exact SuccessAnswer.wellFormed answer reached.1

/-- One well-formed answer to every request, in the buffer of the caller; none to anything else. -/
theorem processRequest_answers {cap : Option Nat} {r₀ : CStunMessageReader} (h₀ : Fresh cap r₀) (pieces : List Bytes)
    {msgIn : StunMessageIn} (hreader : msgIn.reader = feed pieces r₀) (addressSet : TransportAddressSet)
    (pAuth : Option IStunAuth) {msgOut : StunMessageOut}
    (hroom : MAX_STUN_MESSAGE_SIZE ≤ msgOut.spBufferOut.allocatedSize) :
    let result := Proc.exec (processRequest msgIn addressSet pAuth) msgOut
    (msgIn.reader.getState ≠ .bodyValidated → (∃ hr, result = (.error hr, msgOut))) ∧
    (msgIn.reader.getState = .bodyValidated → msgIn.reader.getMessageClass ≠ .request →
      (∃ hr, result.1 = .error hr) ∧ result.2.spBufferOut.size = 0) ∧
    (msgIn.reader.getState = .bodyValidated → msgIn.reader.getMessageClass = .request →
      result.1 = .ok () ∧ HoldsMessage msgOut.spBufferOut result.2.spBufferOut ∧
      WellFormedAnswer msgIn.reader msgIn.addrRemote (readBuffer result.2.spBufferOut).2) := by
  intro result
  refine ⟨fun hstate => ⟨E_UNEXPECTED, ?_⟩, fun hstate hclass => ?_, fun hstate hclass => ?_⟩
  · have hrun : Proc.exec (processRequest msgIn addressSet pAuth) msgOut = (.error E_UNEXPECTED, msgOut) := by
      rw [processRequest, Proc.exec_bind_ok (Proc.exec_get msgOut),
        Proc.exec_bind_ok (exec_chkIf_false (Nat.not_lt.mpr hroom) ..),
        Proc.exec_bind_error (exec_chkIf_true hstate ..)]
    exact hrun
  · have himpl := exec_processRequestImpl (CStunRequestHandler.new pAuth addressSet msgIn
      ⟨msgIn.socketrole, msgIn.addrRemote, (msgOut.spBufferOut.setSize 0).2⟩)
    replace himpl := himpl.trans (if_pos hclass)
    have hrun : result = (.error E_FAIL,
        ⟨msgIn.socketrole, msgIn.addrRemote, (msgOut.spBufferOut.setSize 0).2⟩) := by
      change Proc.exec (processRequest msgIn addressSet pAuth) msgOut = _
      rw [processRequest, Proc.exec_bind_ok (Proc.exec_get msgOut),
        Proc.exec_bind_ok (exec_chkIf_false (Nat.not_lt.mpr hroom) ..),
        Proc.exec_bind_ok (exec_chkIf_false (not_not.mpr hstate) ..)]
      simp only [himpl]
      rfl
    rw [hrun, CBuffer.setSize_snd]
    exact ⟨⟨E_FAIL, rfl⟩, rfl⟩
  · have hmethod : msgIn.reader.getMessageType < 0x1000 := by
      rw [hreader] at hstate ⊢
      exact fed_method h₀ pieces hstate
    obtain ⟨out, hrun, hholds, hanswered⟩ := processRequest_answered addressSet pAuth hmethod hroom
      hstate hclass
    have hresult : result = (.ok (), out) := hrun
    rw [hresult]
    exact ⟨rfl, hholds, hanswered.wellFormed⟩

end Handler

/-- A Binding request without attributes. -/
abbrev bindingRequest : Bytes :=
  [0x00, 0x01, 0x00, 0x00, 0x21, 0x12, 0xA4, 0x42, 0, 0, 0, 0, 0, 0, 0, 0, 0, 0, 0, 1]

/-- A request from a client, as the server receives it on its primary socket. -/
def receivedOnPrimary (reader : CStunMessageReader) : StunMessageIn :=
  ⟨.rolePP, CSocketAddress.ofIp4 1 3478, CSocketAddress.ofIp4 2 5000, reader, false⟩

theorem receivedOnPrimary_reader (reader : CStunMessageReader) : (receivedOnPrimary reader).reader = reader := rfl

/-- A server that has the primary address only. -/
def primaryOnly : TransportAddressSet :=
  ⟨fun role => ⟨CSocketAddress.ofIp4 1 3478, role = .rolePP⟩⟩

/-- An answer yet to be written, into a buffer of `size` bytes. -/
def emptyAnswer (size : Nat) : StunMessageOut :=
  ⟨.rolePP, CSocketAddress.zero, CBuffer.initNoAlloc (List.replicate size 0)⟩

theorem emptyAnswer_room {size : Nat} (hsize : MAX_STUN_MESSAGE_SIZE ≤ size) :
    MAX_STUN_MESSAGE_SIZE ≤ (emptyAnswer size).spBufferOut.allocatedSize := by
  rwa [emptyAnswer, CBuffer.allocatedSize, CBuffer.initNoAlloc, CBuffer.memory, Option.getD_some, List.length_replicate]

set_option maxRecDepth 4000 in
/-- The answer to a Binding request, in a buffer of 800 bytes: it names the address the request came from. -/
theorem processRequest_answers_bindingRequest :
    let _ := Platform.armeabi
    let _ := requestDigests
    let msgIn := receivedOnPrimary (feed [bindingRequest] CStunMessageReader.new)
    let result := Proc.exec (processRequest msgIn primaryOnly none) (emptyAnswer 800)
    let answer := (readBuffer result.2.spBufferOut).2
    result.1 = .ok () ∧ answer.getMessageClass = .successResponse ∧ answer.getMappedAddress = .ok msgIn.addrRemote ∧
      answer.getXorMappedAddress = .ok msgIn.addrRemote := by
  intro platform digests msgIn
  have hroom : MAX_STUN_MESSAGE_SIZE ≤ (emptyAnswer 800).spBufferOut.allocatedSize := emptyAnswer_room (by decide)
  have hreader : msgIn.reader = feed [bindingRequest] CStunMessageReader.new := receivedOnPrimary_reader _
  have hstate : msgIn.reader.getState = .bodyValidated := by
    rw [hreader]
    decide
  have hclass : msgIn.reader.getMessageClass = .request := by
    rw [hreader]
    decide
  have hsuccess : (readBuffer (Proc.exec (processRequest msgIn primaryOnly none)
      (emptyAnswer 800)).2.spBufferOut).2.getMessageClass = .successResponse := by decide
  obtain ⟨-, -, hanswer⟩ := processRequest_answers fresh_new [bindingRequest] hreader primaryOnly none hroom
  obtain ⟨hok, -, hwellFormed⟩ := hanswer hstate hclass
  dsimp only
  generalize Proc.exec (processRequest msgIn primaryOnly none) (emptyAnswer 800) = result at hok hsuccess hwellFormed ⊢
  exact ⟨hok, hsuccess, hwellFormed.mapped hsuccess⟩

end NatTester.Guarantees
