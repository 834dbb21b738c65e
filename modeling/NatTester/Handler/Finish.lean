import NatTester.Handler.Answers

/-!
# The answer to a request

`ProcessRequestImpl` ends in `finish`, which leaves one message in the buffer of
the caller: an error response if a code has been set, and otherwise a success
response or a bad request.
-/
namespace NatTester.Handler
open NatTester.Lib NatTester.Source NatTester.Wire CStunRequestHandler CStunMessageReader

variable [Platform] [Digests]

/-- What a fresh reader makes of the bytes in a buffer. -/
abbrev readBuffer (buf : CBuffer) : ReaderParseState × CStunMessageReader :=
  addBytes buf.contents CStunMessageReader.new

/-- An output buffer that is still the one handed in, with one message in it. -/
structure HoldsMessage (before after : CBuffer) : Prop where
  same : after.allocatedSize = before.allocatedSize
  size : after.size ≤ MAX_STUN_MESSAGE_SIZE
  accepted : (readBuffer after).1 = .bodyValidated

omit [Digests] in
/-- `ProcessRequest` empties the buffer it is handed first of all. -/
theorem HoldsMessage.of_emptied {handed before after : CBuffer} (h : HoldsMessage before after)
    (hempty : before = (handed.setSize 0).2) : HoldsMessage handed after :=
  ⟨h.same.trans (by rw [hempty, CBuffer.setSize_allocatedSize]), h.size, h.accepted⟩

omit [Digests] in
theorem HoldsMessage.reads {before after : CBuffer} (h : HoldsMessage before after) :
    ∃ as, Accepted after.contents as (readBuffer after).2 := by
  obtain ⟨hresult, hparsed⟩ := addBytes_parsed fresh_new fresh_new.parsed after.contents
  rw [List.nil_append] at hparsed
  exact hparsed.accepted fresh_new (hresult.symm.trans h.accepted)

/-- The state `ProcessRequestImpl` ends in, from the one before `ValidateAuth` or after it. -/
def finish (h : CStunRequestHandler) : CStunRequestHandler := answerError (stage processBindingRequest h)

variable {h : CStunRequestHandler}

theorem finish_of_code {g : CStunRequestHandler} (hstage : stage processBindingRequest h = g)
    (hcode : g.error.errorcode ≠ 0) : finish h = g.buildErrorResponse := by
  rw [finish, hstage, answerError, if_pos hcode]

theorem finish_error (hready : Ready h) (hmethod : h.reader.getMessageType < 0x1000) (hsend : Sendable h.error) :
    HoldsMessage h.pMsgOut.spBufferOut (finish h).pMsgOut.spBufferOut ∧
      ErrorAnswer h.reader h.error (readBuffer (finish h).pMsgOut.spBufferOut).2 := by
  have hcode : h.error.errorcode ≠ 0 := hsend.code_ne_zero
  obtain ⟨buf, hbuf, halloc, hsize, hstate, hanswer⟩ := buildErrorResponse_answer hready hmethod hsend
  rw [finish_of_code (stage_nonzero hcode) hcode, hbuf]
  exact ⟨⟨halloc, hsize, hstate⟩, hanswer⟩

/-- Nothing stands in the way of a success response. -/
theorem finish_answering (hcode : h.error.errorcode = 0)
    (hpadding : ¬ (h.fRequestHasResponsePort = true ∧ SUCCEEDED h.reader.getPaddingAttributeSize.1 = true))
    {socketOutput : SocketRole} (hrole : outputRole h = some socketOutput) :
    finish h = (answering socketOutput h).withBuilder ((answering socketOutput h).successResponse
      ((answering socketOutput h).originAddress socketOutput) (answering socketOutput h).otherAddress) := by
  have hstage := stage_processBindingRequest hcode
  rw [if_neg hpadding, hrole] at hstage
  rw [finish, hstage, answerError]
  exact if_neg (not_not.mpr hcode)

theorem finish_success (hready : Ready h) (hcode : h.error.errorcode = 0)
    (hpadding : ¬ (h.fRequestHasResponsePort = true ∧ SUCCEEDED h.reader.getPaddingAttributeSize.1 = true))
    {socketOutput : SocketRole} (hrole : outputRole h = some socketOutput) :
    HoldsMessage h.pMsgOut.spBufferOut (finish h).pMsgOut.spBufferOut ∧
      SuccessAnswer h.reader h.pMsgIn.addrRemote h.otherAddress h.integrity
        (readBuffer (finish h).pMsgOut.spBufferOut).2 ∧
      (finish h).pMsgOut.socketrole = socketOutput ∧ (finish h).pMsgOut.addrDest = h.pMsgOut.addrDest := by
  obtain ⟨buf, hbuf, halloc, hsize, hstate, hanswer⟩ := successResponse_answer (hready.answering socketOutput)
    ((answering socketOutput h).originAddress socketOutput) (answering socketOutput h).otherAddress
  rw [finish_answering hcode hpadding hrole, hbuf]
  exact ⟨⟨halloc.trans (CBuffer.setSize_allocatedSize _ 0), hsize, hstate⟩, hanswer, rfl, rfl⟩

/-- The Binding request is a bad one. -/
theorem stage_refused (hcode : h.error.errorcode = 0)
    (hbad : h.fRequestHasResponsePort = true ∧ SUCCEEDED h.reader.getPaddingAttributeSize.1 = true ∨
      outputRole h = none) :
    stage processBindingRequest h =
      (h.setBufferOut (h.pMsgOut.spBufferOut.setSize 0).2).setErrorcode STUN_ERROR_BADREQUEST := by
  rw [stage_processBindingRequest hcode]
  by_cases hpadding : h.fRequestHasResponsePort = true ∧ SUCCEEDED h.reader.getPaddingAttributeSize.1 = true
  · exact if_pos hpadding
  · rw [if_neg hpadding, hbad.resolve_left hpadding]

theorem finish_refused (hready : Ready h) (hmethod : h.reader.getMessageType < 0x1000) (hcode : h.error.errorcode = 0)
    (hbad : h.fRequestHasResponsePort = true ∧ SUCCEEDED h.reader.getPaddingAttributeSize.1 = true ∨
      outputRole h = none) :
    HoldsMessage h.pMsgOut.spBufferOut (finish h).pMsgOut.spBufferOut ∧
      ∃ error, error.errorcode = STUN_ERROR_BADREQUEST ∧
        ErrorAnswer h.reader error (readBuffer (finish h).pMsgOut.spBufferOut).2 := by
  have hsend : Sendable ((h.setBufferOut (h.pMsgOut.spBufferOut.setSize 0).2).setErrorcode STUN_ERROR_BADREQUEST).error :=
    ⟨.inl rfl, hready.nonce, hready.realm⟩
  obtain ⟨buf, hbuf, halloc, hsize, hstate, hanswer⟩ := buildErrorResponse_answer hready.emptied hmethod hsend
  rw [finish_of_code (stage_refused hcode hbad) hsend.code_ne_zero, hbuf]
  exact ⟨⟨halloc.trans (CBuffer.setSize_allocatedSize _ 0), hsize, hstate⟩, _, rfl, hanswer⟩

/-! ## The whole of `ProcessRequest` -/

variable {msgIn : StunMessageIn} {addressSet : TransportAddressSet} {pAuth : Option IStunAuth} {msgOut : StunMessageOut}

theorem exec_processRequestImpl (h : CStunRequestHandler) :
    Proc.exec processRequestImpl h =
      if h.reader.getMessageClass ≠ .request then (.error E_FAIL, h)
      else (.ok (), finish (stage validateAuth (requireBinding (honourResponsePort (prepare h))))) := by
  rw [processRequestImpl, Proc.exec_bind_ok (Proc.exec_get h), Proc.exec_bind, exec_chkIf]
  by_cases hclass : h.reader.getMessageClass ≠ .request
  · rw [if_pos hclass, if_pos hclass]
  · rw [if_neg hclass, if_neg hclass]
    rfl

/-- `ProcessRequest` on a reader that has accepted a request. -/
theorem exec_processRequest (hroom : MAX_STUN_MESSAGE_SIZE ≤ msgOut.spBufferOut.allocatedSize)
    (hstate : msgIn.reader.getState = .bodyValidated) (hclass : msgIn.reader.getMessageClass = .request) :
    Proc.exec (processRequest msgIn addressSet pAuth) msgOut =
      (.ok (), (finish (stage validateAuth (start msgIn addressSet pAuth msgOut.spBufferOut))).pMsgOut) := by
  have himpl := exec_processRequestImpl (CStunRequestHandler.new pAuth addressSet msgIn
    ⟨msgIn.socketrole, msgIn.addrRemote, (msgOut.spBufferOut.setSize 0).2⟩)
  replace himpl := himpl.trans (if_neg (not_not.mpr hclass))
  rw [processRequest, Proc.exec_bind_ok (Proc.exec_get msgOut),
    Proc.exec_bind_ok (exec_chkIf_false (Nat.not_lt.mpr hroom) ..),
    Proc.exec_bind_ok (exec_chkIf_false (not_not.mpr hstate) ..)]
  simp only [himpl]
  rfl

/-- A run that succeeds has been given room for the answer. -/
theorem processRequest_room {out : StunMessageOut}
    (h : Proc.exec (processRequest msgIn addressSet pAuth) msgOut = (.ok (), out)) :
    MAX_STUN_MESSAGE_SIZE ≤ msgOut.spBufferOut.allocatedSize := by
  by_contra hsmall
  rw [processRequest, Proc.exec_bind_ok (Proc.exec_get msgOut),
    Proc.exec_bind_error (exec_chkIf_true (Nat.not_le.mp hsmall) ..)] at h
  cases h

/-! ## A Binding request without authentication, over UDP -/

/-- A Binding request that asks for no other port, on a server with all its addresses. -/
structure PlainRequest (msgIn : StunMessageIn) (addressSet : TransportAddressSet) : Prop where
  state : msgIn.reader.getState = .bodyValidated
  type : msgIn.reader.getMessageType = StunMsgTypeBinding
  msgClass : msgIn.reader.getMessageClass = .request
  responsePort : responseport msgIn.reader = 0
  datagram : msgIn.fConnectionOriented = false
  addresses : ∀ role, (addressSet.set role).fValid = true ∧ (addressSet.set role).addr.isIPAddressZero = false

omit [Platform] [Digests] in
theorem outputRole_eq_some (haddress : ∀ role, h.hasAddress role = true) (hudp : h.pMsgIn.fConnectionOriented = false) :
    ∃ socketOutput, outputRole h = some socketOutput := by
  simp only [outputRole, haddress, hudp, Bool.true_eq_false, Bool.false_eq_true, or_self, ↓reduceIte]
  split <;> exact ⟨_, rfl⟩

omit [Platform] [Digests] in
/-- Nothing but the header of such a request is looked at before authorisation. -/
theorem start_plain (hplain : PlainRequest msgIn addressSet) (spBufferOut : CBuffer) :
    start msgIn addressSet pAuth spBufferOut = prepare (CStunRequestHandler.new pAuth addressSet msgIn
      ⟨msgIn.socketrole, msgIn.addrRemote, (spBufferOut.setSize 0).2⟩) := by
  rw [start, honourResponsePort, if_neg, requireBinding, if_neg]
  · exact fun hbad => hbad.2 hplain.type
  · exact not_not.mpr hplain.responsePort

/-- It is answered with a success, which names the address with the other IP and the other port. -/
theorem processRequest_plain (hplain : PlainRequest msgIn addressSet) {out : StunMessageOut}
    (hrun : Proc.exec (processRequest msgIn addressSet none) msgOut = (.ok (), out)) :
    HoldsMessage msgOut.spBufferOut out.spBufferOut ∧ out.addrDest = msgIn.addrRemote ∧ ∃ integrity,
      SuccessAnswer msgIn.reader msgIn.addrRemote (some (addressSet.set msgIn.socketrole.swapPort.swapIP).addr) integrity
        (readBuffer out.spBufferOut).2 := by
  have hroom := processRequest_room hrun
  have hstarted := started_prepare msgIn addressSet none hroom
  rw [exec_processRequest hroom hplain.state hplain.msgClass, start_plain hplain] at hrun
  generalize hstart : prepare (CStunRequestHandler.new none addressSet msgIn
    ⟨msgIn.socketrole, msgIn.addrRemote, (msgOut.spBufferOut.setSize 0).2⟩) = h at hstarted hrun
  have hcode : h.error.errorcode = 0 := by rw [← hstart]; rfl
  have hport : h.fRequestHasResponsePort = false := by rw [← hstart]; rfl
  have hdest : h.pMsgOut.addrDest = msgIn.addrRemote := by rw [← hstart]; rfl
  rw [stage_validateAuth hcode, hstarted.auth] at hrun
  obtain rfl : (finish h).pMsgOut = out := (Prod.mk.inj hrun).2
  have haddress : ∀ role, h.hasAddress role = true := fun role => by
    rw [CStunRequestHandler.hasAddress, hstarted.addrSet]
    exact (hplain.addresses role).1
  obtain ⟨socketOutput, hrole⟩ := outputRole_eq_some haddress (by rw [hstarted.msgIn_eq]; exact hplain.datagram)
  have hpadding : ¬ (h.fRequestHasResponsePort = true ∧ SUCCEEDED h.reader.getPaddingAttributeSize.1 = true) := by
    rw [hport]
    exact fun hboth => Bool.noConfusion hboth.1
  obtain ⟨hholds, hanswer, -, hkept⟩ := finish_success hstarted.ready hcode hpadding hrole
  have hother : h.otherAddress = some (addressSet.set msgIn.socketrole.swapPort.swapIP).addr := by
    have hnonzero : h.isIPAddressZeroOrInvalid msgIn.socketrole.swapPort.swapIP = false := by
      rw [CStunRequestHandler.isIPAddressZeroOrInvalid, haddress, hstarted.addrSet, (hplain.addresses _).2]
      rfl
    simp only [CStunRequestHandler.otherAddress, haddress, and_self, ↓reduceIte, hstarted.msgIn_eq, hnonzero,
      hstarted.addrSet, Bool.false_eq_true]
  refine ⟨hholds.of_emptied hstarted.buffer, hkept.trans hdest, h.integrity, ?_⟩
  rw [hother, CStunRequestHandler.reader, hstarted.msgIn_eq] at hanswer
  exact hanswer

end NatTester.Handler
