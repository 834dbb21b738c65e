import NatTester.Handler.Finish

/-!
# The way of an answer

From which socket an answer leaves, and where it goes. The destination is
settled before authorisation and no later stage touches it. Only a success
response leaves from another socket than the one the request came in on.
-/
namespace NatTester.Handler
open NatTester.Lib NatTester.Source NatTester.Wire CStunRequestHandler CStunMessageReader

variable {h : CStunRequestHandler} {msgIn : StunMessageIn} {addressSet : TransportAddressSet} {pAuth : Option IStunAuth}

/-! ## Before the Binding request -/

/-- The sender, at the port it asked for if it may. -/
def responseDest (msgIn : StunMessageIn) : CSocketAddress :=
  if msgIn.fConnectionOriented = false ∧ responseport msgIn.reader ≠ 0 then
    msgIn.addrRemote.setPort (responseport msgIn.reader)
  else msgIn.addrRemote

variable (msgIn addressSet pAuth) in
theorem start_route (spBufferOut : CBuffer) :
    (start msgIn addressSet pAuth spBufferOut).pMsgOut.socketrole = msgIn.socketrole ∧
      (start msgIn addressSet pAuth spBufferOut).pMsgOut.addrDest = responseDest msgIn ∧
      ((start msgIn addressSet pAuth spBufferOut).fRequestHasResponsePort = true ↔ responseport msgIn.reader ≠ 0) := by
  have hbind : ∀ g : CStunRequestHandler, (requireBinding g).pMsgOut = g.pMsgOut ∧
      (requireBinding g).fRequestHasResponsePort = g.fRequestHasResponsePort := by
    intro g
    rw [requireBinding]
    split <;> exact ⟨rfl, rfl⟩
  rw [start, (hbind _).1, (hbind _).2, responseDest]
  generalize hprepare : prepare (CStunRequestHandler.new pAuth addressSet msgIn
    ⟨msgIn.socketrole, msgIn.addrRemote, (spBufferOut.setSize 0).2⟩) = g
  have hread : g.reader = msgIn.reader := by rw [← hprepare]; rfl
  have hover : g.pMsgIn.fConnectionOriented = msgIn.fConnectionOriented := by rw [← hprepare]; rfl
  have hrole : g.pMsgOut.socketrole = msgIn.socketrole := by rw [← hprepare]; rfl
  have hdest : g.pMsgOut.addrDest = msgIn.addrRemote := by rw [← hprepare]; rfl
  have hflag : g.fRequestHasResponsePort = false := by rw [← hprepare]; rfl
  rw [honourResponsePort, hread, hover]
  by_cases hport : responseport msgIn.reader ≠ 0
  · rw [if_pos hport]
    cases hconn : msgIn.fConnectionOriented with
    | true =>
      rw [if_pos rfl, if_neg fun hboth => Bool.noConfusion hboth.1]
      exact ⟨hrole, hdest, fun _ => hport, fun _ => rfl⟩
    | false =>
      rw [if_neg Bool.false_ne_true, if_pos ⟨rfl, hport⟩, ← hdest]
      exact ⟨hrole, rfl, fun _ => hport, fun _ => rfl⟩
  · rw [if_neg hport, if_neg fun hboth => hport hboth.2]
    exact ⟨hrole, hdest, by simp [hflag, hport]⟩

/-- Authorisation decides about the error and the signature only. -/
theorem stage_validateAuth_kept [Digests] (hcode : h.error.errorcode = 0) :
    (stage validateAuth h).pAddrSet = h.pAddrSet ∧
      (stage validateAuth h).fRequestHasResponsePort = h.fRequestHasResponsePort := by
  have happly : ∀ attributes response, (applyAuthResponse attributes response h).pAddrSet = h.pAddrSet ∧
      (applyAuthResponse attributes response h).fRequestHasResponsePort = h.fRequestHasResponsePort := by
    intro attributes response
    rw [applyAuthResponse]
    cases response.responseType with
    | allowConditional =>
      dsimp only
      split <;> exact ⟨rfl, rfl⟩
    | _ => exact ⟨rfl, rfl⟩
  have hcopy : ∀ response (g : CStunRequestHandler), (copyChallenge response g).pAddrSet = g.pAddrSet ∧
      (copyChallenge response g).fRequestHasResponsePort = g.fRequestHasResponsePort := by
    intro response g
    rw [copyChallenge]
    split <;> exact ⟨rfl, rfl⟩
  rw [stage_validateAuth hcode]
  cases h.pAuth with
  | none => exact ⟨rfl, rfl⟩
  | some auth =>
    dsimp only
    split
    · rw [(hcopy ..).1, (hcopy ..).2]
      exact happly ..
    · exact ⟨rfl, rfl⟩

/-! ## The role -/

/-- The role a change request asks to be answered from. -/
def targetRole (changerequest : StunChangeRequestAttribute) (role : SocketRole) : SocketRole :=
  let role := if changerequest.fChangeIP then role.swapIP else role
  if changerequest.fChangePort then role.swapPort else role

/-- The flags of a change request that is not valid are cleared. -/
theorem getChangeRequest_failed {r : CStunMessageReader} (hfail : ¬ SUCCEEDED r.getChangeRequest.1) :
    r.getChangeRequest.2 = ⟨false, false⟩ := by
  revert hfail
  simp only [getChangeRequest]
  split
  · exact fun _ => rfl
  · split
    · exact fun _ => rfl
    · split
      · exact fun _ => rfl
      · exact fun hfail => absurd rfl hfail

/-- The request asks to be answered from a socket that it cannot be answered from. -/
def Unavailable (msgIn : StunMessageIn) (addressSet : TransportAddressSet) : Prop :=
  (msgIn.reader.getChangeRequest.2.fChangeIP = true ∨ msgIn.reader.getChangeRequest.2.fChangePort = true) ∧
    (msgIn.fConnectionOriented = true ∨
      (addressSet.set (targetRole msgIn.reader.getChangeRequest.2 msgIn.socketrole)).fValid = false)

/-- A request that asks for no change is answered from the role it came in on. -/
theorem outputRole_eq [Decidable (Unavailable h.pMsgIn h.pAddrSet)] :
    outputRole h =
      if Unavailable h.pMsgIn h.pAddrSet then none
      else some (targetRole h.reader.getChangeRequest.2 h.pMsgIn.socketrole) := by
  have hreader : h.reader = h.pMsgIn.reader := rfl
  have hvalid : SUCCEEDED h.reader.getChangeRequest.1 ∧
      (h.reader.getChangeRequest.2.fChangeIP ∨ h.reader.getChangeRequest.2.fChangePort) ↔
      h.reader.getChangeRequest.2.fChangeIP = true ∨ h.reader.getChangeRequest.2.fChangePort = true := by
    refine ⟨And.right, fun hasks => ⟨?_, hasks⟩⟩
    by_contra hfail
    rw [getChangeRequest_failed hfail] at hasks
    exact hasks.elim Bool.noConfusion Bool.noConfusion
  rw [outputRole]
  by_cases hasks : h.reader.getChangeRequest.2.fChangeIP = true ∨ h.reader.getChangeRequest.2.fChangePort = true
  · rw [if_pos (hvalid.mpr hasks)]
    refine if_congr ?_ rfl rfl
    rw [Unavailable, ← hreader, CStunRequestHandler.hasAddress, targetRole]
    exact ⟨fun hbad => ⟨hasks, hbad.symm⟩, fun hbad => hbad.2.symm⟩
  · rw [if_neg (mt hvalid.mp hasks), if_neg fun hbad => hasks hbad.1, targetRole]
    obtain ⟨hip, hport⟩ := not_or.mp hasks
    rw [if_neg hip, if_neg hport]

/-! ## The end -/

section Finish
variable [Platform] [Digests]

omit [Platform] [Digests] in
/-- A builder that is attached to the output buffer touches nothing else. -/
theorem withBuilder_route (m : Hr CStunMessageBuilder Unit) (g : CStunRequestHandler) :
    (g.withBuilder m).pMsgOut.addrDest = g.pMsgOut.addrDest ∧
      (g.withBuilder m).pMsgOut.socketrole = g.pMsgOut.socketrole :=
  ⟨rfl, rfl⟩

omit [Digests] in
theorem answerError_route (g : CStunRequestHandler) :
    (answerError g).pMsgOut.addrDest = g.pMsgOut.addrDest ∧
      (answerError g).pMsgOut.socketrole = g.pMsgOut.socketrole := by
  rw [answerError]
  split
  · exact withBuilder_route _ g
  · exact ⟨rfl, rfl⟩

/-- No response is sent anywhere else than was settled before. -/
theorem finish_addrDest : (finish h).pMsgOut.addrDest = h.pMsgOut.addrDest := by
  rw [finish, (answerError_route _).1]
  by_cases hcode : h.error.errorcode = 0
  · rw [stage_processBindingRequest hcode]
    split
    · rfl
    · cases outputRole h with
      | none => rfl
      | some socketOutput => exact (withBuilder_route _ _).1
  · rw [stage_nonzero hcode]

/-- The response leaves by the role and names no address. -/
structure ErrorRoute (role : SocketRole) (out : StunMessageOut) : Prop where
  role_eq : out.socketrole = role
  addresses : NamedAddresses none none (readBuffer out.spBufferOut).2

theorem finish_error_route (hready : Ready h) (hmethod : h.reader.getMessageType < 0x1000) (hsend : Sendable h.error) :
    ErrorRoute h.pMsgOut.socketrole (finish h).pMsgOut := by
  have hcode : h.error.errorcode ≠ 0 := hsend.code_ne_zero
  obtain ⟨buf, hbuf, -, -, -, hread⟩ := buildErrorResponse_read hready hmethod hsend
  rw [finish_of_code (stage_nonzero hcode) hcode, hbuf]
  exact ⟨rfl, errorAddresses_of_readFrame hsend hread⟩

theorem finish_refused_route (hready : Ready h) (hmethod : h.reader.getMessageType < 0x1000)
    (hcode : h.error.errorcode = 0)
    (hbad : h.fRequestHasResponsePort = true ∧ SUCCEEDED h.reader.getPaddingAttributeSize.1 = true ∨
      outputRole h = none) : ErrorRoute h.pMsgOut.socketrole (finish h).pMsgOut := by
  have hsend : Sendable ((h.setBufferOut (h.pMsgOut.spBufferOut.setSize 0).2).setErrorcode STUN_ERROR_BADREQUEST).error :=
    ⟨.inl rfl, hready.nonce, hready.realm⟩
  obtain ⟨buf, hbuf, -, -, -, hread⟩ := buildErrorResponse_read hready.emptied hmethod hsend
  rw [finish_of_code (stage_refused hcode hbad) hsend.code_ne_zero, hbuf]
  exact ⟨rfl, errorAddresses_of_readFrame hsend hread⟩

/-- A success response names the addresses of the role it leaves from. -/
theorem finish_success_addresses (hready : Ready h) (hcode : h.error.errorcode = 0)
    (hpadding : ¬ (h.fRequestHasResponsePort = true ∧ SUCCEEDED h.reader.getPaddingAttributeSize.1 = true))
    {socketOutput : SocketRole} (hrole : outputRole h = some socketOutput) :
    NamedAddresses
      (if (h.originAddress socketOutput).isIPAddressZero then none else some (h.originAddress socketOutput))
      h.otherAddress (readBuffer (finish h).pMsgOut.spBufferOut).2 := by
  obtain ⟨buf, hbuf, -, -, -, hread⟩ := successResponse_read (hready.answering socketOutput)
    ((answering socketOutput h).originAddress socketOutput) (answering socketOutput h).otherAddress
  rw [finish_answering hcode hpadding hrole, hbuf]
  exact successAddresses_of_readFrame hread

/-! ## The whole of `ProcessRequest` -/

omit [Platform] in
theorem AuthOutcome.sendable {r : CStunMessageReader} (hready : Ready h) (ho : AuthOutcome pAuth r h)
    (hcode : h.error.errorcode ≠ 0) : Sendable h.error := by
  refine ⟨?_, hready.nonce, hready.realm⟩
  cases ho with
  | noProvider _ code _ => exact absurd code hcode
  | allow _ _ _ _ code _ => exact absurd code hcode
  | signed _ _ _ _ _ code _ _ => exact absurd code hcode
  | challenged _ _ _ code _ _ =>
    rcases code with ⟨-, hc⟩ | ⟨-, hc⟩
    · exact .inr (.inr hc)
    · exact .inr (.inl hc)
  | refused _ _ _ code => exact .inl code

/-- The request names a port and has a padding. -/
def PaddedPort (r : CStunMessageReader) : Prop :=
  responseport r ≠ 0 ∧ SUCCEEDED r.getPaddingAttributeSize.1 = true

/-- How a request is sent its answer; `h` is the state after authorisation. -/
inductive Sent (msgIn : StunMessageIn) (addressSet : TransportAddressSet) (pAuth : Option IStunAuth)
    (out : StunMessageOut) : Prop
  | early (notReached : ¬ AuthReached msgIn) (error : StunErrorCode) (code : error.errorcode = STUN_ERROR_BADREQUEST)
      (answer : ErrorAnswer msgIn.reader error (readBuffer out.spBufferOut).2)
      (route : ErrorRoute msgIn.socketrole out)
  | denied (reached : AuthReached msgIn) (h : CStunRequestHandler) (outcome : AuthOutcome pAuth msgIn.reader h)
      (sendable : Sendable h.error) (answer : ErrorAnswer msgIn.reader h.error (readBuffer out.spBufferOut).2)
      (route : ErrorRoute msgIn.socketrole out)
  | bad (reached : AuthReached msgIn) (h : CStunRequestHandler) (outcome : AuthOutcome pAuth msgIn.reader h)
      (allowed : h.error.errorcode = 0) (why : PaddedPort msgIn.reader ∨ Unavailable msgIn addressSet)
      (error : StunErrorCode) (code : error.errorcode = STUN_ERROR_BADREQUEST)
      (answer : ErrorAnswer msgIn.reader error (readBuffer out.spBufferOut).2)
      (route : ErrorRoute msgIn.socketrole out)
  | success (reached : AuthReached msgIn) (h : CStunRequestHandler) (outcome : AuthOutcome pAuth msgIn.reader h)
      (allowed : h.error.errorcode = 0) (unpadded : ¬ PaddedPort msgIn.reader)
      (available : ¬ Unavailable msgIn addressSet) (input : h.pMsgIn = msgIn) (addresses : h.pAddrSet = addressSet)
      (role : out.socketrole = targetRole msgIn.reader.getChangeRequest.2 msgIn.socketrole)
      (answer : SuccessAnswer msgIn.reader msgIn.addrRemote h.otherAddress h.integrity
        (readBuffer out.spBufferOut).2)
      (named : NamedAddresses
        (if (h.originAddress out.socketrole).isIPAddressZero then none else some (h.originAddress out.socketrole))
        h.otherAddress (readBuffer out.spBufferOut).2)

variable {msgOut : StunMessageOut}

variable (addressSet pAuth) in
theorem processRequest_sent (hmethod : msgIn.reader.getMessageType < 0x1000)
    (hroom : MAX_STUN_MESSAGE_SIZE ≤ msgOut.spBufferOut.allocatedSize)
    (hstate : msgIn.reader.getState = .bodyValidated) (hclass : msgIn.reader.getMessageClass = .request) :
    ∃ out, Proc.exec (processRequest msgIn addressSet pAuth) msgOut = (.ok (), out) ∧
      HoldsMessage msgOut.spBufferOut out.spBufferOut ∧ out.addrDest = responseDest msgIn ∧
      Sent msgIn addressSet pAuth out := by
  refine ⟨_, exec_processRequest hroom hstate hclass, ?_⟩
  rw [finish_addrDest]
  obtain ⟨hstarted, hreach⟩ := start_spec msgIn addressSet pAuth hroom
  obtain ⟨hrole, hdest, hport⟩ := start_route msgIn addressSet pAuth msgOut.spBufferOut
  generalize start msgIn addressSet pAuth msgOut.spBufferOut = h at hstarted hreach hrole hdest hport
  have hreader : h.reader = msgIn.reader := by rw [CStunRequestHandler.reader, hstarted.msgIn_eq]
  rcases hreach with ⟨hreached, hcode⟩ | ⟨hnot, hcode⟩
  · obtain ⟨hready, houtcome, hin, hout⟩ := authorise_spec hstarted hcode
    obtain ⟨hset, hflag⟩ := stage_validateAuth_kept hcode
    have hbuffer := hstarted.buffer
    rw [← hout] at hbuffer hrole hdest
    rw [← hflag] at hport
    replace hset := hset.trans hstarted.addrSet
    generalize stage validateAuth h = g at hready houtcome hin hbuffer hrole hdest hset hport
    have hread : g.reader = msgIn.reader := by rw [CStunRequestHandler.reader, hin]
    have hmethod' : g.reader.getMessageType < 0x1000 := by rw [hread]; exact hmethod
    by_cases hzero : g.error.errorcode = 0
    · have hpadded : g.fRequestHasResponsePort = true ∧ SUCCEEDED g.reader.getPaddingAttributeSize.1 = true ↔
          PaddedPort msgIn.reader := by rw [PaddedPort, hport, hread]
      have hunavailable := @outputRole_eq g (Classical.dec _)
      rw [hin, hset, hread] at hunavailable
      by_cases hbad : PaddedPort msgIn.reader ∨ Unavailable msgIn addressSet
      · have hwhy := hbad.imp hpadded.mpr fun hu => hunavailable.trans (if_pos hu)
        obtain ⟨hholds, error, herror, hanswer⟩ := finish_refused hready hmethod' hzero hwhy
        have hroute := finish_refused_route hready hmethod' hzero hwhy
        rw [hrole] at hroute
        rw [hread] at hanswer
        exact ⟨hholds.of_emptied hbuffer, hdest, .bad hreached g houtcome hzero hbad error herror hanswer hroute⟩
      · obtain ⟨hunpadded, havailable⟩ := not_or.mp hbad
        have htarget := hunavailable.trans (if_neg havailable)
        obtain ⟨hholds, hanswer, hleaves, -⟩ := finish_success hready hzero (mt hpadded.mp hunpadded) htarget
        have hnamed := finish_success_addresses hready hzero (mt hpadded.mp hunpadded) htarget
        rw [← hleaves] at hnamed
        rw [hread, hin] at hanswer
        exact ⟨hholds.of_emptied hbuffer, hdest,
          .success hreached g houtcome hzero hunpadded havailable hin hset hleaves hanswer hnamed⟩
    · have hsend := houtcome.sendable hready hzero
      obtain ⟨hholds, hanswer⟩ := finish_error hready hmethod' hsend
      have hroute := finish_error_route hready hmethod' hsend
      rw [hrole] at hroute
      rw [hread] at hanswer
      exact ⟨hholds.of_emptied hbuffer, hdest, .denied hreached g houtcome hsend hanswer hroute⟩
  · have hnonzero : h.error.errorcode ≠ 0 := by rw [hcode]; decide
    have hmethod' : h.reader.getMessageType < 0x1000 := by rw [hreader]; exact hmethod
    have hsend : Sendable h.error := ⟨.inl hcode, hstarted.ready.nonce, hstarted.ready.realm⟩
    obtain ⟨hholds, hanswer⟩ := finish_error hstarted.ready hmethod' hsend
    have hroute := finish_error_route hstarted.ready hmethod' hsend
    rw [stage_nonzero hnonzero]
    rw [hrole] at hroute
    rw [hreader] at hanswer
    exact ⟨hholds.of_emptied hstarted.buffer, hdest, .early hnot h.error hcode hanswer hroute⟩

end Finish

end NatTester.Handler
