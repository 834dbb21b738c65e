import NatTester.Guarantees.Authorisation

/-!
# Responses leave from the promised address

Which socket a response leaves from, where it goes and what it says of both is
decided by the attributes of the request, the role it came in on and the
addresses of the server. A server that names its other address has all four, so
it never has to refuse a change of address over UDP.
-/
namespace NatTester.Guarantees
open NatTester.Lib NatTester.Source NatTester.Wire NatTester.Handler CStunRequestHandler CStunMessageReader

/-! ## What a request asks for -/

/-- The role is of the alternate IP. -/
def alternateIP (role : SocketRole) : Bool := role.number.testBit 1

/-- The role is of the alternate port. -/
def alternatePort (role : SocketRole) : Bool := role.number.testBit 0

theorem targetRole_alternateIP (changerequest : StunChangeRequestAttribute) (role : SocketRole) :
    alternateIP (targetRole changerequest role) ≠ alternateIP role ↔ changerequest.fChangeIP = true := by
  obtain ⟨fChangeIP, fChangePort⟩ := changerequest
  cases role <;> cases fChangeIP <;> cases fChangePort <;> decide

theorem targetRole_alternatePort (changerequest : StunChangeRequestAttribute) (role : SocketRole) :
    alternatePort (targetRole changerequest role) ≠ alternatePort role ↔ changerequest.fChangePort = true := by
  obtain ⟨fChangeIP, fChangePort⟩ := changerequest
  cases role <;> cases fChangeIP <;> cases fChangePort <;> decide

/-- What the CHANGE-REQUEST of a message asks for; one that has not four bytes asks for nothing. -/
def changeAsked (as : List Attribute) : StunChangeRequestAttribute :=
  match lastValue STUN_ATTRIBUTE_CHANGEREQUEST as with
  | some v => if v.length = 4 then ⟨ofBe32 v &&& 0x0004 ≠ 0, ofBe32 v &&& 0x0002 ≠ 0⟩ else ⟨false, false⟩
  | none => ⟨false, false⟩

def AsksChange (as : List Attribute) : Prop :=
  (changeAsked as).fChangeIP = true ∨ (changeAsked as).fChangePort = true

/-- The port that the RESPONSE-PORT of a message names; one that has not two bytes names none. -/
def portAsked (as : List Attribute) : UInt16 :=
  match lastValue STUN_ATTRIBUTE_RESPONSE_PORT as with
  | some v => if v.length = 2 then ofBe16 v else 0
  | none => 0

section Asked
variable {bs : Bytes} {as : List Attribute} {r : CStunMessageReader}

theorem getChangeRequest_asked (h : Accepted bs as r) : r.getChangeRequest.2 = changeAsked as := by
  rw [h.getChangeRequest_eq, changeAsked]
  cases lastValue STUN_ATTRIBUTE_CHANGEREQUEST as with
  | none => rfl
  | some v =>
    dsimp only
    split <;> rfl

theorem responseport_asked (h : Accepted bs as r) : responseport r = portAsked as := by
  rw [responseport, h.getResponsePort_eq, portAsked]
  cases lastValue STUN_ATTRIBUTE_RESPONSE_PORT as with
  | none => rfl
  | some v => by_cases htwo : v.length = 2 <;> simp [htwo]

end Asked

/-- A provider that has set an error has not authorised the request. -/
theorem outcome_not_authorised [Digests] {pAuth : Option IStunAuth} {r : CStunMessageReader} {h : CStunRequestHandler}
    (ho : AuthOutcome pAuth r h) (hcode : h.error.errorcode ≠ 0) : ¬ Authorised pAuth r := by
  rintro (hnone | ⟨auth', hsome', hallows⟩)
  · cases ho with
    | noProvider _ code _ => exact hcode code
    | allow auth hsome | signed auth hsome | challenged auth hsome | refused auth hsome =>
      rw [hnone] at hsome
      cases hsome
  · cases ho with
    | noProvider _ code _ => exact hcode code
    | allow _ _ _ _ code _ => exact hcode code
    | signed _ _ _ _ _ code _ _ => exact hcode code
    | challenged auth hsome checked code _ _ =>
      obtain rfl : auth = auth' := Option.some.inj (hsome.symm.trans hsome')
      rcases hallows with ⟨-, htype⟩ | ⟨-, htype, hvalid⟩ <;> simp [htype] at code
      exact absurd hvalid (by rw [code.1]; decide)
    | refused auth hsome why _ =>
      obtain rfl : auth = auth' := Option.some.inj (hsome.symm.trans hsome')
      rcases hallows with ⟨hchecked, htype⟩ | ⟨hchecked, htype, -⟩
      · exact why.elim (fun hnot => hnot hchecked) fun hreject => by simp [htype] at hreject
      · exact why.elim (fun hnot => hnot hchecked) fun hreject => by simp [htype] at hreject

/-! ## The way of a response -/

section Route
variable [Platform]

/-- A request as the server takes it in: a reader that was fed its bytes, in any pieces. -/
structure ReceivedRequest (bs : Bytes) (msgIn : StunMessageIn) : Prop where
  fed : ∃ cap r₀ pieces, Fresh cap r₀ ∧ List.flatten pieces = bs ∧ msgIn.reader = feed pieces r₀
  state : msgIn.reader.getState = .bodyValidated
  msgClass : msgIn.reader.getMessageClass = .request

theorem ReceivedRequest.accepted {bs : Bytes} {msgIn : StunMessageIn} (hr : ReceivedRequest bs msgIn) :
    msgIn.reader.getMessageType < 0x1000 ∧ ∃ as, Accepted bs as msgIn.reader := by
  obtain ⟨cap, r₀, pieces, h₀, rfl, hreader⟩ := hr.fed
  have hstate := hr.state
  rw [hreader] at hstate ⊢
  exact ⟨fed_method h₀ pieces hstate, (feed_parsed h₀ pieces).accepted h₀ hstate⟩

/-- The response that a fresh reader finds in the buffer of the caller. -/
abbrev responseIn (out : StunMessageOut) : CStunMessageReader := (readBuffer out.spBufferOut).2

variable [Digests]

/-- The role a response leaves from, where it goes, and what it says of the role. -/
structure Routed (msgIn : StunMessageIn) (addressSet : TransportAddressSet) (pAuth : Option IStunAuth)
    (as : List Attribute) (out : StunMessageOut) : Prop where
  answered : (responseIn out).getMessageClass = .failureResponse ∨ (responseIn out).getMessageClass = .successResponse
  errorRole : (responseIn out).getMessageClass = .failureResponse → out.socketrole = msgIn.socketrole
  successIP : (responseIn out).getMessageClass = .successResponse →
    (alternateIP out.socketrole ≠ alternateIP msgIn.socketrole ↔ (changeAsked as).fChangeIP = true)
  successPort : (responseIn out).getMessageClass = .successResponse →
    (alternatePort out.socketrole ≠ alternatePort msgIn.socketrole ↔ (changeAsked as).fChangePort = true)
  unavailable : AsksChange as →
    msgIn.fConnectionOriented = true ∨
      (addressSet.set (targetRole (changeAsked as) msgIn.socketrole)).fValid = false →
    Refused 400 (responseIn out) ∨
      (Refused 401 (responseIn out) ∨ Refused 438 (responseIn out)) ∧ ¬ Authorised pAuth msgIn.reader
  destination : out.addrDest =
    if msgIn.fConnectionOriented = false ∧ portAsked as ≠ 0 then msgIn.addrRemote.setPort (portAsked as)
    else msgIn.addrRemote
  origin : CarriesOrigin (responseIn out) → (responseIn out).getResponseOriginAddress = .ok
    (if (addressSet.set out.socketrole).addr.isIPAddressZero = true ∧ out.socketrole = msgIn.socketrole then
      msgIn.addrLocal
    else (addressSet.set out.socketrole).addr)

/-- Over UDP no request is refused for want of an address, whatever role it comes in on and whatever
change it asks for: only an earlier check stands between it and success. -/
def NeverWantsAddress (addressSet : TransportAddressSet) : Prop :=
  ∀ (bs : Bytes) (msgIn : StunMessageIn) (pAuth : Option IStunAuth) (msgOut : StunMessageOut),
    ReceivedRequest bs msgIn → msgIn.fConnectionOriented = false →
    MAX_STUN_MESSAGE_SIZE ≤ msgOut.spBufferOut.allocatedSize →
    ∃ out, Proc.exec (processRequest msgIn addressSet pAuth) msgOut = (.ok (), out) ∧
      ((responseIn out).getMessageClass = .successResponse ∨ msgIn.reader.getMessageType ≠ StunMsgTypeBinding ∨
        PaddedPort msgIn.reader ∨ ¬ Authorised pAuth msgIn.reader)

variable {msgIn : StunMessageIn} {addressSet : TransportAddressSet} {pAuth : Option IStunAuth} {out : StunMessageOut}
  {as : List Attribute} {bs : Bytes}

theorem neverWantsAddress_of_valid (hvalid : ∀ role, (addressSet.set role).fValid = true) :
    NeverWantsAddress addressSet := by
  intro bs msgIn pAuth msgOut hreq hudp hroom
  obtain ⟨hmethod, as, hacc⟩ := hreq.accepted
  obtain ⟨out, hrun, -, -, hsent⟩ := processRequest_sent addressSet pAuth hmethod hroom hreq.state hreq.msgClass
  refine ⟨out, hrun, ?_⟩
  cases hsent with
  | early notReached error code answer route =>
    refine .inr (.inl fun hbinding => notReached ⟨hbinding, fun hboth => ?_⟩)
    rw [hudp] at hboth
    exact Bool.noConfusion hboth.2
  | denied reached h outcome sendable answer route =>
    exact .inr (.inr (.inr (outcome_not_authorised outcome sendable.code_ne_zero)))
  | bad reached h outcome allowed why error code answer route =>
    rcases why with hpadded | ⟨-, hconn | hmissing⟩
    · exact .inr (.inr (.inl hpadded))
    · rw [hudp] at hconn
      cases hconn
    · rw [hvalid] at hmissing
      cases hmissing
  | success reached h outcome allowed unpadded available input addresses role answer named =>
    exact .inl answer.msgClass

omit [Platform] [Digests] in
/-- All four addresses are valid where another one is named. -/
theorem otherAddress_valid {h : CStunRequestHandler} (hother : h.otherAddress.isSome = true) (role : SocketRole) :
    (h.pAddrSet.set role).fValid = true := by
  have hall : h.hasAddress .rolePP = true ∧ h.hasAddress .rolePA = true ∧ h.hasAddress .roleAP = true ∧
      h.hasAddress .roleAA = true := by
    by_contra hnot
    rw [otherAddress, if_neg hnot] at hother
    cases hother
  cases role with
  | rolePP => exact hall.1
  | rolePA => exact hall.2.1
  | roleAP => exact hall.2.2.1
  | roleAA => exact hall.2.2.2

/-- An error leaves by the role the request came in on. -/
theorem routed_error (hacc : Accepted bs as msgIn.reader) (hdest : out.addrDest = responseDest msgIn)
    {error : StunErrorCode} (hanswer : ErrorAnswer msgIn.reader error (responseIn out))
    (hroute : ErrorRoute msgIn.socketrole out)
    (hcode : error.errorcode = 400 ∨ (error.errorcode = 401 ∨ error.errorcode = 438) ∧ ¬ Authorised pAuth msgIn.reader) :
    Routed msgIn addressSet pAuth as out where
  answered := .inl hanswer.msgClass
  errorRole := fun _ => hroute.role_eq
  successIP := fun hs => by rw [hanswer.msgClass] at hs; cases hs
  successPort := fun hs => by rw [hanswer.msgClass] at hs; cases hs
  unavailable := fun _ _ => by
    have hrefused : ∀ code, error.errorcode = code → Refused code (responseIn out) := by
      rintro code rfl
      exact ⟨hanswer.msgClass, hanswer.code⟩
    exact hcode.imp (hrefused _) (And.imp_left (Or.imp (hrefused _) (hrefused _)))
  destination := by rw [hdest, responseDest, responseport_asked hacc]
  origin := fun hnames => by
    obtain ⟨addr, hnone, -⟩ := hroute.addresses.origin hnames
    cases hnone

/-- A success leaves by the role the request asked for, and names its address. -/
theorem routed_success (hacc : Accepted bs as msgIn.reader) (hdest : out.addrDest = responseDest msgIn)
    {h : CStunRequestHandler} (hin : h.pMsgIn = msgIn) (hset : h.pAddrSet = addressSet)
    (hclass : (responseIn out).getMessageClass = .successResponse) (havailable : ¬ Unavailable msgIn addressSet)
    (hrole : out.socketrole = targetRole msgIn.reader.getChangeRequest.2 msgIn.socketrole)
    (hnamed : NamedAddresses
      (if (h.originAddress out.socketrole).isIPAddressZero then none else some (h.originAddress out.socketrole))
      h.otherAddress (responseIn out)) : Routed msgIn addressSet pAuth as out where
  answered := .inr hclass
  errorRole := fun hs => by rw [hclass] at hs; cases hs
  successIP := fun _ => by rw [hrole, getChangeRequest_asked hacc]; exact targetRole_alternateIP ..
  successPort := fun _ => by rw [hrole, getChangeRequest_asked hacc]; exact targetRole_alternatePort ..
  unavailable := fun hasks hmissing => by
    rw [Unavailable, getChangeRequest_asked hacc] at havailable
    exact absurd ⟨hasks, hmissing⟩ havailable
  destination := by rw [hdest, responseDest, responseport_asked hacc]
  origin := fun hnames => by
    obtain ⟨addr, hsent, hread⟩ := hnamed.origin hnames
    split at hsent
    · cases hsent
    · rw [hread, ← Option.some.inj hsent, originAddress, hin, hset]

/-- Responses leave from the promised address, and a server that names its other address has them all. -/
theorem response_route (hreq : ReceivedRequest bs msgIn) (addressSet : TransportAddressSet) (pAuth : Option IStunAuth)
    {msgOut : StunMessageOut} (hroom : MAX_STUN_MESSAGE_SIZE ≤ msgOut.spBufferOut.allocatedSize) :
    ∃ as out, Accepted bs as msgIn.reader ∧
      Proc.exec (processRequest msgIn addressSet pAuth) msgOut = (.ok (), out) ∧
      Routed msgIn addressSet pAuth as out ∧
      (CarriesOther (responseIn out) →
        (∀ role, (addressSet.set role).fValid = true) ∧ NeverWantsAddress addressSet) := by
  obtain ⟨hmethod, as, hacc⟩ := hreq.accepted
  obtain ⟨out, hrun, -, hdest, hsent⟩ := processRequest_sent addressSet pAuth hmethod hroom hreq.state hreq.msgClass
  refine ⟨as, out, hacc, hrun, ?_⟩
  have herror : ∀ {role : SocketRole}, ErrorRoute role out → ¬ CarriesOther (responseIn out) := fun hroute hnames =>
    Bool.noConfusion (hroute.addresses.other hnames)
  cases hsent with
  | early notReached error code answer route =>
    exact ⟨routed_error hacc hdest answer route (.inl code), fun hnames => absurd hnames (herror route)⟩
  | denied reached h outcome sendable answer route =>
    have hdenied := outcome_not_authorised outcome sendable.code_ne_zero
    exact ⟨routed_error hacc hdest answer route (sendable.code.imp_right fun hc => ⟨hc, hdenied⟩),
      fun hnames => absurd hnames (herror route)⟩
  | bad reached h outcome allowed why error code answer route =>
    exact ⟨routed_error hacc hdest answer route (.inl code), fun hnames => absurd hnames (herror route)⟩
  | success reached h outcome allowed unpadded available input addresses role answer named =>
    refine ⟨routed_success hacc hdest input addresses answer.msgClass available role named, fun hnames => ?_⟩
    have hvalid := otherAddress_valid (named.other hnames)
    rw [addresses] at hvalid
    exact ⟨hvalid, neverWantsAddress_of_valid hvalid⟩

end Route

/-- A Binding request that asks for a change of the IP. -/
abbrev changeIPRequest : Bytes :=
  [0x00, 0x01, 0x00, 0x08, 0x21, 0x12, 0xA4, 0x42, 0, 0, 0, 0, 0, 0, 0, 0, 0, 0, 0, 1, 0x00, 0x03, 0x00, 0x04, 0, 0,
    0, 4]

/-- A server with two IPs and two ports. -/
def allAddresses : TransportAddressSet where
  set
    | .rolePP => ⟨CSocketAddress.ofIp4 1 3478, true⟩
    | .rolePA => ⟨CSocketAddress.ofIp4 1 3479, true⟩
    | .roleAP => ⟨CSocketAddress.ofIp4 3 3478, true⟩
    | .roleAA => ⟨CSocketAddress.ofIp4 3 3479, true⟩

set_option maxRecDepth 8000 in
/-- A server with all addresses answers it from the other IP, and names that address; a server with one address refuses
it from the socket it came in on. -/
theorem response_route_changed :
    let _ := Platform.armeabi
    let _ := requestDigests
    let msgIn := receivedOnPrimary (feed [changeIPRequest] CStunMessageReader.new)
    (∃ out, Proc.exec (processRequest msgIn allAddresses none) (emptyAnswer 800) = (.ok (), out) ∧
      (responseIn out).getMessageClass = .successResponse ∧ out.socketrole = .roleAP ∧ out.addrDest = msgIn.addrRemote ∧
      (responseIn out).getResponseOriginAddress = .ok (CSocketAddress.ofIp4 3 3478) ∧ NeverWantsAddress allAddresses) ∧
    ∃ out, Proc.exec (processRequest msgIn primaryOnly none) (emptyAnswer 800) = (.ok (), out) ∧
      Refused 400 (responseIn out) ∧ out.socketrole = .rolePP ∧ out.addrDest = msgIn.addrRemote := by
  intro platform digests msgIn
  have hroom : MAX_STUN_MESSAGE_SIZE ≤ (emptyAnswer 800).spBufferOut.allocatedSize := emptyAnswer_room (by decide)
  have hreader : msgIn.reader = feed [changeIPRequest] CStunMessageReader.new := receivedOnPrimary_reader _
  have hreq : ReceivedRequest changeIPRequest msgIn := by
    refine ⟨⟨_, _, [changeIPRequest], fresh_new, rfl, hreader⟩, ?_, ?_⟩ <;> rw [hreader] <;> decide
  have hasked : ∀ {as}, Accepted changeIPRequest as msgIn.reader → changeAsked as = ⟨true, false⟩ ∧ portAsked as = 0 := by
    intro as hacc
    rw [← getChangeRequest_asked hacc, ← responseport_asked hacc, hreader]
    decide
  constructor
  · have hsent : (responseIn (Proc.exec (processRequest msgIn allAddresses none) (emptyAnswer 800)).2).getMessageClass =
        .successResponse := by decide
    have horigin : ((responseIn (Proc.exec (processRequest msgIn allAddresses none) (emptyAnswer 800)).2).mapAttributes.lookup
        STUN_ATTRIBUTE_RESPONSE_ORIGIN).isSome = true := by decide
    have hnames : ((responseIn (Proc.exec (processRequest msgIn allAddresses none) (emptyAnswer 800)).2).mapAttributes.lookup
        STUN_ATTRIBUTE_OTHER_ADDRESS).isSome = true := by decide
    obtain ⟨as, out, hacc, hrun, hrouted, hother⟩ := response_route hreq allAddresses none hroom
    rw [hrun] at hsent horigin hnames
    obtain ⟨hchange, hport⟩ := hasked hacc
    have hrole : out.socketrole = .roleAP := by
      have hIP := (hrouted.successIP hsent).mpr (by rw [hchange])
      have hsame := mt (hrouted.successPort hsent).mp (by rw [hchange]; decide)
      cases hrole : out.socketrole with
      | rolePP => rw [hrole] at hIP; exact absurd (by decide) hIP
      | rolePA => rw [hrole] at hIP; exact absurd (by decide) hIP
      | roleAP => rfl
      | roleAA => rw [hrole] at hsame; exact absurd (by decide) hsame
    have hnamed := hrouted.origin (.inl horigin)
    rw [hrole] at hnamed
    exact ⟨out, hrun, hsent, hrole, hrouted.destination.trans (if_neg fun hboth => hboth.2 hport), hnamed,
      (hother (.inl hnames)).2⟩
  · obtain ⟨as, out, hacc, hrun, hrouted, -⟩ := response_route hreq primaryOnly none hroom
    obtain ⟨hchange, hport⟩ := hasked hacc
    have hrefused : Refused 400 (responseIn out) := by
      have hmissing := hrouted.unavailable (.inl (by rw [hchange])) (.inr (by rw [hchange]; decide))
      exact hmissing.resolve_right fun hdenied => hdenied.2 (.inl rfl)
    exact ⟨out, hrun, hrefused, hrouted.errorRole hrefused.1,
      hrouted.destination.trans (if_neg fun hboth => hboth.2 hport)⟩

end NatTester.Guarantees
