import NatTester.Client.Runs
import NatTester.Handler.Finish

/-!
# What a request of the client says

Every message a test sends is a Binding request with the transaction id of the
test and one CHANGE-REQUEST. A server that reads it finds a plain request.
-/
namespace NatTester.Client
open NatTester.Lib NatTester.Source NatTester.Wire CStunMessageBuilder CStunMessageReader CStunRequestHandler

/-- The octets of a request. -/
def requestBytes (transid : StunTransactionId) (change : StunChangeRequestAttribute) : Bytes :=
  frame (msgTypeField StunMsgTypeBinding .request) 8 transid (callBytes false transid [.changeRequest change])

/-- What a server reads of a request. -/
structure ReadsRequest (transid : StunTransactionId) (change : StunChangeRequestAttribute) (r : CStunMessageReader) :
    Prop where
  state : r.getState = .bodyValidated
  type : r.getMessageType = StunMsgTypeBinding
  msgClass : r.getMessageClass = .request
  transid_eq : r.getTransactionId = transid
  change_eq : r.getChangeRequest = (S_OK, change)
  responsePort : responseport r = 0

/-- A transaction id that was drawn starts with the cookie. -/
theorem transactionId_hasCookie (source : RandomSource) : source.transactionId.hasCookie := by
  rw [StunTransactionId.hasCookie, transactionId_id, List.append_assoc]
  exact List.take_left' (be32_length _)

theorem transactionId_isValid (source : RandomSource) : source.transactionId.isValid = true :=
  StunTransactionId.isValid_of_hasCookie (transactionId_hasCookie source)

theorem requestTransid_isValid (source : RandomSource) (transid : StunTransactionId) :
    (requestTransid source transid).isValid = true := by
  unfold requestTransid
  split
  · assumption
  · exact transactionId_isValid source

section Request
variable [Platform] (source : RandomSource) (transid : StunTransactionId) (change : StunChangeRequestAttribute)

omit [Platform] in
theorem changeRequest_fit : ValuesFit transid [.changeRequest change] := by
  intro call hcall
  rw [List.mem_singleton.mp hcall, Call.value, be32_length]
  decide

omit [Platform] in
theorem changeRequest_bytes_length : (callBytes false transid [.changeRequest change]).length = 8 := by
  rw [callBytes, List.flatMap_cons, List.flatMap_nil, List.append_nil, Call.bytes, attributeBytes_length, Call.value,
    modeValue_of_aligned false (by rw [be32_length]), be32_length]
  rfl

omit [Platform] in
theorem requestBytes_length : (requestBytes transid change).length = 28 := by
  rw [requestBytes, frame_length, changeRequest_bytes_length]
  rfl

/-- The builder writes the request. -/
theorem requestBuilder_built {n : Nat} (hn : 200 ≤ n) :
    Proc.Ensures (Built (some n) false StunTransactionId.zero []) (requestBuilder source transid change) fun _ =>
      Built (some n) false (requestTransid source transid) (requestBytes (requestTransid source transid) change) := by
  have hchange := @Call.run_built _ (some n) false (requestTransid source transid)
    (frame (msgTypeField StunMsgTypeBinding .request) 0 (requestTransid source transid) []) (.changeRequest change)
    trivial (by rw [Call.value, be32_length]; decide)
  rw [frame_append, List.nil_append] at hchange
  have hbytes : Call.bytes false (requestTransid source transid) (.changeRequest change) =
      callBytes false (requestTransid source transid) [.changeRequest change] := by
    rw [callBytes, List.flatMap_cons, List.flatMap_nil, List.append_nil]
  rw [hbytes] at hchange
  have hfix := @fixLengthField_built _ (some n) false (requestTransid source transid)
    (msgTypeField StunMsgTypeBinding .request) 0 (requestTransid source transid)
    (callBytes false (requestTransid source transid) [.changeRequest change])
  rw [changeRequest_bytes_length] at hfix
  exact startedIgnored_built StunTransactionId.zero (by rintro k ⟨⟩; exact hn) _ _
    (hchange.ignore.bind fun _ => hfix.ignore)

/-- The message of a test, in a buffer of the size `GetNextMessage` insists on; the builder does not
move to another one. -/
theorem writtenTo_spec {spMsg : CBuffer} (hroom : MAX_STUN_MESSAGE_SIZE ≤ spMsg.allocatedSize) (s : TestState) :
    (writtenTo source spMsg s).contents =
        requestBytes (requestTransid source s.test.transid) (requestedChange s.test.testClass) ∧
      (writtenTo source spMsg s).allocatedSize = spMsg.allocatedSize := by
  simp only [MAX_STUN_MESSAGE_SIZE] at hroom
  obtain ⟨-, hbuilt⟩ := (requestBuilder_built source s.test.transid (requestedChange s.test.testClass)
    (n := spMsg.allocatedSize) (by omega)).state (newOn_built spMsg)
  have hlen := requestBytes_length (requestTransid source s.test.transid) (requestedChange s.test.testClass)
  obtain ⟨buf, hshared, hcontents, -, hallocated⟩ := hbuilt.holds.shared_contents (by omega) (by omega)
  rw [writtenTo, hshared]
  exact ⟨hcontents, hallocated⟩

theorem writtenTo_contents {spMsg : CBuffer} (hroom : MAX_STUN_MESSAGE_SIZE ≤ spMsg.allocatedSize) (s : TestState) :
    (writtenTo source spMsg s).contents =
      requestBytes (requestTransid source s.test.transid) (requestedChange s.test.testClass) :=
  (writtenTo_spec source hroom s).1

/-- A reader that has not been fed takes the request, if it allows the legacy format or the id
has the cookie. -/
theorem readFrame_requestBytes {cap : Option Nat} {r₀ : CStunMessageReader} (h₀ : Fresh cap r₀)
    (hallow : transid.hasCookie ∨ r₀.fAllowLegacyFormat = true) :
    (addBytes (requestBytes transid change) r₀).1 = .bodyValidated ∧
      ReadFrame StunMsgTypeBinding .request transid
        (attributesOf false transid [.changeRequest change] (changeRequest_fit transid change))
        (addBytes (requestBytes transid change) r₀).2 := by
  have hbody := body_attributesOf false transid (changeRequest_fit transid change)
  have hlen := changeRequest_bytes_length transid change
  have hbinding : StunMsgTypeBinding < 0x1000 := by decide
  obtain ⟨hresult, hread⟩ := read_frame h₀ transid hallow hbinding (show StunMessageClass.request ≠ _ by decide)
    (attributesOf false transid [.changeRequest change] (changeRequest_fit transid change))
    (by rw [attributesOf_length, List.length_singleton]; decide) (by rw [hbody, hlen]; decide)
  rw [hbody, hlen] at hresult hread
  exact ⟨hresult, hread⟩

omit [Platform] in
theorem readsRequest_of_readFrame {r : CStunMessageReader}
    (hread : ReadFrame StunMsgTypeBinding .request transid
      (attributesOf false transid [.changeRequest change] (changeRequest_fit transid change)) r) :
    ReadsRequest transid change r := by
  have hfit := changeRequest_fit transid change
  refine ⟨hread.accepted.state, hread.type_eq, hread.class_eq, hread.transid_eq, ?_, ?_⟩
  · exact call_readBack hfit (by simp [Getter]) (by simp [Call.Valid]) hread.accepted hread.transid_eq
      (List.nil_append _).symm (by simp)
  · have hnone : lastValue STUN_ATTRIBUTE_RESPONSE_PORT (attributesOf false transid [.changeRequest change] hfit) = none :=
      lastValue_calls_none false transid hfit fun call hcall => by
        rw [List.mem_singleton.mp hcall]
        exact show STUN_ATTRIBUTE_CHANGEREQUEST ≠ _ by decide
    rw [responseport, hread.accepted.getResponsePort_eq, hnone]

theorem read_requestBytes {cap : Option Nat} {r₀ : CStunMessageReader} (h₀ : Fresh cap r₀)
    (hallow : transid.hasCookie ∨ r₀.fAllowLegacyFormat = true) :
    (addBytes (requestBytes transid change) r₀).1 = .bodyValidated ∧
      ReadsRequest transid change (addBytes (requestBytes transid change) r₀).2 := by
  obtain ⟨hresult, hread⟩ := readFrame_requestBytes transid change h₀ hallow
  exact ⟨hresult, readsRequest_of_readFrame transid change hread⟩

omit [Platform] in
/-- The request has one attribute. -/
theorem requestAttributes_singleton : ∃ a : Attribute, a.type = STUN_ATTRIBUTE_CHANGEREQUEST ∧
    attributesOf false transid [.changeRequest change] (changeRequest_fit transid change) = [a] := by
  have hlen := attributesOf_length false transid (changeRequest_fit transid change)
  have htypes := types_attributesOf false transid (changeRequest_fit transid change)
  obtain ⟨a, ha⟩ := List.length_eq_one_iff.mp hlen
  rw [ha] at htypes
  exact ⟨a, (List.cons.inj htypes).1, ha⟩

end Request

end NatTester.Client
