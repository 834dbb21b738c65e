import NatTester.Guarantees.ReaderGrammar
import NatTester.Wire.ReadBack

/-!
# What the builder writes the reader reads back

A message is built by `SetLegacyMode`, `AddHeader`, `AddTransactionId`, any list
of attribute calls and `GetResult`. A fresh reader accepts it, lists the
attributes in call order, and the getter of each kind returns the argument of
the last call of that kind.
-/
namespace NatTester.Guarantees
open NatTester.Lib NatTester.Source NatTester.Wire CStunMessageReader CStunMessageBuilder

def buildMessage [Platform] (fLegacyMode : Bool) (msgType : StunMessageType) (msgClass : StunMessageClass)
    (transid : StunTransactionId) (calls : List Call) : Hr CStunMessageBuilder (Option CBuffer) := do
  setLegacyMode fLegacyMode
  addHeader msgType msgClass
  addTransactionId transid
  runCalls calls
  getResult

theorem buildMessage_contents [Platform] {fLegacyMode : Bool} (msgType : StunMessageType)
    (msgClass : StunMessageClass) {transid : StunTransactionId} {calls : List Call}
    (hvalid : ∀ call ∈ calls, call.Valid) (hfit : ValuesFit transid calls) :
    ∃ buf b, Proc.exec (buildMessage fLegacyMode msgType msgClass transid calls) CStunMessageBuilder.new =
        (.ok (some buf), b) ∧
      buf.contents = frame (msgTypeField msgType msgClass)
        (UInt16.ofNat (callBytes fLegacyMode transid calls).length) transid (callBytes fLegacyMode transid calls) := by
  have hcalls := @runCalls_built _ none fLegacyMode transid
    (frame (msgTypeField msgType msgClass) 0 transid []) _ hvalid hfit
  rw [frame_append, List.nil_append] at hcalls
  have hrun := (@setLegacyMode_built none false _ [] fLegacyMode).bind fun _ =>
    started_built StunTransactionId.zero (by simp) msgType msgClass
      (hcalls.bind fun _ => getResult_built (msgTypeField msgType msgClass) 0 transid _)
  obtain ⟨result, b, heq, -, buf, rfl, hcontents⟩ := hrun _ new_built
  exact ⟨buf, b, heq, hcontents⟩

/-- What the builder writes the reader reads back. -/
theorem builder_reader_round_trip [Platform] (fLegacyMode : Bool) (method : StunMessageType)
    (msgClass : StunMessageClass) (transid : StunTransactionId) (calls : List Call) (hmethod : method < 0x1000)
    (hclass : msgClass ≠ .invalidMessageClass) (hgetter : ∀ call ∈ calls, Getter fLegacyMode call)
    (hvalid : ∀ call ∈ calls, call.Valid) (hcount : calls.length ≤ 30) (hfit : ValuesFit transid calls)
    (hbody : (callBytes fLegacyMode transid calls).length ≤ MAX_STUN_MESSAGE_SIZE) :
    ∃ buf b, Proc.exec (buildMessage fLegacyMode method msgClass transid calls) CStunMessageBuilder.new =
        (.ok (some buf), b) ∧
      let result := addBytes buf.contents CStunMessageReader.new
      result.1 = .bodyValidated ∧ result.2.getState = .bodyValidated ∧
      result.2.getMessageType = method ∧ result.2.getMessageClass = msgClass ∧
      result.2.getTransactionId = transid ∧
      (∃ as : List Attribute, as.map (·.type) = calls.map (Call.type fLegacyMode) ∧
        as.map (·.value) = (calls.map fun call => modeValue fLegacyMode (call.value transid)) ∧
        TableLists as result.2) ∧
      ∀ before call after, calls = before ++ call :: after →
        (∀ c ∈ after, c.type fLegacyMode ≠ call.type fLegacyMode) → ReadBack result.2 call := by
  obtain ⟨buf, b, hrun, hcontents⟩ := buildMessage_contents method msgClass hvalid hfit
  have hattributes := body_attributesOf fLegacyMode transid hfit
  obtain ⟨hresult, hread⟩ := read_frame fresh_new transid (.inr rfl) hmethod hclass
    (attributesOf fLegacyMode transid calls hfit)
    (by rw [attributesOf_length]; exact hcount) (by rw [hattributes]; exact hbody)
  rw [hattributes, ← hcontents] at hresult hread
  refine ⟨buf, b, hrun, hresult, hread.accepted.state, hread.type_eq, hread.class_eq, hread.transid_eq, ?_, ?_⟩
  · exact ⟨_, types_attributesOf .., values_attributesOf .., table_lists hread.accepted⟩
  · intro before call after hsplit hafter
    exact call_readBack hfit hgetter hvalid hread.accepted hread.transid_eq hsplit hafter

/-- A legacy request with a string that needs padding. -/
theorem builder_reader_round_trip_request :
    let _ := Platform.armeabi
    ∃ buf b, Proc.exec (buildMessage true StunMsgTypeBinding .request StunTransactionId.zero
        [.userName [0x61, 0], .changeRequest ⟨true, false⟩, .padding 5]) CStunMessageBuilder.new = (.ok (some buf), b) ∧
      (addBytes buf.contents CStunMessageReader.new).1 = .bodyValidated := by
  let _ := Platform.armeabi
  obtain ⟨buf, b, hrun, hresult, -⟩ := builder_reader_round_trip true StunMsgTypeBinding
    .request StunTransactionId.zero [.userName [0x61, 0], .changeRequest ⟨true, false⟩, .padding 5]
    (by decide) (by decide) (by simp [Getter]) (by simp [Call.Valid, cstr]) (by decide) (by decide) (by decide)
  exact ⟨buf, b, hrun, hresult⟩

end NatTester.Guarantees
