import NatTester.Guarantees.ReaderGrammar
import NatTester.Wire.Calls

/-!
# What AddAttribute appends

The declared length is taken from the argument before it is cleared for a NULL
pointer. Apart from a NULL pointer with a size, a call appends one attribute of
the grammar, and a message of such calls reads back as their list.
-/
namespace NatTester.Guarantees
open NatTester.Lib NatTester.Source NatTester.Wire CStunMessageReader CStunMessageBuilder

/-- The arguments of a call: the pointer is NULL or points at `size` bytes at least. -/
structure AttributeCall where
  attribType : UInt16
  data : Option Bytes
  size : UInt16
  points : ∀ bytes, data = some bytes → size.toNat ≤ bytes.length
  size_le : size.toNat ≤ MAX_STUN_ATTRIBUTE_SIZE

namespace AttributeCall

/-- The data the call is given. -/
def content (call : AttributeCall) : Bytes := (call.data.getD []).take call.size.toNat

/-- The length field agrees with the data: a NULL pointer comes with the size 0. -/
def Consistent (call : AttributeCall) : Prop := call.data = none → call.size = 0

/-- The length the header declares. -/
def declared (legacy : Bool) (call : AttributeCall) : UInt16 :=
  if call.data = none then call.size else UInt16.ofNat (modeValue legacy call.content).length

/-- What the call appends. -/
def bytes (legacy : Bool) (call : AttributeCall) : Bytes :=
  be16 call.attribType ++ be16 (call.declared legacy) ++ call.content ++ zeros (paddingFor call.content.length)

def run [Platform] (call : AttributeCall) : Hr CStunMessageBuilder Unit :=
  addAttribute call.attribType call.data call.size

variable (legacy : Bool) (call : AttributeCall)

theorem content_none (h : call.data = none) : call.content = [] := by
  rw [content, h]
  exact List.take_nil

theorem content_length_le : call.content.length ≤ MAX_STUN_ATTRIBUTE_SIZE :=
  Nat.le_trans (List.length_take_le ..) call.size_le

/-- The attribute the call should append. -/
def attrib : Attribute :=
  attributeOf call.attribType (modeValue legacy call.content) (modeValue_le legacy call.content_length_le)

theorem bytes_length : (call.bytes legacy).length = (call.attrib legacy).extent := by
  have haligned := paddingFor_of_aligned (paddingFor_aligned call.content.length)
  simp only [bytes, attrib, attributeOf, Attribute.extent, List.length_append, be16_length, zeros_length,
    modeValue_length]
  cases legacy with
  | false => rfl
  | true =>
    simp only [↓reduceIte]
    rw [haligned]
    omega

/-- With a length field that agrees, it does. -/
theorem bytes_consistent (h : call.Consistent) : call.bytes legacy = (call.attrib legacy).bytes := by
  have hdeclared : call.declared legacy = UInt16.ofNat (modeValue legacy call.content).length := by
    rw [declared]
    split
    · next hnull =>
      rw [call.content_none hnull, h hnull, modeValue_of_aligned legacy rfl]
      rfl
    · rfl
  rw [show (call.attrib legacy).bytes = attributeBytes call.attribType (modeValue legacy call.content) from rfl,
    attributeBytes_modeValue, bytes, hdeclared, modeValue_length]

theorem run_built [Platform] {cap : Option Nat} {transid : StunTransactionId} {c : Bytes} :
    Proc.Ensures (Built cap legacy transid c) call.run fun _ => Built cap legacy transid (c ++ call.bytes legacy) := by
  cases hdata : call.data with
  | none =>
    have hcontent := call.content_none hdata
    have hbytes : call.bytes legacy = be16 call.attribType ++ be16 call.size := by
      simp [bytes, declared, hdata, hcontent, zeros, paddingFor]
    rw [hbytes, run, hdata]
    unfold addAttribute
    refine ensures_get fun b _ _ => ?_
    have hheader : (if b.fLegacyMode = true then call.size + UInt16.ofNat (alignment ([] : Bytes).length)
        else call.size) = call.size := by
      split
      · exact UInt16.add_zero _
      · rfl
    simp only [hheader]
    refine (addAttributeHeader_built _ _).bind fun _ => (writeSome_built []).bind fun _ => ?_
    exact (writeSome_built _).conseq (fun _ h => h) fun _ _ h => by simpa [alignment, List.append_assoc] using h
  | some data =>
    have hcontent : call.content = data.take call.size.toNat := by rw [content, hdata]; rfl
    have hsize : call.size.toNat = call.content.length := by
      rw [hcontent, List.length_take, Nat.min_eq_left (call.points data hdata)]
    have hrun : call.run = addAttribute call.attribType (some call.content) call.size := by
      simp only [run, hdata, addAttribute, hcontent, List.take_take, Nat.min_self]
    have hconsistent : call.Consistent := fun h => absurd (hdata.symm.trans h) (by simp)
    rw [hrun, call.bytes_consistent legacy hconsistent]
    exact addAttribute_built call.attribType hsize

/-- From wherever the builder is, the call appends one attribute of the grammar, of its type and with its data. -/
def AppendsOne [Platform] (legacy : Bool) (call : AttributeCall) : Prop :=
  ∀ cap transid c, Proc.Ensures (Built cap legacy transid c) call.run fun _ b =>
    ∃ appended : Bytes, Built cap legacy transid (c ++ appended) b ∧ appended.length % 4 = 0 ∧
      ∃ a : Attribute, (∀ as, body as = appended ↔ as = [a]) ∧
        a.type = call.attribType ∧ a.value = modeValue legacy call.content

end AttributeCall

/-- The calls, one after the other. -/
def runAttributeCalls [Platform] : List AttributeCall → Hr CStunMessageBuilder Unit
  | [] => pure ()
  | call :: calls => do
    call.run
    runAttributeCalls calls

def buildAttributes [Platform] (fLegacyMode : Bool) (msgType : StunMessageType) (msgClass : StunMessageClass)
    (transid : StunTransactionId) (calls : List AttributeCall) : Hr CStunMessageBuilder (Option CBuffer) := do
  setLegacyMode fLegacyMode
  addHeader msgType msgClass
  addTransactionId transid
  runAttributeCalls calls
  getResult

/-- A fresh reader accepts the bytes as a message with the attributes of the calls. -/
def AcceptedAs [Platform] (fLegacyMode : Bool) (calls : List AttributeCall) (bs : Bytes) : Prop :=
  let result := addBytes bs CStunMessageReader.new
  result.1 = .bodyValidated ∧
    ∃ as : List Attribute, Message true bs as ∧ TableLists as result.2 ∧
      as.map (·.type) = calls.map (·.attribType) ∧
      as.map (·.value) = calls.map fun call => modeValue fLegacyMode call.content

/-- The bytes the calls append. -/
def attributeCallBytes (legacy : Bool) (calls : List AttributeCall) : Bytes :=
  calls.flatMap (AttributeCall.bytes legacy)

section Calls
variable {legacy : Bool} {calls : List AttributeCall}

theorem runAttributeCalls_built [Platform] {cap : Option Nat} {transid : StunTransactionId} {c : Bytes} :
    Proc.Ensures (Built cap legacy transid c) (runAttributeCalls calls) fun _ =>
      Built cap legacy transid (c ++ attributeCallBytes legacy calls) := by
  induction calls generalizing c with
  | nil => exact .pure fun b hb => by simpa [attributeCallBytes] using hb
  | cons call calls ih =>
    have hrest := ih (c := c ++ call.bytes legacy)
    rw [List.append_assoc] at hrest
    exact (call.run_built legacy).bind fun _ => hrest

theorem buildAttributes_contents [Platform] (msgType : StunMessageType) (msgClass : StunMessageClass)
    (transid : StunTransactionId) :
    ∃ buf b, Proc.exec (buildAttributes legacy msgType msgClass transid calls) CStunMessageBuilder.new =
        (.ok (some buf), b) ∧
      buf.contents = frame (msgTypeField msgType msgClass) (UInt16.ofNat (attributeCallBytes legacy calls).length)
        transid (attributeCallBytes legacy calls) := by
  have hcalls := @runAttributeCalls_built legacy calls _ none transid
    (frame (msgTypeField msgType msgClass) 0 transid [])
  rw [frame_append, List.nil_append] at hcalls
  have hrun := (@setLegacyMode_built none false _ [] legacy).bind fun _ =>
    started_built StunTransactionId.zero (by simp) msgType msgClass
      (hcalls.bind fun _ => getResult_built (msgTypeField msgType msgClass) 0 transid _)
  obtain ⟨result, b, heq, -, buf, rfl, hcontents⟩ := hrun _ new_built
  exact ⟨buf, b, heq, hcontents⟩

theorem body_attributes (hconsistent : ∀ call ∈ calls, call.Consistent) :
    body (calls.map (AttributeCall.attrib legacy)) = attributeCallBytes legacy calls := by
  induction calls with
  | nil => rfl
  | cons call calls ih =>
    have hrest := ih fun c hc => hconsistent c (List.mem_cons_of_mem _ hc)
    rw [List.map_cons, body_cons, hrest, ← call.bytes_consistent legacy (hconsistent call List.mem_cons_self)]
    rfl

/-- Attributes that lie in the bytes of the calls and have their values show that every length field agrees. -/
theorem consistent_of_body {as : List Attribute} (hbody : body as = attributeCallBytes legacy calls)
    (hvalues : as.map (·.value) = calls.map fun call => modeValue legacy call.content) :
    ∀ call ∈ calls, call.Consistent := by
  induction calls generalizing as with
  | nil => simp
  | cons call calls ih =>
    cases as with
    | nil => cases hvalues
    | cons a as =>
      obtain ⟨(hvalue : a.value = modeValue legacy call.content), hrestValues⟩ := List.cons.inj hvalues
      have hlength : a.bytes.length = (call.bytes legacy).length := by
        rw [call.bytes_length, Attribute.bytes_length, Attribute.extent, hvalue]
        rfl
      obtain ⟨hfirst, hrest⟩ := List.append_inj hbody hlength
      intro c hc
      rcases List.mem_cons.mp hc with rfl | hc
      · -- the length field is that of the value, and the value is empty
        intro hnull
        simp only [Attribute.bytes, AttributeCall.bytes, List.append_assoc] at hfirst
        obtain ⟨-, hfirst⟩ := List.append_inj hfirst (by simp)
        obtain ⟨hdeclared, -⟩ := List.append_inj hfirst (by simp)
        rw [hvalue, AttributeCall.declared, if_pos hnull, c.content_none hnull,
          modeValue_of_aligned legacy rfl] at hdeclared
        rw [← ofBe16_be16 c.size, ← hdeclared, ofBe16_be16]
        rfl
      · exact ih hrest hrestValues c hc

/-- The message of the calls reads back as their list exactly when every length field agrees. -/
theorem acceptedAs_iff [Platform] {method : StunMessageType} {msgClass : StunMessageClass}
    {transid : StunTransactionId} (hmethod : method < 0x1000) (hclass : msgClass ≠ .invalidMessageClass)
    (hcount : calls.length ≤ 30) (hsize : (attributeCallBytes legacy calls).length ≤ MAX_STUN_MESSAGE_SIZE) :
    AcceptedAs legacy calls (frame (msgTypeField method msgClass)
      (UInt16.ofNat (attributeCallBytes legacy calls).length) transid (attributeCallBytes legacy calls)) ↔
      ∀ call ∈ calls, call.Consistent := by
  constructor
  · rintro ⟨-, as, message, -, -, hvalues⟩
    have hbody := message.body_eq
    rw [frame_drop] at hbody
    exact consistent_of_body hbody.symm hvalues
  · intro hconsistent
    rw [← body_attributes hconsistent] at hsize ⊢
    obtain ⟨hresult, hread⟩ := read_frame fresh_new transid (Or.inr rfl) hmethod hclass
      (calls.map (AttributeCall.attrib legacy)) (by simpa using hcount) hsize
    refine ⟨hresult, calls.map (AttributeCall.attrib legacy), ?_, table_lists hread.accepted, ?_, ?_⟩
    · exact frame_message (msgTypeField_topBits method msgClass) transid (Or.inr rfl) _ (by simpa using hcount) hsize
    · rw [List.map_map]
      rfl
    · rw [List.map_map]
      rfl

/-- One call by itself. -/
theorem appendsOne_iff [Platform] (call : AttributeCall) : call.AppendsOne legacy ↔ call.Consistent := by
  constructor
  · intro happends
    have hstart : Built none legacy StunTransactionId.zero [] { CStunMessageBuilder.new with fLegacyMode := legacy } :=
      ⟨new_built.holds, rfl, rfl⟩
    obtain ⟨_, b, hrun, appended, hbuilt, -, a, hparses, -, hvalue⟩ := happends none StunTransactionId.zero [] _ hstart
    obtain ⟨_, b', hrun', hbuilt'⟩ := call.run_built legacy _ hstart
    obtain rfl : b = b' := by
      rw [hrun] at hrun'
      cases hrun'
      rfl
    have happended : appended = call.bytes legacy := hbuilt.holds.contents_eq.symm.trans hbuilt'.holds.contents_eq
    have hbody : body [a] = attributeCallBytes legacy [call] := by
      rw [(hparses [a]).mpr rfl, happended, attributeCallBytes, List.flatMap_singleton]
    exact consistent_of_body hbody (by simpa using hvalue) call List.mem_cons_self
  · intro hconsistent cap transid c
    refine (call.run_built legacy).conseq (fun _ h => h) fun _ b hb => ?_
    have hbody : body [call.attrib legacy] = call.bytes legacy := by
      rw [call.bytes_consistent legacy hconsistent, body_cons, body_nil, List.append_nil]
    refine ⟨call.bytes legacy, hb, ?_, call.attrib legacy, fun as => ?_, rfl, rfl⟩
    · rw [call.bytes_length]
      exact (call.attrib legacy).extent_aligned
    · rw [← hbody]
      exact ⟨body_inj, fun h => h ▸ rfl⟩

end Calls

/-- Every call appends one attribute, and a message of any calls reads back as their list, exactly where no NULL pointer
comes with a size. -/
theorem add_attribute_iff [Platform] (fLegacyMode : Bool) :
    (∀ call : AttributeCall, call.AppendsOne fLegacyMode ↔ (call.data = none → call.size = 0)) ∧
    ∀ (method : StunMessageType) (msgClass : StunMessageClass) (transid : StunTransactionId)
      (calls : List AttributeCall), method < 0x1000 → msgClass ≠ .invalidMessageClass → calls.length ≤ 30 →
      (attributeCallBytes fLegacyMode calls).length ≤ MAX_STUN_MESSAGE_SIZE →
      ∃ buf b, Proc.exec (buildAttributes fLegacyMode method msgClass transid calls) CStunMessageBuilder.new =
          (.ok (some buf), b) ∧
        (AcceptedAs fLegacyMode calls buf.contents ↔ ∀ call ∈ calls, call.data = none → call.size = 0) := by
  refine ⟨appendsOne_iff, fun method msgClass transid calls hmethod hclass hcount hsize => ?_⟩
  obtain ⟨buf, b, hrun, hcontents⟩ := @buildAttributes_contents fLegacyMode calls _ method msgClass transid
  refine ⟨buf, b, hrun, ?_⟩
  rw [hcontents]
  exact acceptedAs_iff hmethod hclass hcount hsize

/-- A NULL pointer without a size, and three bytes of data. -/
theorem add_attribute_iff_empty :
    let _ := Platform.armeabi
    ∃ buf b, Proc.exec (buildAttributes true StunMsgTypeBinding .request StunTransactionId.zero
        [⟨0x8022, none, 0, by simp, by decide⟩, ⟨0x8022, some [1, 2, 3], 3, by simp, by decide⟩])
        CStunMessageBuilder.new = (.ok (some buf), b) ∧
      AcceptedAs true [⟨0x8022, none, 0, by simp, by decide⟩, ⟨0x8022, some [1, 2, 3], 3, by simp, by decide⟩]
        buf.contents := by
  let _ := Platform.armeabi
  obtain ⟨buf, b, hrun, hiff⟩ := (add_attribute_iff true).2 StunMsgTypeBinding .request StunTransactionId.zero
    [⟨0x8022, none, 0, by simp, by decide⟩, ⟨0x8022, some [1, 2, 3], 3, by simp, by decide⟩] (by decide) (by decide)
    (by decide) (by decide)
  exact ⟨buf, b, hrun, hiff.mpr (by simp)⟩

/-- A NULL pointer with the size 4: the header declares four bytes, and none follow. -/
def nullCall : AttributeCall where
  attribType := 0x8022
  data := none
  size := 4
  points := by simp
  size_le := by decide

theorem add_attribute_null :
    let _ := Platform.armeabi
    ¬ ∀ call : AttributeCall, call.AppendsOne false := by
  intro platform happends
  exact absurd ((appendsOne_iff nullCall).mp (happends nullCall) rfl) (by decide)

end NatTester.Guarantees
