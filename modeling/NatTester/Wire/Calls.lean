import NatTester.Wire.RoundTrip

/-!
# Lists of attribute calls

The calls that add an attribute to a message, made one after the other between
`AddTransactionId` and the end of the message, and the attributes they write.
-/
namespace NatTester.Wire
open NatTester.Lib NatTester.Source CStunMessageBuilder

/-- A call of the builder that adds an attribute. -/
inductive Call where
  | userName (pszUserName : Bytes)
  | realm (pszRealm : Bytes)
  | nonce (pszNonce : Bytes)
  | mappedAddress (addr : CSocketAddress)
  | xorMappedAddress (addr : CSocketAddress)
  | responseOriginAddress (addr : CSocketAddress)
  | otherAddress (addr : CSocketAddress)
  | changeRequest (changeAttrib : StunChangeRequestAttribute)
  | padding (paddingSize : UInt16)
  | errorCode (errorNumber : UInt16) (pszReason : Bytes)
  | responsePort (port : UInt16)
  | unknownAttributes (arr : List UInt16)
  | rawAttribute (attribType : UInt16) (data : Bytes)

namespace Call

def run [Platform] : Call → Hr CStunMessageBuilder Unit
  | .userName psz => addUserName (some psz)
  | .realm psz => addRealm (some psz)
  | .nonce psz => addNonce (some psz)
  | .mappedAddress addr => addMappedAddress addr
  | .xorMappedAddress addr => addXorMappedAddress addr
  | .responseOriginAddress addr => addResponseOriginAddress addr
  | .otherAddress addr => addOtherAddress addr
  | .changeRequest changeAttrib => addChangeRequest changeAttrib
  | .padding paddingSize => addPaddingAttribute paddingSize
  | .errorCode errorNumber psz => addErrorCode errorNumber (some psz)
  | .responsePort port => addResponsePort port
  | .unknownAttributes arr => addUnknownAttributes (some arr)
  | .rawAttribute attribType data => addAttribute attribType (some data) (UInt16.ofNat data.length)

/-- The arguments the builder takes; an odd number of unknown ids is not padded. -/
def Valid : Call → Prop
  | .userName psz => cstr psz ≠ []
  | .realm psz => cstr psz ≠ []
  | .nonce psz => cstr psz ≠ []
  | .errorCode errorNumber psz => 300 ≤ errorNumber ∧ errorNumber ≤ 600 ∧ (cstr psz).length < 128
  | .unknownAttributes arr => arr ≠ [] ∧ arr.length % 2 = 0
  | _ => True

/-- The type the call writes in a mode. -/
def type (legacy : Bool) : Call → UInt16
  | .userName _ => STUN_ATTRIBUTE_USERNAME
  | .realm _ => STUN_ATTRIBUTE_REALM
  | .nonce _ => STUN_ATTRIBUTE_NONCE
  | .mappedAddress _ => STUN_ATTRIBUTE_MAPPEDADDRESS
  | .xorMappedAddress _ =>
    if legacy then STUN_ATTRIBUTE_XORMAPPEDADDRESS_OPTIONAL else STUN_ATTRIBUTE_XORMAPPEDADDRESS
  | .responseOriginAddress _ => if legacy then STUN_ATTRIBUTE_SOURCEADDRESS else STUN_ATTRIBUTE_RESPONSE_ORIGIN
  | .otherAddress _ => if legacy then STUN_ATTRIBUTE_CHANGEDADDRESS else STUN_ATTRIBUTE_OTHER_ADDRESS
  | .changeRequest _ => STUN_ATTRIBUTE_CHANGEREQUEST
  | .padding _ => STUN_ATTRIBUTE_PADDING
  | .errorCode _ _ => STUN_ATTRIBUTE_ERRORCODE
  | .responsePort _ => STUN_ATTRIBUTE_RESPONSE_PORT
  | .unknownAttributes _ => STUN_ATTRIBUTE_UNKNOWNATTRIBUTES
  | .rawAttribute attribType _ => attribType

/-- The value of the attribute, before a legacy builder counts its padding into it. -/
def value (transid : StunTransactionId) : Call → Bytes
  | .userName psz => cstr psz
  | .realm psz => cstr psz
  | .nonce psz => cstr psz
  | .mappedAddress addr => addr.wireValue
  | .xorMappedAddress addr => (addr.applyStunXorMap transid).wireValue
  | .responseOriginAddress addr => addr.wireValue
  | .otherAddress addr => addr.wireValue
  | .changeRequest changeAttrib => be32 (changeData changeAttrib)
  | .padding paddingSize => zeros (roundedPadding paddingSize).toNat
  | .errorCode errorNumber psz => errorValue errorNumber (cstr psz)
  | .responsePort port => be16 port
  | .unknownAttributes arr => idOctets arr
  | .rawAttribute _ data => data

/-- The octets of the attribute. -/
def bytes (legacy : Bool) (transid : StunTransactionId) (call : Call) : Bytes :=
  attributeBytes (call.type legacy) (modeValue legacy (call.value transid))

/-- One call appends one attribute. -/
theorem run_built [Platform] {cap : Option Nat} {legacy : Bool} {transid : StunTransactionId} {c : Bytes}
    {call : Call} (hvalid : call.Valid) (hsize : (call.value transid).length < 2 ^ 16) :
    Proc.Ensures (Built cap legacy transid c) call.run fun _ =>
      Built cap legacy transid (c ++ call.bytes legacy transid) := by
  cases call with
  | userName psz => exact addStringAttribute_built _ hvalid hsize
  | realm psz => exact addStringAttribute_built _ hvalid hsize
  | nonce psz => exact addStringAttribute_built _ hvalid hsize
  | mappedAddress addr => exact addMappedAddressImpl_built _ addr
  | xorMappedAddress addr =>
    refine ensures_get fun b hmode hid => ?_
    rw [hmode, hid]
    exact addMappedAddressImpl_built _ _
  | responseOriginAddress addr =>
    refine ensures_get fun b hmode hid => ?_
    rw [hmode]
    exact addMappedAddressImpl_built _ addr
  | otherAddress addr =>
    refine ensures_get fun b hmode hid => ?_
    rw [hmode]
    exact addMappedAddressImpl_built _ addr
  | changeRequest changeAttrib => exact addChangeRequest_built changeAttrib
  | padding paddingSize => exact addPaddingAttribute_built paddingSize
  | errorCode errorNumber psz => exact addErrorCode_built hvalid.2.2 hvalid.1 hvalid.2.1
  | responsePort port => exact addResponsePort_built port
  | unknownAttributes arr => exact addUnknownAttributes_built hvalid.1 hvalid.2 hsize
  | rawAttribute attribType data => exact addAttribute_built attribType (UInt16.toNat_ofNat_of_lt' hsize)

end Call

/-- The calls, one after the other. -/
def runCalls [Platform] : List Call → Hr CStunMessageBuilder Unit
  | [] => pure ()
  | call :: calls => do
    call.run
    runCalls calls

/-- The octets the calls append. -/
def callBytes (legacy : Bool) (transid : StunTransactionId) (calls : List Call) : Bytes :=
  calls.flatMap (Call.bytes legacy transid)

/-- Every value of the calls fits into an attribute. -/
abbrev ValuesFit (transid : StunTransactionId) (calls : List Call) : Prop :=
  ∀ call ∈ calls, (call.value transid).length ≤ MAX_STUN_ATTRIBUTE_SIZE

theorem runCalls_built [Platform] {cap : Option Nat} {legacy : Bool} {transid : StunTransactionId} {c : Bytes}
    {calls : List Call} (hvalid : ∀ call ∈ calls, call.Valid) (hfit : ValuesFit transid calls) :
    Proc.Ensures (Built cap legacy transid c) (runCalls calls) fun _ =>
      Built cap legacy transid (c ++ callBytes legacy transid calls) := by
  induction calls generalizing c with
  | nil => exact .pure fun b hb => by simpa [callBytes] using hb
  | cons call calls ih =>
    have hsize := hfit call List.mem_cons_self
    simp only [MAX_STUN_ATTRIBUTE_SIZE] at hsize
    have hfirst := @Call.run_built _ cap legacy transid c call
      (hvalid call List.mem_cons_self) (by omega)
    have hrest := ih (c := c ++ call.bytes legacy transid)
      (fun call hcall => hvalid call (List.mem_cons_of_mem _ hcall))
      (fun call hcall => hfit call (List.mem_cons_of_mem _ hcall))
    rw [List.append_assoc] at hrest
    exact hfirst.bind fun _ => hrest

section Started
variable [Platform] {cap : Option Nat} {legacy : Bool} {transid transid₀ : StunTransactionId} {α : Type}
  {m : Hr CStunMessageBuilder α} {Q : α → CStunMessageBuilder → Prop}

/-- A message begun with `AddHeader` and `AddTransactionId`, and what is done with it then. -/
theorem started_built (transid₀ : StunTransactionId) (hcap : ∀ k, cap = some k → 200 ≤ k) (msgType : StunMessageType)
    (msgClass : StunMessageClass)
    (h : Proc.Ensures (Built cap legacy transid (frame (msgTypeField msgType msgClass) 0 transid [])) m Q) :
    Proc.Ensures (Built cap legacy transid₀ []) (do addHeader msgType msgClass; addTransactionId transid; m) Q := by
  refine (addHeader_built hcap msgType msgClass).bind fun _ => (addTransactionId_built transid).bind fun _ => ?_
  have hframe : be16 (msgTypeField msgType msgClass) ++ be16 0 ++ transid.id =
      frame (msgTypeField msgType msgClass) 0 transid [] := by rw [frame, List.append_nil]
  rwa [hframe]

/-- The same where the results of the two calls are not looked at. -/
theorem startedIgnored_built (transid₀ : StunTransactionId) (hcap : ∀ k, cap = some k → 200 ≤ k) (msgType : StunMessageType)
    (msgClass : StunMessageClass)
    (h : Proc.Ensures (Built cap legacy transid (frame (msgTypeField msgType msgClass) 0 transid [])) m Q) :
    Proc.Ensures (Built cap legacy transid₀ [])
      (do Proc.ignore (addHeader msgType msgClass); Proc.ignore (addTransactionId transid); m) Q := by
  refine (addHeader_built hcap msgType msgClass).ignore.bind fun _ =>
    (addTransactionId_built transid).ignore.bind fun _ => ?_
  have hframe : be16 (msgTypeField msgType msgClass) ++ be16 0 ++ transid.id =
      frame (msgTypeField msgType msgClass) 0 transid [] := by rw [frame, List.append_nil]
  rwa [hframe]

end Started

/-- Short values make a short body. -/
theorem callBytes_length_le (legacy : Bool) (transid : StunTransactionId) {calls : List Call} {k : Nat}
    (hk : k % 4 = 0) (h : ∀ call ∈ calls, (call.value transid).length ≤ k) :
    (callBytes legacy transid calls).length ≤ calls.length * (4 + k) := by
  induction calls with
  | nil => exact Nat.zero_le _
  | cons call calls ih =>
    have hrest := ih fun c hc => h c (List.mem_cons_of_mem _ hc)
    have hone : (call.bytes legacy transid).length ≤ 4 + k := by
      have hvalue := h call List.mem_cons_self
      rw [Call.bytes, attributeBytes_length, modeValue_length]
      simp only [paddingFor]
      split <;> omega
    simp only [callBytes] at hrest
    simp only [callBytes, List.flatMap_cons, List.length_append, List.length_cons, Nat.add_mul, Nat.one_mul]
    omega

/-! ## The attributes of the calls -/

/-- A value that fits still does with its padding. -/
theorem modeValue_le (legacy : Bool) {v : Bytes} (h : v.length ≤ MAX_STUN_ATTRIBUTE_SIZE) :
    (modeValue legacy v).length ≤ MAX_STUN_ATTRIBUTE_SIZE := by
  rw [modeValue_length]
  simp only [MAX_STUN_ATTRIBUTE_SIZE, paddingFor] at *
  split <;> omega

/-- The attribute a call writes. -/
def Call.attributeOf (legacy : Bool) (transid : StunTransactionId) (call : Call)
    (h : (call.value transid).length ≤ MAX_STUN_ATTRIBUTE_SIZE) : Attribute :=
  Wire.attributeOf (call.type legacy) (modeValue legacy (call.value transid)) (modeValue_le legacy h)

/-- The attributes the calls write. -/
def attributesOf (legacy : Bool) (transid : StunTransactionId) (calls : List Call)
    (hfit : ValuesFit transid calls) : List Attribute :=
  calls.pmap (Call.attributeOf legacy transid) hfit

section Attributes
variable (legacy : Bool) (transid : StunTransactionId) {calls : List Call} (hfit : ValuesFit transid calls)

@[simp] theorem attributesOf_length : (attributesOf legacy transid calls hfit).length = calls.length :=
  List.length_pmap

theorem body_attributesOf : body (attributesOf legacy transid calls hfit) = callBytes legacy transid calls := by
  induction calls with
  | nil => rfl
  | cons call calls ih =>
    have htail := ih fun call hcall => hfit call (List.mem_cons_of_mem _ hcall)
    simp only [attributesOf] at htail
    simp only [attributesOf, List.pmap_cons, body_cons, callBytes, List.flatMap_cons, htail]
    rfl

theorem types_attributesOf :
    (attributesOf legacy transid calls hfit).map (·.type) = calls.map (Call.type legacy) := by
  rw [attributesOf, List.map_pmap]
  exact List.pmap_eq_map ..

theorem values_attributesOf :
    (attributesOf legacy transid calls hfit).map (·.value) =
      calls.map fun call => modeValue legacy (call.value transid) := by
  rw [attributesOf, List.map_pmap]
  exact List.pmap_eq_map ..

theorem lastValue_append (t : UInt16) (as bs : List Attribute) :
    lastValue t (as ++ bs) = (lastValue t bs).or (lastValue t as) := by
  simp only [lastValue, List.reverse_append, List.find?_append]
  cases bs.reverse.find? fun a => a.type = t <;> rfl

theorem lastValue_eq_none {t : UInt16} {as : List Attribute} (h : t ∉ as.map (·.type)) : lastValue t as = none := by
  rw [lastValue, Option.map_eq_none_iff, List.find?_eq_none]
  intro a ha
  simp only [decide_eq_true_eq]
  rintro rfl
  exact h (List.mem_map_of_mem (List.mem_reverse.mp ha))

/-- No call of a type, no value of it. -/
theorem lastValue_calls_none {t : UInt16} (h : ∀ call ∈ calls, call.type legacy ≠ t) :
    lastValue t (attributesOf legacy transid calls hfit) = none := by
  refine lastValue_eq_none ?_
  rw [types_attributesOf]
  intro hmem
  obtain ⟨call, hcall, htype⟩ := List.mem_map.mp hmem
  exact h call hcall htype

/-- The last call of its type gives the value. -/
theorem lastValue_calls {before after : List Call} {call : Call}
    (hfit : ValuesFit transid (before ++ call :: after))
    (hafter : ∀ call' ∈ after, call'.type legacy ≠ call.type legacy) :
    lastValue (call.type legacy) (attributesOf legacy transid (before ++ call :: after) hfit) =
      some (modeValue legacy (call.value transid)) := by
  have hfitBefore : ValuesFit transid before := fun c hc => hfit c (List.mem_append_left _ hc)
  have hfitAfter : ValuesFit transid after := fun c hc =>
    hfit c (List.mem_append_right _ (List.mem_cons_of_mem _ hc))
  have hfitCall := hfit call (List.mem_append_right _ List.mem_cons_self)
  have hsplit : attributesOf legacy transid (before ++ call :: after) hfit =
      attributesOf legacy transid before hfitBefore ++
        ([call.attributeOf legacy transid hfitCall] ++ attributesOf legacy transid after hfitAfter) := by
    simp only [attributesOf, List.pmap_append, List.pmap_cons]
    rfl
  have hone : lastValue (call.type legacy) [call.attributeOf legacy transid hfitCall] =
      some (modeValue legacy (call.value transid)) := by
    simp [lastValue, Call.attributeOf, Wire.attributeOf]
  rw [hsplit, lastValue_append, lastValue_append, lastValue_calls_none legacy transid hfitAfter hafter, hone]
  rfl

end Attributes

end NatTester.Wire
