import NatTester.Source.StunBuilder
import NatTester.Wire.Message

/-!
# The builder writes the message grammar

Every call of the builder appends the octets of one attribute; `FixLengthField`
makes the header agree with the body. The state of a builder is described by the
bytes it has written, its mode and its transaction id.
-/
namespace NatTester.Wire
open NatTester.Lib NatTester.Source CStunMessageBuilder

/-- The builder has written `c` and stands at `p`. -/
structure BuiltAt (cap : Option Nat) (legacy : Bool) (transid : StunTransactionId) (c : Bytes) (p : Nat)
    (b : CStunMessageBuilder) : Prop where
  holds : CDataStream.Holds cap c p b.stream
  mode : b.fLegacyMode = legacy
  transid_eq : b.transactionid = transid

/-- The builder has written `c` and stands at its end. -/
abbrev Built (cap : Option Nat) (legacy : Bool) (transid : StunTransactionId) (c : Bytes) :
    CStunMessageBuilder → Prop :=
  BuiltAt cap legacy transid c c.length

def zeros (n : Nat) : Bytes := List.replicate n 0

@[simp] theorem zeros_length (n : Nat) : (zeros n).length = n := List.length_replicate

/-- An attribute with zero padding. -/
def attributeBytes (t : UInt16) (v : Bytes) : Bytes :=
  be16 t ++ be16 (UInt16.ofNat v.length) ++ v ++ zeros (paddingFor v.length)

/-- The value as the mode writes it: a legacy value counts its padding. -/
def modeValue (legacy : Bool) (v : Bytes) : Bytes := if legacy then v ++ zeros (paddingFor v.length) else v

theorem modeValue_length (legacy : Bool) (v : Bytes) :
    (modeValue legacy v).length = if legacy then v.length + paddingFor v.length else v.length := by
  cases legacy <;> simp [modeValue]

theorem modeValue_of_aligned (legacy : Bool) {v : Bytes} (h : v.length % 4 = 0) : modeValue legacy v = v := by
  cases legacy <;> simp [modeValue, paddingFor_of_aligned h, zeros]

/-- In both modes the octets behind the length are the value and its padding. -/
theorem attributeBytes_modeValue (t : UInt16) (legacy : Bool) (v : Bytes) :
    attributeBytes t (modeValue legacy v) =
      be16 t ++ be16 (UInt16.ofNat (if legacy then v.length + paddingFor v.length else v.length)) ++ v ++
        zeros (paddingFor v.length) := by
  cases legacy with
  | false => rfl
  | true =>
    have haligned := paddingFor_of_aligned (paddingFor_aligned v.length)
    simp [attributeBytes, modeValue, haligned, zeros]

/-- The attribute `attributeBytes` are the octets of. -/
def attributeOf (t : UInt16) (v : Bytes) (h : v.length ≤ MAX_STUN_ATTRIBUTE_SIZE) : Attribute where
  type := t
  value := v
  padding := zeros (paddingFor v.length)
  value_le := h
  padding_length := zeros_length _

theorem attributeBytes_length (t : UInt16) (v : Bytes) :
    (attributeBytes t v).length = 4 + v.length + paddingFor v.length := by
  simp only [attributeBytes, List.length_append, be16_length, zeros_length]

section Steps
variable [Platform] {cap : Option Nat} {legacy : Bool} {transid : StunTransactionId} {c : Bytes}

omit [Platform] in
/-- A step on the stream. -/
theorem built_onStream {c' : Bytes} {p p' : Nat} {m : Hr CDataStream Unit}
    (h : Proc.Ensures (CDataStream.Holds cap c p) m fun _ => CDataStream.Holds cap c' p') :
    Proc.Ensures (BuiltAt cap legacy transid c p) (onStream m) fun _ => BuiltAt cap legacy transid c' p' :=
  h.zoom (fun _ hb => hb.holds) fun _ _ _ hb ht => ⟨ht, hb.mode, hb.transid_eq⟩

theorem write_built {bytes : Bytes} (hne : bytes ≠ []) :
    Proc.Ensures (Built cap legacy transid c) (onStream (CDataStream.write bytes)) fun _ =>
      Built cap legacy transid (c ++ bytes) := by
  have hwrite := @CDataStream.write_spec _ cap c c.length _ hne
  have hsplice : splice c.length bytes c = c ++ bytes := by simp [splice, List.drop_eq_nil_of_le]
  rw [hsplice, ← List.length_append] at hwrite
  exact built_onStream hwrite

theorem writeSome_built (bytes : Bytes) :
    Proc.Ensures (Built cap legacy transid c) (writeSome bytes) fun _ => Built cap legacy transid (c ++ bytes) := by
  unfold writeSome
  refine .ite (fun h => write_built (List.length_pos_iff.mp h)) fun h => .pure fun b hb => ?_
  obtain rfl : bytes = [] := by simpa using h
  rwa [List.append_nil]

theorem writeUint16_built (v : UInt16) :
    Proc.Ensures (Built cap legacy transid c) (onStream (CDataStream.writeUint16 (htons v))) fun _ =>
      Built cap legacy transid (c ++ be16 v) := by
  rw [CDataStream.writeUint16, leOctets_htons]
  exact write_built (List.ne_nil_of_length_pos (by simp))

theorem writeUint8_built (v : UInt8) :
    Proc.Ensures (Built cap legacy transid c) (onStream (CDataStream.writeUint8 v)) fun _ =>
      Built cap legacy transid (c ++ [v]) :=
  write_built (List.cons_ne_nil v [])

theorem addAttributeHeader_built (t n : UInt16) :
    Proc.Ensures (Built cap legacy transid c) (addAttributeHeader t n) fun _ =>
      Built cap legacy transid (c ++ be16 t ++ be16 n) :=
  (writeUint16_built t).bind fun _ => writeUint16_built n

omit [Platform] in
theorem alignment_eq (n : Nat) : alignment n = paddingFor n := by
  unfold alignment paddingFor
  split <;> omega

omit [Platform] in
/-- Reading the mode of a builder. -/
theorem ensures_get {α : Type} {m : CStunMessageBuilder → Hr CStunMessageBuilder α}
    {Q : α → CStunMessageBuilder → Prop}
    (h : ∀ b, b.fLegacyMode = legacy → b.transactionid = transid →
      Proc.Ensures (Built cap legacy transid c) (m b) Q) :
    Proc.Ensures (Built cap legacy transid c) (get >>= m) Q := by
  intro b hb
  rw [Proc.exec_bind_ok (Proc.exec_get b)]
  exact h b hb.mode hb.transid_eq b hb

/-- `AddAttribute` on a value that fits its length field. -/
theorem addAttribute_built (t : UInt16) {v : Bytes} {size : UInt16} (hsize : size.toNat = v.length) :
    Proc.Ensures (Built cap legacy transid c) (addAttribute t (some v) size) fun _ =>
      Built cap legacy transid (c ++ attributeBytes t (modeValue legacy v)) := by
  have hofNat : size = UInt16.ofNat v.length := by rw [← hsize, UInt16.ofNat_toNat]
  have htake : v.take size.toNat = v := by rw [hsize, List.take_length]
  unfold addAttribute
  refine ensures_get fun b hmode _ => ?_
  simp only [htake, alignment_eq, hmode]
  have hheader : (if legacy = true then size + UInt16.ofNat (paddingFor v.length) else size) =
      UInt16.ofNat (if legacy then v.length + paddingFor v.length else v.length) := by
    rw [hofNat]
    cases legacy <;> simp
  rw [hheader, attributeBytes_modeValue]
  refine (addAttributeHeader_built t _).bind fun _ => (writeSome_built v).bind fun _ => ?_
  exact (writeSome_built _).conseq (fun _ h => h) fun _ _ h => by simpa [zeros, List.append_assoc] using h

theorem addStringAttribute_built (t : UInt16) {mem : Bytes} (hne : cstr mem ≠ [])
    (hlt : (cstr mem).length < 2 ^ 16) :
    Proc.Ensures (Built cap legacy transid c) (addStringAttribute t (some mem)) fun _ =>
      Built cap legacy transid (c ++ attributeBytes t (modeValue legacy (cstr mem))) := by
  unfold addStringAttribute
  exact (ensures_chkIf hne _).bind fun _ => addAttribute_built t (UInt16.toNat_ofNat_of_lt' hlt)

def errorValue (errorNumber : UInt16) (reason : Bytes) : Bytes :=
  [0, 0, UInt8.ofNat (errorNumber.toNat / 100), UInt8.ofNat (errorNumber.toNat % 100)] ++ reason

omit [Platform] in
theorem errorValue_length (errorNumber : UInt16) (reason : Bytes) :
    (errorValue errorNumber reason).length = reason.length + 4 := by
  simp only [errorValue, List.length_append, List.length_cons, List.length_nil]
  omega

theorem addErrorCode_built {errorNumber : UInt16} {mem : Bytes} (hlen : (cstr mem).length < 128)
    (hlo : 300 ≤ errorNumber) (hhi : errorNumber ≤ 600) :
    Proc.Ensures (Built cap legacy transid c) (addErrorCode errorNumber (some mem)) fun _ =>
      Built cap legacy transid
        (c ++ attributeBytes STUN_ATTRIBUTE_ERRORCODE (modeValue legacy (errorValue errorNumber (cstr mem)))) := by
  have hvalue := errorValue_length errorNumber (cstr mem)
  unfold addErrorCode
  refine (ensures_chkIf (Nat.not_le.mpr hlen) _).bind fun _ => ?_
  refine (ensures_chkIf (UInt16.not_lt.mpr hlo) _).bind fun _ => ?_
  refine (ensures_chkIf (UInt16.not_lt.mpr hhi) _).bind fun _ => ?_
  refine ensures_get fun b hmode _ => ?_
  simp only [alignment_eq, hmode, Option.getD_some]
  rw [attributeBytes_modeValue, hvalue]
  refine (addAttributeHeader_built _ _).bind fun _ => (write_built (List.cons_ne_nil _ _)).bind fun _ => ?_
  refine (writeUint8_built _).bind fun _ => (writeUint8_built _).bind fun _ => ?_
  refine (writeSome_built (cstr mem)).ignore.bind fun _ => ?_
  exact (writeSome_built _).conseq (fun _ h => h) fun _ _ h => by
    simpa [zeros, errorValue, leOctets, List.append_assoc] using h

theorem addMappedAddressImpl_built (t : UInt16) (addr : CSocketAddress) :
    Proc.Ensures (Built cap legacy transid c) (addMappedAddressImpl t addr) fun _ =>
      Built cap legacy transid (c ++ attributeBytes t (modeValue legacy addr.wireValue)) := by
  have hlen := addr.wireValue_length
  have haligned : addr.wireValue.length % 4 = 0 := by
    rw [hlen]
    split <;> rfl
  have hsize : (if addr.familyField = STUN_ATTRIBUTE_FIELD_IPV4 then STUN_ATTRIBUTE_MAPPEDADDRESS_SIZE_IPV4
      else STUN_ATTRIBUTE_MAPPEDADDRESS_SIZE_IPV6) = UInt16.ofNat addr.wireValue.length := by
    rw [hlen, CSocketAddress.familyField]
    cases addr.family <;> rfl
  have hip : addr.getIP_NBO ≠ [] := by
    intro hnil
    have hl := addr.ip_length
    rw [show addr.ip = [] from hnil] at hl
    cases hf : addr.family <;> rw [hf] at hl <;> cases hl
  unfold addMappedAddressImpl
  simp only [hsize]
  rw [modeValue_of_aligned legacy haligned, attributeBytes, paddingFor_of_aligned haligned]
  refine (addAttributeHeader_built t _).bind fun _ => (writeUint8_built 0).bind fun _ => ?_
  refine (writeUint8_built _).bind fun _ => (writeUint16_built addr.port).bind fun _ => ?_
  exact (write_built hip).conseq (fun _ h => h) fun _ _ h => by
    simpa [zeros, CSocketAddress.wireValue, CSocketAddress.getIP_NBO, List.append_assoc] using h

theorem writePadding_built (fuel n : Nat) (hfuel : n ≤ fuel) :
    Proc.Ensures (Built cap legacy transid c) (writePadding fuel n) fun _ =>
      Built cap legacy transid (c ++ zeros n) := by
  induction fuel generalizing n c with
  | zero =>
    obtain rfl : n = 0 := by omega
    exact .pure fun b hb => by simpa [zeros] using hb
  | succ fuel ih =>
    unfold writePadding
    refine .ite (fun hpos => ?_) fun hzero => .pure fun b hb => ?_
    · -- one block, then the rest
      generalize hblock : (if n ≥ paddingBufferSize then paddingBufferSize else n) = block
      have hb : 0 < block ∧ block ≤ n := by
        rw [← hblock, paddingBufferSize]
        split <;> omega
      have hne : List.replicate block (0 : UInt8) ≠ [] := List.ne_nil_of_length_pos (by simp [hb.1])
      refine (write_built hne).bind fun _ => (ih (n - block) (by omega)).conseq (fun _ h => h) fun _ _ h => ?_
      have hsum : List.replicate block (0 : UInt8) ++ zeros (n - block) = zeros n := by
        rw [zeros, zeros, ← List.replicate_add]
        congr 1
        omega
      rwa [List.append_assoc, hsum] at h
    · obtain rfl : n = 0 := by omega
      simpa [zeros] using hb

/-- The padding size as the builder rounds it. -/
def roundedPadding (paddingSize : UInt16) : UInt16 :=
  if paddingSize % 4 ≠ 0 then paddingSize + 4 - paddingSize % 4 else paddingSize

omit [Platform] in
theorem roundedPadding_aligned (paddingSize : UInt16) : (roundedPadding paddingSize).toNat % 4 = 0 := by
  have hlt := paddingSize.toNat_lt
  have hmod : (paddingSize % 4).toNat = paddingSize.toNat % 4 := UInt16.toNat_mod ..
  unfold roundedPadding
  by_cases h : paddingSize % 4 = 0
  · rw [if_neg (not_not.mpr h), ← hmod, h]
    rfl
  · rw [if_pos h, UInt16.toNat_sub, UInt16.toNat_add, hmod]
    have h4 : (4 : UInt16).toNat = 4 := rfl
    omega

theorem addPaddingAttribute_built (paddingSize : UInt16) :
    Proc.Ensures (Built cap legacy transid c) (addPaddingAttribute paddingSize) fun _ =>
      Built cap legacy transid (c ++ attributeBytes STUN_ATTRIBUTE_PADDING
        (modeValue legacy (zeros (roundedPadding paddingSize).toNat))) := by
  have haligned : (zeros (roundedPadding paddingSize).toNat).length % 4 = 0 := by
    rw [zeros_length]
    exact roundedPadding_aligned paddingSize
  unfold addPaddingAttribute
  rw [modeValue_of_aligned legacy haligned, attributeBytes, paddingFor_of_aligned haligned, zeros_length,
    UInt16.ofNat_toNat]
  change Proc.Ensures _ (addAttributeHeader _ (roundedPadding paddingSize) >>= fun _ =>
    writePadding (roundedPadding paddingSize).toNat (roundedPadding paddingSize).toNat) _
  refine (addAttributeHeader_built _ _).bind fun _ => ?_
  exact (writePadding_built _ _ (Nat.le_refl _)).conseq (fun _ h => h) fun _ _ h => by
    simpa [zeros, List.append_assoc] using h

def changeData (changeAttrib : StunChangeRequestAttribute) : UInt32 :=
  (if changeAttrib.fChangeIP then 0x04 else 0) ||| (if changeAttrib.fChangePort then 0x02 else 0)

theorem addChangeRequest_built (changeAttrib : StunChangeRequestAttribute) :
    Proc.Ensures (Built cap legacy transid c) (addChangeRequest changeAttrib) fun _ =>
      Built cap legacy transid (c ++ attributeBytes STUN_ATTRIBUTE_CHANGEREQUEST
        (modeValue legacy (be32 (changeData changeAttrib)))) := by
  change Proc.Ensures _ (addAttribute _ (some (leOctets 4 (htonl (changeData changeAttrib)).toNat)) 4) _
  rw [leOctets_htonl]
  exact addAttribute_built _ rfl

theorem addResponsePort_built (port : UInt16) :
    Proc.Ensures (Built cap legacy transid c) (addResponsePort port) fun _ =>
      Built cap legacy transid (c ++ attributeBytes STUN_ATTRIBUTE_RESPONSE_PORT (modeValue legacy (be16 port))) := by
  unfold addResponsePort
  rw [leOctets_htons]
  exact addAttribute_built _ rfl

/-- The octets of the attribute ids, as they lie in memory. -/
def idOctets (ids : List UInt16) : Bytes := ids.flatMap fun id => leOctets 2 id.toNat

omit [Platform] in
theorem idOctets_length (ids : List UInt16) : (idOctets ids).length = ids.length * 2 := by
  induction ids with
  | nil => rfl
  | cons id ids ih =>
    simp only [idOctets] at ih
    simp only [idOctets, List.flatMap_cons, List.length_append, leOctets_length, List.length_cons, ih]
    omega

/-- The ids as the mode writes them: a legacy builder repeats the last one of an odd number. -/
def writtenIds (legacy : Bool) (ids : List UInt16) : List UInt16 :=
  if legacy && decide (ids.length % 2 ≠ 0) then ids ++ [ids.getLastD 0] else ids

omit [Platform] in
theorem writtenIds_of_even (legacy : Bool) {ids : List UInt16} (heven : ids.length % 2 = 0) :
    writtenIds legacy ids = ids := by
  simp [writtenIds, heven]

/-- The header and the ids; nothing is written behind them. -/
theorem addUnknownAttributes_appends {ids : List UInt16} (hne : ids ≠ [])
    (hlt : (idOctets (writtenIds legacy ids)).length < 2 ^ 16) :
    Proc.Ensures (Built cap legacy transid c) (addUnknownAttributes (some ids)) fun _ =>
      Built cap legacy transid (c ++ be16 STUN_ATTRIBUTE_UNKNOWNATTRIBUTES ++
        be16 (UInt16.ofNat (idOctets (writtenIds legacy ids)).length) ++ idOctets (writtenIds legacy ids)) := by
  have hlen := idOctets_length ids
  have hpos := List.length_pos_iff.mpr hne
  have hsize : ids.length * 2 < 2 ^ 16 := by
    rw [idOctets_length, writtenIds] at hlt
    split at hlt
    · rw [List.length_append, List.length_singleton] at hlt
      omega
    · exact hlt
  have htake : (idOctets ids).take (UInt16.ofNat (ids.length * 2)).toNat = idOctets ids := by
    rw [UInt16.toNat_ofNat_of_lt' hsize, ← hlen, List.take_length]
  unfold addUnknownAttributes
  simp only [Option.getD_some]
  refine (ensures_chkIf (by simp) _).bind fun _ => (ensures_chkIf (by omega) _).bind fun _ => ?_
  refine ensures_get fun b hmode _ => ?_
  rw [hmode]
  change Proc.Ensures _ (addAttributeHeader _ _ >>= fun _ =>
    onStream (CDataStream.write ((idOctets ids).take (UInt16.ofNat (ids.length * 2)).toNat)) >>= fun _ => _) _
  rw [htake]
  refine (addAttributeHeader_built _ _).bind fun _ =>
    (write_built (List.ne_nil_of_length_pos (by omega))).bind fun _ => ?_
  cases hpad : legacy && decide (ids.length % 2 ≠ 0) with
  | false =>
    have hwritten : writtenIds legacy ids = ids := by rw [writtenIds, hpad]; rfl
    rw [hwritten, hlen]
    exact .pure fun b hb => hb
  | true =>
    have hwritten : writtenIds legacy ids = ids ++ [ids.getLastD 0] := by rw [writtenIds, hpad]; rfl
    have hoctets : idOctets (ids ++ [ids.getLastD 0]) = idOctets ids ++ leOctets 2 (ids.getLastD 0).toNat := by
      simp [idOctets]
    have hlength : UInt16.ofNat (ids.length * 2) + 2 = UInt16.ofNat (idOctets (ids ++ [ids.getLastD 0])).length := by
      rw [idOctets_length, List.length_append, List.length_singleton, Nat.add_mul, UInt16.ofNat_add]
      rfl
    simp only [↓reduceIte]
    rw [hwritten, ← hlength, hoctets, ← List.append_assoc]
    exact (write_built (List.ne_nil_of_length_pos (by simp))).ignore

/-- An even number of ids needs no padding in either mode. -/
theorem addUnknownAttributes_built {ids : List UInt16} (hne : ids ≠ []) (heven : ids.length % 2 = 0)
    (hlt : (idOctets ids).length < 2 ^ 16) :
    Proc.Ensures (Built cap legacy transid c) (addUnknownAttributes (some ids)) fun _ =>
      Built cap legacy transid
        (c ++ attributeBytes STUN_ATTRIBUTE_UNKNOWNATTRIBUTES (modeValue legacy (idOctets ids))) := by
  have haligned : (idOctets ids).length % 4 = 0 := by
    rw [idOctets_length]
    omega
  have hwritten := writtenIds_of_even legacy heven
  have happends := @addUnknownAttributes_appends _ cap legacy transid c ids hne (by rwa [hwritten])
  rw [hwritten] at happends
  rw [modeValue_of_aligned legacy haligned, attributeBytes, paddingFor_of_aligned haligned]
  exact happends.conseq (fun _ h => h) fun _ _ h => by simpa [zeros, List.append_assoc] using h

/-! ## The header -/

omit [Platform] in
/-- A message as the builder holds it: its length field need not fit its body yet. -/
def frame (ty len : UInt16) (transid : StunTransactionId) (b : Bytes) : Bytes :=
  be16 ty ++ be16 len ++ transid.id ++ b

omit [Platform] in
theorem frame_append (ty len : UInt16) (transid : StunTransactionId) (b more : Bytes) :
    frame ty len transid b ++ more = frame ty len transid (b ++ more) := by
  simp [frame, List.append_assoc]

omit [Platform] in
theorem frame_length (ty len : UInt16) (transid : StunTransactionId) (b : Bytes) :
    (frame ty len transid b).length = STUN_HEADER_SIZE + b.length := by
  have hid : transid.id.length = 16 := transid.id_length
  simp only [frame, List.length_append, be16_length, hid, STUN_HEADER_SIZE]

omit [Platform] in
theorem new_built : Built none false StunTransactionId.zero [] CStunMessageBuilder.new :=
  ⟨CDataStream.holds_empty, rfl, rfl⟩

omit [Platform] in
theorem newOn_built (buf : CBuffer) :
    Built (some buf.allocatedSize) false StunTransactionId.zero [] (CStunMessageBuilder.newOn buf) :=
  ⟨CDataStream.holds_attach buf, rfl, rfl⟩

omit [Platform] in
theorem setLegacyMode_built (fLegacyMode : Bool) :
    Proc.Ensures (Built cap legacy transid c) (setLegacyMode fLegacyMode) fun _ =>
      Built cap fLegacyMode transid c :=
  .modify fun _ h => ⟨h.holds, rfl, h.transid_eq⟩

/-- `AddHeader` on a new stream, whose buffer takes the 200 bytes of the size hint. -/
theorem addHeader_built (hcap : ∀ k, cap = some k → 200 ≤ k) (msgType : StunMessageType)
    (msgClass : StunMessageClass) :
    Proc.Ensures (Built cap legacy transid []) (addHeader msgType msgClass) fun _ =>
      Built cap legacy transid (be16 (msgTypeField msgType msgClass) ++ be16 0) := by
  have hgrow : Proc.Ensures (CDataStream.Holds cap [] 0) (CDataStream.setSizeHint 200) fun _ =>
      CDataStream.Holds cap [] 0 :=
    (CDataStream.grow_spec fun k hk _ => hcap k hk).conseq (fun _ h => h) fun _ _ h => h.1
  exact (built_onStream hgrow).bind fun _ => (writeUint16_built _).bind fun _ =>
    write_built (List.cons_ne_nil _ _)

/-- The id goes to wherever the builder stands. -/
theorem addTransactionId_builtAt {p : Nat} (transid' : StunTransactionId) :
    Proc.Ensures (BuiltAt cap legacy transid c p) (addTransactionId transid') fun _ =>
      BuiltAt cap legacy transid' (splice p transid'.id c) (p + transid'.id.length) := by
  have hid : transid'.id.length = 16 := transid'.id_length
  have hset : Proc.Ensures (BuiltAt cap legacy transid c p)
      (modify fun b : CStunMessageBuilder => { b with transactionid := transid' } : Hr CStunMessageBuilder Unit)
      fun _ => BuiltAt cap legacy transid' c p :=
    .modify fun _ h => ⟨h.holds, h.mode, rfl⟩
  have hne : transid'.id ≠ [] := List.ne_nil_of_length_pos (by omega)
  exact hset.bind fun _ => built_onStream (CDataStream.write_spec hne)

theorem addTransactionId_built (transid' : StunTransactionId) :
    Proc.Ensures (Built cap legacy transid c) (addTransactionId transid') fun _ =>
      Built cap legacy transid' (c ++ transid'.id) := by
  have hwrite := @addTransactionId_builtAt _ cap legacy transid c c.length transid'
  have hsplice : splice c.length transid'.id c = c ++ transid'.id := by simp [splice, List.drop_eq_nil_of_le]
  rwa [hsplice, ← List.length_append] at hwrite

omit [Platform] in
/-- The octets of a drawn id. The last four are those of the uninitialised local. -/
theorem transactionId_id (source : RandomSource) :
    source.transactionId.id =
      be32 STUN_COOKIE ++ (List.range 8).map (fun k => UInt8.ofNat (source.rand k % 256)) ++
        source.uninitialised.id.drop 12 := by
  have hid : source.uninitialised.id.length = 16 := source.uninitialised.id_length
  have hcookie : splice 0 (be32 STUN_COOKIE) source.uninitialised.id =
      be32 STUN_COOKIE ++ source.uninitialised.id.drop 4 := rfl
  have hlen : (be32 STUN_COOKIE ++ source.uninitialised.id.drop 4).length = 16 := by
    rw [List.length_append, be32_length, List.length_drop, hid]
  have hloop := @foldl_set_range _ (fun k => UInt8.ofNat (source.rand k % 256)) 4 8
    (be32 STUN_COOKIE ++ source.uninitialised.id.drop 4) (by omega)
  have hdrawn : source.transactionId.id = splice 4 ((List.range 8).map fun k => UInt8.ofNat (source.rand k % 256))
      (be32 STUN_COOKIE ++ source.uninitialised.id.drop 4) := by
    rw [← hloop, ← hcookie, ← leOctets_htonl]
    rfl
  have hlast : (be32 STUN_COOKIE ++ source.uninitialised.id.drop 4).drop (4 + 8) = source.uninitialised.id.drop 12 := by
    rw [List.drop_append, be32_length, List.drop_drop, List.drop_eq_nil_of_le (by rw [be32_length]; omega),
      List.nil_append]
  rw [hdrawn, splice, List.length_map, List.length_range, hlast, List.take_left' (be32_length _)]

/-- The length field is made to fit the body. -/
theorem fixLengthField_built (ty len : UInt16) (transid' : StunTransactionId) (body : Bytes) :
    Proc.Ensures (Built cap legacy transid (frame ty len transid' body)) fixLengthField fun _ =>
      Built cap legacy transid (frame ty (UInt16.ofNat body.length) transid' body) := by
  have hlen := frame_length ty len transid' body
  have hlen' := frame_length ty (UInt16.ofNat body.length) transid' body
  have hsplice : splice 2 (be16 (UInt16.ofNat body.length)) (frame ty len transid' body) =
      frame ty (UInt16.ofNat body.length) transid' body := by
    have h := splice_append (be16 ty) (be16 len) (transid'.id ++ body) (be16 (UInt16.ofNat body.length)) (by simp)
    rw [be16_length] at h
    simpa [frame, List.append_assoc] using h
  intro b hb
  have hsize := hb.holds.getSize_eq
  have hpos := hb.holds.pos_eq
  rw [fixLengthField, Proc.exec_bind_ok (Proc.exec_get b), hsize, hpos,
    Proc.exec_bind_ok (exec_chkIf_false (by omega) ..), hlen, Nat.add_sub_cancel_left]
  have hseek := @CDataStream.seekDirect_spec cap _ (frame ty len transid' body).length _
    (show 2 ≤ (frame ty len transid' body).length by rw [hlen]; simp only [STUN_HEADER_SIZE]; omega)
  have hwrite := @CDataStream.write_spec _ cap (frame ty len transid' body) 2
    (be16 (UInt16.ofNat body.length)) (List.ne_nil_of_length_pos (by simp))
  rw [hsplice, be16_length] at hwrite
  have hback := @CDataStream.seekDirect_spec cap (frame ty (UInt16.ofNat body.length) transid' body)
    4 _ (Nat.le_of_eq hlen'.symm)
  have hall := (@built_onStream cap legacy transid _ _ _ _ _ hseek).bind fun _ =>
    (built_onStream hwrite).bind fun _ => built_onStream hback
  have hrun := hall b hb
  rw [← leOctets_htons] at hrun
  simp only [Built, hlen']
  exact hrun

/-- `GetResult` hands out a buffer with the finished message. -/
theorem getResult_built (ty len : UInt16) (transid' : StunTransactionId) (body : Bytes) :
    Proc.Ensures (Built cap legacy transid (frame ty len transid' body)) getResult fun result b =>
      Built cap legacy transid (frame ty (UInt16.ofNat body.length) transid' body) b ∧
      ∃ buf, result = some buf ∧ buf.contents = frame ty (UInt16.ofNat body.length) transid' body := by
  refine (fixLengthField_built ty len transid' body).bind fun _ b hb => ?_
  have hlen := frame_length ty (UInt16.ofNat body.length) transid' body
  have hsize := hb.holds.size_le
  rw [hb.holds.getSize_eq] at hsize
  obtain ⟨memory, size, hbuf⟩ := CDataStream.buffer_of_room (s := b.stream) (by
    simp only [STUN_HEADER_SIZE] at hlen
    omega)
  have hcontents := hb.holds.contents_eq
  refine ⟨b.stream.spBuffer, b, rfl, hb, _, hbuf, ?_⟩
  simpa [CDataStream.contents, hbuf] using hcontents

/-! ## Integrity and fingerprint -/

omit [Platform] in
/-- The message before the octets `more`, as the digests see it. -/
theorem Built.before {ty len : UInt16} {transid' : StunTransactionId} {body more : Bytes}
    {b : CStunMessageBuilder} (h : Built cap legacy transid (frame ty len transid' (body ++ more)) b) {n : Nat}
    (hn : more.length = n) : b.stream.memory.take (b.stream.getSize - n) = frame ty len transid' body := by
  have hlen := frame_length ty len transid' (body ++ more)
  have hprefix := frame_length ty len transid' body
  have hcontents := h.holds.contents_eq
  rw [CDataStream.contents_eq_take, h.holds.getSize_eq] at hcontents
  rw [List.length_append] at hlen
  rw [h.holds.getSize_eq, hlen, show STUN_HEADER_SIZE + (body.length + more.length) - n =
    (frame ty len transid' body).length by omega]
  have htake := congrArg (List.take (frame ty len transid' body).length) hcontents
  rwa [List.take_take, Nat.min_eq_left (by omega), ← frame_append, List.take_left] at htake

omit [Platform] in
/-- The value of the last attribute is overwritten in place. -/
theorem splice_value (ty len t : UInt16) (transid' : StunTransactionId) (body : Bytes) {v v' : Bytes}
    (hv : v.length = v'.length) :
    splice (STUN_HEADER_SIZE + body.length + 4) v' (frame ty len transid' (body ++ attributeBytes t v)) =
      frame ty len transid' (body ++ attributeBytes t v') := by
  have hprefix := frame_length ty len transid' body
  have h := splice_append (frame ty len transid' body ++ be16 t ++ be16 (UInt16.ofNat v.length)) v
    (zeros (paddingFor v.length)) v' hv.symm
  have hpos : (frame ty len transid' body ++ be16 t ++ be16 (UInt16.ofNat v.length)).length =
      STUN_HEADER_SIZE + body.length + 4 := by
    simp only [List.length_append, be16_length, hprefix]
  rw [hpos] at h
  simpa [frame, attributeBytes, hv, List.append_assoc] using h

variable [Digests]

/-- The digest covers the message up to the attribute, with the length the attribute makes. -/
theorem addMessageIntegrityImpl_built (ty len : UInt16) (transid' : StunTransactionId) (body : Bytes)
    {key : Bytes} (hkey : key ≠ []) :
    Proc.Ensures (Built cap legacy transid (frame ty len transid' body)) (addMessageIntegrityImpl key) fun _ =>
      Built cap legacy transid (frame ty (UInt16.ofNat (body.length + 24)) transid'
        (body ++ attributeBytes STUN_ATTRIBUTE_MESSAGEINTEGRITY
          (Digests.hmacSha1 key (frame ty (UInt16.ofNat (body.length + 24)) transid' body)))) := by
  have hkeyLen := List.length_pos_iff.mpr hkey
  have hzero : modeValue legacy (zeros 20) = zeros 20 := modeValue_of_aligned legacy rfl
  have hadd := @addAttribute_built _ cap legacy transid
    (frame ty len transid' body) STUN_ATTRIBUTE_MESSAGEINTEGRITY (zeros 20) 20 rfl
  rw [hzero, frame_append] at hadd
  have hattr : (attributeBytes STUN_ATTRIBUTE_MESSAGEINTEGRITY (zeros 20)).length = 24 := rfl
  unfold addMessageIntegrityImpl
  refine (ensures_chkIf (by omega) _).bind fun _ => hadd.bind fun _ =>
    (fixLengthField_built ty len transid' _).bind fun _ => ?_
  rw [List.length_append, hattr]
  intro b hb
  have hhashed := hb.before hattr
  have hlen := frame_length ty (UInt16.ofNat (body.length + 24)) transid'
    (body ++ attributeBytes STUN_ATTRIBUTE_MESSAGEINTEGRITY (zeros 20))
  rw [List.length_append, hattr] at hlen
  have hpos : b.stream.getSize - 24 + 4 = STUN_HEADER_SIZE + body.length + 4 := by
    rw [hb.holds.getSize_eq, hlen]
    omega
  refine ⟨⟨⟩, putBytes (b.stream.getSize - 24 + 4)
    (Digests.hmacSha1 key (b.stream.memory.take (b.stream.getSize - 24))) b, rfl, ?_⟩
  rw [hpos, hhashed]
  generalize hdigest : Digests.hmacSha1 key (frame ty (UInt16.ofNat (body.length + 24)) transid' body) = digest
  have hdigestLen : digest.length = 20 := hdigest ▸ Digests.hmacSha1_length _ _
  have hstore := @CDataStream.Holds.storeAt cap _ _ _ hb.holds (STUN_HEADER_SIZE + body.length + 4) digest
    (List.ne_nil_of_length_pos (by omega)) (by omega)
  rw [splice_value _ _ _ _ _ (by rw [hdigestLen]; rfl), hlen] at hstore
  have hlen' := frame_length ty (UInt16.ofNat (body.length + 24)) transid'
    (body ++ attributeBytes STUN_ATTRIBUTE_MESSAGEINTEGRITY digest)
  rw [List.length_append, attributeBytes_length, hdigestLen] at hlen'
  refine ⟨?_, hb.mode, hb.transid_eq⟩
  rw [hlen']
  exact hstore

/-- The checksum covers the message up to the attribute, with the length the attribute makes. -/
theorem addFingerprintAttribute_built (ty len : UInt16) (transid' : StunTransactionId) (body : Bytes)
    (hbody : body.length < 2 ^ 16) :
    Proc.Ensures (Built cap legacy transid (frame ty len transid' body)) addFingerprintAttribute fun _ =>
      Built cap legacy transid (frame ty (UInt16.ofNat (body.length + 8)) transid'
        (body ++ attributeBytes STUN_ATTRIBUTE_FINGERPRINT
          (be32 (Digests.crc32 (frame ty (UInt16.ofNat (body.length + 8)) transid' body) ^^^
            STUN_FINGERPRINT_XOR)))) := by
  have hattr : (attributeBytes STUN_ATTRIBUTE_FINGERPRINT (be32 0)).length = 8 := rfl
  have hdummy : Proc.Ensures (Built cap legacy transid (frame ty len transid' body ++
        be16 STUN_ATTRIBUTE_FINGERPRINT ++ be16 4)) (onStream (CDataStream.writeUint32 0)) fun _ =>
      Built cap legacy transid
        (frame ty len transid' (body ++ attributeBytes STUN_ATTRIBUTE_FINGERPRINT (be32 0))) :=
    (write_built (List.cons_ne_nil _ _)).conseq (fun _ h => h) fun _ _ h => by
      rw [List.append_assoc, List.append_assoc, frame_append] at h
      exact h
  unfold addFingerprintAttribute
  refine (writeUint16_built _).bind fun _ => (writeUint16_built _).bind fun _ => hdummy.bind fun _ =>
    (fixLengthField_built ty len transid' _).bind fun _ => ?_
  rw [List.length_append, hattr]
  intro b hb
  have hhashed := hb.before hattr
  have hlen := frame_length ty (UInt16.ofNat (body.length + 8)) transid'
    (body ++ attributeBytes STUN_ATTRIBUTE_FINGERPRINT (be32 0))
  rw [List.length_append, hattr] at hlen
  rw [Proc.exec_bind_ok (Proc.exec_get b), hhashed]
  generalize Digests.crc32 (frame ty (UInt16.ofNat (body.length + 8)) transid' body) ^^^ STUN_FINGERPRINT_XOR = value
  have hseek := @CDataStream.exec_seekRelative _ (-4) (STUN_HEADER_SIZE + body.length + 4) b.stream
    (by rw [hb.holds.pos_eq, hlen]; push_cast; omega) (by simp only [STUN_HEADER_SIZE]; omega)
  rw [hb.holds.getSize_eq, if_pos (by omega)] at hseek
  have hseekOn : Proc.exec (onStream (CDataStream.seekRelative (-4))) b =
      (.ok (), { b with stream := { b.stream with pos := STUN_HEADER_SIZE + body.length + 4 } }) := by
    rw [onStream, Proc.exec_zoom, hseek]
  have hat : BuiltAt cap legacy transid _ (STUN_HEADER_SIZE + body.length + 4)
      { b with stream := { b.stream with pos := STUN_HEADER_SIZE + body.length + 4 } } :=
    ⟨hb.holds.at_pos (by omega), hb.mode, hb.transid_eq⟩
  have hwrite := @CDataStream.write_spec _ cap (frame ty (UInt16.ofNat (body.length + 8)) transid'
    (body ++ attributeBytes STUN_ATTRIBUTE_FINGERPRINT (be32 0))) (STUN_HEADER_SIZE + body.length + 4)
    (be32 value) (List.ne_nil_of_length_pos (by simp))
  rw [splice_value _ _ _ _ _ (by simp), be32_length] at hwrite
  have hlen' := frame_length ty (UInt16.ofNat (body.length + 8)) transid'
    (body ++ attributeBytes STUN_ATTRIBUTE_FINGERPRINT (be32 value))
  rw [List.length_append, attributeBytes_length, be32_length] at hlen'
  rw [Proc.exec_bind_ok hseekOn, CDataStream.writeUint32, leOctets_htonl]
  have hend : (frame ty (UInt16.ofNat (body.length + 8)) transid'
      (body ++ attributeBytes STUN_ATTRIBUTE_FINGERPRINT (be32 value))).length =
      STUN_HEADER_SIZE + body.length + 4 + 4 := by
    rw [hlen']
    simp only [paddingFor]
    omega
  simp only [Built, hend]
  exact built_onStream hwrite _ hat

end Steps

end NatTester.Wire
