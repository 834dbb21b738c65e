import NatTester.Source.StunReaderReads
import NatTester.Wire.Integrity
import NatTester.Guarantees.AddressValue
import NatTester.Guarantees.ReaderGrammar

/-!
# Where the getters read

Every getter of an accepted message reads attribute data inside the value of an
attribute it has looked up, and fails where the values are too short for it.
`GetErrorCode` is the exception: it does not look at the size at all.
-/
namespace NatTester.Guarantees
open NatTester.Lib NatTester.Source NatTester.Wire CStunMessageReader

/-- The functions of the reader that decode attribute data. -/
inductive Accessor where
  | getErrorCode
  | getResponsePort
  | getChangeRequest
  | getStringAttributeByType (attributeType : UInt16) (size : Nat)
  | getMappedAddress
  | getXorMappedAddress
  | getOtherAddress
  | getResponseOriginAddress
  | isFingerprintAttributeValid
  | validateMessageIntegrity (key : Bytes)

/-- What an address value has to hold, by its family octet. -/
def addressSize (v : Bytes) : Nat := if v.getD 1 0 = STUN_ATTRIBUTE_FIELD_IPV4 then 8 else 20

namespace Accessor

/-- The attribute types the accessor looks up. -/
def types : Accessor → List UInt16
  | .getErrorCode => [STUN_ATTRIBUTE_ERRORCODE]
  | .getResponsePort => [STUN_ATTRIBUTE_RESPONSE_PORT]
  | .getChangeRequest => [STUN_ATTRIBUTE_CHANGEREQUEST]
  | .getStringAttributeByType attributeType _ => [attributeType]
  | .getMappedAddress => [STUN_ATTRIBUTE_MAPPEDADDRESS]
  | .getXorMappedAddress => [STUN_ATTRIBUTE_XORMAPPEDADDRESS, STUN_ATTRIBUTE_XORMAPPEDADDRESS_OPTIONAL]
  | .getOtherAddress => [STUN_ATTRIBUTE_OTHER_ADDRESS, STUN_ATTRIBUTE_CHANGEDADDRESS]
  | .getResponseOriginAddress => [STUN_ATTRIBUTE_RESPONSE_ORIGIN, STUN_ATTRIBUTE_SOURCEADDRESS]
  | .isFingerprintAttributeValid => [STUN_ATTRIBUTE_FINGERPRINT]
  | .validateMessageIntegrity _ => [STUN_ATTRIBUTE_MESSAGEINTEGRITY]

/-- The octets the accessor decodes of a value. -/
def needed (accessor : Accessor) (v : Bytes) : Nat :=
  match accessor with
  | .getErrorCode => 4
  | .getResponsePort => 2
  | .getChangeRequest => 4
  | .getStringAttributeByType _ _ => 0
  | .getMappedAddress => addressSize v
  | .getXorMappedAddress => addressSize v
  | .getOtherAddress => addressSize v
  | .getResponseOriginAddress => addressSize v
  | .isFingerprintAttributeValid => 4
  | .validateMessageIntegrity _ => 20

variable [Digests]

/-- The accessor does not report an error. -/
def succeeds (r : CStunMessageReader) : Accessor → Bool
  | .getErrorCode => r.getErrorCode.isOk
  | .getResponsePort => r.getResponsePort.isOk
  | .getChangeRequest => SUCCEEDED r.getChangeRequest.1
  | .getStringAttributeByType attributeType size => (r.getStringAttributeByType attributeType size).isOk
  | .getMappedAddress => r.getMappedAddress.isOk
  | .getXorMappedAddress => r.getXorMappedAddress.isOk
  | .getOtherAddress => r.getOtherAddress.isOk
  | .getResponseOriginAddress => r.getResponseOriginAddress.isOk
  | .isFingerprintAttributeValid => r.isFingerprintAttributeValid
  | .validateMessageIntegrity key => SUCCEEDED (r.validateMessageIntegrity key)

/-- Whether a getter ran to its end, and what it read. -/
def recorded {α : Type} (m : Hr (List MessageRead) α) : Bool × List MessageRead :=
  ((Proc.exec m []).1.isOk, (Proc.exec m []).2)

def run (r : CStunMessageReader) : Accessor → Bool × List MessageRead
  | .getErrorCode => recorded (Recorded.getErrorCode r)
  | .getResponsePort => recorded (Recorded.getResponsePort r)
  | .getChangeRequest => recorded (Recorded.getChangeRequest r)
  | .getStringAttributeByType attributeType size => recorded (Recorded.getStringAttributeByType attributeType size r)
  | .getMappedAddress => recorded (Recorded.getMappedAddress r)
  | .getXorMappedAddress => recorded (Recorded.getXorMappedAddress r)
  | .getOtherAddress => recorded (Recorded.getOtherAddress r)
  | .getResponseOriginAddress => recorded (Recorded.getResponseOriginAddress r)
  | .isFingerprintAttributeValid => recorded (Recorded.isFingerprintAttributeValid r)
  | .validateMessageIntegrity key => recorded (Recorded.validateMessageIntegrity key r)

/-- The bytes the accessor reads. -/
def reads (r : CStunMessageReader) (accessor : Accessor) : List MessageRead := (accessor.run r).2

/-- The recorded run ends as the accessor does. -/
theorem run_succeeds (r : CStunMessageReader) (accessor : Accessor) : (accessor.run r).1 = accessor.succeeds r := by
  cases accessor with
  | getErrorCode => exact congrArg Except.isOk Recorded.getErrorCode_outcome
  | getResponsePort => exact congrArg Except.isOk Recorded.getResponsePort_outcome
  | getChangeRequest =>
    have hcode : r.getChangeRequest.1 = hrOf (Proc.exec (Recorded.getChangeRequest r) []).1 := by
      rw [@Recorded.getChangeRequest_outcome r []]
      cases (Proc.exec (Recorded.getChangeRequest r) []).1 <;> rfl
    rw [succeeds, hcode]
    exact Recorded.succeeded_outcome Recorded.getChangeRequest_throws []
  | getStringAttributeByType attributeType size =>
    exact congrArg Except.isOk (Recorded.getStringAttributeByType_outcome attributeType size)
  | getMappedAddress => exact congrArg Except.isOk (Recorded.getAddressHelper_outcome _)
  | getXorMappedAddress => exact congrArg Except.isOk Recorded.getXorMappedAddress_outcome
  | getOtherAddress => exact congrArg Except.isOk (Recorded.getAddressFallback_outcome _ _)
  | getResponseOriginAddress => exact congrArg Except.isOk (Recorded.getAddressFallback_outcome _ _)
  | isFingerprintAttributeValid => exact Recorded.isFingerprintAttributeValid_outcome
  | validateMessageIntegrity key =>
    rw [succeeds, ← @Recorded.validateMessageIntegrity_outcome r [] _ key]
    exact Recorded.succeeded_outcome (Recorded.validateMessageIntegrity_throws key) []

end Accessor

/-- The read is inside the message; one that decodes an attribute is inside the value of one that was looked up. -/
def Inside (bs : Bytes) (r : CStunMessageReader) (types : List UInt16) : MessageRead → Prop
  | .attribute attrib position count =>
    (∃ t ∈ types, r.getAttributeByType t = .ok attrib) ∧ attrib.offset.toNat ≤ position ∧
      position + count ≤ attrib.offset.toNat + attrib.size.toNat ∧
      attrib.offset.toNat + attrib.size.toNat ≤ bs.length
  | .message count => count ≤ bs.length

/-- The accessor reads inside the values it has looked up, and fails unless one of them is long enough. -/
structure StaysInside [Digests] (bs : Bytes) (r : CStunMessageReader) (accessor : Accessor) : Prop where
  inside : ∀ read ∈ accessor.reads r, Inside bs r accessor.types read
  longEnough : accessor.succeeds r = true → ∃ t ∈ accessor.types, ∃ attrib, r.getAttributeByType t = .ok attrib ∧
    accessor.needed (r.dataAt attrib.offset.toNat attrib.size.toNat) ≤ attrib.size.toNat

/-! ## Inside the value -/

section Inside
variable {bs : Bytes} {as : List Attribute} {r : CStunMessageReader} {types : List UInt16} {α : Type}

/-- All reads recorded so far are inside. -/
abbrev AllInside (bs : Bytes) (r : CStunMessageReader) (types : List UInt16) (reads : List MessageRead) : Prop :=
  ∀ read ∈ reads, Inside bs r types read

theorem allInside_append {reads : List MessageRead} {read : MessageRead} (h : AllInside bs r types reads)
    (hread : Inside bs r types read) : AllInside bs r types (reads ++ [read]) := by
  intro read' hmem
  rcases List.mem_append.mp hmem with hmem | hmem
  · exact h read' hmem
  · rw [List.mem_singleton.mp hmem]
    exact hread

theorem keeps_lookup_bind {t : UInt16} {hr : HRESULT} {f : StunAttribute → Hr (List MessageRead) α}
    (h : ∀ attrib, r.mapAttributes.lookup t = some attrib → Proc.Keeps (AllInside bs r types) (f attrib)) :
    Proc.Keeps (AllInside bs r types) (Recorded.lookup t hr r >>= f) := by
  intro reads hreads
  rw [Recorded.exec_lookup_bind]
  cases hlookup : r.mapAttributes.lookup t with
  | none => exact hreads
  | some attrib => exact h attrib hlookup reads hreads

theorem keeps_record {read : MessageRead} (h : Inside bs r types read) :
    Proc.Keeps (AllInside bs r types) (modify (· ++ [read]) : Hr (List MessageRead) PUnit) :=
  .modify fun _ hreads => allInside_append hreads h

theorem keeps_dataAt {attrib : StunAttribute} {position n : Nat}
    (h : Inside bs r types (.attribute attrib position n)) :
    Proc.Keeps (AllInside bs r types) (Recorded.dataAt attrib position n r) :=
  (keeps_record h).bind fun _ => .pure

/-- A value that was looked up lies inside the message. -/
theorem inside_message (h : Accepted bs as r) {t : UInt16} {attrib : StunAttribute}
    (hlookup : r.mapAttributes.lookup t = some attrib) :
    attrib.offset.toNat + attrib.size.toNat ≤ bs.length := by
  rcases h.lookup_cases t with ⟨hnone, -⟩ | ⟨x, v, hx, -, -, hsize, hinside, -⟩
  · rw [hlookup] at hnone
    cases hnone
  · obtain rfl : attrib = x := Option.some.inj (hlookup.symm.trans hx)
    rw [hsize]
    exact hinside

theorem inside_value (h : Accepted bs as r) {t : UInt16} (ht : t ∈ types) {attrib : StunAttribute}
    (hlookup : r.mapAttributes.lookup t = some attrib) {position n : Nat} (hlo : attrib.offset.toNat ≤ position)
    (hhi : position + n ≤ attrib.offset.toNat + attrib.size.toNat) :
    Inside bs r types (.attribute attrib position n) :=
  ⟨⟨t, ht, by rw [getAttributeByType, hlookup]⟩, hlo, hhi, inside_message h hlookup⟩

/-! ## Streams -/

/-- The stream is inside its `size` bytes. -/
def InStream (size : Nat) (s : CDataStream) : Prop := s.pos ≤ size ∧ s.getSize = size

/-- `Read` does not move the cursor behind the end. -/
theorem read_keeps (size n : Nat) : Proc.Keeps (InStream size) (CDataStream.read n) := by
  rintro s ⟨hpos, hsize⟩
  rw [CDataStream.exec_read]
  split
  · next hle => exact ⟨hsize ▸ hle, hsize⟩
  · exact ⟨hpos, hsize⟩

theorem readUint8_keeps (size : Nat) : Proc.Keeps (InStream size) CDataStream.readUint8 :=
  (read_keeps size 1).bind fun _ => .pure

theorem readUint16_keeps (size : Nat) : Proc.Keeps (InStream size) CDataStream.readUint16 :=
  (read_keeps size 2).bind fun _ => .pure

theorem readUint32_keeps (size : Nat) : Proc.Keeps (InStream size) CDataStream.readUint32 :=
  (read_keeps size 4).bind fun _ => .pure

theorem readChunks_keeps (size nChunks : Nat) : Proc.Keeps (InStream size) (readChunks nChunks) := by
  induction nChunks with
  | zero => exact .pure
  | succ nChunks ih => exact (readUint32_keeps size).bind fun _ => ih.bind fun _ => .pure

theorem readHashed_keeps (size : Nat) (fFingerprintAdjustment : Bool) (offset : Nat) :
    Proc.Keeps (InStream size) (readHashed fFingerprintAdjustment offset) :=
  (readUint16_keeps size).bind fun _ => (readUint16_keeps size).bind fun _ =>
    (readChunks_keeps size _).bind fun _ => .pure

/-- The stream over the value of `attrib`, and the reads made of it. -/
def OnValue (bs : Bytes) (r : CStunMessageReader) (types : List UInt16) (attrib : StunAttribute)
    (s : CDataStream × List MessageRead) : Prop :=
  InStream attrib.size.toNat s.1 ∧ AllInside bs r types s.2

theorem readValue_keeps (h : Accepted bs as r) {t : UInt16} (ht : t ∈ types) {attrib : StunAttribute}
    (hlookup : r.mapAttributes.lookup t = some attrib) {m : Hr CDataStream α}
    (hm : Proc.Keeps (InStream attrib.size.toNat) m) :
    Proc.Keeps (OnValue bs r types attrib) (Recorded.readValue attrib m) := by
  rintro ⟨s, reads⟩ ⟨hstream, hreads⟩
  have hafter := hm s hstream
  rw [Recorded.exec_readValue]
  rcases hrun : Proc.exec m s with ⟨_ | a, s'⟩ <;> rw [hrun] at hafter
  · exact ⟨hafter, hreads⟩
  · refine ⟨hafter, allInside_append hreads (inside_value h ht hlookup (Nat.le_add_right ..) ?_)⟩
    have hbefore : s.pos ≤ attrib.size.toNat := hstream.1
    have hend : s'.pos ≤ attrib.size.toNat := hafter.1
    omega

theorem readMappedAddress_keeps (h : Accepted bs as r) {t : UInt16} (ht : t ∈ types) {attrib : StunAttribute}
    (hlookup : r.mapAttributes.lookup t = some attrib) :
    Proc.Keeps (OnValue bs r types attrib) (Recorded.readMappedAddress attrib) := by
  have hseek : Proc.Keeps (OnValue bs r types attrib) (Recorded.onValue (CDataStream.seekDirect 1)) := by
    rintro ⟨s, reads⟩ ⟨⟨hpos, hsize⟩, hreads⟩
    rw [Recorded.onValue, Proc.exec_zoom, CDataStream.exec_seekDirect]
    split
    · next hle => exact ⟨⟨hsize ▸ hle, hsize⟩, hreads⟩
    · exact ⟨⟨hpos, hsize⟩, hreads⟩
  have hvalue : ∀ {β : Type} {m : Hr CDataStream β}, Proc.Keeps (InStream attrib.size.toNat) m →
      Proc.Keeps (OnValue bs r types attrib) (Recorded.readValue attrib m) := readValue_keeps h ht hlookup
  refine hseek.bind fun _ => (hvalue (readUint8_keeps _)).bind fun _ =>
    (hvalue (readUint16_keeps _)).bind fun _ => .ite ?_ ?_
  · exact (hvalue (readUint32_keeps _)).bind fun _ => .pure
  · exact (hvalue (read_keeps _ 16)).bind fun _ => .pure

theorem getAddressHelper_keeps (h : Accepted bs as r) {t : UInt16} (ht : t ∈ types) :
    Proc.Keeps (AllInside bs r types) (Recorded.getAddressHelper t r) := by
  refine keeps_lookup_bind fun attrib hlookup reads hreads => ?_
  have hlength : (r.dataAt attrib.offset.toNat attrib.size.toNat).length = attrib.size.toNat := by
    rw [h.dataAt_eq (inside_message h hlookup), slice_length_of_le (inside_message h hlookup)]
  have hstart : OnValue bs r types attrib
      (CDataStream.attach (CBuffer.initNoAlloc (r.dataAt attrib.offset.toNat attrib.size.toNat)) false, reads) :=
    ⟨⟨Nat.zero_le _, hlength⟩, hreads⟩
  exact (readMappedAddress_keeps h ht hlookup _ hstart).2

theorem getAddressFallback_keeps (h : Accepted bs as r) {t legacyType : UInt16} (ht : t ∈ types)
    (hlegacy : legacyType ∈ types) :
    Proc.Keeps (AllInside bs r types) (Recorded.getAddressFallback t legacyType r) :=
  (getAddressHelper_keeps h ht).orElse (getAddressHelper_keeps h hlegacy)

variable [Digests]

theorem isFingerprintAttributeValid_keeps (h : Accepted bs as r) (ht : STUN_ATTRIBUTE_FINGERPRINT ∈ types) :
    Proc.Keeps (AllInside bs r types) (Recorded.isFingerprintAttributeValid r) := by
  obtain ⟨cap, p, holds⟩ := h.holds
  have hmessage : Inside bs r types (.message (r.stream.getSize - 8)) := by
    rw [holds.getSize_eq]
    exact Nat.sub_le ..
  refine keeps_lookup_bind fun attrib hlookup => keeps_chkIf_bind fun _ => keeps_chkIf_bind fun hsize =>
    keeps_chkIf_bind fun _ => keeps_chkIf_bind fun _ => keeps_chkIf_bind fun _ => keeps_chkIf_bind fun _ =>
    (keeps_record hmessage).bind fun _ => (keeps_dataAt ?_).bind fun _ => keeps_chkIf
  have hfour : attrib.size.toNat = 4 := by rw [not_not.mp hsize]; rfl
  exact inside_value h ht hlookup (Nat.le_refl _) (by omega)

theorem validateMessageIntegrity_keeps (h : Accepted bs as r) (key : Bytes)
    (ht : STUN_ATTRIBUTE_MESSAGEINTEGRITY ∈ types) :
    Proc.Keeps (AllInside bs r types) (Recorded.validateMessageIntegrity key r) := by
  refine keeps_chkIf_bind fun _ => keeps_chkIf_bind fun _ => keeps_chkIf_bind fun _ => keeps_chkIf_bind fun _ =>
    keeps_lookup_bind fun attrib hlookup => keeps_chkIf_bind fun hsize => keeps_chkIf_bind fun _ => ?_
  have htwenty : attrib.size.toNat = 20 := by rw [not_not.mp hsize]; rfl
  cases hbuf : r.stream.spBuffer with
  | none => exact .throw
  | some spBuffer =>
    obtain ⟨cap, p, holds⟩ := h.holds
    have hstream := CDataStream.Holds.reattach holds hbuf
    have hread := readHashed_keeps bs.length (decide (r.indexMessageIntegrity = r.countAttributes - 1 - 1))
      attrib.offset.toNat _ ⟨by rw [hstream.pos_eq]; exact Nat.zero_le _, hstream.getSize_eq⟩
    refine (keeps_record (show Inside bs r types (.message _) from hread.1)).bind fun _ => ?_
    split
    · exact .throw
    · exact (keeps_dataAt (inside_value h ht hlookup (Nat.le_refl _) (by omega))).bind fun _ => keeps_chkIf

/-- Every accessor but `GetErrorCode`, and that one on a value of four octets. -/
theorem reads_inside (h : Accepted bs as r) (accessor : Accessor)
    (hlong : accessor = .getErrorCode →
      ∀ attrib, r.getAttributeByType STUN_ATTRIBUTE_ERRORCODE = .ok attrib → 4 ≤ attrib.size.toNat) :
    AllInside bs r accessor.types (accessor.reads r) := by
  have hempty : ∀ types, AllInside bs r types [] := fun _ _ hmem => by cases hmem
  have hsecond : ∀ {t legacyType : UInt16}, legacyType ∈ [t, legacyType] :=
    List.mem_cons_of_mem _ List.mem_cons_self
  cases accessor with
  | getErrorCode =>
    refine keeps_lookup_bind (fun attrib hlookup => ?_) [] (hempty _)
    have hfour := hlong rfl attrib (by rw [getAttributeByType, hlookup])
    exact (keeps_dataAt (inside_value h List.mem_cons_self hlookup (by omega) (by omega))).bind fun _ =>
      (keeps_dataAt (inside_value h List.mem_cons_self hlookup (by omega) (by omega))).bind fun _ => .pure
  | getResponsePort =>
    refine keeps_lookup_bind (fun attrib hlookup => keeps_chkIf_bind fun hsize => keeps_chkIf_bind fun _ => ?_) []
      (hempty _)
    have htwo : attrib.size.toNat = 2 := by rw [not_not.mp hsize]; rfl
    exact (keeps_dataAt (inside_value h List.mem_cons_self hlookup (Nat.le_refl _) (by omega))).bind fun _ => .pure
  | getChangeRequest =>
    refine keeps_lookup_bind (fun attrib hlookup => keeps_chkIf_bind fun hsize => keeps_chkIf_bind fun _ => ?_) []
      (hempty _)
    have hfour : attrib.size.toNat = 4 := by rw [not_not.mp hsize]; rfl
    exact (keeps_dataAt (inside_value h List.mem_cons_self hlookup (Nat.le_refl _) (by omega))).bind fun _ => .pure
  | getStringAttributeByType attributeType size =>
    refine keeps_lookup_bind (fun attrib hlookup => keeps_chkIf_bind fun _ => ?_) [] (hempty _)
    exact (keeps_dataAt (inside_value h List.mem_cons_self hlookup (Nat.le_refl _) (Nat.le_refl _))).bind fun _ => .pure
  | getMappedAddress => exact getAddressHelper_keeps h List.mem_cons_self [] (hempty _)
  | getXorMappedAddress =>
    exact (getAddressFallback_keeps h List.mem_cons_self hsecond).bind (fun _ => .pure) [] (hempty _)
  | getOtherAddress => exact getAddressFallback_keeps h List.mem_cons_self hsecond [] (hempty _)
  | getResponseOriginAddress => exact getAddressFallback_keeps h List.mem_cons_self hsecond [] (hempty _)
  | isFingerprintAttributeValid => exact isFingerprintAttributeValid_keeps h List.mem_cons_self [] (hempty _)
  | validateMessageIntegrity key => exact validateMessageIntegrity_keeps h key List.mem_cons_self [] (hempty _)

/-! ## Long enough -/

omit [Digests] in
/-- The value of the last attribute of a type, by its table entry. -/
theorem value_found (h : Accepted bs as r) {t : UInt16} {v : Bytes} (hv : lastValue t as = some v) :
    ∃ attrib, r.getAttributeByType t = .ok attrib ∧ attrib.size.toNat = v.length ∧
      r.dataAt attrib.offset.toNat attrib.size.toNat = v := by
  rcases h.lookup_cases t with ⟨-, hnone⟩ | ⟨attrib, v', hlookup, hv', -, hsize, hinside, hslice⟩
  · rw [hv] at hnone
    cases hnone
  · obtain rfl : v = v' := Option.some.inj (hv.symm.trans hv')
    exact ⟨attrib, by rw [getAttributeByType, hlookup], hsize, by rw [hsize, h.dataAt_eq hinside, hslice]⟩

omit [Digests] in
theorem getAddressHelper_longEnough (h : Accepted bs as r) {t : UInt16} (hok : (r.getAddressHelper t).isOk = true) :
    ∃ attrib, r.getAttributeByType t = .ok attrib ∧
      addressSize (r.dataAt attrib.offset.toNat attrib.size.toNat) ≤ attrib.size.toNat := by
  rw [h.getAddressHelper_eq] at hok
  cases hv : lastValue t as with
  | none =>
    rw [hv] at hok
    cases hok
  | some v =>
    obtain ⟨attrib, hfound, hsize, hdata⟩ := value_found h hv
    refine ⟨attrib, hfound, ?_⟩
    rw [hdata, hsize, addressSize]
    rcases getMappedAddress_cases v with ⟨hfamily, hlen, -⟩ | ⟨hfamily, hlen, -⟩ | ⟨-, -, hr, hfailed⟩
    · rwa [if_pos hfamily]
    · rwa [if_neg hfamily]
    · simp only [hv, hfailed] at hok
      cases hok

omit [Digests] in
theorem getAddressFallback_longEnough (h : Accepted bs as r) {t legacyType : UInt16}
    (hok : (r.getAddressFallback t legacyType).isOk = true) :
    ∃ t' ∈ [t, legacyType], ∃ attrib, r.getAttributeByType t' = .ok attrib ∧
      addressSize (r.dataAt attrib.offset.toNat attrib.size.toNat) ≤ attrib.size.toNat := by
  rw [getAddressFallback] at hok
  cases hfirst : r.getAddressHelper t with
  | ok addr => exact ⟨t, List.mem_cons_self, getAddressHelper_longEnough h (by rw [hfirst]; rfl)⟩
  | error hr =>
    rw [hfirst] at hok
    exact ⟨legacyType, List.mem_cons_of_mem _ List.mem_cons_self, getAddressHelper_longEnough h hok⟩

/-- A getter that compares the size before it reads. -/
theorem longEnough_of_size {accessor : Accessor} {t : UInt16} {k : UInt16} (ht : t ∈ accessor.types)
    (hneeded : ∀ v, accessor.needed v = k.toNat)
    (hnone : r.mapAttributes.lookup t = none → accessor.succeeds r = false)
    (hother : ∀ attrib, r.mapAttributes.lookup t = some attrib → attrib.size ≠ k → accessor.succeeds r = false)
    (hok : accessor.succeeds r = true) :
    ∃ t ∈ accessor.types, ∃ attrib, r.getAttributeByType t = .ok attrib ∧
      accessor.needed (r.dataAt attrib.offset.toNat attrib.size.toNat) ≤ attrib.size.toNat := by
  cases hlookup : r.mapAttributes.lookup t with
  | none =>
    rw [hnone hlookup] at hok
    cases hok
  | some attrib =>
    refine ⟨t, ht, attrib, by rw [getAttributeByType, hlookup], ?_⟩
    rw [hneeded]
    by_contra hsize
    rw [hother attrib hlookup fun hk => hsize (by rw [hk])] at hok
    cases hok

/-- Without a signature of the size of a digest nothing is accepted. -/
theorem validateMessageIntegrity_fails {key : Bytes}
    (hsize : ∀ attrib, r.mapAttributes.lookup STUN_ATTRIBUTE_MESSAGEINTEGRITY = some attrib → attrib.size ≠ 20) :
    SUCCEEDED (r.validateMessageIntegrity key) = false := by
  rw [validateMessageIntegrity]
  dsimp only
  iterate 4
    split
    · rfl
  cases hlookup : r.mapAttributes.lookup STUN_ATTRIBUTE_MESSAGEINTEGRITY with
  | none => rfl
  | some attrib =>
    dsimp only
    rw [if_pos (hsize attrib hlookup)]
    rfl

theorem long_enough (h : Accepted bs as r) (accessor : Accessor)
    (hlong : accessor = .getErrorCode →
      ∀ attrib, r.getAttributeByType STUN_ATTRIBUTE_ERRORCODE = .ok attrib → 4 ≤ attrib.size.toNat)
    (hok : accessor.succeeds r = true) :
    ∃ t ∈ accessor.types, ∃ attrib, r.getAttributeByType t = .ok attrib ∧
      accessor.needed (r.dataAt attrib.offset.toNat attrib.size.toNat) ≤ attrib.size.toNat := by
  cases accessor with
  | getErrorCode =>
    cases hlookup : r.mapAttributes.lookup STUN_ATTRIBUTE_ERRORCODE with
    | none =>
      rw [Accessor.succeeds, CStunMessageReader.getErrorCode, hlookup] at hok
      cases hok
    | some attrib =>
      have hfound : r.getAttributeByType STUN_ATTRIBUTE_ERRORCODE = .ok attrib := by rw [getAttributeByType, hlookup]
      exact ⟨_, List.mem_cons_self, attrib, hfound, hlong rfl attrib hfound⟩
  | getResponsePort =>
    refine longEnough_of_size List.mem_cons_self (k := STUN_ATTRIBUTE_RESPONSE_PORT_SIZE) (fun _ => rfl)
      (fun hlookup => ?_) (fun attrib hlookup hsize => ?_) hok
    · rw [Accessor.succeeds, CStunMessageReader.getResponsePort, hlookup]
      rfl
    · rw [Accessor.succeeds, CStunMessageReader.getResponsePort, hlookup]
      dsimp only
      rw [if_pos hsize]
      rfl
  | getChangeRequest =>
    refine longEnough_of_size List.mem_cons_self (k := STUN_ATTRIBUTE_CHANGEREQUEST_SIZE) (fun _ => rfl)
      (fun hlookup => ?_) (fun attrib hlookup hsize => ?_) hok
    · rw [Accessor.succeeds, CStunMessageReader.getChangeRequest, hlookup]
      rfl
    · rw [Accessor.succeeds, CStunMessageReader.getChangeRequest, hlookup]
      dsimp only
      rw [if_pos hsize]
      rfl
  | getStringAttributeByType attributeType size =>
    cases hlookup : r.mapAttributes.lookup attributeType with
    | none =>
      rw [Accessor.succeeds, CStunMessageReader.getStringAttributeByType, hlookup] at hok
      cases hok
    | some attrib =>
      exact ⟨_, List.mem_cons_self, attrib, by rw [getAttributeByType, hlookup], Nat.zero_le _⟩
  | getMappedAddress => exact ⟨_, List.mem_cons_self, getAddressHelper_longEnough h hok⟩
  | getXorMappedAddress =>
    refine getAddressFallback_longEnough h ?_
    rw [Accessor.succeeds, CStunMessageReader.getXorMappedAddress] at hok
    cases hread : r.getAddressFallback STUN_ATTRIBUTE_XORMAPPEDADDRESS STUN_ATTRIBUTE_XORMAPPEDADDRESS_OPTIONAL with
    | error hr =>
      rw [hread] at hok
      cases hok
    | ok addr => rfl
  | getOtherAddress => exact getAddressFallback_longEnough h hok
  | getResponseOriginAddress => exact getAddressFallback_longEnough h hok
  | isFingerprintAttributeValid =>
    refine longEnough_of_size List.mem_cons_self (k := 4) (fun _ => rfl) (fun hlookup => ?_)
      (fun attrib hlookup hsize => ?_) hok
    · rw [Accessor.succeeds, CStunMessageReader.isFingerprintAttributeValid, hlookup]
    · rw [Accessor.succeeds, CStunMessageReader.isFingerprintAttributeValid, hlookup]
      dsimp only
      rw [if_pos (Or.inr (Or.inl hsize))]
  | validateMessageIntegrity key =>
    refine longEnough_of_size List.mem_cons_self (k := 20) (fun _ => rfl) (fun hlookup => ?_)
      (fun attrib hlookup hsize => ?_) hok
    · exact validateMessageIntegrity_fails (by simp [hlookup])
    · exact validateMessageIntegrity_fails fun attrib' h' => Option.some.inj (hlookup.symm.trans h') ▸ hsize

end Inside

/-! ## The error code -/

/-- `GetErrorCode` on a value of less than four octets: its second octet is not of the value. -/
theorem getErrorCode_outside {bs : Bytes} [Digests] {r : CStunMessageReader} {attrib : StunAttribute}
    (hfound : r.getAttributeByType STUN_ATTRIBUTE_ERRORCODE = .ok attrib) (hshort : attrib.size.toNat < 4) :
    ¬ AllInside bs r (Accessor.types .getErrorCode) (Accessor.reads r .getErrorCode) := by
  have hlookup : r.mapAttributes.lookup STUN_ATTRIBUTE_ERRORCODE = some attrib := by
    rw [getAttributeByType] at hfound
    cases h : r.mapAttributes.lookup STUN_ATTRIBUTE_ERRORCODE with
    | none =>
      rw [h] at hfound
      cases hfound
    | some x =>
      rw [h] at hfound
      rw [Except.ok.inj hfound]
  have hreads : Accessor.reads r .getErrorCode =
      [.attribute attrib (attrib.offset.toNat + 2) 1, .attribute attrib (attrib.offset.toNat + 3) 1] := by
    change (Proc.exec (Recorded.getErrorCode r) []).2 = _
    rw [Recorded.getErrorCode, Recorded.exec_lookup_bind, hlookup]
    rfl
  rw [hreads]
  intro hinside
  have hend := (hinside _ (List.mem_cons_of_mem _ List.mem_cons_self)).2.2.1
  omega

/-- Every accessor of every accepted message stays inside, except `GetErrorCode` where the last ERROR-CODE attribute has
less than four octets. -/
theorem accessor_stays_inside_iff [Platform] [Digests] {cap : Option Nat} {r₀ : CStunMessageReader} (h₀ : Fresh cap r₀)
    (pieces : List Bytes) (hstate : (feed pieces r₀).getState = .bodyValidated) (accessor : Accessor) :
    StaysInside pieces.flatten (feed pieces r₀) accessor ↔
      (accessor = .getErrorCode → ∀ attrib,
        (feed pieces r₀).getAttributeByType STUN_ATTRIBUTE_ERRORCODE = .ok attrib → 4 ≤ attrib.size.toNat) := by
  obtain ⟨as, h⟩ := (feed_parsed h₀ pieces).accepted h₀ hstate
  constructor
  · rintro hstays rfl attrib hfound
    by_contra hshort
    exact getErrorCode_outside hfound (Nat.lt_of_not_le hshort) hstays.inside
  · exact fun hlong => ⟨reads_inside h accessor hlong, long_enough h accessor hlong⟩

/-- An error response with an ERROR-CODE attribute of the given value. -/
def errorResponse (value : Bytes) (h : value.length ≤ MAX_STUN_ATTRIBUTE_SIZE) : Bytes :=
  frame 0x0111 (UInt16.ofNat (body [attributeOf STUN_ATTRIBUTE_ERRORCODE value h]).length) StunTransactionId.zero
    (body [attributeOf STUN_ATTRIBUTE_ERRORCODE value h])

theorem errorResponse_accepted [Platform] (value : Bytes) (h : value.length ≤ MAX_STUN_ATTRIBUTE_SIZE)
    (hsize : (body [attributeOf STUN_ATTRIBUTE_ERRORCODE value h]).length ≤ MAX_STUN_MESSAGE_SIZE) :
    Accepted (errorResponse value h) [attributeOf STUN_ATTRIBUTE_ERRORCODE value h]
      (feed [errorResponse value h] (freshReader true)) :=
  feed_message (freshReader_fresh true) (frame_message (by decide) _ (Or.inr rfl) _ (by simp) hsize)

theorem errorResponse_size [Platform] (value : Bytes) (h : value.length ≤ MAX_STUN_ATTRIBUTE_SIZE)
    (hsize : (body [attributeOf STUN_ATTRIBUTE_ERRORCODE value h]).length ≤ MAX_STUN_MESSAGE_SIZE) :
    ∃ attrib, getAttributeByType STUN_ATTRIBUTE_ERRORCODE (feed [errorResponse value h] (freshReader true)) = .ok attrib ∧
      attrib.size.toNat = value.length := by
  obtain ⟨attrib, hfound, hlength, -⟩ := value_found (errorResponse_accepted value h hsize)
    (t := STUN_ATTRIBUTE_ERRORCODE) (v := value) rfl
  exact ⟨attrib, hfound, hlength⟩

/-- The four octets of the error 420. -/
theorem accessor_stays_inside_iff_unknown :
    let _ := Platform.armeabi
    ∀ [Digests], StaysInside (errorResponse [0, 0, 4, 20] (by decide))
      (feed [errorResponse [0, 0, 4, 20] (by decide)] (freshReader true)) .getErrorCode := by
  intro platform digests
  have hstate := (errorResponse_accepted [0, 0, 4, 20] (by decide) (by decide)).state
  obtain ⟨attrib, hfound, hsize⟩ := errorResponse_size [0, 0, 4, 20] (by decide) (by decide)
  have hstays := (accessor_stays_inside_iff (freshReader_fresh true) [errorResponse [0, 0, 4, 20] (by decide)] hstate
    .getErrorCode).mpr fun _ attrib' hfound' => by
      rw [← Except.ok.inj (hfound.symm.trans hfound'), hsize]
      decide
  rwa [List.flatten_singleton] at hstays

/-- An empty value at the very end of the message. -/
theorem accessor_leaves_value :
    let _ := Platform.armeabi
    (feed [errorResponse [] (by decide)] (freshReader true)).getState = .bodyValidated ∧
      ∀ [Digests], ¬ StaysInside (errorResponse [] (by decide))
        (feed [errorResponse [] (by decide)] (freshReader true)) .getErrorCode := by
  intro platform
  have hstate := (errorResponse_accepted [] (by decide) (by decide)).state
  obtain ⟨attrib, hfound, hsize⟩ := errorResponse_size [] (by decide) (by decide)
  refine ⟨hstate, ?_⟩
  intro digests hstays
  exact getErrorCode_outside hfound (by rw [hsize]; decide) hstays.inside

end NatTester.Guarantees
