import NatTester.Source.StunReader

/-!
# The bytes the getters of CStunMessageReader read

`stunreader.cpp`, `stunutils.cpp`. The getters once more, each with a record of
the message bytes it reads. Without the record they are the getters of the
reader.
-/
namespace NatTester.Source
open NatTester.Lib

/-- A read of message bytes: to decode an attribute, or from the start of the message for a digest. -/
inductive MessageRead where
  | attribute (attrib : StunAttribute) (position count : Nat)
  | message (count : Nat)
  deriving DecidableEq, Repr

namespace CStunMessageReader.Recorded

/-- `_mapAttributes.Lookup(attribType)`, and the check that something was found. -/
def lookup (attribType : UInt16) (hr : HRESULT) (r : CStunMessageReader) : Hr (List MessageRead) StunAttribute :=
  match r.mapAttributes.lookup attribType with
  | none => throw hr
  | some attrib => pure attrib

/-- `n` bytes at `position`, to decode `attrib`. -/
def dataAt (attrib : StunAttribute) (position n : Nat) (r : CStunMessageReader) : Hr (List MessageRead) Bytes := do
  modify (· ++ [.attribute attrib position n])
  pure (r.dataAt position n)

def getResponsePort (r : CStunMessageReader) : Hr (List MessageRead) UInt16 := do
  let attrib ← lookup STUN_ATTRIBUTE_RESPONSE_PORT E_FAIL r
  chkIf (attrib.size ≠ STUN_ATTRIBUTE_RESPONSE_PORT_SIZE) E_UNEXPECTED
  chkIf (r.dataPointerNull = true) E_UNEXPECTED
  let portNBO ← dataAt attrib attrib.offset.toNat 2 r
  pure (ntohs (UInt16.ofNat (ofLeOctets portNBO)))

def getChangeRequest (r : CStunMessageReader) : Hr (List MessageRead) StunChangeRequestAttribute := do
  let attrib ← lookup STUN_ATTRIBUTE_CHANGEREQUEST E_FAIL r
  chkIf (attrib.size ≠ STUN_ATTRIBUTE_CHANGEREQUEST_SIZE) E_UNEXPECTED
  chkIf (r.dataPointerNull = true) E_UNEXPECTED
  let data ← dataAt attrib attrib.offset.toNat 4 r
  let value := ntohl (UInt32.ofNat (ofLeOctets data))
  pure ⟨value &&& 0x0004 ≠ 0, value &&& 0x0002 ≠ 0⟩

/-- Neither of the two bytes is compared with the size. -/
def getErrorCode (r : CStunMessageReader) : Hr (List MessageRead) UInt16 := do
  let attrib ← lookup STUN_ATTRIBUTE_ERRORCODE E_FAIL r
  let cl ← dataAt attrib (attrib.offset.toNat + 2) 1 r
  let num ← dataAt attrib (attrib.offset.toNat + 3) 1 r
  pure (UInt16.ofNat ((cl.getD 0 0 &&& 0x07).toNat * 100 + (num.getD 0 0).toNat))

/-- A call that does not read. -/
def onValue {α : Type} (m : Hr CDataStream α) : Hr (CDataStream × List MessageRead) α :=
  Proc.zoom Prod.fst (fun stream s => (stream, s.2)) m

/-- A read of the stream over the value: the bytes the cursor passes. -/
def readValue {α : Type} (attrib : StunAttribute) (m : Hr CDataStream α) :
    Hr (CDataStream × List MessageRead) α := do
  let s ← get
  let a ← onValue m
  modify fun t => (t.1, t.2 ++ [.attribute attrib (attrib.offset.toNat + s.1.pos) (t.1.pos - s.1.pos)])
  pure a

/-- The statements of `::GetMappedAddress`. -/
def readMappedAddress (attrib : StunAttribute) : Hr (CDataStream × List MessageRead) CSocketAddress := do
  onValue (CDataStream.seekDirect 1)
  let attributeid ← readValue attrib CDataStream.readUint8
  let port ← readValue attrib CDataStream.readUint16
  let port := ntohs port
  if attributeid = STUN_ATTRIBUTE_FIELD_IPV4 then do
    let ip4 ← readValue attrib CDataStream.readUint32
    pure (CSocketAddress.ofIp4 (ntohl ip4) port)
  else do
    let ip6 ← readValue attrib (CDataStream.read 16)
    pure (CSocketAddress.ofIp6 ip6 port)

/-- The stream is made over the value alone. -/
def getAddressHelper (attribType : UInt16) (r : CStunMessageReader) : Hr (List MessageRead) CSocketAddress := do
  let attrib ← lookup attribType E_FAIL r
  let value := CBuffer.initNoAlloc (r.dataAt attrib.offset.toNat attrib.size.toNat)
  Proc.zoom (fun reads => (CDataStream.attach value false, reads)) (fun s _ => s.2) (readMappedAddress attrib)

def getAddressFallback (attribType legacyType : UInt16) (r : CStunMessageReader) :
    Hr (List MessageRead) CSocketAddress :=
  Proc.orElse (getAddressHelper attribType r) (getAddressHelper legacyType r)

def getMappedAddress (r : CStunMessageReader) : Hr (List MessageRead) CSocketAddress :=
  getAddressHelper STUN_ATTRIBUTE_MAPPEDADDRESS r

def getOtherAddress (r : CStunMessageReader) : Hr (List MessageRead) CSocketAddress :=
  getAddressFallback STUN_ATTRIBUTE_OTHER_ADDRESS STUN_ATTRIBUTE_CHANGEDADDRESS r

def getXorMappedAddress (r : CStunMessageReader) : Hr (List MessageRead) CSocketAddress := do
  let addr ← getAddressFallback STUN_ATTRIBUTE_XORMAPPEDADDRESS STUN_ATTRIBUTE_XORMAPPEDADDRESS_OPTIONAL r
  pure (addr.applyStunXorMap r.transactionid)

def getResponseOriginAddress (r : CStunMessageReader) : Hr (List MessageRead) CSocketAddress :=
  getAddressFallback STUN_ATTRIBUTE_RESPONSE_ORIGIN STUN_ATTRIBUTE_SOURCEADDRESS r

def getStringAttributeByType (attributeType : UInt16) (size : Nat) (r : CStunMessageReader) :
    Hr (List MessageRead) Bytes := do
  let attrib ← lookup attributeType E_INVALIDARG r
  chkIf (attrib.size.toNat ≥ size) E_INVALIDARG
  let value ← dataAt attrib attrib.offset.toNat attrib.size.toNat r
  pure (value ++ [0])

section Digests
variable [Digests]

/-- The checksum is taken over all but the last eight bytes. -/
def isFingerprintAttributeValid (r : CStunMessageReader) : Hr (List MessageRead) Unit := do
  let attrib ← lookup STUN_ATTRIBUTE_FINGERPRINT E_FAIL r
  chkIf (attrib.attributeType ≠ STUN_ATTRIBUTE_FINGERPRINT) E_FAIL
  chkIf (attrib.size ≠ 4) E_FAIL
  chkIf (r.state ≠ .bodyValidated) E_FAIL
  chkIf (r.stream.spBuffer.isNone = true) E_FAIL
  chkIf (r.stream.getSize < STUN_HEADER_SIZE) E_FAIL
  chkIf (r.dataPointerNull = true) E_FAIL
  modify (· ++ [.message (r.stream.getSize - 8)])
  let computedValue := Digests.crc32 (r.dataAt 0 (r.stream.getSize - 8)) ^^^ STUN_FINGERPRINT_XOR
  let data ← dataAt attrib attrib.offset.toNat 4 r
  chkIf (¬ ntohl (UInt32.ofNat (ofLeOctets data)) = computedValue) E_FAIL

/-- The HMAC reads on from the start of the message; the comparison reads the attribute. -/
def validateMessageIntegrity (key : Bytes) (r : CStunMessageReader) : Hr (List MessageRead) Unit := do
  let lastAttributeIndex := r.countAttributes - 1
  chkIf (r.state ≠ .bodyValidated) E_FAIL
  chkIf (r.countAttributes = 0) E_FAIL
  chkIf (r.indexMessageIntegrity = -1) E_FAIL
  chkIf (key.length = 0) E_INVALIDARG
  let attribIntegrity ← lookup STUN_ATTRIBUTE_MESSAGEINTEGRITY E_FAIL r
  chkIf (attribIntegrity.size ≠ 20) E_FAIL
  chkIf (¬ (r.indexMessageIntegrity = lastAttributeIndex ∨
    (r.indexMessageIntegrity = lastAttributeIndex - 1 ∧ r.indexFingerprint = lastAttributeIndex))) E_FAIL
  match r.stream.spBuffer with
  | none => throw E_FAIL
  | some spBuffer =>
    let fFingerprintAdjustment := decide (r.indexMessageIntegrity = lastAttributeIndex - 1)
    let hashed := Proc.exec (readHashed fFingerprintAdjustment attribIntegrity.offset.toNat)
      (CDataStream.attach spBuffer false)
    modify (· ++ [.message hashed.2.pos])
    match hashed.1 with
    | .error hr => throw hr
    | .ok hashed => do
      let value ← dataAt attribIntegrity attribIntegrity.offset.toNat 20 r
      chkIf (¬ Digests.hmacSha1 key hashed = value) E_FAIL

end Digests

/-! ## Without the record -/

section Outcome
variable {α : Type} {r : CStunMessageReader} (reads : List MessageRead)

theorem exec_lookup_bind (attribType : UInt16) (hr : HRESULT) (f : StunAttribute → Hr (List MessageRead) α) :
    Proc.exec (lookup attribType hr r >>= f) reads =
      match r.mapAttributes.lookup attribType with
      | none => (.error hr, reads)
      | some attrib => Proc.exec (f attrib) reads := by
  rw [Proc.exec_bind, lookup]
  cases r.mapAttributes.lookup attribType <;> rfl

theorem exec_dataAt_bind (attrib : StunAttribute) (position n : Nat) (f : Bytes → Hr (List MessageRead) α) :
    Proc.exec (dataAt attrib position n r >>= f) reads =
      Proc.exec (f (r.dataAt position n)) (reads ++ [.attribute attrib position n]) := rfl

end Outcome

variable {r : CStunMessageReader} {reads : List MessageRead}

theorem getResponsePort_outcome : (Proc.exec (getResponsePort r) reads).1 = r.getResponsePort := by
  rw [getResponsePort, CStunMessageReader.getResponsePort, exec_lookup_bind]
  cases r.mapAttributes.lookup STUN_ATTRIBUTE_RESPONSE_PORT with
  | none => rfl
  | some attrib =>
    dsimp only
    rw [exec_chkIf_bind]
    split
    · rfl
    rw [exec_chkIf_bind]
    split <;> rfl

/-- On failure both flags are cleared. -/
theorem getChangeRequest_outcome :
    r.getChangeRequest =
      match (Proc.exec (getChangeRequest r) reads).1 with
      | .ok changeRequest => (S_OK, changeRequest)
      | .error hr => (hr, ⟨false, false⟩) := by
  rw [getChangeRequest, CStunMessageReader.getChangeRequest, exec_lookup_bind]
  cases r.mapAttributes.lookup STUN_ATTRIBUTE_CHANGEREQUEST with
  | none => rfl
  | some attrib =>
    dsimp only
    rw [exec_chkIf_bind]
    split
    · rfl
    rw [exec_chkIf_bind]
    split <;> rfl

theorem getErrorCode_outcome : (Proc.exec (getErrorCode r) reads).1 = r.getErrorCode := by
  rw [getErrorCode, CStunMessageReader.getErrorCode, exec_lookup_bind]
  cases r.mapAttributes.lookup STUN_ATTRIBUTE_ERRORCODE with
  | none => rfl
  | some attrib =>
    dsimp only
    rw [exec_dataAt_bind, exec_dataAt_bind, Proc.exec_pure]
    have hfirst : (r.dataAt (attrib.offset.toNat + 2) 2).getD 0 0 = (r.dataAt (attrib.offset.toNat + 2) 1).getD 0 0 := by
      simp [CStunMessageReader.dataAt, slice, List.getD_eq_getElem?_getD]
    have hsecond : (r.dataAt (attrib.offset.toNat + 2) 2).getD 1 0 = (r.dataAt (attrib.offset.toNat + 3) 1).getD 0 0 := by
      simp [CStunMessageReader.dataAt, slice, List.getD_eq_getElem?_getD, List.getElem?_drop]
    rw [hfirst, hsecond]

theorem getStringAttributeByType_outcome (attributeType : UInt16) (size : Nat) :
    (Proc.exec (getStringAttributeByType attributeType size r) reads).1 =
      r.getStringAttributeByType attributeType size := by
  rw [getStringAttributeByType, CStunMessageReader.getStringAttributeByType, exec_lookup_bind]
  cases r.mapAttributes.lookup attributeType with
  | none => rfl
  | some attrib =>
    dsimp only
    rw [exec_chkIf_bind]
    split <;> rfl

/-- A read of the value's stream goes as without the record. -/
theorem exec_readValue {α : Type} (attrib : StunAttribute) (m : Hr CDataStream α) (s : CDataStream)
    (reads : List MessageRead) :
    Proc.exec (readValue attrib m) (s, reads) =
      match Proc.exec m s with
      | (.ok a, t) => (.ok a, (t, reads ++ [.attribute attrib (attrib.offset.toNat + s.pos) (t.pos - s.pos)]))
      | (.error hr, t) => (.error hr, (t, reads)) := by
  rw [readValue, Proc.exec_bind_ok (Proc.exec_get _), Proc.exec_bind, onValue, Proc.exec_zoom]
  rcases Proc.exec m s with ⟨_ | _, t⟩ <;> rfl

theorem exec_readValue_bind {α β : Type} (attrib : StunAttribute) (m : Hr CDataStream α)
    (f : α → Hr (CDataStream × List MessageRead) β) (s : CDataStream) (reads : List MessageRead) :
    Proc.exec (readValue attrib m >>= f) (s, reads) =
      match Proc.exec m s with
      | (.ok a, t) =>
        Proc.exec (f a) (t, reads ++ [.attribute attrib (attrib.offset.toNat + s.pos) (t.pos - s.pos)])
      | (.error hr, t) => (.error hr, (t, reads)) := by
  rw [Proc.exec_bind, exec_readValue]
  rcases Proc.exec m s with ⟨_ | _, t⟩ <;> rfl

theorem readMappedAddress_outcome (attrib : StunAttribute) (s : CDataStream) :
    (Proc.exec (readMappedAddress attrib) (s, reads)).1 = (Proc.exec Source.readMappedAddress s).1 := by
  rw [readMappedAddress, Source.readMappedAddress, Proc.exec_bind, Proc.exec_bind, onValue, Proc.exec_zoom]
  rcases Proc.exec (CDataStream.seekDirect 1) s with ⟨_ | _, s⟩
  · rfl
  dsimp only
  rw [exec_readValue_bind, Proc.exec_bind]
  rcases Proc.exec CDataStream.readUint8 s with ⟨_ | attributeid, s⟩
  · rfl
  dsimp only
  rw [exec_readValue_bind, Proc.exec_bind]
  rcases Proc.exec CDataStream.readUint16 s with ⟨_ | port, s⟩
  · rfl
  dsimp only
  rw [Proc.exec_ite, Proc.exec_ite]
  split
  · rw [exec_readValue_bind, Proc.exec_bind]
    rcases Proc.exec CDataStream.readUint32 s with ⟨_ | ip4, s⟩ <;> rfl
  · rw [exec_readValue_bind, Proc.exec_bind]
    rcases Proc.exec (CDataStream.read 16) s with ⟨_ | ip6, s⟩ <;> rfl

theorem getAddressHelper_outcome (attribType : UInt16) :
    (Proc.exec (getAddressHelper attribType r) reads).1 = r.getAddressHelper attribType := by
  rw [getAddressHelper, CStunMessageReader.getAddressHelper, exec_lookup_bind]
  cases r.mapAttributes.lookup attribType with
  | none => rfl
  | some attrib => exact readMappedAddress_outcome attrib _

theorem getAddressFallback_outcome (attribType legacyType : UInt16) :
    (Proc.exec (getAddressFallback attribType legacyType r) reads).1 = r.getAddressFallback attribType legacyType := by
  have hfirst := @getAddressHelper_outcome r reads attribType
  rw [getAddressFallback, CStunMessageReader.getAddressFallback, Proc.exec_orElse, ← hfirst]
  rcases Proc.exec (getAddressHelper attribType r) reads with ⟨_ | addr, reads⟩
  · exact getAddressHelper_outcome legacyType
  · rfl

theorem getXorMappedAddress_outcome : (Proc.exec (getXorMappedAddress r) reads).1 = r.getXorMappedAddress := by
  rw [getXorMappedAddress, CStunMessageReader.getXorMappedAddress, ← @getAddressFallback_outcome r reads,
    Proc.exec_bind]
  rcases Proc.exec (getAddressFallback _ _ r) reads with ⟨_ | addr, reads⟩ <;> rfl

section Digests
variable [Digests]

theorem isFingerprintAttributeValid_outcome :
    (Proc.exec (isFingerprintAttributeValid r) reads).1.isOk = r.isFingerprintAttributeValid := by
  rw [isFingerprintAttributeValid, CStunMessageReader.isFingerprintAttributeValid, exec_lookup_bind]
  cases r.mapAttributes.lookup STUN_ATTRIBUTE_FINGERPRINT with
  | none => rfl
  | some attrib =>
    -- the checks, one at a time
    simp only [ite_or]
    iterate 6
      rw [exec_chkIf_bind]
      split
      · rfl
    rw [Proc.exec_bind_ok (Proc.exec_modify _ _), exec_dataAt_bind, exec_chkIf]
    by_cases heq : ntohl (UInt32.ofNat (ofLeOctets (r.dataAt attrib.offset.toNat 4))) =
        Digests.crc32 (r.dataAt 0 (r.stream.getSize - 8)) ^^^ STUN_FINGERPRINT_XOR
    · simp [heq, Except.isOk, Except.toBool]
    · simp [heq, Except.isOk, Except.toBool]

theorem validateMessageIntegrity_outcome (key : Bytes) :
    hrOf (Proc.exec (validateMessageIntegrity key r) reads).1 = r.validateMessageIntegrity key := by
  rw [validateMessageIntegrity, CStunMessageReader.validateMessageIntegrity]
  dsimp only
  iterate 4
    rw [exec_chkIf_bind]
    split
    · rfl
  rw [exec_lookup_bind]
  cases r.mapAttributes.lookup STUN_ATTRIBUTE_MESSAGEINTEGRITY with
  | none => rfl
  | some attrib =>
    dsimp only
    iterate 2
      rw [exec_chkIf_bind]
      split
      · rfl
    cases r.stream.spBuffer with
    | none => rfl
    | some spBuffer =>
      dsimp only
      rw [Proc.exec_bind_ok (Proc.exec_modify _ _)]
      rcases Proc.exec (readHashed _ _) (CDataStream.attach spBuffer false) with ⟨_ | hashed, t⟩
      · rfl
      · dsimp only
        rw [exec_dataAt_bind, exec_chkIf, ite_not]
        split <;> rfl

end Digests

/-! ## A getter that stops fails -/

/-- The code of a run is a failure exactly where it stopped. -/
theorem succeeded_outcome {σ α : Type} {m : Hr σ α} (h : Proc.Throws (fun hr => SUCCEEDED hr = false) m) (s : σ) :
    (Proc.exec m s).1.isOk = SUCCEEDED (hrOf (Proc.exec m s).1) := by
  rcases hrun : Proc.exec m s with ⟨hr | a, t⟩
  · exact (h s hr t hrun).symm
  · rfl

theorem lookup_throws (attribType : UInt16) {hr : HRESULT} (hfails : SUCCEEDED hr = false) :
    Proc.Throws (fun hr => SUCCEEDED hr = false) (lookup attribType hr r) := by
  unfold lookup
  split
  · exact .throw hfails
  · exact .pure

theorem chkIf_throws {σ : Type} {cond : Prop} [Decidable cond] {hr : HRESULT} (hfails : SUCCEEDED hr = false) :
    Proc.Throws (fun hr => SUCCEEDED hr = false) (chkIf cond hr : Hr σ Unit) :=
  .ite (.throw hfails) .pure

theorem dataAt_throws (attrib : StunAttribute) (position n : Nat) :
    Proc.Throws (fun hr => SUCCEEDED hr = false) (dataAt attrib position n r) :=
  Proc.Throws.modify.bind fun _ => .pure

theorem read_throws (size : Nat) : Proc.Throws (fun hr => SUCCEEDED hr = false) (CDataStream.read size) := by
  intro s hr t h
  rw [CDataStream.exec_read] at h
  split at h
  · cases h
  · cases h
    rfl

theorem readChunks_throws (nChunks : Nat) : Proc.Throws (fun hr => SUCCEEDED hr = false) (readChunks nChunks) := by
  induction nChunks with
  | zero => exact .pure
  | succ nChunks ih =>
    exact ((read_throws 4).bind fun _ => .pure).bind fun _ => ih.bind fun _ => .pure

theorem readHashed_throws (fFingerprintAdjustment : Bool) (offset : Nat) :
    Proc.Throws (fun hr => SUCCEEDED hr = false) (readHashed fFingerprintAdjustment offset) :=
  ((read_throws 2).bind fun _ => .pure).bind fun _ => ((read_throws 2).bind fun _ => .pure).bind fun _ =>
    (readChunks_throws _).bind fun _ => .pure

theorem getChangeRequest_throws : Proc.Throws (fun hr => SUCCEEDED hr = false) (getChangeRequest r) :=
  (lookup_throws _ rfl).bind fun _ => (chkIf_throws rfl).bind fun _ => (chkIf_throws rfl).bind fun _ =>
    (dataAt_throws _ _ _).bind fun _ => .pure

theorem validateMessageIntegrity_throws [Digests] (key : Bytes) :
    Proc.Throws (fun hr => SUCCEEDED hr = false) (validateMessageIntegrity key r) := by
  refine (chkIf_throws rfl).bind fun _ => (chkIf_throws rfl).bind fun _ => (chkIf_throws rfl).bind fun _ =>
    (chkIf_throws rfl).bind fun _ => (lookup_throws _ rfl).bind fun attrib => (chkIf_throws rfl).bind fun _ =>
    (chkIf_throws rfl).bind fun _ => ?_
  cases r.stream.spBuffer with
  | none => exact .throw rfl
  | some spBuffer =>
    refine Proc.Throws.modify.bind fun _ => ?_
    rcases hrun : Proc.exec (readHashed _ attrib.offset.toNat) (CDataStream.attach spBuffer false) with ⟨hr | hashed, t⟩
    · exact .throw (readHashed_throws _ _ _ hr t hrun)
    · exact (dataAt_throws _ _ _).bind fun _ => chkIf_throws rfl

end CStunMessageReader.Recorded

end NatTester.Source
