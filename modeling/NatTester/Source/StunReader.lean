import NatTester.Source.FastHash
import NatTester.Source.SocketAddress
import NatTester.Source.StunAuth

/-!
# CStunMessageReader

`stunreader.cpp`. Attribute data is read through `GetDataPointerUnsafe`, that is
from the memory of the stream's buffer at the offset the attribute table gives.
A getter that fails leaves its out-parameter as it was unless said otherwise.
-/
namespace NatTester.Source
open NatTester.Lib

/-- `enum ReaderParseState` -/
inductive ReaderParseState where
  | headerNotRead | headerValidated | bodyValidated | parseError
  deriving DecidableEq, Repr

structure CStunMessageReader where
  stream : CDataStream
  fAllowLegacyFormat : Bool
  fMessageIsLegacyFormat : Bool
  state : ReaderParseState
  mapAttributes : FastHashBase UInt16 StunAttribute
  indexFingerprint : Int
  indexMessageIntegrity : Int
  countAttributes : Int
  transactionid : StunTransactionId
  msgTypeNormalized : UInt16
  msgClass : StunMessageClass
  msgLength : UInt16

namespace CStunMessageReader

def MAX_NUM_ATTRIBUTES : Nat := 30

def reset (r : CStunMessageReader) : CStunMessageReader :=
  { stream := CDataStream.empty
    fAllowLegacyFormat := true
    fMessageIsLegacyFormat := false
    state := .headerNotRead
    mapAttributes := r.mapAttributes.reset
    indexFingerprint := -1
    indexMessageIntegrity := -1
    countAttributes := 0
    transactionid := StunTransactionId.zero
    msgTypeNormalized := 0xffff
    msgClass := .invalidMessageClass
    msgLength := 0 }

/-- `CStunMessageReader()`: the members `Reset` sets are not read by it. -/
def new : CStunMessageReader :=
  reset
    { stream := CDataStream.empty
      fAllowLegacyFormat := false
      fMessageIsLegacyFormat := false
      state := .headerNotRead
      mapAttributes := FastHashBase.new MAX_NUM_ATTRIBUTES 53
      indexFingerprint := 0
      indexMessageIntegrity := 0
      countAttributes := 0
      transactionid := StunTransactionId.zero
      msgTypeNormalized := 0
      msgClass := .request
      msgLength := 0 }

def setAllowLegacyFormat (fAllowLegacyFormat : Bool) (r : CStunMessageReader) : CStunMessageReader :=
  { r with fAllowLegacyFormat }

/-- `GetStream().Attach(buf, true)` -/
def attach (buf : CBuffer) (r : CStunMessageReader) : CStunMessageReader :=
  { r with stream := CDataStream.attach buf true }

def onStream {α : Type} (m : Hr CDataStream α) : Hr CStunMessageReader α :=
  Proc.zoom (·.stream) (fun stream r => { r with stream }) m

def isMessageLegacyFormat (r : CStunMessageReader) : Bool := r.fMessageIsLegacyFormat
def getState (r : CStunMessageReader) : ReaderParseState := r.state
def getTransactionId (r : CStunMessageReader) : StunTransactionId := r.transactionid
def getMessageClass (r : CStunMessageReader) : StunMessageClass := r.msgClass
def getMessageType (r : CStunMessageReader) : UInt16 := r.msgTypeNormalized

/-- The differences are taken in `size_t` and returned as a `uint16_t`. -/
def howManyBytesNeeded (r : CStunMessageReader) : UInt16 :=
  match r.state with
  | .headerNotRead => UInt16.ofInt ((STUN_HEADER_SIZE : Int) - r.stream.getSize)
  | .headerValidated =>
    UInt16.ofInt ((r.msgLength.toNat + STUN_HEADER_SIZE : Int) - r.stream.getSize)
  | _ => 0

/-! ## Parsing -/

/-- The message class and method of a type field. -/
def classOf (msgType : UInt16) : StunMessageClass :=
  if STUN_IS_REQUEST msgType then .request
  else if STUN_IS_INDICATION msgType then .indication
  else if STUN_IS_SUCCESS_RESP msgType then .successResponse
  else if STUN_IS_ERR_RESP msgType then .failureResponse
  else .invalidMessageClass

def normalizeType (msgType : UInt16) : UInt16 :=
  (msgType &&& 0x000f) ||| ((msgType &&& 0x00e0) >>> (1 : UInt16)) ||| ((msgType &&& 0x3E00) >>> (2 : UInt16))

/-- The checks of `ReadHeader`, and the members it sets, from the fields it has read. -/
def checkHeader (msgType msgLength : UInt16) (id : Bytes) : Hr CStunMessageReader Unit := do
  let cookie := ntohl (UInt32.ofNat (ofLeOctets (id.take 4)))
  let fLegacy := !decide (cookie = STUN_COOKIE)
  modify fun r => { r with fMessageIsLegacyFormat := fLegacy }
  let r ← get
  let fHeaderValid := msgType &&& 0xc000 == 0 && msgLength % 4 == 0
  let fHeaderValid := fHeaderValid && (r.fAllowLegacyFormat || !fLegacy)
  chkIf (fHeaderValid = false) E_FAIL
  modify fun r => { r with
    msgTypeNormalized := normalizeType msgType
    msgLength
    transactionid := StunTransactionId.ofBytes id }
  chkIf (msgLength.toNat > MAX_STUN_MESSAGE_SIZE) E_UNEXPECTED
  modify fun r => { r with msgClass := classOf msgType }
  chkIf (classOf msgType = .invalidMessageClass) E_FAIL

def readHeader : Hr CStunMessageReader Unit := do
  onStream (CDataStream.seekDirect 0)
  let msgType ← onStream CDataStream.readUint16
  let msgLength ← onStream CDataStream.readUint16
  let id ← onStream (CDataStream.read STUN_TRANSACTION_ID_LENGTH)
  checkHeader (ntohs msgType) (ntohs msgLength) id

/-- What the body loop does with an attribute once it is in the table. -/
def countAttribute (attrib : StunAttribute) (r : CStunMessageReader) : CStunMessageReader :=
  { r with
    indexFingerprint :=
      if attrib.attributeType = STUN_ATTRIBUTE_FINGERPRINT then r.countAttributes else r.indexFingerprint
    indexMessageIntegrity :=
      if attrib.attributeType = STUN_ATTRIBUTE_MESSAGEINTEGRITY then r.countAttributes
      else r.indexMessageIntegrity
    countAttributes := r.countAttributes + 1 }

/-- A full table fails the insertion, which is how too many attributes are refused. -/
def insertAttribute (attrib : StunAttribute) : Hr CStunMessageReader Unit := do
  let r ← get
  let result := r.mapAttributes.insert attrib.attributeType attrib
  set { r with mapAttributes := result.2 }
  chkIf (¬ result.1 ≥ 0) E_FAIL
  modify (countAttribute attrib)

/-- A turn of the body loop once the type and the length are read. -/
def takeAttribute [Platform] (attrib : StunAttribute) : Hr CStunMessageReader Nat := do
  let size := attrib.size.toNat
  let paddingLength := if size % 4 ≠ 0 then 4 - size % 4 else 0
  chkIf (¬ size ≤ MAX_STUN_ATTRIBUTE_SIZE) E_FAIL
  insertAttribute attrib
  onStream (CDataStream.seekRelative size)
  onStream (if paddingLength > 0 then CDataStream.seekRelative paddingLength else pure ())
  pure (2 + 2 + size + paddingLength)

/-- One turn of the body loop: the bytes consumed, when no step of it failed. -/
def readAttribute [Platform] : Hr CStunMessageReader Nat := do
  let attributeType ← onStream CDataStream.readUint16
  let attributeLength ← onStream CDataStream.readUint16
  let r ← get
  takeAttribute ⟨ntohs attributeType, ntohs attributeLength, UInt16.ofNat r.stream.pos⟩

/-- The body loop: `bytesConsumed` when it ends. Every turn that goes on consumes
bytes of the message, whose number bounds the loop. -/
def readAttributes [Platform] (currentSize : Nat) : Nat → Nat → Hr CStunMessageReader Nat
  | 0, bytesConsumed => pure bytesConsumed
  | fuel + 1, bytesConsumed =>
    if bytesConsumed < currentSize then do
      match ← Proc.outcome readAttribute with
      | .ok consumed => readAttributes currentSize fuel (bytesConsumed + consumed)
      | .error _ => pure bytesConsumed
    else pure bytesConsumed

def readBody [Platform] : Hr CStunMessageReader Unit := do
  let r ← get
  let currentSize := r.stream.getSize
  onStream (CDataStream.seekDirect STUN_HEADER_SIZE)
  let bytesConsumed ← readAttributes currentSize currentSize STUN_HEADER_SIZE
  -- the loop's own `hr` is overwritten here
  chkIf (¬ bytesConsumed = currentSize) E_FAIL

/-- `AddBytes` in the state `HeaderNotRead`. -/
def enterHeader (currentSize : Nat) (r : CStunMessageReader) : CStunMessageReader :=
  if r.state = .headerNotRead ∧ currentSize ≥ STUN_HEADER_SIZE then
    match Proc.exec readHeader r with
    | (.ok _, r) => { r with state := if r.msgLength = 0 then .bodyValidated else .headerValidated }
    | (.error _, r) => { r with state := .parseError }
  else r

/-- `AddBytes` in the state `HeaderValidated`. -/
def enterBody [Platform] (currentSize : Nat) (r : CStunMessageReader) : CStunMessageReader :=
  if r.state = .headerValidated ∧ currentSize ≥ r.msgLength.toNat + STUN_HEADER_SIZE then
    if currentSize = r.msgLength.toNat + STUN_HEADER_SIZE then
      match Proc.exec readBody r with
      | (.ok _, r) => { r with state := .bodyValidated }
      | (.error _, r) => { r with state := .parseError }
    else { r with state := .parseError }
  else r

/-- `AddBytes` in the state `BodyValidated`. -/
def leaveBody (currentSize : Nat) (r : CStunMessageReader) : CStunMessageReader :=
  if r.state = .bodyValidated ∧ currentSize > r.msgLength.toNat + STUN_HEADER_SIZE then
    { r with state := .parseError }
  else r

/-- The cursor is moved to the end first; that it gets there is not checked. -/
def appendBytes [Platform] (pData : Bytes) : Hr CStunMessageReader Unit := do
  let r ← get
  onStream (Proc.ignore (CDataStream.seekDirect r.stream.getSize))
  onStream (CDataStream.write pData)

/-- The state transitions of `AddBytes`; several may happen in one call. -/
def advance [Platform] (r : CStunMessageReader) : CStunMessageReader :=
  let currentSize := r.stream.getSize
  leaveBody currentSize (enterBody currentSize (enterHeader currentSize r))

def addBytes [Platform] (pData : Bytes) (r : CStunMessageReader) : ReaderParseState × CStunMessageReader :=
  if r.state = .parseError then (.parseError, r)
  else if pData.length = 0 then (r.state, r)
  else
    match Proc.exec (appendBytes pData) r with
    | (.error _, r) => (.parseError, r)
    | (.ok _, r) => ((advance r).state, advance r)

/-! ## Attributes -/

def hasMessageIntegrityAttribute (r : CStunMessageReader) : Bool :=
  (r.mapAttributes.lookup STUN_ATTRIBUTE_MESSAGEINTEGRITY).isSome

/-- The table may rebuild its index. A negative `int` becomes a large `size_t`. -/
def getAttributeByIndex [Platform] (index : Int32) (r : CStunMessageReader) :
    Except HRESULT StunAttribute × CStunMessageReader :=
  let pFound := r.mapAttributes.lookupValueByIndex (index.toInt % 2 ^ Platform.sizeBits).toNat
  (match pFound.1 with
    | none => .error E_FAIL
    | some found => .ok found, { r with mapAttributes := pFound.2 })

def getAttributeByType (attributeType : UInt16) (r : CStunMessageReader) : Except HRESULT StunAttribute :=
  match r.mapAttributes.lookup attributeType with
  | none => .error E_FAIL
  | some found => .ok found

def getAttributeCount (r : CStunMessageReader) : Nat := r.mapAttributes.size

/-- `n` bytes at `GetDataPointerUnsafe() + offset`. -/
def dataAt (offset n : Nat) (r : CStunMessageReader) : Bytes := slice offset n r.stream.memory

/-- `_stream.GetDataPointerUnsafe() == NULL` -/
def dataPointerNull (r : CStunMessageReader) : Bool :=
  (r.stream.spBuffer.bind CBuffer.data).isNone

def getResponsePort (r : CStunMessageReader) : Except HRESULT UInt16 :=
  match r.mapAttributes.lookup STUN_ATTRIBUTE_RESPONSE_PORT with
  | none => .error E_FAIL
  | some attrib =>
    if attrib.size ≠ STUN_ATTRIBUTE_RESPONSE_PORT_SIZE then .error E_UNEXPECTED
    else if r.dataPointerNull then .error E_UNEXPECTED
    else .ok (ntohs (UInt16.ofNat (ofLeOctets (r.dataAt attrib.offset.toNat 2))))

/-- On failure both flags are cleared. -/
def getChangeRequest (r : CStunMessageReader) : HRESULT × StunChangeRequestAttribute :=
  let cleared : StunChangeRequestAttribute := ⟨false, false⟩
  match r.mapAttributes.lookup STUN_ATTRIBUTE_CHANGEREQUEST with
  | none => (E_FAIL, cleared)
  | some attrib =>
    if attrib.size ≠ STUN_ATTRIBUTE_CHANGEREQUEST_SIZE then (E_UNEXPECTED, cleared)
    else if r.dataPointerNull then (E_UNEXPECTED, cleared)
    else
      let value := ntohl (UInt32.ofNat (ofLeOctets (r.dataAt attrib.offset.toNat 4)))
      (S_OK, ⟨value &&& 0x0004 ≠ 0, value &&& 0x0002 ≠ 0⟩)

/-- On failure the size is 0. -/
def getPaddingAttributeSize (r : CStunMessageReader) : HRESULT × UInt16 :=
  match r.mapAttributes.lookup STUN_ATTRIBUTE_PADDING with
  | none => (E_FAIL, 0)
  | some attrib => (S_OK, attrib.size)

/-- The two bytes are read whatever the size of the attribute is. -/
def getErrorCode (r : CStunMessageReader) : Except HRESULT UInt16 :=
  match r.mapAttributes.lookup STUN_ATTRIBUTE_ERRORCODE with
  | none => .error E_FAIL
  | some attrib =>
    let ptr := r.dataAt (attrib.offset.toNat + 2) 2
    let cl := ptr.getD 0 0 &&& 0x07
    let num := ptr.getD 1 0
    .ok (UInt16.ofNat (cl.toNat * 100 + num.toNat))

def getAddressHelper (attribType : UInt16) (r : CStunMessageReader) : Except HRESULT CSocketAddress :=
  match r.mapAttributes.lookup attribType with
  | none => .error E_FAIL
  | some attrib => Source.getMappedAddress (r.dataAt attrib.offset.toNat attrib.size.toNat)

/-- The second attribute is tried when the first one does not give an address. -/
def getAddressFallback (attribType legacyType : UInt16) (r : CStunMessageReader) : Except HRESULT CSocketAddress :=
  match r.getAddressHelper attribType with
  | .ok addr => .ok addr
  | .error _ => r.getAddressHelper legacyType

def getMappedAddress (r : CStunMessageReader) : Except HRESULT CSocketAddress :=
  r.getAddressHelper STUN_ATTRIBUTE_MAPPEDADDRESS

def getOtherAddress (r : CStunMessageReader) : Except HRESULT CSocketAddress :=
  r.getAddressFallback STUN_ATTRIBUTE_OTHER_ADDRESS STUN_ATTRIBUTE_CHANGEDADDRESS

def getXorMappedAddress (r : CStunMessageReader) : Except HRESULT CSocketAddress :=
  (r.getAddressFallback STUN_ATTRIBUTE_XORMAPPEDADDRESS STUN_ATTRIBUTE_XORMAPPEDADDRESS_OPTIONAL).map
    fun addr => addr.applyStunXorMap r.transactionid

def getResponseOriginAddress (r : CStunMessageReader) : Except HRESULT CSocketAddress :=
  r.getAddressFallback STUN_ATTRIBUTE_RESPONSE_ORIGIN STUN_ATTRIBUTE_SOURCEADDRESS

/-- `GetStringAttributeByType(attributeType, pszValue, size)`: the bytes copied to
`pszValue`, its terminating NUL included. -/
def getStringAttributeByType (attributeType : UInt16) (size : Nat) (r : CStunMessageReader) :
    Except HRESULT Bytes :=
  match r.mapAttributes.lookup attributeType with
  | none => .error E_INVALIDARG
  | some attrib =>
    if attrib.size.toNat ≥ size then .error E_INVALIDARG
    else .ok (r.dataAt attrib.offset.toNat attrib.size.toNat ++ [0])

/-! ## Fingerprint and integrity -/

variable [Digests]

def isFingerprintAttributeValid (r : CStunMessageReader) : Bool :=
  match r.mapAttributes.lookup STUN_ATTRIBUTE_FINGERPRINT with
  | none => false
  | some attrib =>
    if attrib.attributeType ≠ STUN_ATTRIBUTE_FINGERPRINT ∨ attrib.size ≠ 4 ∨ r.state ≠ .bodyValidated ∨
        r.stream.spBuffer.isNone ∨ r.stream.getSize < STUN_HEADER_SIZE ∨ r.dataPointerNull then false
    else
      let computedValue := Digests.crc32 (r.dataAt 0 (r.stream.getSize - 8)) ^^^ STUN_FINGERPRINT_XOR
      let readValue := ntohl (UInt32.ofNat (ofLeOctets (r.dataAt attrib.offset.toNat 4)))
      readValue = computedValue

/-- The loop over the 32-bit chunks: the bytes given to `HMAC_Update`. -/
def readChunks : Nat → Hr CDataStream Bytes
  | 0 => pure []
  | nChunks + 1 => do
    let chunk32 ← CDataStream.readUint32
    let rest ← readChunks nChunks
    pure (leOctets 4 chunk32.toNat ++ rest)

/-- All bytes given to `HMAC_Update`, for an integrity attribute whose value is at `offset`. -/
def readHashed (fFingerprintAdjustment : Bool) (offset : Nat) : Hr CDataStream Bytes := do
  let chunk16 ← CDataStream.readUint16
  let length16 ← CDataStream.readUint16
  let length16 := if fFingerprintAdjustment then htons (ntohs length16 - 8) else length16
  -- the offset of a value is at least 24
  let len := offset - 4 - 4
  let rest ← readChunks (len / 4)
  pure (leOctets 2 chunk16.toNat ++ leOctets 2 length16.toNat ++ rest)

def validateMessageIntegrity (key : Bytes) (r : CStunMessageReader) : HRESULT :=
  let lastAttributeIndex := r.countAttributes - 1
  if r.state ≠ .bodyValidated then E_FAIL
  else if r.countAttributes = 0 then E_FAIL
  else if r.indexMessageIntegrity = -1 then E_FAIL
  else if key.length = 0 then E_INVALIDARG
  else
    match r.mapAttributes.lookup STUN_ATTRIBUTE_MESSAGEINTEGRITY with
    | none => E_FAIL
    | some attribIntegrity =>
      if attribIntegrity.size ≠ 20 then E_FAIL
      else if ¬ (r.indexMessageIntegrity = lastAttributeIndex ∨
          (r.indexMessageIntegrity = lastAttributeIndex - 1 ∧ r.indexFingerprint = lastAttributeIndex)) then E_FAIL
      else
        match r.stream.spBuffer with
        | none => E_FAIL
        | some spBuffer =>
          let fFingerprintAdjustment := decide (r.indexMessageIntegrity = lastAttributeIndex - 1)
          match Proc.exec (readHashed fFingerprintAdjustment attribIntegrity.offset.toNat)
              (CDataStream.attach spBuffer false) with
          | (.error hr, _) => hr
          | (.ok hashed, _) =>
            if Digests.hmacSha1 key hashed = r.dataAt attribIntegrity.offset.toNat 20 then S_OK else E_FAIL

def validateMessageIntegrityShort (pszPassword : Bytes) (r : CStunMessageReader) : HRESULT :=
  r.validateMessageIntegrity (cstr pszPassword)

/-- The lengths are not compared with the size of the key array. -/
def validateMessageIntegrityLong (pszUser pszRealm pszPassword : Bytes) (r : CStunMessageReader) : HRESULT :=
  if r.state ≠ .bodyValidated then E_FAIL
  else if r.dataPointerNull then E_FAIL
  else r.validateMessageIntegrity (Digests.md5 (longTermText pszUser pszRealm pszPassword))

end CStunMessageReader

end NatTester.Source
