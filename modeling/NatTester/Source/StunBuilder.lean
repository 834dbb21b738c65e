import NatTester.Source.SocketAddress
import NatTester.Source.StunAuth

/-!
# CStunMessageBuilder

`stunbuilder.cpp`. A message is written front to back; the length field is
patched afterwards. A `char*` argument is the memory it points at, `none` is NULL.
-/
namespace NatTester.Source
open NatTester.Lib

structure CStunMessageBuilder where
  stream : CDataStream
  transactionid : StunTransactionId
  fLegacyMode : Bool
  deriving DecidableEq, Repr

/-- What `AddRandomTransactionId` finds: the results of `rand()` after `srand(entropy)`,
and the contents of its uninitialised local. -/
structure RandomSource where
  rand : Nat → Nat
  uninitialised : StunTransactionId

/-- The id it makes: the cookie, then the bytes 4 to 11 from `rand()`. -/
def RandomSource.transactionId (source : RandomSource) : StunTransactionId where
  id := (List.range (STUN_TRANSACTION_ID_LENGTH - 4 - 4)).foldl
    (fun id k => id.set (4 + k) (UInt8.ofNat (source.rand k % 256)))
    (splice 0 (leOctets 4 (htonl STUN_COOKIE).toNat) source.uninitialised.id)
  id_length := by
    have hlen : ∀ (ks : List Nat) (id : Bytes),
        (ks.foldl (fun id k => id.set (4 + k) (UInt8.ofNat (source.rand k % 256))) id).length = id.length := by
      intro ks
      induction ks with
      | nil => exact fun _ => rfl
      | cons k ks ih => exact fun id => (ih _).trans (List.length_set ..)
    have hid : source.uninitialised.id.length = 16 := source.uninitialised.id_length
    rw [hlen, splice_length (Nat.zero_le _), leOctets_length, hid]
    rfl

namespace CStunMessageBuilder

/-- `CStunMessageBuilder()` -/
def new : CStunMessageBuilder := ⟨CDataStream.empty, StunTransactionId.zero, false⟩

/-- `builder.GetStream().Attach(buf, true)` on a new builder. -/
def newOn (buf : CBuffer) : CStunMessageBuilder := { new with stream := CDataStream.attach buf true }

def setLegacyMode (fLegacyMode : Bool) : Hr CStunMessageBuilder Unit := modify fun b => { b with fLegacyMode }

def onStream {α : Type} (m : Hr CDataStream α) : Hr CStunMessageBuilder α :=
  Proc.zoom (·.stream) (fun stream b => { b with stream }) m

variable [Platform]

/-- `if (size > 0) Chk(_stream.Write(data, size))` -/
def writeSome (bytes : Bytes) : Hr CStunMessageBuilder Unit :=
  if bytes.length > 0 then onStream (CDataStream.write bytes) else pure ()

/-- The octets from `size` to the next multiple of four. -/
def alignment (size : Nat) : Nat := if size % 4 ≠ 0 then 4 - size % 4 else 0

/-- The type field: the leading zero bits, the method and the class bits. -/
def msgTypeField (msgType : StunMessageType) (msgClass : StunMessageClass) : UInt16 :=
  ((msgType &&& 0x0f80) <<< (2 : UInt16)) ||| ((msgType &&& 0x0070) <<< (1 : UInt16)) |||
    (msgType &&& 0x000f) ||| ((msgClass.toUInt16 &&& 0x02) <<< (7 : UInt16)) |||
    ((msgClass.toUInt16 &&& 0x01) <<< (4 : UInt16))

def addHeader (msgType : StunMessageType) (msgClass : StunMessageClass) : Hr CStunMessageBuilder Unit := do
  onStream (CDataStream.setSizeHint 200)
  onStream (CDataStream.writeUint16 (htons (msgTypeField msgType msgClass)))
  -- place holder for length
  onStream (CDataStream.writeUint16 0)

def addBindingRequestHeader : Hr CStunMessageBuilder Unit := addHeader StunMsgTypeBinding .request

def addTransactionId (transid : StunTransactionId) : Hr CStunMessageBuilder Unit := do
  modify fun b => { b with transactionid := transid }
  onStream (CDataStream.write transid.id)

/-- The id is also handed to the caller. -/
def addRandomTransactionId (source : RandomSource) : Hr CStunMessageBuilder StunTransactionId := do
  addTransactionId source.transactionId
  pure source.transactionId

def addAttributeHeader (attribType size : UInt16) : Hr CStunMessageBuilder Unit := do
  onStream (CDataStream.writeUint16 (htons attribType))
  onStream (CDataStream.writeUint16 (htons size))

/-- In legacy mode the length counts the padding. It is not cleared for a NULL pointer. -/
def addAttribute (attribType : UInt16) (data : Option Bytes) (size : UInt16) : Hr CStunMessageBuilder Unit := do
  let b ← get
  let bytes := match data with
    | none => []
    | some data => data.take size.toNat
  let padding := alignment bytes.length
  addAttributeHeader attribType (if b.fLegacyMode then size + UInt16.ofNat padding else size)
  writeSome bytes
  writeSome (List.replicate padding 0)

def addStringAttribute (attribType : UInt16) (pstr : Option Bytes) : Hr CStunMessageBuilder Unit := do
  let str := cstr (pstr.getD [])
  chkIf (str = []) E_INVALIDARG
  addAttribute attribType (some str) (UInt16.ofNat str.length)

def addErrorCode (errorNumber : UInt16) (pszReason : Option Bytes) : Hr CStunMessageBuilder Unit := do
  let reason := cstr (pszReason.getD [])
  let size := reason.length + 4
  chkIf (reason.length ≥ 128) E_INVALIDARG
  chkIf (errorNumber < 300) E_INVALIDARG
  chkIf (errorNumber > 600) E_INVALIDARG
  let b ← get
  let padding := alignment size
  addAttributeHeader STUN_ATTRIBUTE_ERRORCODE
    (UInt16.ofNat (if b.fLegacyMode then size + padding else size))
  onStream (CDataStream.writeUint16 0)
  onStream (CDataStream.writeUint8 (UInt8.ofNat (errorNumber.toNat / 100)))
  onStream (CDataStream.writeUint8 (UInt8.ofNat (errorNumber.toNat % 100)))
  Proc.ignore (writeSome reason)
  writeSome (List.replicate padding 0)

/-- The ids are written as they lie in memory. -/
def addUnknownAttributes (arr : Option (List UInt16)) : Hr CStunMessageBuilder Unit := do
  let ids := arr.getD []
  let unpaddedsize := UInt16.ofNat (ids.length * 2)
  chkIf (arr = none) E_INVALIDARG
  chkIf (ids.length ≤ 0) E_INVALIDARG
  let b ← get
  let fPad := b.fLegacyMode && decide (ids.length % 2 ≠ 0)
  addAttributeHeader STUN_ATTRIBUTE_UNKNOWNATTRIBUTES (if fPad then unpaddedsize + 2 else unpaddedsize)
  onStream (CDataStream.write ((ids.flatMap fun id => leOctets 2 id.toNat).take unpaddedsize.toNat))
  if fPad then Proc.ignore (onStream (CDataStream.write (leOctets 2 (ids.getLastD 0).toNat))) else pure ()

def addMappedAddressImpl (attribType : UInt16) (addr : CSocketAddress) : Hr CStunMessageBuilder Unit := do
  let family := addr.familyField
  let attributeSize := if family = STUN_ATTRIBUTE_FIELD_IPV4 then STUN_ATTRIBUTE_MAPPEDADDRESS_SIZE_IPV4
    else STUN_ATTRIBUTE_MAPPEDADDRESS_SIZE_IPV6
  addAttributeHeader attribType attributeSize
  onStream (CDataStream.writeUint8 0)
  onStream (CDataStream.writeUint8 family)
  onStream (CDataStream.writeUint16 addr.getPort_NBO)
  onStream (CDataStream.write addr.getIP_NBO)

def addXorMappedAddress (addr : CSocketAddress) : Hr CStunMessageBuilder Unit := do
  let b ← get
  addMappedAddressImpl
    (if b.fLegacyMode then STUN_ATTRIBUTE_XORMAPPEDADDRESS_OPTIONAL else STUN_ATTRIBUTE_XORMAPPEDADDRESS)
    (addr.applyStunXorMap b.transactionid)

def addMappedAddress (addr : CSocketAddress) : Hr CStunMessageBuilder Unit :=
  addMappedAddressImpl STUN_ATTRIBUTE_MAPPEDADDRESS addr

def addResponseOriginAddress (addr : CSocketAddress) : Hr CStunMessageBuilder Unit := do
  let b ← get
  addMappedAddressImpl (if b.fLegacyMode then STUN_ATTRIBUTE_SOURCEADDRESS else STUN_ATTRIBUTE_RESPONSE_ORIGIN) addr

def addOtherAddress (addr : CSocketAddress) : Hr CStunMessageBuilder Unit := do
  let b ← get
  addMappedAddressImpl (if b.fLegacyMode then STUN_ATTRIBUTE_CHANGEDADDRESS else STUN_ATTRIBUTE_OTHER_ADDRESS) addr

def addResponsePort (port : UInt16) : Hr CStunMessageBuilder Unit :=
  addAttribute STUN_ATTRIBUTE_RESPONSE_PORT (some (leOctets 2 (htons port).toNat)) 2

/-- `PADDING_BUFFER_SIZE` -/
def paddingBufferSize : Nat := 128

/-- The loop that writes the zero octets block by block. -/
def writePadding : Nat → Nat → Hr CStunMessageBuilder Unit
  | 0, _ => pure ()
  | fuel + 1, paddingSize =>
    if paddingSize > 0 then do
      let blocksize := if paddingSize ≥ paddingBufferSize then paddingBufferSize else paddingSize
      onStream (CDataStream.write (List.replicate blocksize 0))
      writePadding fuel (paddingSize - blocksize)
    else pure ()

/-- The size is rounded up as a `uint16_t`. -/
def addPaddingAttribute (paddingSize : UInt16) : Hr CStunMessageBuilder Unit := do
  let paddingSize := if paddingSize % 4 ≠ 0 then paddingSize + 4 - paddingSize % 4 else paddingSize
  addAttributeHeader STUN_ATTRIBUTE_PADDING paddingSize
  writePadding paddingSize.toNat paddingSize.toNat

def addChangeRequest (changeAttrib : StunChangeRequestAttribute) : Hr CStunMessageBuilder Unit := do
  let changeData : UInt32 := (if changeAttrib.fChangeIP then 0x04 else 0) ||| (if changeAttrib.fChangePort then 0x02 else 0)
  addAttribute STUN_ATTRIBUTE_CHANGEREQUEST (some (leOctets 4 (htonl changeData).toNat)) 4

def addUserName (pszUserName : Option Bytes) : Hr CStunMessageBuilder Unit :=
  addStringAttribute STUN_ATTRIBUTE_USERNAME pszUserName

def addNonce (pszNonce : Option Bytes) : Hr CStunMessageBuilder Unit :=
  addStringAttribute STUN_ATTRIBUTE_NONCE pszNonce

def addRealm (pszRealm : Option Bytes) : Hr CStunMessageBuilder Unit :=
  addStringAttribute STUN_ATTRIBUTE_REALM pszRealm

/-- Patch the length field and return to where the stream was. -/
def fixLengthField : Hr CStunMessageBuilder Unit := do
  let b ← get
  let size := b.stream.getSize
  let currentPos := b.stream.pos
  chkIf (size < STUN_HEADER_SIZE) E_UNEXPECTED
  onStream (CDataStream.seekDirect 2)
  onStream (CDataStream.writeUint16 (ntohs (UInt16.ofNat (size - STUN_HEADER_SIZE))))
  onStream (CDataStream.seekDirect currentPos)

/-- The buffer is shared with the stream, not copied. -/
def getResult : Hr CStunMessageBuilder (Option CBuffer) := do
  fixLengthField
  let b ← get
  pure b.stream.spBuffer

section Digests
variable [Digests]

def addFingerprintAttribute : Hr CStunMessageBuilder Unit := do
  onStream (CDataStream.writeUint16 (htons STUN_ATTRIBUTE_FINGERPRINT))
  onStream (CDataStream.writeUint16 (htons 4))
  -- dummy value for start
  onStream (CDataStream.writeUint32 0)
  fixLengthField
  let b ← get
  -- everything but the last 8 bytes
  let value := Digests.crc32 (b.stream.memory.take (b.stream.getSize - 8)) ^^^ STUN_FINGERPRINT_XOR
  onStream (CDataStream.seekRelative (-4))
  onStream (CDataStream.writeUint32 (htonl value))

/-- Bytes written to the buffer itself, as HMAC writes its result. -/
def putBytes (pos : Nat) (bytes : Bytes) (b : CStunMessageBuilder) : CStunMessageBuilder :=
  { b with stream := { b.stream with spBuffer := b.stream.spBuffer.map fun buf => buf.store pos bytes } }

def addMessageIntegrityImpl (key : Bytes) : Hr CStunMessageBuilder Unit := do
  chkIf (key.length ≤ 0) E_INVALIDARG
  -- a zero HMAC value; with its header it adds 24 bytes
  addAttribute STUN_ATTRIBUTE_MESSAGEINTEGRITY (some (List.replicate 20 0)) 20
  fixLengthField
  let b ← get
  let length := b.stream.getSize - 24
  modify (putBytes (length + 4) (Digests.hmacSha1 key (b.stream.memory.take length)))

def addMessageIntegrityShortTerm (pszPassword : Bytes) : Hr CStunMessageBuilder Unit :=
  addMessageIntegrityImpl (cstr pszPassword)

/-- `MAX_KEY_SIZE` -/
def maxKeySize : Nat := MAX_STUN_AUTH_STRING_SIZE * 3 + 2

def addMessageIntegrityLongTerm (pszUserName pszRealm pszPassword : Bytes) : Hr CStunMessageBuilder Unit := do
  let text := longTermText pszUserName pszRealm pszPassword
  chkIf (text.length > maxKeySize) E_INVALIDARG
  addMessageIntegrityImpl (Digests.md5 text)

end Digests

end CStunMessageBuilder

end NatTester.Source
