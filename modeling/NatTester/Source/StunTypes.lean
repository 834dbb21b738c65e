import NatTester.Lib.Octets

/-!
# STUN constants and types

`stuntypes.h`, and the byte-order functions of the host. The host is
little-endian (`libs/armeabi`), so `htons` and `htonl` reverse the octets.
-/
namespace NatTester.Source
open NatTester.Lib

abbrev Bytes := List UInt8

def htons (v : UInt16) : UInt16 := UInt16.ofNat (ofLeOctets (beOctets 2 v.toNat))
def ntohs (v : UInt16) : UInt16 := htons v
def htonl (v : UInt32) : UInt32 := UInt32.ofNat (ofLeOctets (beOctets 4 v.toNat))
def ntohl (v : UInt32) : UInt32 := htonl v

/-- What a big-endian 16-bit field looks like on the wire. -/
def be16 (v : UInt16) : Bytes := beOctets 2 v.toNat
def be32 (v : UInt32) : Bytes := beOctets 4 v.toNat

def ofBe16 (bs : Bytes) : UInt16 := UInt16.ofNat (ofBeOctets bs)
def ofBe32 (bs : Bytes) : UInt32 := UInt32.ofNat (ofBeOctets bs)

@[simp] theorem be16_length (v : UInt16) : (be16 v).length = 2 := beOctets_length 2 v.toNat
@[simp] theorem be32_length (v : UInt32) : (be32 v).length = 4 := beOctets_length 4 v.toNat

theorem leOctets_htons (v : UInt16) : leOctets 2 (htons v).toNat = be16 v := by
  rw [htons, UInt16.toNat_ofNat', show 2 ^ 16 = 256 ^ 2 from rfl, leOctets_mod]
  have h := leOctets_ofLeOctets (beOctets 2 v.toNat)
  rwa [beOctets_length] at h

theorem be16_htons (v : UInt16) : be16 (htons v) = leOctets 2 v.toNat := by
  have hlt := ofLeOctets_lt (beOctets 2 v.toNat)
  have hle := leOctets_ofLeOctets (beOctets 2 v.toNat)
  rw [beOctets_length] at hlt hle
  rw [be16, htons, UInt16.toNat_ofNat_of_lt' hlt, beOctets, hle, beOctets, List.reverse_reverse]

theorem leOctets_htonl (v : UInt32) : leOctets 4 (htonl v).toNat = be32 v := by
  rw [htonl, UInt32.toNat_ofNat', show 2 ^ 32 = 256 ^ 4 from rfl, leOctets_mod]
  have h := leOctets_ofLeOctets (beOctets 4 v.toNat)
  rwa [beOctets_length] at h

theorem ntohs_ofLeOctets {bs : Bytes} (h : bs.length = 2) :
    ntohs (UInt16.ofNat (ofLeOctets bs)) = ofBe16 bs := by
  have hle := leOctets_ofLeOctets bs
  rw [h] at hle
  rw [ntohs, htons, UInt16.toNat_ofNat', show 2 ^ 16 = 256 ^ 2 from rfl, beOctets, leOctets_mod, hle]
  rfl

theorem ntohl_ofLeOctets {bs : Bytes} (h : bs.length = 4) :
    ntohl (UInt32.ofNat (ofLeOctets bs)) = ofBe32 bs := by
  have hle := leOctets_ofLeOctets bs
  rw [h] at hle
  rw [ntohl, htonl, UInt32.toNat_ofNat', show 2 ^ 32 = 256 ^ 4 from rfl, beOctets, leOctets_mod, hle]
  rfl

@[simp] theorem ofBe16_be16 (v : UInt16) : ofBe16 (be16 v) = v := by
  rw [ofBe16, be16, ofBeOctets_beOctets_of_lt v.toNat_lt, UInt16.ofNat_toNat]

@[simp] theorem ofBe32_be32 (v : UInt32) : ofBe32 (be32 v) = v := by
  rw [ofBe32, be32, ofBeOctets_beOctets_of_lt v.toNat_lt, UInt32.ofNat_toNat]

theorem be16_ofBe16 {bs : Bytes} (h : bs.length = 2) : be16 (ofBe16 bs) = bs := by
  rw [be16, ofBe16, UInt16.toNat_ofNat', show 2 ^ 16 = 256 ^ 2 from rfl, beOctets_mod,
    beOctets_ofBeOctets h]

theorem be32_ofBe32 {bs : Bytes} (h : bs.length = 4) : be32 (ofBe32 bs) = bs := by
  rw [be32, ofBe32, UInt32.toNat_ofNat', show 2 ^ 32 = 256 ^ 4 from rfl, beOctets_mod,
    beOctets_ofBeOctets h]

theorem toNat_ofBe16 {bs : Bytes} (h : bs.length = 2) : (ofBe16 bs).toNat = ofBeOctets bs := by
  have hlt := ofBeOctets_lt bs
  rw [h] at hlt
  exact UInt16.toNat_ofNat_of_lt' hlt

theorem ofBe32_eq_iff {bs : Bytes} (h : bs.length = 4) (v : UInt32) : ofBe32 bs = v ↔ bs = be32 v := by
  constructor
  · rintro rfl
    rw [be32_ofBe32 h]
  · rintro rfl
    rw [ofBe32_be32]

def STUN_ATTRIBUTE_MAPPEDADDRESS : UInt16 := 0x0001
def STUN_ATTRIBUTE_CHANGEREQUEST : UInt16 := 0x0003
def STUN_ATTRIBUTE_SOURCEADDRESS : UInt16 := 0x0004
def STUN_ATTRIBUTE_CHANGEDADDRESS : UInt16 := 0x0005
def STUN_ATTRIBUTE_USERNAME : UInt16 := 0x0006
def STUN_ATTRIBUTE_LEGACY_PASSWORD : UInt16 := 0x0007
def STUN_ATTRIBUTE_MESSAGEINTEGRITY : UInt16 := 0x0008
def STUN_ATTRIBUTE_ERRORCODE : UInt16 := 0x0009
def STUN_ATTRIBUTE_UNKNOWNATTRIBUTES : UInt16 := 0x000A
def STUN_ATTRIBUTE_REALM : UInt16 := 0x0014
def STUN_ATTRIBUTE_NONCE : UInt16 := 0x0015
def STUN_ATTRIBUTE_XORMAPPEDADDRESS : UInt16 := 0x0020
def STUN_ATTRIBUTE_PADDING : UInt16 := 0x0026
def STUN_ATTRIBUTE_RESPONSE_PORT : UInt16 := 0x0027
def STUN_ATTRIBUTE_XORMAPPEDADDRESS_OPTIONAL : UInt16 := 0x8020
def STUN_ATTRIBUTE_FINGERPRINT : UInt16 := 0x8028
def STUN_ATTRIBUTE_RESPONSE_ORIGIN : UInt16 := 0x802b
def STUN_ATTRIBUTE_OTHER_ADDRESS : UInt16 := 0x802c

def STUN_TRANSACTION_ID_LENGTH : Nat := 16

def STUN_ATTRIBUTE_FIELD_IPV4 : UInt8 := 1
def STUN_ATTRIBUTE_FIELD_IPV6 : UInt8 := 2

def STUN_ERROR_BADREQUEST : UInt16 := 400
def STUN_ERROR_UNAUTHORIZED : UInt16 := 401
def STUN_ERROR_UNKNOWNATTRIB : UInt16 := 420
def STUN_ERROR_STALENONCE : UInt16 := 438

def STUN_ATTRIBUTE_MAPPEDADDRESS_SIZE_IPV4 : UInt16 := 8
def STUN_ATTRIBUTE_MAPPEDADDRESS_SIZE_IPV6 : UInt16 := 20
def STUN_ATTRIBUTE_RESPONSE_PORT_SIZE : UInt16 := 2
def STUN_ATTRIBUTE_CHANGEREQUEST_SIZE : UInt16 := 4

def STUN_COOKIE : UInt32 := 0x2112A442
def STUN_FINGERPRINT_XOR : UInt32 := 0x5354554e
def DEFAULT_STUN_PORT : UInt16 := 3478
def STUN_HEADER_SIZE : Nat := 20
def MAX_STUN_MESSAGE_SIZE : Nat := 800
def MAX_STUN_ATTRIBUTE_SIZE : Nat := 780

/-- `enum StunMessageClass` -/
inductive StunMessageClass where
  | request | indication | successResponse | failureResponse | invalidMessageClass
  deriving DecidableEq, Repr

def StunMessageClass.toUInt16 : StunMessageClass → UInt16
  | .request => 0x00
  | .indication => 0x01
  | .successResponse => 0x02
  | .failureResponse => 0x03
  | .invalidMessageClass => 0xff

/-- `enum StunMessageType`; the code casts arbitrary 16-bit methods to it. -/
abbrev StunMessageType := UInt16

def StunMsgTypeBinding : StunMessageType := 0x0001

structure StunAttribute where
  attributeType : UInt16
  size : UInt16
  offset : UInt16
  deriving DecidableEq, Repr

structure StunChangeRequestAttribute where
  fChangeIP : Bool
  fChangePort : Bool
  deriving DecidableEq, Repr

def STUN_IS_REQUEST (msgType : UInt16) : Bool := msgType &&& 0x0110 = 0x0000
def STUN_IS_INDICATION (msgType : UInt16) : Bool := msgType &&& 0x0110 = 0x0010
def STUN_IS_SUCCESS_RESP (msgType : UInt16) : Bool := msgType &&& 0x0110 = 0x0100
def STUN_IS_ERR_RESP (msgType : UInt16) : Bool := msgType &&& 0x0110 = 0x0110

structure StunTransactionId where
  id : Bytes
  id_length : id.length = STUN_TRANSACTION_ID_LENGTH
  deriving DecidableEq, Repr

namespace StunTransactionId

/-- Zero-initialised. -/
def zero : StunTransactionId := ⟨List.replicate 16 0, rfl⟩

/-- The 16 bytes of the member array after copying `bs` over it. -/
def ofBytes (bs : Bytes) : StunTransactionId :=
  ⟨(bs ++ List.replicate 16 0).take 16, by simp [STUN_TRANSACTION_ID_LENGTH]⟩

@[simp] theorem ofBytes_id (transid : StunTransactionId) : ofBytes transid.id = transid := by
  obtain ⟨id, h⟩ := transid
  have h16 : id.length = 16 := h
  simp [ofBytes, ← h16]

theorem ofBytes_eq {bs : Bytes} (h : bs.length = 16) : (ofBytes bs).id = bs := by
  simp [ofBytes, ← h]

/-- `IsTransactionIdValid` -/
def isValid (transid : StunTransactionId) : Bool := transid ≠ zero

/-- The leading four octets are the magic cookie. -/
def hasCookie (transid : StunTransactionId) : Prop := transid.id.take 4 = be32 STUN_COOKIE

instance (transid : StunTransactionId) : Decidable transid.hasCookie :=
  inferInstanceAs (Decidable (_ = _))

theorem isValid_of_hasCookie {transid : StunTransactionId} (h : transid.hasCookie) :
    transid.isValid = true := by
  simp only [isValid, decide_eq_true_eq]
  rintro rfl
  exact absurd h (by decide)

end StunTransactionId

end NatTester.Source
