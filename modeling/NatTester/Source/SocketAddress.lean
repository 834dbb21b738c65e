import NatTester.Source.DataStream
import NatTester.Source.StunTypes

/-!
# CSocketAddress

`socketaddress.cpp`, and `GetMappedAddress` of `stunutils.cpp`. An address is its
family, the octets of its IP in network order and its port. The flow and scope
fields of `sockaddr_in6` are never read and left out.
-/
namespace NatTester.Source
open NatTester.Lib

/-- `AF_INET`, `AF_INET6` -/
inductive AddressFamily where
  | inet | inet6
  deriving DecidableEq, Repr

def AddressFamily.ipLength : AddressFamily → Nat
  | .inet => 4
  | .inet6 => 16

@[ext] structure CSocketAddress where
  family : AddressFamily
  ip : Bytes
  port : UInt16
  ip_length : ip.length = family.ipLength
  deriving DecidableEq, Repr

/-- Byte-wise XOR with a key. -/
def xorBytes (bs key : Bytes) : Bytes := List.zipWith (· ^^^ ·) bs key

theorem xorBytes_length {bs key : Bytes} (h : bs.length ≤ key.length) :
    (xorBytes bs key).length = bs.length := by
  simp [xorBytes, Nat.min_eq_left h]

/-- XOR with the same key twice gives the bytes back. -/
theorem xorBytes_xorBytes {bs key : Bytes} (h : bs.length ≤ key.length) :
    xorBytes (xorBytes bs key) key = bs := by
  induction bs generalizing key with
  | nil => rfl
  | cons b bs ih =>
    cases key with
    | nil => simp at h
    | cons k key =>
      have hxor : b ^^^ k ^^^ k = b := by rw [UInt8.xor_assoc, UInt8.xor_self, UInt8.xor_zero]
      have htail := @ih key (by simpa using h)
      simp only [xorBytes] at htail
      simp [xorBytes, hxor, htail]

namespace CSocketAddress

/-- `CSocketAddress()` -/
def zero : CSocketAddress := ⟨.inet, [0, 0, 0, 0], 0, rfl⟩

/-- `CSocketAddress(uint32_t ip, uint16_t port)`, both in host order. -/
def ofIp4 (ip : UInt32) (port : UInt16) : CSocketAddress :=
  ⟨.inet, leOctets 4 (htonl ip).toNat, port, leOctets_length 4 _⟩

theorem padded_length (ip : Bytes) : ((ip ++ List.replicate 16 0).take 16).length = AddressFamily.inet6.ipLength := by
  simp [AddressFamily.ipLength]

/-- `CSocketAddress(addr6)` for a zeroed `addr6` with its family, port and `ip` set. -/
def ofIp6 (ip : Bytes) (port : UInt16) : CSocketAddress :=
  ⟨.inet6, (ip ++ List.replicate 16 0).take 16, port, padded_length ip⟩

def getPort (a : CSocketAddress) : UInt16 := a.port
def getPort_NBO (a : CSocketAddress) : UInt16 := htons a.port
def setPort (a : CSocketAddress) (port : UInt16) : CSocketAddress := { a with port }
def getIPLength (a : CSocketAddress) : Nat := a.family.ipLength

/-- `GetIP_NBO` into a buffer long enough for either family. -/
def getIP_NBO (a : CSocketAddress) : Bytes := a.ip

/-- The two octets of the port field and the octets of the IP field are XORed
with the transaction id from its first octet on. -/
def applyStunXorMap (a : CSocketAddress) (transid : StunTransactionId) : CSocketAddress :=
  { a with
    port := ofBe16 (xorBytes (be16 a.port) transid.id)
    ip := xorBytes a.ip transid.id
    ip_length := by
      have hid : transid.id.length = 16 := transid.id_length
      have hip := a.ip_length
      rw [xorBytes_length, hip]
      cases hf : a.family <;> rw [hf] at hip <;> simp_all [AddressFamily.ipLength] }

def isSameIP (a b : CSocketAddress) : Bool := a.family = b.family ∧ a.ip = b.ip

def isSameIP_and_Port (a b : CSocketAddress) : Bool := a.isSameIP b ∧ a.getPort = b.getPort

def isIPAddressZero (a : CSocketAddress) : Bool := a.ip = List.replicate a.getIPLength 0

theorem isSameIP_and_Port_iff {a b : CSocketAddress} : a.isSameIP_and_Port b = true ↔ a = b := by
  simp only [isSameIP_and_Port, isSameIP, getPort, decide_eq_true_eq, CSocketAddress.ext_iff]
  tauto

theorem ip_length_le (a : CSocketAddress) (transid : StunTransactionId) :
    a.ip.length ≤ transid.id.length := by
  have hid : transid.id.length = 16 := transid.id_length
  have hip := a.ip_length
  cases hf : a.family <;> rw [hf] at hip <;> simp_all [AddressFamily.ipLength]

/-- The XOR mapping is its own inverse. -/
@[simp] theorem applyStunXorMap_twice (a : CSocketAddress) (transid : StunTransactionId) :
    (a.applyStunXorMap transid).applyStunXorMap transid = a := by
  have hid : transid.id.length = 16 := transid.id_length
  have hport : (be16 a.port).length ≤ transid.id.length := by simp [hid]
  ext1
  · rfl
  · exact xorBytes_xorBytes (a.ip_length_le transid)
  · simp only [applyStunXorMap]
    rw [be16_ofBe16 (by rw [xorBytes_length hport, be16_length]), xorBytes_xorBytes hport,
      ofBe16_be16]

@[simp] theorem ofIp4_ip (ip : UInt32) (port : UInt16) : (ofIp4 ip port).ip = be32 ip :=
  leOctets_htonl ip

/-- The octets of an address attribute. -/
def familyField (a : CSocketAddress) : UInt8 :=
  if a.family = .inet then STUN_ATTRIBUTE_FIELD_IPV4 else STUN_ATTRIBUTE_FIELD_IPV6

def wireValue (a : CSocketAddress) : Bytes := 0 :: a.familyField :: (be16 a.port ++ a.ip)

theorem wireValue_length (a : CSocketAddress) :
    a.wireValue.length = if a.family = .inet then 8 else 20 := by
  have hip := a.ip_length
  cases hf : a.family <;> rw [hf] at hip <;>
    simp_all [wireValue, AddressFamily.ipLength]

end CSocketAddress

/-- The reads of `GetMappedAddress` on a stream over the attribute value. -/
def readMappedAddress : Hr CDataStream CSocketAddress := do
  CDataStream.seekDirect 1
  let attributeid ← CDataStream.readUint8
  let port ← CDataStream.readUint16
  let port := ntohs port
  if attributeid = STUN_ATTRIBUTE_FIELD_IPV4 then do
    let ip4 ← CDataStream.readUint32
    pure (CSocketAddress.ofIp4 (ntohl ip4) port)
  else do
    let ip6 ← CDataStream.read 16
    pure (CSocketAddress.ofIp6 ip6 port)

/-- `::GetMappedAddress(pData, size, pAddr)`; `pAddr` is only set on success. -/
def getMappedAddress (pData : Bytes) : Except HRESULT CSocketAddress :=
  (Proc.exec readMappedAddress (CDataStream.attach (CBuffer.initNoAlloc pData) false)).1

/-- The stream over an attribute value with its cursor at `p`. -/
private abbrev valueStream (v : Bytes) (p : Nat) : CDataStream := ⟨some (CBuffer.initNoAlloc v), p, false, none⟩

/-- What `GetMappedAddress` makes of every attribute value. -/
theorem getMappedAddress_eq (v : Bytes) :
    getMappedAddress v =
      if v.length = 0 then .error E_FAIL
      else if v.length < 4 then .error E_INVALIDARG
      else if v.getD 1 0 = STUN_ATTRIBUTE_FIELD_IPV4 then
        if 8 ≤ v.length then
          .ok (CSocketAddress.ofIp4 (ofBe32 (slice 4 4 v)) (ofBe16 (slice 2 2 v)))
        else .error E_INVALIDARG
      else if 20 ≤ v.length then .ok (CSocketAddress.ofIp6 (slice 4 16 v) (ofBe16 (slice 2 2 v)))
      else .error E_INVALIDARG := by
  have hsize : ∀ n, (valueStream v n).getSize = v.length := fun _ => rfl
  have hmem : ∀ n, (valueStream v n).memory = v := fun _ => rfl
  have hseek := CDataStream.exec_seekDirect 1 (valueStream v 0)
  have hfam := CDataStream.exec_readUint8 (valueStream v 1)
  have hport := CDataStream.exec_readUint16 (valueStream v 2)
  have hip4 := CDataStream.exec_readUint32 (valueStream v 4)
  have hip6 := CDataStream.exec_read 16 (valueStream v 4)
  simp only [hsize, hmem] at hseek hfam hport hip4 hip6
  unfold getMappedAddress readMappedAddress
  change (Proc.exec _ (valueStream v 0)).1 = _
  by_cases h0 : v.length = 0
  · rw [if_neg (by omega)] at hseek
    rw [Proc.exec_bind_error hseek, if_pos h0]
  rw [if_pos (by omega)] at hseek
  rw [Proc.exec_bind_ok hseek, if_neg h0]
  by_cases h4 : v.length < 4
  · rw [if_pos h4]
    rw [if_neg (by omega)] at hport
    by_cases h2 : 2 ≤ v.length
    · rw [if_pos h2] at hfam
      rw [Proc.exec_bind_ok hfam, Proc.exec_bind_error hport]
    · rw [if_neg h2] at hfam
      rw [Proc.exec_bind_error hfam]
  rw [if_pos (by omega)] at hfam hport
  have hfamily : UInt8.ofNat (ofLeOctets (slice 1 1 v)) = v.getD 1 0 := by
    match v, h4 with
    | _ :: b :: _, _ => simp [slice, ofLeOctets]
  rw [Proc.exec_bind_ok hfam, Proc.exec_bind_ok hport, if_neg h4, hfamily,
    ntohs_ofLeOctets (slice_length_of_le (by omega)), Proc.exec_ite]
  split
  · by_cases h8 : 8 ≤ v.length
    · rw [if_pos h8] at hip4
      rw [Proc.exec_bind_ok hip4, if_pos h8, ntohl_ofLeOctets (slice_length_of_le (by omega))]
      rfl
    · rw [if_neg h8] at hip4
      rw [Proc.exec_bind_error hip4, if_neg h8]
  · by_cases h20 : 20 ≤ v.length
    · rw [if_pos h20] at hip6
      rw [Proc.exec_bind_ok hip6, if_pos h20]
      rfl
    · rw [if_neg h20] at hip6
      rw [Proc.exec_bind_error hip6, if_neg h20]

/-- The value written for an address is read back as that address. -/
theorem getMappedAddress_wireValue (a : CSocketAddress) : getMappedAddress a.wireValue = .ok a := by
  have hlen := a.wireValue_length
  have hip := a.ip_length
  have hport : slice 2 2 a.wireValue = be16 a.port := by
    have h := slice_append_right [0, a.familyField] (be16 a.port ++ a.ip) 2 2 rfl
    have h2 := be16_length a.port
    rwa [List.take_append_of_le_length (by omega), List.take_of_length_le (by omega)] at h
  have hrest : a.wireValue.drop 4 = a.ip := by
    have h2 := be16_length a.port
    simp [CSocketAddress.wireValue, h2]
  rw [getMappedAddress_eq, hport, ofBe16_be16]
  cases hf : a.family with
  | inet =>
    rw [hf] at hlen hip
    have hfield : a.familyField = STUN_ATTRIBUTE_FIELD_IPV4 := by simp [CSocketAddress.familyField, hf]
    have h4 : a.ip.length = 4 := hip
    have hslice : slice 4 4 a.wireValue = a.ip := by
      rw [slice, hrest, List.take_of_length_le (by omega)]
    simp only [↓reduceIte] at hlen
    rw [hlen, hslice]
    simp only [CSocketAddress.wireValue, hfield, List.getD_cons_succ, List.getD_cons_zero]
    simp only [OfNat.ofNat_ne_zero, ↓reduceIte, Nat.reduceLT, Nat.le_refl, Except.ok.injEq]
    ext1
    · exact hf.symm
    · rw [CSocketAddress.ofIp4_ip, be32_ofBe32 h4]
    · rfl
  | inet6 =>
    rw [hf] at hlen hip
    have hfield : a.familyField = STUN_ATTRIBUTE_FIELD_IPV6 := by simp [CSocketAddress.familyField, hf]
    have h16 : a.ip.length = 16 := hip
    have hslice : slice 4 16 a.wireValue = a.ip := by
      rw [slice, hrest, List.take_of_length_le (by omega)]
    simp only [reduceCtorEq, ↓reduceIte] at hlen
    rw [hlen, hslice]
    simp only [CSocketAddress.wireValue, hfield, List.getD_cons_succ, List.getD_cons_zero]
    simp only [OfNat.ofNat_ne_zero, ↓reduceIte, Nat.reduceLT, Nat.le_refl, Except.ok.injEq,
      show STUN_ATTRIBUTE_FIELD_IPV6 ≠ STUN_ATTRIBUTE_FIELD_IPV4 by decide]
    ext1
    · exact hf.symm
    · simp [CSocketAddress.ofIp6, ← h16]
    · rfl

/-! ## The output address -/

/-- A call on the stream over the value, with the object behind `pAddr` at hand. -/
def onValue {α : Type} (m : Hr CDataStream α) : Hr (CDataStream × CSocketAddress) α :=
  Proc.zoom Prod.fst (fun stream s => (stream, s.2)) m

/-- The statements of `GetMappedAddress`, with its two assignments to `*pAddr`. -/
def storeMappedAddress : Hr (CDataStream × CSocketAddress) Unit := do
  onValue (CDataStream.seekDirect 1)
  let attributeid ← onValue CDataStream.readUint8
  let port ← onValue CDataStream.readUint16
  let port := ntohs port
  if attributeid = STUN_ATTRIBUTE_FIELD_IPV4 then do
    let ip4 ← onValue CDataStream.readUint32
    modify fun s => (s.1, CSocketAddress.ofIp4 (ntohl ip4) port)
  else do
    let ip6 ← onValue (CDataStream.read 16)
    modify fun s => (s.1, CSocketAddress.ofIp6 ip6 port)

/-- `::GetMappedAddress(pData, size, &addr)`: its result, and `addr` afterwards. -/
def getMappedAddressInto (pData : Bytes) (addr : CSocketAddress) : Except HRESULT Unit × CSocketAddress :=
  let done := Proc.exec storeMappedAddress (CDataStream.attach (CBuffer.initNoAlloc pData) false, addr)
  (done.1, done.2.2)

theorem exec_onValue_bind {α β : Type} (m : Hr CDataStream α) (f : α → Hr (CDataStream × CSocketAddress) β)
    (s : CDataStream) (addr : CSocketAddress) :
    Proc.exec (onValue m >>= f) (s, addr) =
      match Proc.exec m s with
      | (.ok a, t) => Proc.exec (f a) (t, addr)
      | (.error hr, t) => (.error hr, (t, addr)) := by
  rw [Proc.exec_bind, onValue, Proc.exec_zoom]
  rcases Proc.exec m s with ⟨_ | _, t⟩ <;> rfl

/-- `*pAddr` gets the address that was read, or stays as it was. -/
theorem getMappedAddressInto_eq (pData : Bytes) (addr : CSocketAddress) :
    getMappedAddressInto pData addr =
      match getMappedAddress pData with
      | .ok read => (.ok (), read)
      | .error hr => (.error hr, addr) := by
  have hstore : ∀ s, Proc.exec storeMappedAddress (s, addr) =
      match Proc.exec readMappedAddress s with
      | (.ok read, t) => (.ok (), (t, read))
      | (.error hr, t) => (.error hr, (t, addr)) := by
    intro s
    unfold storeMappedAddress readMappedAddress
    rw [exec_onValue_bind, Proc.exec_bind]
    rcases Proc.exec (CDataStream.seekDirect 1) s with ⟨_ | _, s⟩
    · rfl
    dsimp only
    rw [exec_onValue_bind, Proc.exec_bind]
    rcases Proc.exec CDataStream.readUint8 s with ⟨_ | attributeid, s⟩
    · rfl
    dsimp only
    rw [exec_onValue_bind, Proc.exec_bind]
    rcases Proc.exec CDataStream.readUint16 s with ⟨_ | port, s⟩
    · rfl
    dsimp only
    rw [Proc.exec_ite, Proc.exec_ite]
    split
    · rw [exec_onValue_bind, Proc.exec_bind]
      rcases Proc.exec CDataStream.readUint32 s with ⟨_ | ip4, s⟩ <;> rfl
    · rw [exec_onValue_bind, Proc.exec_bind]
      rcases Proc.exec (CDataStream.read 16) s with ⟨_ | ip6, s⟩ <;> rfl
  rw [getMappedAddressInto, hstore, getMappedAddress]
  rcases Proc.exec readMappedAddress (CDataStream.attach (CBuffer.initNoAlloc pData) false) with ⟨_ | _, t⟩ <;> rfl

end NatTester.Source
