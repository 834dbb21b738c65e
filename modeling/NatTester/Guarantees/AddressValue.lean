import NatTester.Wire.Builder

/-!
# Address attributes and addresses

`GetMappedAddress` checks the family octet for IPv4 only and takes every other
value for IPv6. Apart from that it accepts exactly the address values, and the
builder writes the same octets again.
-/
namespace NatTester.Guarantees
open NatTester.Lib NatTester.Source NatTester.Wire CStunMessageBuilder

/-- The value is that of an address, of one of the two families. -/
def IsAddressValue (v : Bytes) : Prop :=
  (v.getD 1 0 = STUN_ATTRIBUTE_FIELD_IPV4 ∧ 8 ≤ v.length) ∨ (v.getD 1 0 = STUN_ATTRIBUTE_FIELD_IPV6 ∧ 20 ≤ v.length)

/-- The family, the port and the octets of the IP in the value. -/
def addressOctets (v : Bytes) : Bytes := slice 1 (if v.getD 1 0 = STUN_ATTRIBUTE_FIELD_IPV4 then 7 else 19) v

/-- What the builder writes for the address, behind the attribute header. -/
def encodedValue [Platform] (t : UInt16) (addr : CSocketAddress) : Bytes :=
  (Proc.exec (addMappedAddressImpl t addr) CStunMessageBuilder.new).2.stream.contents.drop 4

/-- The value is decoded exactly when it is that of an address, to an address that is written with the same octets, and
otherwise the output stays as it was. -/
structure DecodesAddress (v : Bytes) : Prop where
  succeeds : ∀ pAddr, (getMappedAddressInto v pAddr).1 = .ok () ↔ IsAddressValue v
  reencoded : ∀ pAddr, (getMappedAddressInto v pAddr).1 = .ok () → ∀ (platform : Platform) (t : UInt16),
    @encodedValue platform t (getMappedAddressInto v pAddr).2 = 0 :: addressOctets v
  unchanged : ∀ pAddr hr, (getMappedAddressInto v pAddr).1 = .error hr → (getMappedAddressInto v pAddr).2 = pAddr

theorem encodedValue_eq [Platform] (t : UInt16) (addr : CSocketAddress) : encodedValue t addr = addr.wireValue := by
  obtain ⟨_, b, hrun, hbuilt⟩ := addMappedAddressImpl_built t addr _ new_built
  have haligned : addr.wireValue.length % 4 = 0 := by
    rw [addr.wireValue_length]
    split <;> rfl
  have hcontents := hbuilt.holds.contents_eq
  rw [List.nil_append, modeValue_of_aligned false haligned, attributeBytes, paddingFor_of_aligned haligned] at hcontents
  have hheader : (be16 t ++ be16 (UInt16.ofNat addr.wireValue.length)).length = 4 := by simp
  rw [encodedValue, hrun, hcontents, List.append_assoc, ← hheader, List.drop_left]
  exact List.append_nil _

/-! ## Both directions -/

variable {v : Bytes}

theorem slice_family (hlen : 2 ≤ v.length) : slice 1 1 v = [v.getD 1 0] := by
  match v, hlen with
  | _ :: b :: _, _ => simp [slice]

theorem ipv4_octets (hfamily : v.getD 1 0 = STUN_ATTRIBUTE_FIELD_IPV4) (hlen : 8 ≤ v.length) :
    (CSocketAddress.ofIp4 (ofBe32 (slice 4 4 v)) (ofBe16 (slice 2 2 v))).wireValue = 0 :: addressOctets v := by
  have hip : be32 (ofBe32 (slice 4 4 v)) = slice 4 4 v := be32_ofBe32 (slice_length_of_le hlen)
  have hport : be16 (ofBe16 (slice 2 2 v)) = slice 2 2 v := be16_ofBe16 (slice_length_of_le (by omega))
  have hoctets : addressOctets v = v.getD 1 0 :: (slice 2 2 v ++ slice 4 4 v) := by
    rw [addressOctets, if_pos hfamily, show 7 = 1 + (2 + 4) from rfl, slice_add, slice_add, slice_family (by omega)]
    rfl
  rw [hoctets, CSocketAddress.wireValue, CSocketAddress.ofIp4_ip, hip, hfamily]
  simp [CSocketAddress.ofIp4, CSocketAddress.familyField, hport]

theorem ipv6_octets (hfamily : v.getD 1 0 = STUN_ATTRIBUTE_FIELD_IPV6) (hlen : 20 ≤ v.length) :
    (CSocketAddress.ofIp6 (slice 4 16 v) (ofBe16 (slice 2 2 v))).wireValue = 0 :: addressOctets v := by
  have hip : (slice 4 16 v ++ List.replicate 16 0).take 16 = slice 4 16 v := by
    rw [List.take_append_of_le_length, List.take_of_length_le] <;> rw [slice_length_of_le hlen]
  have hport : be16 (ofBe16 (slice 2 2 v)) = slice 2 2 v := be16_ofBe16 (slice_length_of_le (by omega))
  have hoctets : addressOctets v = v.getD 1 0 :: (slice 2 2 v ++ slice 4 16 v) := by
    have hsix : ¬ v.getD 1 0 = STUN_ATTRIBUTE_FIELD_IPV4 := by
      rw [hfamily]
      decide
    rw [addressOctets, if_neg hsix, show 19 = 1 + (2 + 16) from rfl, slice_add, slice_add, slice_family (by omega)]
    rfl
  have hwire : (CSocketAddress.ofIp6 (slice 4 16 v) (ofBe16 (slice 2 2 v))).wireValue =
      0 :: STUN_ATTRIBUTE_FIELD_IPV6 ::
        (be16 (ofBe16 (slice 2 2 v)) ++ (slice 4 16 v ++ List.replicate 16 0).take 16) := rfl
  rw [hwire, hoctets, hip, hport, hfamily]

/-- What `GetMappedAddress` decodes, by the family octet and the length. -/
theorem getMappedAddress_cases (v : Bytes) :
    (v.getD 1 0 = STUN_ATTRIBUTE_FIELD_IPV4 ∧ 8 ≤ v.length ∧
      getMappedAddress v = .ok (CSocketAddress.ofIp4 (ofBe32 (slice 4 4 v)) (ofBe16 (slice 2 2 v)))) ∨
    (v.getD 1 0 ≠ STUN_ATTRIBUTE_FIELD_IPV4 ∧ 20 ≤ v.length ∧
      getMappedAddress v = .ok (CSocketAddress.ofIp6 (slice 4 16 v) (ofBe16 (slice 2 2 v)))) ∨
    (¬ IsAddressValue v ∧ (v.getD 1 0 ≠ STUN_ATTRIBUTE_FIELD_IPV4 → v.length < 20) ∧ ∃ hr, getMappedAddress v = .error hr) := by
  have hsix : STUN_ATTRIBUTE_FIELD_IPV6 ≠ STUN_ATTRIBUTE_FIELD_IPV4 := by decide
  rw [getMappedAddress_eq, IsAddressValue]
  generalize v.getD 1 0 = family
  by_cases h0 : v.length = 0
  · exact Or.inr (Or.inr ⟨by omega, by omega, E_FAIL, if_pos h0⟩)
  by_cases h4 : v.length < 4
  · exact Or.inr (Or.inr ⟨by omega, by omega, E_INVALIDARG, by rw [if_neg h0, if_pos h4]⟩)
  rw [if_neg h0, if_neg h4]
  by_cases hfamily : family = STUN_ATTRIBUTE_FIELD_IPV4
  · rw [if_pos hfamily]
    by_cases h8 : 8 ≤ v.length
    · exact Or.inl ⟨hfamily, h8, if_pos h8⟩
    · refine Or.inr (Or.inr ⟨?_, fun h => absurd hfamily h, E_INVALIDARG, if_neg h8⟩)
      rintro (⟨-, h⟩ | ⟨-, h⟩) <;> omega
  · rw [if_neg hfamily]
    by_cases h20 : 20 ≤ v.length
    · exact Or.inr (Or.inl ⟨hfamily, h20, if_pos h20⟩)
    · refine Or.inr (Or.inr ⟨?_, fun _ => by omega, E_INVALIDARG, if_neg h20⟩)
      rintro (⟨h, -⟩ | ⟨-, h⟩)
      · exact hfamily h
      · omega

/-- The defect: an octet that names no family, on a value as long as an IPv6 address. -/
def NamesNoFamily (v : Bytes) : Prop :=
  20 ≤ v.length ∧ v.getD 1 0 ≠ STUN_ATTRIBUTE_FIELD_IPV4 ∧ v.getD 1 0 ≠ STUN_ATTRIBUTE_FIELD_IPV6

theorem decodesAddress_of_ok {addr : CSocketAddress} (hdecoded : getMappedAddress v = .ok addr)
    (hvalue : IsAddressValue v) (hoctets : addr.wireValue = 0 :: addressOctets v) : DecodesAddress v := by
  refine ⟨?_, ?_, ?_⟩
  · intro pAddr
    rw [getMappedAddressInto_eq, hdecoded]
    exact ⟨fun _ => hvalue, fun _ => rfl⟩
  · intro pAddr _ platform t
    rw [encodedValue_eq, getMappedAddressInto_eq, hdecoded]
    exact hoctets
  · intro pAddr hr h
    rw [getMappedAddressInto_eq, hdecoded] at h
    cases h

theorem decodesAddress_of_error {hr : HRESULT} (hfailed : getMappedAddress v = .error hr) (hno : ¬ IsAddressValue v) :
    DecodesAddress v := by
  refine ⟨?_, ?_, ?_⟩
  · intro pAddr
    rw [getMappedAddressInto_eq, hfailed]
    refine ⟨fun h => ?_, fun h => absurd h hno⟩
    cases h
  · intro pAddr h
    rw [getMappedAddressInto_eq, hfailed] at h
    cases h
  · intro pAddr _ _
    rw [getMappedAddressInto_eq, hfailed]

/-- `GetMappedAddress` decodes address values, and nothing else, exactly on the values that do not name a third family. -/
theorem decodesAddress_iff (v : Bytes) : DecodesAddress v ↔ ¬ NamesNoFamily v := by
  rcases getMappedAddress_cases v with ⟨hfamily, hlen, hdecoded⟩ | ⟨hfamily, hlen, hdecoded⟩ | ⟨hno, hshort, hr, hfailed⟩
  · refine ⟨fun _ hnames => hnames.2.1 hfamily, fun _ => ?_⟩
    exact decodesAddress_of_ok hdecoded (Or.inl ⟨hfamily, hlen⟩) (ipv4_octets hfamily hlen)
  · constructor
    · intro hdecodes hnone
      have hsucceeds := (hdecodes.succeeds CSocketAddress.zero).mp (by rw [getMappedAddressInto_eq, hdecoded])
      rcases hsucceeds with ⟨h, -⟩ | ⟨h, -⟩
      · exact hfamily h
      · exact hnone.2.2 h
    · intro hnames
      have hsix : v.getD 1 0 = STUN_ATTRIBUTE_FIELD_IPV6 := by
        by_contra hsix
        exact hnames ⟨hlen, hfamily, hsix⟩
      exact decodesAddress_of_ok hdecoded (Or.inr ⟨hsix, hlen⟩) (ipv6_octets hsix hlen)
  · refine ⟨fun _ hnames => ?_, fun _ => decodesAddress_of_error hfailed hno⟩
    have hlen := hshort hnames.2.1
    have hlong := hnames.1
    omega

/-- Family 7, in a value of 20 octets: it is decoded as the IPv6 address `::`. -/
theorem decodesAddress_family_seven : ¬ DecodesAddress (0 :: 7 :: List.replicate 18 0) := by
  intro hdecodes
  have hvalue := (hdecodes.succeeds CSocketAddress.zero).mp (by decide)
  rcases hvalue with ⟨hfamily, -⟩ | ⟨hfamily, -⟩ <;> exact absurd hfamily (by decide)

end NatTester.Guarantees
