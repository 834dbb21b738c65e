import NatTester.Wire.RoundTrip

/-!
# Which bytes the digests cover

The reader hands to the HMAC the message before the MESSAGE-INTEGRITY attribute,
with the length field a fingerprint behind it does not count in. On a frame this
is the shorter frame the builder has signed.
-/
namespace NatTester.Wire
open NatTester.Lib NatTester.Source CStunMessageReader

variable {bs : Bytes} {r : CStunMessageReader}

theorem exec_readChunks {cap : Option Nat} {c : Bytes} {p : Nat} {s : CDataStream}
    (h : CDataStream.Holds cap c p s) (n : Nat) (hn : p + 4 * n ≤ c.length) :
    Proc.exec (readChunks n) s = (.ok (slice p (4 * n) c), { s with pos := p + 4 * n }) := by
  induction n generalizing p s with
  | zero =>
    have hpos := h.pos_eq
    obtain ⟨_, _, _, _⟩ := s
    simp [readChunks, slice, ← hpos]
  | succ n ih =>
    have hword : (slice p 4 c).length = 4 := slice_length_of_le (by omega)
    have hread := h.exec_readUint32 (by omega)
    have hrest := ih (h.at_pos (q := p + 4) (by omega)) (by omega)
    have hsplit : slice p 4 c ++ slice (p + 4) (4 * n) c = slice p (4 * (n + 1)) c := by
      rw [slice, slice, slice, ← List.drop_drop, Nat.mul_succ, Nat.add_comm (4 * n), List.take_add]
    have hchunk : leOctets 4 (UInt32.ofNat (ofLeOctets (slice p 4 c))).toNat = slice p 4 c := by
      have hle := leOctets_ofLeOctets (slice p 4 c)
      rw [hword] at hle
      rw [UInt32.toNat_ofNat', show 2 ^ 32 = 256 ^ 4 from rfl, leOctets_mod, hle]
    rw [readChunks, Proc.exec_bind_ok hread, Proc.exec_bind_ok hrest, hchunk, hsplit, Proc.exec_pure]
    congr 2
    omega

/-- The first `n` bytes of a message whose length field is made `k` less. -/
def shortened (bs : Bytes) (n k : Nat) : Bytes :=
  slice 0 2 bs ++ be16 (ofBe16 (slice 2 2 bs) - UInt16.ofNat k) ++ slice 4 (n - 4) bs

theorem exec_readHashed {cap : Option Nat} {c : Bytes} {s : CDataStream} (h : CDataStream.Holds cap c 0 s)
    (fFingerprintAdjustment : Bool) {n : Nat} (hn : 4 ≤ n) (haligned : n % 4 = 0) (hle : n ≤ c.length) :
    ∃ t, Proc.exec (readHashed fFingerprintAdjustment (n + 4)) s =
      (.ok (shortened c n (if fFingerprintAdjustment then 8 else 0)), t) := by
  have hfirst := h.exec_readUint16 (by omega)
  have hsecond := (h.at_pos (q := 2) (by omega)).exec_readUint16 (by omega)
  have hchunks := exec_readChunks (h.at_pos (q := 4) (by omega)) ((n - 4) / 4) (by omega)
  have hcount : (n + 4 - 4 - 4) / 4 = (n - 4) / 4 := by omega
  have hwhole : 4 * ((n - 4) / 4) = n - 4 := by omega
  have hoctets : ∀ q, q + 2 ≤ c.length → leOctets 2 (UInt16.ofNat (ofLeOctets (slice q 2 c))).toNat = slice q 2 c := by
    intro q hq
    have hle := leOctets_ofLeOctets (slice q 2 c)
    rw [slice_length_of_le hq] at hle
    rw [UInt16.toNat_ofNat', show 2 ^ 16 = 256 ^ 2 from rfl, leOctets_mod, hle]
  have h2 : (slice 2 2 c).length = 2 := slice_length_of_le (by omega)
  refine ⟨{ s with pos := 4 + 4 * ((n - 4) / 4) }, ?_⟩
  rw [readHashed, Proc.exec_bind_ok hfirst, Proc.exec_bind_ok hsecond]
  simp only [hcount]
  rw [Proc.exec_bind_ok hchunks, Proc.exec_pure, hoctets 0 (by omega), hwhole, shortened]
  cases fFingerprintAdjustment with
  | false =>
    have hzero : be16 (ofBe16 (slice 2 2 c) - UInt16.ofNat 0) = slice 2 2 c := by
      rw [show UInt16.ofNat 0 = 0 from rfl, UInt16.sub_zero, be16_ofBe16 h2]
    simp only [Bool.false_eq_true, ↓reduceIte, hzero, hoctets 2 (by omega)]
  | true =>
    simp only [↓reduceIte, leOctets_htons, ntohs_ofLeOctets h2]
    rfl

/-- On a frame, the shorter frame before the attribute. -/
theorem shortened_frame (ty len : UInt16) (transid : StunTransactionId) (body more : Bytes) (k : Nat) :
    shortened (frame ty len transid (body ++ more)) (STUN_HEADER_SIZE + body.length) k =
      frame ty (len - UInt16.ofNat k) transid body := by
  have hid : transid.id.length = 16 := transid.id_length
  have htype : slice 0 2 (frame ty len transid (body ++ more)) = be16 ty := by
    rw [frame, List.append_assoc, List.append_assoc, slice_append_left _ (by simp)]
    exact List.take_of_length_le (by simp)
  have hlen : slice 2 2 (frame ty len transid (body ++ more)) = be16 len := by
    have hright := slice_append_right (be16 ty) (be16 len ++ (transid.id ++ (body ++ more))) 2 2
      (be16_length ty).symm
    rw [List.take_left' (be16_length _)] at hright
    simpa [frame, List.append_assoc] using hright
  have hrest : slice 4 (STUN_HEADER_SIZE + body.length - 4) (frame ty len transid (body ++ more)) =
      transid.id ++ body := by
    have hright := slice_append_right (be16 ty ++ be16 len) (transid.id ++ body ++ more) 4
      (STUN_HEADER_SIZE + body.length - 4) (by simp)
    rw [List.take_left' (by rw [List.length_append, hid]; simp only [STUN_HEADER_SIZE]; omega)] at hright
    simpa [frame, List.append_assoc] using hright
  rw [shortened, htype, hlen, hrest, ofBe16_be16, frame, ← List.append_assoc]

/-- The last attribute of a type is where its index says. -/
theorem LastIndex.eq_of_split {t : UInt16} {xs ys : List UInt16} {i : Int} (h : LastIndex t (xs ++ t :: ys) i)
    (hys : t ∉ ys) : i = xs.length := by
  rcases h with ⟨-, hmem⟩ | ⟨n, hi, hn, hmem⟩
  · exact absurd (List.mem_append_right _ List.mem_cons_self) hmem
  · rw [hi]
    obtain ⟨hlt, hget⟩ := List.getElem?_eq_some_iff.mp hn
    rcases Nat.lt_trichotomy n xs.length with hlt' | heq | hgt
    · rw [List.drop_append_of_le_length (by omega)] at hmem
      exact absurd (List.mem_append_right _ List.mem_cons_self) hmem
    · rw [heq]
    · refine absurd ?_ hys
      rw [List.getElem?_append_right (by omega), show n - xs.length = (n - xs.length - 1) + 1 by omega,
        List.getElem?_cons_succ] at hn
      exact List.mem_of_getElem? hn

/-- The last attribute of a type that occurs. -/
theorem exists_last {t : UInt16} {as : List Attribute} (h : ∃ a ∈ as, a.type = t) :
    ∃ before a after, as = before ++ a :: after ∧ a.type = t ∧ ∀ b ∈ after, b.type ≠ t := by
  induction as with
  | nil =>
    obtain ⟨a, ha, -⟩ := h
    cases ha
  | cons x as ih =>
    by_cases hrest : ∃ a ∈ as, a.type = t
    · obtain ⟨before, a, after, rfl, htype, hlast⟩ := ih hrest
      exact ⟨x :: before, a, after, rfl, htype, hlast⟩
    · obtain ⟨a, ha, htype⟩ := h
      have hnone : ∀ b ∈ as, b.type ≠ t := fun b hb hbt => hrest ⟨b, hb, hbt⟩
      rcases List.mem_cons.mp ha with rfl | ha
      · exact ⟨[], a, as, rfl, htype, hnone⟩
      · exact absurd htype (hnone a ha)

/-- A reader attached to the same buffer reads from its start. -/
theorem CDataStream.Holds.reattach {cap : Option Nat} {c : Bytes} {p : Nat} {s : CDataStream}
    (h : CDataStream.Holds cap c p s) {buf : CBuffer} (hbuf : s.spBuffer = some buf) :
    CDataStream.Holds none c 0 (CDataStream.attach buf false) := by
  have hsize := h.size_le
  have hcontents := h.contents_eq
  simp only [CDataStream.getSize, CDataStream.allocatedSize, CDataStream.contents, hbuf, Option.map_some,
    Option.getD_some] at hsize hcontents
  exact ⟨hsize, hcontents, rfl, Nat.zero_le _, rfl, by simp⟩

namespace Accepted
variable [Digests]

omit [Digests] in
theorem countAttributes_eq {as : List Attribute} (h : Accepted bs as r) : r.countAttributes = as.length := by
  rw [h.table.count, layout_length]

omit [Digests] in
theorem indexMessageIntegrity_eq {before after : List Attribute} {mi : Attribute}
    (h : Accepted bs (before ++ mi :: after) r) (htype : mi.type = STUN_ATTRIBUTE_MESSAGEINTEGRITY)
    (hlast : ∀ b ∈ after, b.type ≠ STUN_ATTRIBUTE_MESSAGEINTEGRITY) : r.indexMessageIntegrity = before.length := by
  have hint := h.table.integrity
  rw [layout_types, List.map_append, List.map_cons, htype] at hint
  have hnot : STUN_ATTRIBUTE_MESSAGEINTEGRITY ∉ after.map (·.type) := by
    intro hmem
    obtain ⟨b, hb, hbt⟩ := List.mem_map.mp hmem
    exact hlast b hb hbt
  simpa using hint.eq_of_split hnot

omit [Digests] in
/-- What the index counters are compared for: nothing but a fingerprint follows. -/
theorem nothing_after_iff {before after : List Attribute} {mi : Attribute} (h : Accepted bs (before ++ mi :: after) r)
    (htype : mi.type = STUN_ATTRIBUTE_MESSAGEINTEGRITY)
    (hlast : ∀ b ∈ after, b.type ≠ STUN_ATTRIBUTE_MESSAGEINTEGRITY) :
    (r.indexMessageIntegrity = r.countAttributes - 1 ∨
      (r.indexMessageIntegrity = r.countAttributes - 1 - 1 ∧ r.indexFingerprint = r.countAttributes - 1)) ↔
    (after = [] ∨ ∃ fp, after = [fp] ∧ fp.type = STUN_ATTRIBUTE_FINGERPRINT) := by
  have hcount := h.countAttributes_eq
  rw [List.length_append, List.length_cons] at hcount
  rw [h.indexMessageIntegrity_eq htype hlast, hcount]
  have hprint := h.table.fingerprint
  rw [layout_types] at hprint
  constructor
  · intro hplace
    rcases hplace with hplace | ⟨hplace, hfp⟩
    · left
      exact List.length_eq_zero_iff.mp (by omega)
    · right
      obtain ⟨fp, rfl⟩ := List.length_eq_one_iff.mp (show after.length = 1 by omega)
      refine ⟨fp, rfl, ?_⟩
      rw [List.length_singleton] at hfp
      rcases hprint with ⟨hnone, -⟩ | ⟨n, hn, hget, -⟩
      · omega
      · have hpos : n = before.length + 1 := by omega
        rw [hpos, List.map_append, List.getElem?_append_right (by simp)] at hget
        simpa using hget
  · intro hafter
    rcases hafter with rfl | ⟨fp, rfl, hfp⟩
    · left
      simp only [List.length_nil]
      omega
    · right
      simp only [List.map_append, List.map_cons, List.map_nil, hfp] at hprint
      rw [show before.map (·.type) ++ [mi.type, STUN_ATTRIBUTE_FINGERPRINT] =
        (before.map (·.type) ++ [mi.type]) ++ [STUN_ATTRIBUTE_FINGERPRINT] by simp] at hprint
      have hindex := hprint.eq_of_split (by simp)
      simp only [List.length_append, List.length_map, List.length_cons, List.length_nil] at hindex ⊢
      omega

/-- `ValidateMessageIntegrity` on a message whose last attribute, or last but a
fingerprint, is a MESSAGE-INTEGRITY. -/
theorem validateMessageIntegrity_eq {before after : List Attribute} {mi : Attribute}
    (h : Accepted bs (before ++ mi :: after) r) (htype : mi.type = STUN_ATTRIBUTE_MESSAGEINTEGRITY)
    (hsize : mi.value.length = 20)
    (hafter : after = [] ∨ ∃ fp, after = [fp] ∧ fp.type = STUN_ATTRIBUTE_FINGERPRINT) {key : Bytes} (hkey : key ≠ []) :
    r.validateMessageIntegrity key =
      if Digests.hmacSha1 key (shortened bs (STUN_HEADER_SIZE + (body before).length) (8 * after.length)) = mi.value
      then S_OK else E_FAIL := by
  have hlast : ∀ b ∈ after, b.type ≠ STUN_ATTRIBUTE_MESSAGEINTEGRITY := by
    intro b hb
    rcases hafter with rfl | ⟨fp, rfl, hfp⟩
    · cases hb
    · rw [List.mem_singleton.mp hb, hfp]
      decide
  have hlookup := h.lookup_split (htype ▸ hlast)
  rw [htype] at hlookup
  have hcount := h.countAttributes_eq
  rw [List.length_append, List.length_cons] at hcount
  have hindex := h.indexMessageIntegrity_eq htype hlast
  have hplace := (h.nothing_after_iff htype hlast).mpr hafter
  have hadjust : (if decide (r.indexMessageIntegrity = r.countAttributes - 1 - 1) = true then 8 else 0) =
      8 * after.length := by
    rcases hafter with rfl | ⟨fp, rfl, -⟩
    · simp only [List.length_nil] at hcount ⊢
      rw [if_neg (by rw [decide_eq_true_eq]; omega)]
    · simp only [List.length_cons, List.length_nil] at hcount ⊢
      rw [if_pos (by rw [decide_eq_true_eq]; omega)]
  have hoffset := h.entryAt_offset
  have hvalueSize : (entryAt before mi).size = 20 := by
    rw [entryAt, hsize]
    rfl
  have hbody := congrArg List.length h.message.body_eq
  have hlength := h.message.length_eq
  have haligned := body_aligned before
  simp only [List.length_drop, body_append, body_cons, List.length_append, Attribute.bytes_length,
    Attribute.extent, hsize] at hbody
  have hvalue := h.dataAt_split
  rw [hsize] at hvalue
  obtain ⟨cap, p, holds⟩ := h.holds
  obtain ⟨buf, hbuf⟩ := Option.isSome_iff_exists.mp h.dataPointer.2
  obtain ⟨t, hhashed⟩ := exec_readHashed (CDataStream.Holds.reattach holds hbuf)
    (decide (r.indexMessageIntegrity = r.countAttributes - 1 - 1)) (n := STUN_HEADER_SIZE + (body before).length)
    (by simp only [STUN_HEADER_SIZE]; omega) (by simp only [STUN_HEADER_SIZE]; omega) (by omega)
  rw [hadjust] at hhashed
  have hkeyLen : key.length ≠ 0 := fun h0 => hkey (List.length_eq_zero_iff.mp h0)
  unfold validateMessageIntegrity
  simp only [h.state, ne_eq, not_true_eq_false, ↓reduceIte, if_neg (show ¬ r.countAttributes = 0 by omega),
    if_neg (show ¬ r.indexMessageIntegrity = -1 by omega), if_neg hkeyLen, hlookup, hvalueSize,
    if_neg (not_not.mpr hplace), hbuf, hoffset, hhashed]
  rw [← hoffset, hvalue]

/-- `ValidateMessageIntegrity` fails on every other message. -/
theorem validateMessageIntegrity_refused {as : List Attribute} (h : Accepted bs as r) (key : Bytes)
    (hno : ∀ before mi after, as = before ++ mi :: after → mi.type = STUN_ATTRIBUTE_MESSAGEINTEGRITY →
      mi.value.length = 20 → ¬ (after = [] ∨ ∃ fp, after = [fp] ∧ fp.type = STUN_ATTRIBUTE_FINGERPRINT)) :
    SUCCEEDED (r.validateMessageIntegrity key) = false := by
  by_cases hmem : ∃ a ∈ as, a.type = STUN_ATTRIBUTE_MESSAGEINTEGRITY
  · obtain ⟨before, mi, after, rfl, htype, hlast⟩ := exists_last hmem
    have hlookup := h.lookup_split (htype ▸ hlast)
    rw [htype] at hlookup
    have hindex := h.indexMessageIntegrity_eq htype hlast
    have hcount := h.countAttributes_eq
    rw [List.length_append, List.length_cons] at hcount
    have hplace := h.nothing_after_iff htype hlast
    have hsize : (entryAt before mi).size = 20 ↔ mi.value.length = 20 := by
      rw [← UInt16.toNat_inj]
      exact iff_of_eq (congrArg (· = 20) mi.toNat_length)
    unfold validateMessageIntegrity
    simp only [h.state, ne_eq, not_true_eq_false, ↓reduceIte, if_neg (show ¬ r.countAttributes = 0 by omega),
      if_neg (show ¬ r.indexMessageIntegrity = -1 by omega), hlookup]
    split
    · rfl
    · by_cases h20 : mi.value.length = 20
      · rw [if_neg (not_not.mpr (hsize.mpr h20)), if_pos (fun hafter => hno _ _ _ rfl htype h20 (hplace.mp hafter))]
        rfl
      · rw [if_pos (mt hsize.mp h20)]
        rfl
  · have hnone : r.indexMessageIntegrity = -1 := by
      rcases h.table.integrity with ⟨hnone, -⟩ | ⟨n, -, hget, -⟩
      · exact hnone
      · rw [layout_types] at hget
        obtain ⟨a, ha, hat⟩ := List.mem_map.mp (List.mem_of_getElem? hget)
        exact absurd ⟨a, ha, hat⟩ hmem
    unfold validateMessageIntegrity
    simp only [h.state, ne_eq, not_true_eq_false, ↓reduceIte, hnone]
    split <;> rfl

/-- `IsFingerprintAttributeValid` by the last fingerprint of a message. What follows it is not looked at. -/
theorem isFingerprintAttributeValid_split {before after : List Attribute} {fp : Attribute}
    (h : Accepted bs (before ++ fp :: after) r) (htype : fp.type = STUN_ATTRIBUTE_FINGERPRINT)
    (hafter : ∀ b ∈ after, b.type ≠ STUN_ATTRIBUTE_FINGERPRINT) (hsize : fp.value.length = 4) :
    r.isFingerprintAttributeValid =
      decide (ofBe32 fp.value = Digests.crc32 (bs.take (bs.length - 8)) ^^^ STUN_FINGERPRINT_XOR) := by
  have hlookup := h.lookup_split (htype ▸ hafter)
  rw [htype] at hlookup
  have hvalueSize : (entryAt before fp).size = 4 := by
    rw [entryAt, hsize]
    rfl
  have hvalue := h.dataAt_split
  rw [hsize] at hvalue
  have hheader := h.header
  have hcovered : r.dataAt 0 (bs.length - 8) = bs.take (bs.length - 8) := by
    rw [h.dataAt_eq (by omega)]
    rfl
  obtain ⟨cap, p, holds⟩ := h.holds
  have hgetSize := holds.getSize_eq
  have hpointer := h.dataPointer
  have hnotnone : r.stream.spBuffer.isNone = false := by
    rw [← Option.not_isSome, hpointer.2]
    rfl
  unfold isFingerprintAttributeValid
  simp only [hlookup, hvalueSize, hvalue, hgetSize, hcovered, ntohl_ofLeOctets hsize]
  rw [if_neg]
  simp only [entryAt, htype, ne_eq, not_true_eq_false, h.state, hnotnone, hpointer.1, Bool.false_eq_true, or_false,
    false_or]
  omega

/-- The same on a message that ends in it. -/
theorem isFingerprintAttributeValid_eq {before : List Attribute} {fp : Attribute}
    (h : Accepted bs (before ++ [fp]) r) (htype : fp.type = STUN_ATTRIBUTE_FINGERPRINT) (hsize : fp.value.length = 4) :
    r.isFingerprintAttributeValid =
      decide (ofBe32 fp.value = Digests.crc32 (bs.take (bs.length - 8)) ^^^ STUN_FINGERPRINT_XOR) :=
  h.isFingerprintAttributeValid_split htype (by simp) hsize

end Accepted

/-! ## Signing and validating -/

/-- What a message is signed with; a string is the memory its pointer points at. -/
inductive Credential where
  | shortTerm (pszPassword : Bytes)
  | longTerm (pszUserName pszRealm pszPassword : Bytes)

namespace Credential
variable [Digests]

def key : Credential → Bytes
  | .shortTerm psz => cstr psz
  | .longTerm pszUserName pszRealm pszPassword => Digests.md5 (longTermText pszUserName pszRealm pszPassword)

/-- The builder takes it: the password is not empty, the strings fit the key array. -/
def Usable : Credential → Prop
  | .shortTerm psz => cstr psz ≠ []
  | .longTerm pszUserName pszRealm pszPassword =>
    (cstr pszUserName).length + (cstr pszRealm).length + (cstr pszPassword).length ≤ MAX_STUN_AUTH_STRING_SIZE * 3

def sign [Platform] : Credential → Hr CStunMessageBuilder Unit
  | .shortTerm psz => CStunMessageBuilder.addMessageIntegrityShortTerm psz
  | .longTerm pszUserName pszRealm pszPassword =>
    CStunMessageBuilder.addMessageIntegrityLongTerm pszUserName pszRealm pszPassword

def validate (r : CStunMessageReader) : Credential → HRESULT
  | .shortTerm psz => r.validateMessageIntegrityShort psz
  | .longTerm pszUserName pszRealm pszPassword => r.validateMessageIntegrityLong pszUserName pszRealm pszPassword

theorem key_ne_nil {credential : Credential} (h : credential.Usable) : credential.key ≠ [] := by
  cases credential with
  | shortTerm psz => exact h
  | longTerm pszUserName pszRealm pszPassword =>
    refine List.ne_nil_of_length_pos ?_
    rw [key, Digests.md5_length]
    decide

/-- The MESSAGE-INTEGRITY attribute of a message of the given body. -/
def integrityAttribute (credential : Credential) (ty : UInt16) (transid : StunTransactionId) (body : Bytes) :
    Attribute :=
  attributeOf STUN_ATTRIBUTE_MESSAGEINTEGRITY
    (Digests.hmacSha1 credential.key (frame ty (UInt16.ofNat (body.length + 24)) transid body))
    (by rw [Digests.hmacSha1_length]; decide)

theorem integrityAttribute_length (credential : Credential) (ty : UInt16) (transid : StunTransactionId)
    (body : Bytes) : (credential.integrityAttribute ty transid body).bytes.length = 24 := by
  have hvalue : (credential.integrityAttribute ty transid body).value.length = 20 := Digests.hmacSha1_length _ _
  rw [Attribute.bytes_length, Attribute.extent, hvalue]
  rfl

theorem sign_built [Platform] {cap : Option Nat} {legacy : Bool} {transid : StunTransactionId}
    {credential : Credential} (h : credential.Usable) (ty len : UInt16) (transid' : StunTransactionId) (body : Bytes) :
    Proc.Ensures (Built cap legacy transid (frame ty len transid' body)) credential.sign fun _ =>
      Built cap legacy transid (frame ty (UInt16.ofNat (body.length + 24)) transid'
        (body ++ (credential.integrityAttribute ty transid' body).bytes)) := by
  have hkey := key_ne_nil h
  cases credential with
  | shortTerm psz => exact addMessageIntegrityImpl_built ty len transid' body hkey
  | longTerm pszUserName pszRealm pszPassword =>
    refine (ensures_chkIf ?_ _).bind fun _ => addMessageIntegrityImpl_built ty len transid' body hkey
    simp only [Usable, MAX_STUN_AUTH_STRING_SIZE] at h
    simp only [longTermText, List.length_append, List.length_cons, List.length_nil, CStunMessageBuilder.maxKeySize,
      MAX_STUN_AUTH_STRING_SIZE]
    omega

theorem validate_eq {bs : Bytes} {as : List Attribute} (h : Accepted bs as r) (credential : Credential) :
    credential.validate r = r.validateMessageIntegrity credential.key := by
  cases credential with
  | shortTerm psz => rfl
  | longTerm pszUserName pszRealm pszPassword =>
    rw [validate, validateMessageIntegrityLong, if_neg (not_not.mpr h.state), if_neg (by simp [h.dataPointer.1])]
    rfl

/-- A message that was signed, then at most given a fingerprint, validates. -/
theorem validate_signed {credential : Credential} (husable : credential.Usable) {ty : UInt16}
    {transid : StunTransactionId} {as after : List Attribute}
    (hafter : after = [] ∨ ∃ fp, after = [fp] ∧ fp.type = STUN_ATTRIBUTE_FINGERPRINT ∧ fp.value.length = 4)
    (h : Accepted (frame ty (UInt16.ofNat (body (as ++ credential.integrityAttribute ty transid (body as) :: after)).length)
      transid (body (as ++ credential.integrityAttribute ty transid (body as) :: after)))
      (as ++ credential.integrityAttribute ty transid (body as) :: after) r) : credential.validate r = S_OK := by
  have hafterLength : (body after).length = 8 * after.length := by
    rcases hafter with rfl | ⟨fp, rfl, -, hfp⟩
    · rfl
    · simp [Attribute.extent, hfp, paddingFor]
  have hlength : (body (as ++ credential.integrityAttribute ty transid (body as) :: after)).length =
      (body as).length + 24 + 8 * after.length := by
    rw [body_append, body_cons, List.length_append, List.length_append, integrityAttribute_length, hafterLength]
    omega
  have hvalid := h.validateMessageIntegrity_eq rfl (Digests.hmacSha1_length _ _)
    (hafter.imp_right fun h => h.imp fun _ hfp => ⟨hfp.1, hfp.2.1⟩) (key_ne_nil husable)
  have hback : UInt16.ofNat ((body as).length + 24 + 8 * after.length) - UInt16.ofNat (8 * after.length) =
      UInt16.ofNat ((body as).length + 24) := by rw [UInt16.ofNat_add, UInt16.add_sub_cancel]
  rw [hlength, body_append, shortened_frame, hback] at hvalid
  rw [validate_eq h]
  exact hvalid.trans (if_pos rfl)

end Credential

/-! ## The fingerprint -/

section Fingerprint
variable [Digests]

/-- The FINGERPRINT attribute of a message of the given body. -/
def fingerprintAttribute (ty : UInt16) (transid : StunTransactionId) (body : Bytes) : Attribute :=
  attributeOf STUN_ATTRIBUTE_FINGERPRINT
    (be32 (Digests.crc32 (frame ty (UInt16.ofNat (body.length + 8)) transid body) ^^^ STUN_FINGERPRINT_XOR))
    (by rw [be32_length]; decide)

theorem fingerprintAttribute_length (ty : UInt16) (transid : StunTransactionId) (body : Bytes) :
    (fingerprintAttribute ty transid body).bytes.length = 8 := by
  have hvalue : (fingerprintAttribute ty transid body).value.length = 4 := be32_length _
  rw [Attribute.bytes_length, Attribute.extent, hvalue]
  rfl

/-- A message that was given a fingerprint has a valid one. -/
theorem fingerprint_valid {ty : UInt16} {transid : StunTransactionId} {as : List Attribute}
    (h : Accepted (frame ty (UInt16.ofNat (body (as ++ [fingerprintAttribute ty transid (body as)])).length) transid
      (body (as ++ [fingerprintAttribute ty transid (body as)])))
      (as ++ [fingerprintAttribute ty transid (body as)]) r) : r.isFingerprintAttributeValid = true := by
  have hvalid := h.isFingerprintAttributeValid_eq rfl (be32_length _)
  have hprint := fingerprintAttribute_length ty transid (body as)
  have hlength : (body (as ++ [fingerprintAttribute ty transid (body as)])).length = (body as).length + 8 := by
    rw [body_append, body_cons, body_nil, List.append_nil, List.length_append, hprint]
  have hbody : body (as ++ [fingerprintAttribute ty transid (body as)]) =
      body as ++ (fingerprintAttribute ty transid (body as)).bytes := by simp
  have htake : (frame ty (UInt16.ofNat ((body as).length + 8)) transid
      (body (as ++ [fingerprintAttribute ty transid (body as)]))).take
        ((frame ty (UInt16.ofNat ((body as).length + 8)) transid
          (body (as ++ [fingerprintAttribute ty transid (body as)]))).length - 8) =
      frame ty (UInt16.ofNat ((body as).length + 8)) transid (body as) := by
    rw [hbody, ← frame_append]
    exact List.take_left' (by rw [List.length_append, hprint]; omega)
  rw [hlength, htake] at hvalid
  rw [hvalid, fingerprintAttribute, attributeOf, ofBe32_be32, decide_eq_true_eq]

end Fingerprint

end NatTester.Wire
