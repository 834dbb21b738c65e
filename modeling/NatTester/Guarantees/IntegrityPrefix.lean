import NatTester.Guarantees.ReaderGrammar
import NatTester.Wire.Integrity

/-!
# Which messages `ValidateMessageIntegrity` accepts

The last MESSAGE-INTEGRITY attribute has to be the end of the message but for a
FINGERPRINT, and the HMAC covers the message up to it with a length field that
ends with it. The code takes 8 off the length field for whatever fingerprint
follows, so a fingerprint of another size makes it hash another prefix.
-/
namespace NatTester.Guarantees
open NatTester.Lib NatTester.Source NatTester.Wire CStunMessageReader

/-- The message up to the attribute, the length field that of a message which ends with it. -/
def coveredPrefix (bs : Bytes) (before : List Attribute) (mi : Attribute) : Bytes :=
  slice 0 2 bs ++ be16 (UInt16.ofNat (body (before ++ [mi])).length) ++
    slice 4 (STUN_HEADER_SIZE + (body before).length - 4) bs

/-- `mi` is a MESSAGE-INTEGRITY that ends the message, but for a fingerprint. -/
structure EndsSigned (mi : Attribute) (after : List Attribute) : Prop where
  type : mi.type = STUN_ATTRIBUTE_MESSAGEINTEGRITY
  last : ∀ b ∈ after, b.type ≠ STUN_ATTRIBUTE_MESSAGEINTEGRITY
  size : mi.value.length = 20
  closing : after = [] ∨ ∃ fp, after = [fp] ∧ fp.type = STUN_ATTRIBUTE_FINGERPRINT

/-- The message is signed with `key`, and at its end. -/
def RightlySigned [Digests] (key bs : Bytes) (as : List Attribute) : Prop :=
  ∃ before mi after, as = before ++ mi :: after ∧ EndsSigned mi after ∧
    mi.value = Digests.hmacSha1 key (coveredPrefix bs before mi)

/-- A fingerprint behind the MESSAGE-INTEGRITY attribute does not take eight octets. -/
def OddFingerprint (as : List Attribute) : Prop :=
  ∃ before mi fp, as = before ++ [mi, fp] ∧ EndsSigned mi [fp] ∧ fp.extent ≠ 8

variable {bs : Bytes} {as before after : List Attribute} {mi : Attribute} {r : CStunMessageReader}

theorem EndsSigned.of_closing (htype : mi.type = STUN_ATTRIBUTE_MESSAGEINTEGRITY) (hsize : mi.value.length = 20)
    (hafter : after = [] ∨ ∃ fp, after = [fp] ∧ fp.type = STUN_ATTRIBUTE_FINGERPRINT) : EndsSigned mi after where
  type := htype
  last := by
    intro b hb
    rcases hafter with rfl | ⟨fp, rfl, hfp⟩
    · cases hb
    · rw [List.mem_singleton.mp hb, hfp]
      decide
  size := hsize
  closing := hafter

/-- The code hashes the covered prefix when what follows takes eight octets an attribute. -/
theorem shortened_eq_iff (h : Accepted bs (before ++ mi :: after) r) (hends : EndsSigned mi after) :
    shortened bs (STUN_HEADER_SIZE + (body before).length) (8 * after.length) = coveredPrefix bs before mi ↔
      (body after).length = 8 * after.length := by
  have hheader := h.header
  have hbound := h.bound
  have hlength := h.message.length_eq
  have hbody := congrArg List.length h.message.body_eq
  have hcount := h.message.count_le
  have hbounded := h.message.good.bounded
  have hextent : mi.extent = 24 := by
    rw [Attribute.extent, hends.size]
    rfl
  simp only [List.length_drop, body_append, body_cons, List.length_append, Attribute.bytes_length, hextent] at hbody
  simp only [List.length_append, List.length_cons] at hcount
  simp only [STUN_HEADER_SIZE, MAX_STUN_MESSAGE_SIZE] at hheader hlength hbody hbounded
  have hdeclared : ofBe16 (slice 2 2 bs) = UInt16.ofNat ((body before).length + 24 + (body after).length) := by
    have hfield : (ofBe16 (slice 2 2 bs)).toNat = declaredLength bs := toNat_ofBe16 (slice_length_of_le (by omega))
    rw [← UInt16.toNat_inj, hfield, UInt16.toNat_ofNat_of_lt' (show _ < 2 ^ 16 by omega)]
    omega
  have hcovered : (body (before ++ [mi])).length = (body before).length + 24 := by
    rw [body_append, body_cons, body_nil, List.append_nil, List.length_append, Attribute.bytes_length, hextent]
  rw [shortened, coveredPrefix, hdeclared, hcovered, List.append_left_inj, List.append_right_inj]
  have hfields : ∀ a b : UInt16, be16 a = be16 b ↔ a = b := by
    intro a b
    constructor
    · intro hab
      rw [← ofBe16_be16 a, hab, ofBe16_be16]
    · intro hab
      rw [hab]
  rw [hfields]
  constructor
  · intro heq
    have hadd : UInt16.ofNat ((body before).length + 24 + (body after).length) =
        UInt16.ofNat ((body before).length + 24 + 8 * after.length) := by
      rw [UInt16.ofNat_add _ (8 * after.length), ← heq, UInt16.sub_add_cancel]
    rw [← UInt16.toNat_inj, UInt16.toNat_ofNat_of_lt' (show _ < 2 ^ 16 by omega),
      UInt16.toNat_ofNat_of_lt' (show _ < 2 ^ 16 by omega)] at hadd
    omega
  · intro heq
    rw [heq, UInt16.ofNat_add, UInt16.add_sub_cancel]

/-- What the code accepts. -/
theorem validateMessageIntegrity_iff [Digests] (h : Accepted bs as r) {key : Bytes} (hkey : key ≠ []) :
    SUCCEEDED (r.validateMessageIntegrity key) = true ↔
      ∃ before mi after, as = before ++ mi :: after ∧ EndsSigned mi after ∧
        Digests.hmacSha1 key (shortened bs (STUN_HEADER_SIZE + (body before).length) (8 * after.length)) = mi.value := by
  constructor
  · intro hok
    by_cases hends : ∃ before mi after, as = before ++ mi :: after ∧ EndsSigned mi after
    · obtain ⟨before, mi, after, rfl, hends⟩ := hends
      rw [h.validateMessageIntegrity_eq hends.type hends.size hends.closing hkey] at hok
      split at hok
      next hdigest => exact ⟨before, mi, after, rfl, hends, hdigest⟩
      next => exact absurd hok (by decide)
    · have hrefused := h.validateMessageIntegrity_refused key fun before mi after has htype hsize hafter =>
        hends ⟨before, mi, after, has, .of_closing htype hsize hafter⟩
      rw [hrefused] at hok
      cases hok
  · intro hsigned
    obtain ⟨before, mi, after, rfl, hends, hdigest⟩ := hsigned
    rw [h.validateMessageIntegrity_eq hends.type hends.size hends.closing hkey, if_pos hdigest]
    rfl

/-- Without an odd fingerprint the code accepts what is rightly signed. -/
theorem validateMessageIntegrity_right [Digests] (h : Accepted bs as r) {key : Bytes} (hkey : key ≠ [])
    (heven : ¬ OddFingerprint as) :
    SUCCEEDED (r.validateMessageIntegrity key) = true ↔ RightlySigned key bs as := by
  have hcovered : ∀ before mi after, as = before ++ mi :: after → EndsSigned mi after →
      shortened bs (STUN_HEADER_SIZE + (body before).length) (8 * after.length) = coveredPrefix bs before mi := by
    intro before mi after has hends
    subst has
    apply (shortened_eq_iff h hends).mpr
    rcases hends.closing with rfl | ⟨fp, rfl, -⟩
    · rfl
    · have hextent : fp.extent = 8 := by
        by_contra hne
        exact heven ⟨before, mi, fp, rfl, hends, hne⟩
      rw [body_cons, body_nil, List.append_nil, Attribute.bytes_length, hextent, List.length_singleton]
  rw [validateMessageIntegrity_iff h hkey]
  constructor
  · intro hcode
    obtain ⟨before, mi, after, has, hends, hdigest⟩ := hcode
    rw [hcovered before mi after has hends] at hdigest
    exact ⟨before, mi, after, has, hends, hdigest.symm⟩
  · intro hsigned
    obtain ⟨before, mi, after, has, hends, hdigest⟩ := hsigned
    refine ⟨before, mi, after, has, hends, ?_⟩
    rw [hcovered before mi after has hends, hdigest]

theorem valueOf_length {text value : Bytes} (h : value.length = 20) (data : Bytes) :
    (if data = text then value else value.map (· + 1)).length = 20 := by
  split
  · exact h
  · rw [List.length_map, h]

/-- An HMAC with the given value for one text, and another value for every other. -/
abbrev digestsOf (text value : Bytes) (h : value.length = 20) : Digests where
  hmacSha1 _ data := if data = text then value else value.map (· + 1)
  hmacSha1_length _ data := valueOf_length h data
  md5 _ := List.replicate 16 0
  md5_length _ := List.length_replicate
  crc32 _ := 0

theorem map_succ_ne {value : Bytes} (h : value.length = 20) : value.map (· + 1) ≠ value := by
  intro heq
  cases value with
  | nil => cases h
  | cons b rest =>
    have hb : b + 1 = b := (List.cons.inj heq).1
    simp at hb

/-- With an odd fingerprint there is an HMAC under which a rightly signed message is refused. -/
theorem oddFingerprint_refused (h : Accepted bs as r) {key : Bytes} (hkey : key ≠ []) (hodd : OddFingerprint as) :
    ∃ digests : Digests, @RightlySigned digests key bs as ∧
      SUCCEEDED (@validateMessageIntegrity digests key r) = false := by
  obtain ⟨before, mi, fp, rfl, hends, hextent⟩ := hodd
  have hbody : (body [fp]).length ≠ 8 * [fp].length := by
    rw [body_cons, body_nil, List.append_nil, Attribute.bytes_length, List.length_singleton]
    exact hextent
  have hother := mt (shortened_eq_iff h hends).mp hbody
  let digests := digestsOf (coveredPrefix bs before mi) mi.value hends.size
  have hright : mi.value = Digests.hmacSha1 key (coveredPrefix bs before mi) := (if_pos rfl).symm
  have hcode : Digests.hmacSha1 key (shortened bs (STUN_HEADER_SIZE + (body before).length) (8 * [fp].length)) =
      mi.value.map (· + 1) := if_neg hother
  refine ⟨digests, ⟨before, mi, [fp], rfl, hends, hright⟩, ?_⟩
  rw [h.validateMessageIntegrity_eq hends.type hends.size hends.closing hkey, hcode, if_neg (map_succ_ne hends.size)]
  rfl

/-- For every reader that was fed a whole message, and every key: the code accepts exactly
the rightly signed messages, whatever the HMAC, if and only if no odd fingerprint follows
the MESSAGE-INTEGRITY attribute. -/
theorem integrity_prefix_iff [Platform] {cap : Option Nat} {r₀ : CStunMessageReader} (h₀ : Fresh cap r₀)
    (pieces : List Bytes) (hstate : (feed pieces r₀).getState = .bodyValidated) (key : Bytes) (hkey : key ≠ []) :
    ∃ as, Message r₀.fAllowLegacyFormat pieces.flatten as ∧
      ((∀ [Digests], SUCCEEDED ((feed pieces r₀).validateMessageIntegrity key) = true ↔
          RightlySigned key pieces.flatten as) ↔
        ¬ OddFingerprint as) := by
  obtain ⟨as, hmessage, h⟩ := feed_validated h₀ pieces hstate
  refine ⟨as, hmessage, ?_⟩
  constructor
  · intro hall hodd
    obtain ⟨digests, hright, hrefused⟩ := oddFingerprint_refused h hkey hodd
    have hok := (@hall digests).mpr hright
    rw [hrefused] at hok
    cases hok
  · intro heven _
    exact validateMessageIntegrity_right h hkey heven

/-! ## Two messages -/

/-- A Binding request with a MESSAGE-INTEGRITY of twenty octets and a fingerprint of the given value. -/
def printedAttributes (value : Bytes) (h : value.length ≤ MAX_STUN_ATTRIBUTE_SIZE) : List Attribute :=
  [attributeOf STUN_ATTRIBUTE_MESSAGEINTEGRITY (List.replicate 20 7) (by decide),
    attributeOf STUN_ATTRIBUTE_FINGERPRINT value h]

def printedMessage (value : Bytes) (h : value.length ≤ MAX_STUN_ATTRIBUTE_SIZE) : Bytes :=
  frame 1 (UInt16.ofNat (body (printedAttributes value h)).length) (StunTransactionId.ofBytes (be32 STUN_COOKIE))
    (body (printedAttributes value h))

theorem printed_message {value : Bytes} (h : value.length ≤ MAX_STUN_ATTRIBUTE_SIZE)
    (hsize : (body (printedAttributes value h)).length ≤ MAX_STUN_MESSAGE_SIZE) :
    Message false (printedMessage value h) (printedAttributes value h) :=
  frame_message (by decide) _ (.inl (by decide)) _ (show 2 ≤ 30 by omega) hsize

/-- A fingerprint of four octets: no HMAC makes the code differ. -/
theorem integrity_prefix_iff_printed :
    let _ := Platform.armeabi
    let bs := printedMessage [1, 2, 3, 4] (by decide)
    ∀ [Digests], SUCCEEDED ((feed [bs] (freshReader false)).validateMessageIntegrity [0x6b]) = true ↔
      RightlySigned [0x6b] bs (printedAttributes [1, 2, 3, 4] (by decide)) := by
  intro _ bs
  have hmessage : Message false bs (printedAttributes [1, 2, 3, 4] (by decide)) := printed_message _ (by decide)
  have haccepted : Accepted bs _ (feed [bs] (freshReader false)) := feed_message (freshReader_fresh false) hmessage
  obtain ⟨as, has, hiff⟩ := integrity_prefix_iff (freshReader_fresh false) [bs] haccepted.state [0x6b] (by decide)
  rw [List.flatten_singleton] at has hiff
  obtain rfl := has.unique hmessage
  apply hiff.mpr
  intro hodd
  obtain ⟨before, mi, fp, heq, -, hextent⟩ := hodd
  obtain ⟨-, hpair⟩ := List.append_inj' (show [] ++ _ = before ++ [mi, fp] from heq) rfl
  apply hextent
  rw [← (List.cons.inj (List.cons.inj hpair).2).1]
  decide

/-- An empty fingerprint: the code refuses a message that is rightly signed. -/
theorem integrity_prefix_emptyFingerprint :
    let _ := Platform.armeabi
    let bs := printedMessage [] (by decide)
    ∃ as, Message false bs as ∧ (feed [bs] (freshReader false)).getState = .bodyValidated ∧
      ∃ digests : Digests, ¬ (SUCCEEDED (@validateMessageIntegrity digests [0x6b] (feed [bs] (freshReader false))) = true ↔
        @RightlySigned digests [0x6b] bs as) := by
  intro _ bs
  have hmessage : Message false bs (printedAttributes [] (by decide)) := printed_message _ (by decide)
  have haccepted : Accepted bs _ (feed [bs] (freshReader false)) := feed_message (freshReader_fresh false) hmessage
  have hodd : OddFingerprint (printedAttributes [] (by decide)) :=
    ⟨[], _, _, rfl, .of_closing rfl rfl (.inr ⟨_, rfl, rfl⟩), by decide⟩
  obtain ⟨digests, hright, hrefused⟩ := oddFingerprint_refused haccepted (show [0x6b] ≠ [] by decide) hodd
  refine ⟨_, hmessage, haccepted.state, digests, ?_⟩
  intro hiff
  have hok := hiff.mpr hright
  rw [hrefused] at hok
  cases hok

end NatTester.Guarantees
