import NatTester.Lib.Splice
import NatTester.Source.StunTypes
import Mathlib.Data.List.Forall2

/-!
# The message grammar

What a STUN message is, apart from any reader or builder: a header of twenty
octets, then attributes, each a type, a length, that many octets of value and
padding to the next multiple of four. The bounds are the ones the program sets.
-/
namespace NatTester.Wire
open NatTester.Lib NatTester.Source

/-- The octets missing from `n` to a multiple of four. -/
def paddingFor (n : Nat) : Nat := (4 - n % 4) % 4

theorem paddingFor_aligned (n : Nat) : (n + paddingFor n) % 4 = 0 := by
  unfold paddingFor
  omega

theorem paddingFor_of_aligned {n : Nat} (h : n % 4 = 0) : paddingFor n = 0 := by
  simp [paddingFor, h]

/-- An attribute as it stands in a message; the padding octets are arbitrary. -/
@[ext] structure Attribute where
  type : UInt16
  value : Bytes
  padding : Bytes
  value_le : value.length ≤ MAX_STUN_ATTRIBUTE_SIZE
  padding_length : padding.length = paddingFor value.length
  deriving DecidableEq, Repr

namespace Attribute

def bytes (a : Attribute) : Bytes :=
  be16 a.type ++ be16 (UInt16.ofNat a.value.length) ++ a.value ++ a.padding

/-- The octets the attribute takes. -/
def extent (a : Attribute) : Nat := 4 + a.value.length + paddingFor a.value.length

@[simp] theorem bytes_length (a : Attribute) : a.bytes.length = a.extent := by
  have hpad := a.padding_length
  simp only [bytes, extent, List.length_append, be16_length]
  omega

theorem extent_aligned (a : Attribute) : a.extent % 4 = 0 := by
  have h := paddingFor_aligned a.value.length
  simp only [extent]
  omega

theorem extent_pos (a : Attribute) : 0 < a.extent := by
  simp only [extent]
  omega

/-- A value is shorter than what its length field can say. -/
theorem length_lt (a : Attribute) : a.value.length < 2 ^ 16 := by
  have h := a.value_le
  simp only [MAX_STUN_ATTRIBUTE_SIZE] at h
  omega

theorem toNat_length (a : Attribute) : (UInt16.ofNat a.value.length).toNat = a.value.length :=
  UInt16.toNat_ofNat_of_lt' a.length_lt

end Attribute

def body (as : List Attribute) : Bytes := as.flatMap Attribute.bytes

@[simp] theorem body_nil : body [] = [] := rfl

@[simp] theorem body_cons (a : Attribute) (as : List Attribute) : body (a :: as) = a.bytes ++ body as := rfl

@[simp] theorem body_append (as bs : List Attribute) : body (as ++ bs) = body as ++ body bs :=
  List.flatMap_append

theorem body_aligned (as : List Attribute) : (body as).length % 4 = 0 := by
  induction as with
  | nil => rfl
  | cons a as ih =>
    have ha := a.extent_aligned
    simp only [body_cons, List.length_append, Attribute.bytes_length]
    omega

/-! ## A body is split in one way only -/

theorem Attribute.bytes_append_inj {a b : Attribute} {rest rest' : Bytes}
    (h : a.bytes ++ rest = b.bytes ++ rest') : a = b ∧ rest = rest' := by
  simp only [Attribute.bytes, List.append_assoc] at h
  obtain ⟨htype, h⟩ := List.append_inj h (by simp)
  obtain ⟨hlen, h⟩ := List.append_inj h (by simp)
  have hvalue : a.value.length = b.value.length := by
    rw [← a.toNat_length, ← b.toNat_length, ← ofBe16_be16 (UInt16.ofNat a.value.length), hlen,
      ofBe16_be16]
  obtain ⟨hval, h⟩ := List.append_inj h hvalue
  obtain ⟨hpad, h⟩ := List.append_inj h (by rw [a.padding_length, b.padding_length, hvalue])
  refine ⟨Attribute.ext ?_ hval hpad, h⟩
  rw [← ofBe16_be16 a.type, htype, ofBe16_be16]

/-- The value length that the first attribute of `l` declares. -/
def firstLength (l : Bytes) : Nat := (ofBe16 (slice 2 2 l)).toNat

/-- There is a whole first attribute within the bound. -/
def HasFirst (l : Bytes) : Prop :=
  firstLength l ≤ MAX_STUN_ATTRIBUTE_SIZE ∧ 4 + firstLength l + paddingFor (firstLength l) ≤ l.length

def first (l : Bytes) (h : HasFirst l) : Attribute where
  type := ofBe16 (slice 0 2 l)
  value := slice 4 (firstLength l) l
  padding := slice (4 + firstLength l) (paddingFor (firstLength l)) l
  value_le := by
    have h1 := h.1
    have h2 := h.2
    rwa [slice_length_of_le (by omega)]
  padding_length := by
    have h2 := h.2
    rw [slice_length_of_le (by omega), slice_length_of_le (by omega)]

theorem first_bytes {l : Bytes} (h : HasFirst l) : l = (first l h).bytes ++ l.drop (first l h).extent := by
  have h2 := h.2
  have hvalue : (first l h).value.length = firstLength l := slice_length_of_le (by omega)
  have hlen : be16 (UInt16.ofNat (firstLength l)) = slice 2 2 l := by
    rw [firstLength, UInt16.ofNat_toNat, be16_ofBe16 (slice_length_of_le (by omega))]
  have htype : be16 (first l h).type = slice 0 2 l := be16_ofBe16 (slice_length_of_le (by omega))
  rw [Attribute.bytes, Attribute.extent, hvalue, htype, hlen]
  simp only [first, List.append_assoc]
  rw [slice_append_drop, slice_append_drop, slice_append_drop 2 2, slice_append_drop 0 2, List.drop_zero]

theorem hasFirst_of_eq {l rest : Bytes} {a : Attribute} (h : l = a.bytes ++ rest) :
    firstLength l = a.value.length ∧ HasFirst l := by
  have hlen : firstLength l = a.value.length := by
    have hsplit : l = be16 a.type ++ (be16 (UInt16.ofNat a.value.length) ++ (a.value ++ (a.padding ++ rest))) := by
      simp [h, Attribute.bytes]
    rw [firstLength, hsplit, slice_append_right _ _ _ _ (by simp),
      List.take_left' (be16_length _), ofBe16_be16, a.toNat_length]
  refine ⟨hlen, ?_, ?_⟩
  · rw [hlen]
    exact a.value_le
  · rw [hlen, h, List.length_append, Attribute.bytes_length]
    simp [Attribute.extent]

theorem body_inj {as bs : List Attribute} (h : body as = body bs) : as = bs := by
  induction as generalizing bs with
  | nil =>
    cases bs with
    | nil => rfl
    | cons b bs =>
      have hlen := congrArg List.length h
      have hb := b.extent_pos
      simp only [body_nil, body_cons, List.length_nil, List.length_append, Attribute.bytes_length] at hlen
      omega
  | cons a as ih =>
    cases bs with
    | nil =>
      have hlen := congrArg List.length h
      have ha := a.extent_pos
      simp only [body_nil, body_cons, List.length_nil, List.length_append, Attribute.bytes_length] at hlen
      omega
    | cons b bs =>
      obtain ⟨rfl, hrest⟩ := Attribute.bytes_append_inj h
      rw [ih hrest]

/-! ## The header -/

/-- The big-endian value of octets 2 and 3. -/
def declaredLength (bs : Bytes) : Nat := ofBeOctets (slice 2 2 bs)

/-- The header the reader goes on from. -/
structure GoodHeader (fAllowLegacyFormat : Bool) (bs : Bytes) : Prop where
  topBits : (bs.getD 0 0) &&& 0xC0 = 0
  aligned : declaredLength bs % 4 = 0
  bounded : declaredLength bs ≤ MAX_STUN_MESSAGE_SIZE
  cookie : slice 4 4 bs = be32 STUN_COOKIE ∨ fAllowLegacyFormat = true

instance (fAllowLegacyFormat : Bool) (bs : Bytes) : Decidable (GoodHeader fAllowLegacyFormat bs) :=
  decidable_of_iff (((bs.getD 0 0) &&& 0xC0 = 0 ∧ declaredLength bs % 4 = 0) ∧
      declaredLength bs ≤ MAX_STUN_MESSAGE_SIZE ∧
      (slice 4 4 bs = be32 STUN_COOKIE ∨ fAllowLegacyFormat = true))
    ⟨fun ⟨⟨h1, h2⟩, h3, h4⟩ => ⟨h1, h2, h3, h4⟩, fun ⟨h1, h2, h3, h4⟩ => ⟨⟨h1, h2⟩, h3, h4⟩⟩

/-- Only the header octets matter. -/
theorem GoodHeader.append_iff {fAllowLegacyFormat : Bool} {bs : Bytes} (h : STUN_HEADER_SIZE ≤ bs.length)
    (more : Bytes) : GoodHeader fAllowLegacyFormat (bs ++ more) ↔ GoodHeader fAllowLegacyFormat bs := by
  have h20 : 20 ≤ bs.length := h
  have hlen : declaredLength (bs ++ more) = declaredLength bs := by
    rw [declaredLength, declaredLength, slice_append_left more (by omega)]
  have hcookie : slice 4 4 (bs ++ more) = slice 4 4 bs := slice_append_left more (by omega)
  have htop : (bs ++ more).getD 0 0 = bs.getD 0 0 := by
    rw [List.getD_eq_getElem?_getD, List.getD_eq_getElem?_getD, List.getElem?_append_left (by omega)]
  constructor
  · rintro ⟨h1, h2, h3, h4⟩
    exact ⟨htop ▸ h1, hlen ▸ h2, hlen ▸ h3, hcookie ▸ h4⟩
  · rintro ⟨h1, h2, h3, h4⟩
    exact ⟨htop.symm ▸ h1, hlen.symm ▸ h2, hlen.symm ▸ h3, hcookie.symm ▸ h4⟩

theorem declaredLength_append {bs : Bytes} (h : STUN_HEADER_SIZE ≤ bs.length) (more : Bytes) :
    declaredLength (bs ++ more) = declaredLength bs := by
  have h20 : 20 ≤ bs.length := h
  rw [declaredLength, declaredLength, slice_append_left more (by omega)]

/-- `bs` is a message with the attributes `as`, within the bounds of the program. -/
structure Message (fAllowLegacyFormat : Bool) (bs : Bytes) (as : List Attribute) : Prop where
  good : GoodHeader fAllowLegacyFormat bs
  length_eq : bs.length = STUN_HEADER_SIZE + declaredLength bs
  body_eq : bs.drop STUN_HEADER_SIZE = body as
  count_le : as.length ≤ 30

/-- The attributes of a message are determined by it. -/
theorem Message.unique {fAllowLegacyFormat fAllowLegacyFormat' : Bool} {bs : Bytes} {as as' : List Attribute}
    (h : Message fAllowLegacyFormat bs as) (h' : Message fAllowLegacyFormat' bs as') : as = as' :=
  body_inj (h.body_eq.symm.trans h'.body_eq)

/-! ## Where the attributes of a body lie -/

/-- The table entries of attributes that start at `offset`. -/
def layout : Nat → List Attribute → List StunAttribute
  | _, [] => []
  | offset, a :: as =>
    ⟨a.type, UInt16.ofNat a.value.length, UInt16.ofNat (offset + 4)⟩ :: layout (offset + a.extent) as

@[simp] theorem layout_length (offset : Nat) (as : List Attribute) : (layout offset as).length = as.length := by
  induction as generalizing offset with
  | nil => rfl
  | cons a as ih => simp [layout, ih]

theorem layout_append (offset : Nat) (as bs : List Attribute) :
    layout offset (as ++ bs) = layout offset as ++ layout (offset + (body as).length) bs := by
  induction as generalizing offset with
  | nil => rfl
  | cons a as ih => simp [layout, ih, Nat.add_assoc]

/-- A table entry that says where attribute `a` is in the message `bs`. -/
structure Locates (bs : Bytes) (x : StunAttribute) (a : Attribute) : Prop where
  type_eq : x.attributeType = a.type
  size_eq : x.size.toNat = a.value.length
  value_eq : slice x.offset.toNat x.size.toNat bs = a.value
  inside : x.offset.toNat + x.size.toNat ≤ bs.length

theorem layout_locates (before : Bytes) (as : List Attribute)
    (h : before.length + (body as).length < 2 ^ 16) :
    List.Forall₂ (Locates (before ++ body as)) (layout before.length as) as := by
  induction as generalizing before with
  | nil => exact .nil
  | cons a as ih =>
    have hext : a.extent = 4 + a.value.length + paddingFor a.value.length := rfl
    simp only [body_cons, List.length_append, Attribute.bytes_length] at h
    refine .cons ?_ ?_
    · have hoffset : (UInt16.ofNat (before.length + 4)).toNat = before.length + 4 :=
        UInt16.toNat_ofNat_of_lt' (show _ < 2 ^ 16 by omega)
      have hhead : (before ++ be16 a.type ++ be16 (UInt16.ofNat a.value.length)).length = before.length + 4 := by
        simp
      refine ⟨rfl, a.toNat_length, ?_, ?_⟩
      · have hsplit : before ++ body (a :: as) =
            (before ++ be16 a.type ++ be16 (UInt16.ofNat a.value.length)) ++
              (a.value ++ (a.padding ++ body as)) := by
          simp [Attribute.bytes]
        rw [hoffset, a.toNat_length, hsplit, slice_append_right _ _ _ _ hhead.symm, List.take_left]
      · rw [hoffset, a.toNat_length]
        simp only [body_cons, List.length_append, Attribute.bytes_length]
        omega
    · have htail := ih (before ++ a.bytes) (by
        simp only [List.length_append, Attribute.bytes_length]
        omega)
      simpa using htail

/-- The value of the last attribute of a type. -/
def lastValue (t : UInt16) (as : List Attribute) : Option Bytes :=
  (as.reverse.find? fun a => a.type = t).map Attribute.value

end NatTester.Wire
