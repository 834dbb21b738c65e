import Mathlib.Tactic.Common

/-!
# Cyclic redundancy checks

A reflected check of any width: the bits of the message come in at the low end
of the register, and for every bit that leaves there the polynomial is taken
off. What a table of the octets holds, a division of the octet from the other
end gives, with the bits reversed.
-/
namespace NatTester.Lib.Crc

variable {w : Nat}

/-! ## The register -/

/-- A bit leaves the register. -/
def shiftBit (poly rem : BitVec w) : BitVec w := if rem.getLsbD 0 then (rem >>> 1) ^^^ poly else rem >>> 1

def shiftBits (poly : BitVec w) : Nat → BitVec w → BitVec w
  | 0, rem => rem
  | n + 1, rem => shiftBits poly n (shiftBit poly rem)

/-- An octet of the message. -/
def crcByte (poly rem : BitVec w) (b : UInt8) : BitVec w := shiftBits poly 8 (rem ^^^ b.toBitVec.setWidth w)

/-- The check of a message. -/
def crc (poly init final : BitVec w) (bytes : List UInt8) : BitVec w := bytes.foldl (crcByte poly) init ^^^ final

/-- CRC-32. -/
def crc32 (bytes : List UInt8) : BitVec 32 := crc 0xEDB88320#32 0xFFFFFFFF#32 0xFFFFFFFF#32 bytes

/-- The check value of the digits 1 to 9. -/
example : crc32 [0x31, 0x32, 0x33, 0x34, 0x35, 0x36, 0x37, 0x38, 0x39] = 0xCBF43926#32 := by decide +kernel

/-! ## Bit by bit -/

/-- The low `n` bits, lowest first. -/
def bits (n : Nat) (x : BitVec w) : List Bool := (List.range n).map x.getLsbD

/-- The bits come in one at a time. -/
def feed (poly rem : BitVec w) (bits : List Bool) : BitVec w :=
  bits.foldl (fun rem bit => shiftBit poly (if bit then rem ^^^ 1#w else rem)) rem

theorem bits_succ (n : Nat) (x : BitVec w) : bits (n + 1) x = x.getLsbD 0 :: bits n (x >>> 1) := by
  rw [bits, bits, List.range_succ_eq_map, List.map_cons, List.map_map]
  congr 1
  refine List.map_congr_left fun i _ => ?_
  rw [Function.comp_apply, BitVec.getLsbD_ushiftRight, Nat.add_comm]

/-- Only the lowest bit decides whether the polynomial is taken off. -/
theorem shiftBit_xor (poly rem x : BitVec w) :
    shiftBit poly (rem ^^^ x) = shiftBit poly (if x.getLsbD 0 then rem ^^^ 1#w else rem) ^^^ (x >>> 1) := by
  have hone : (1#w) >>> 1 = 0#w := by
    apply BitVec.eq_of_getLsbD_eq
    intro i hi
    simp [Nat.add_comm 1 i]
  have hlow : (1#w).getLsbD 0 = decide (0 < w) := by simp
  cases hx : x.getLsbD 0 with
  | false =>
    simp only [shiftBit, BitVec.getLsbD_xor, hx, Bool.xor_false, Bool.false_eq_true, ↓reduceIte,
      BitVec.ushiftRight_xor_distrib]
    split
    · rw [BitVec.xor_assoc, BitVec.xor_comm (x >>> 1), ← BitVec.xor_assoc]
    · rfl
  | true =>
    have hpos : 0 < w := by
      by_contra h0
      obtain rfl : w = 0 := by omega
      simp at hx
    simp only [shiftBit, BitVec.getLsbD_xor, hx, hlow, hpos, decide_true, ↓reduceIte,
      BitVec.ushiftRight_xor_distrib, hone, BitVec.xor_zero]
    split
    · rw [BitVec.xor_assoc, BitVec.xor_comm (x >>> 1), ← BitVec.xor_assoc]
    · rfl

/-- Bits that are put into the register at once come out as if they had come in one at a time. -/
theorem shiftBits_xor (poly : BitVec w) (n : Nat) (rem x : BitVec w) :
    shiftBits poly n (rem ^^^ x) = feed poly rem (bits n x) ^^^ (x >>> n) := by
  induction n generalizing rem x with
  | zero => rw [shiftBits, BitVec.ushiftRight_zero]; rfl
  | succ n ih =>
    rw [shiftBits, shiftBit_xor, ih, bits_succ, ← BitVec.shiftRight_add, Nat.add_comm 1 n]
    rfl

/-- A step by a table of the octets: the register moves by an octet, and the entry of the one that leaves it is added. -/
theorem crcByte_table (hw : 8 ≤ w) (poly rem : BitVec w) (b : UInt8) :
    crcByte poly rem b = (rem >>> 8) ^^^ feed poly 0#w (bits 8 (rem.setWidth 8 ^^^ b.toBitVec)) := by
  have hbits : bits 8 (rem ^^^ b.toBitVec.setWidth w) = bits 8 (rem.setWidth 8 ^^^ b.toBitVec) := by
    refine List.map_congr_left fun i hi => ?_
    have hlt : i < 8 := List.mem_range.mp hi
    simp [hlt, show i < w by omega]
  have hshift : (rem ^^^ b.toBitVec.setWidth w) >>> 8 = rem >>> 8 := by
    apply BitVec.eq_of_getLsbD_eq
    intro i hi
    rw [BitVec.getLsbD_ushiftRight, BitVec.getLsbD_xor, BitVec.getLsbD_setWidth,
      BitVec.getLsbD_of_ge b.toBitVec (8 + i) (by omega), BitVec.getLsbD_ushiftRight]
    simp
  rw [crcByte, ← BitVec.zero_xor (x := rem ^^^ _), shiftBits_xor, hbits, hshift, BitVec.xor_comm]

/-! ## From the other end -/

/-- Division with the highest bit first. -/
def divideBit (poly rem : BitVec w) : BitVec w := if rem.msb then (rem <<< 1) ^^^ poly else rem <<< 1

def divide (poly rem : BitVec w) (bits : List Bool) : BitVec w :=
  bits.foldl (fun rem bit => divideBit poly (if bit then rem ^^^ BitVec.twoPow w (w - 1) else rem)) rem

theorem reverse_xor (x y : BitVec w) : (x ^^^ y).reverse = x.reverse ^^^ y.reverse := by
  apply BitVec.eq_of_getLsbD_eq
  intro i hi
  simp [BitVec.getLsbD_reverse]

theorem reverse_divideBit (poly rem : BitVec w) :
    (divideBit poly rem).reverse = shiftBit poly.reverse rem.reverse := by
  have hshift : (rem <<< 1).reverse = rem.reverse >>> 1 := by
    apply BitVec.eq_of_getLsbD_eq
    intro i hi
    rw [BitVec.getLsbD_reverse, BitVec.getMsbD_shiftLeft, BitVec.getLsbD_ushiftRight, BitVec.getLsbD_reverse,
      Nat.add_comm]
  rw [divideBit, shiftBit, BitVec.getLsbD_reverse, BitVec.msb]
  split
  · rw [reverse_xor, hshift]
  · exact hshift

theorem reverse_twoPow : (BitVec.twoPow w (w - 1)).reverse = 1#w := by
  apply BitVec.eq_of_getLsbD_eq
  intro i hi
  rw [BitVec.getLsbD_reverse, BitVec.getMsbD_eq_getLsbD, BitVec.getLsbD_twoPow, BitVec.getLsbD_one, Bool.eq_iff_iff]
  simp only [Bool.and_eq_true, decide_eq_true_eq]
  omega

/-- The two registers are mirror images. -/
theorem reverse_divide (poly rem : BitVec w) (bits : List Bool) :
    (divide poly rem bits).reverse = feed poly.reverse rem.reverse bits := by
  induction bits generalizing rem with
  | nil => rfl
  | cons bit bits ih =>
    have hbit : (if bit then rem ^^^ BitVec.twoPow w (w - 1) else rem).reverse =
        if bit then rem.reverse ^^^ 1#w else rem.reverse := by
      cases bit with
      | false => rfl
      | true => exact (reverse_xor _ _).trans (congrArg (rem.reverse ^^^ ·) reverse_twoPow)
    rw [divide, List.foldl_cons, feed, List.foldl_cons, ← hbit, ← reverse_divideBit]
    exact ih _

end NatTester.Lib.Crc
