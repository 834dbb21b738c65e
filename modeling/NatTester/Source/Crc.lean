import NatTester.Lib.Crc
import NatTester.Source.StunAuth
import Mathlib.Tactic.IntervalCases

/-!
# crc_32_type

`boost/crc.hpp`: `crc_optimal` with the input and the remainder reflected; `w` is
its `Bits`. The `value_type` may be wider; what is above them is never looked at.
-/
namespace NatTester.Source
open NatTester.Lib

variable {w : Nat}

/-- `reflector<Bits>::reflect(x)` -/
def reflect (x : BitVec w) : BitVec w :=
  ((List.range w).foldl (fun (s : BitVec w × BitVec w) i =>
    (if s.2 &&& 1#w ≠ 0#w then s.1 ||| (1#w <<< (w - 1 - i)) else s.1, s.2 >>> 1)) (0#w, x)).1

/-- What `init_table` computes for a dividend. -/
def tableRemainder (TruncPoly : BitVec w) (dividend : BitVec 8) : BitVec w :=
  (List.range 8).foldl (fun remainder i =>
    let mask := 0x80#8 >>> i
    -- check if divisor fits
    let remainder := if dividend &&& mask ≠ 0#8 then remainder ^^^ (1#w <<< (w - 1)) else remainder
    -- do polynominal division
    if remainder &&& (1#w <<< (w - 1)) ≠ 0#w then (remainder <<< 1) ^^^ TruncPoly else remainder <<< 1) 0#w

/-- `crc_table_t<Bits, TruncPoly, true>::init_table()` -/
def initTable (TruncPoly : BitVec w) : List (BitVec w) :=
  (List.range 256).foldl (fun table dividend =>
    table.set (reflect (BitVec.ofNat 8 dividend)).toNat (reflect (tableRemainder TruncPoly (BitVec.ofNat 8 dividend))))
    (List.replicate 256 0#w)

/-- `crc_optimal<Bits, TruncPoly, InitRem, FinalXor, true, true>` -/
structure CrcOptimal (w : Nat) where
  rem : BitVec w

namespace CrcOptimal

def new (InitRem : BitVec w) : CrcOptimal w := ⟨reflect InitRem⟩

/-- A turn of the loop of `process_block`. -/
def processByte (TruncPoly : BitVec w) (crc : CrcOptimal w) (x : UInt8) : CrcOptimal w :=
  let byteIndex := x.toBitVec ^^^ crc.rem.setWidth 8
  ⟨(crc.rem >>> 8) ^^^ (initTable TruncPoly).getD byteIndex.toNat 0#w⟩

def processBytes (TruncPoly : BitVec w) (buffer : Bytes) (crc : CrcOptimal w) : CrcOptimal w :=
  buffer.foldl (processByte TruncPoly) crc

/-- Reflected both ways, the remainder is not reflected once more. -/
def checksum (FinalXor : BitVec w) (crc : CrcOptimal w) : BitVec w := crc.rem ^^^ FinalXor

end CrcOptimal

/-- The checksum of a `crc_32_type` that has processed the bytes. -/
def crc32Type (buffer : Bytes) : UInt32 :=
  UInt32.ofBitVec (((CrcOptimal.new 0xFFFFFFFF#32).processBytes 0x04C11DB7#32 buffer).checksum 0xFFFFFFFF#32)

/-- The digests with this checksum. -/
abbrev Digests.withCrc32Type (digests : Digests) : Digests := { digests with crc32 := crc32Type }

/-! ## It is CRC-32 -/

theorem and_twoPow_ne_zero (x : BitVec w) {i : Nat} (hi : i < w) :
    x &&& BitVec.twoPow w i ≠ 0#w ↔ x.getLsbD i = true := by
  rw [BitVec.and_twoPow]
  cases x.getLsbD i with
  | false => simp
  | true =>
    have hbit : (BitVec.twoPow w i).getLsbD i = true := by rw [BitVec.getLsbD_twoPow]; simp [hi]
    simp only [↓reduceIte, iff_true]
    intro hzero
    rw [hzero] at hbit
    simp at hbit

/-- The loop of `reflect` after `k` turns. -/
theorem reflect_loop (x : BitVec w) {k : Nat} (hk : k ≤ w) :
    ∃ reflection, (List.range k).foldl (fun (s : BitVec w × BitVec w) i =>
        (if s.2 &&& 1#w ≠ 0#w then s.1 ||| (1#w <<< (w - 1 - i)) else s.1, s.2 >>> 1)) (0#w, x) =
          (reflection, x >>> k) ∧
      ∀ j < w, reflection.getLsbD j = (decide (w - 1 - j < k) && x.getLsbD (w - 1 - j)) := by
  induction k with
  | zero => exact ⟨0#w, rfl, fun j _ => by simp⟩
  | succ k ih =>
    obtain ⟨reflection, hloop, hbits⟩ := ih (by omega)
    rw [List.range_succ, List.foldl_append, hloop]
    refine ⟨_, by rw [List.foldl_cons, List.foldl_nil, ← BitVec.shiftRight_add], fun j hj => ?_⟩
    have hlow : x >>> k &&& 1#w ≠ 0#w ↔ x.getLsbD k = true := by
      have h := and_twoPow_ne_zero (x >>> k) (show 0 < w by omega)
      rwa [BitVec.getLsbD_ushiftRight, Nat.add_zero, BitVec.twoPow_zero] at h
    have hnew : (1#w <<< (w - 1 - k)).getLsbD j = decide (w - 1 - j = k) := by
      have h := BitVec.getLsbD_twoPow (w := w) (w - 1 - k) j
      rw [BitVec.twoPow] at h
      rw [h, Bool.eq_iff_iff]
      simp only [Bool.and_eq_true, decide_eq_true_eq]
      omega
    have hold := hbits j hj
    by_cases hset : x.getLsbD k = true
    · rw [if_pos (hlow.mpr hset), BitVec.getLsbD_or, hold, hnew]
      by_cases hjk : w - 1 - j = k
      · simp [hjk, hset]
      · simp [hjk, show w - 1 - j < k + 1 ↔ w - 1 - j < k by omega]
    · rw [if_neg (mt hlow.mp hset), hold]
      by_cases hjk : w - 1 - j = k
      · simp [hjk, hset]
      · simp [show w - 1 - j < k + 1 ↔ w - 1 - j < k by omega]

theorem reflect_eq (x : BitVec w) : reflect x = x.reverse := by
  obtain ⟨reflection, hloop, hbits⟩ := reflect_loop x (Nat.le_refl w)
  rw [reflect, hloop]
  apply BitVec.eq_of_getLsbD_eq
  intro j hj
  rw [hbits j hj, BitVec.getLsbD_reverse, BitVec.getMsbD_eq_getLsbD]
  simp [hj]
  omega

/-- The remainder is that of a division of the bits, highest first. -/
theorem tableRemainder_eq (hBits : 0 < w) (TruncPoly : BitVec w) (dividend : BitVec 8) :
    tableRemainder TruncPoly dividend = Crc.divide TruncPoly 0#w (Crc.bits 8 dividend.reverse) := by
  have hmask : ∀ i < 8, (dividend &&& 0x80#8 >>> i ≠ 0#8 ↔ dividend.reverse.getLsbD i = true) := by
    intro i hi
    have hpow : 0x80#8 >>> i = BitVec.twoPow 8 (7 - i) := by interval_cases i <;> rfl
    rw [hpow, and_twoPow_ne_zero dividend (show 7 - i < 8 by omega), BitVec.getLsbD_reverse, BitVec.getMsbD_eq_getLsbD]
    simp [hi]
  have hhigh : ∀ rem : BitVec w, rem &&& (1#w <<< (w - 1)) ≠ 0#w ↔ rem.msb = true := by
    intro rem
    rw [BitVec.msb_eq_getLsbD_last]
    exact and_twoPow_ne_zero rem (by omega)
  rw [tableRemainder, Crc.divide, Crc.bits, List.foldl_map]
  refine List.foldl_ext _ _ _ fun rem i hi => ?_
  simp only [hmask i (List.mem_range.mp hi), hhigh]
  rfl

/-- Stores at different places: each entry is the one stored for its number. -/
theorem getD_foldl_set {α : Type} (f : Nat → Nat) (g : Nat → α) (table : List α) (default : α) {n : Nat}
    (hinj : ∀ a < n, ∀ b < n, f a = f b → a = b) (hbound : ∀ a < n, f a < table.length) {a : Nat} (ha : a < n) :
    ((List.range n).foldl (fun table a => table.set (f a) (g a)) table).getD (f a) default = g a := by
  have hlength : ∀ k, ((List.range k).foldl (fun table a => table.set (f a) (g a)) table).length = table.length := by
    intro k
    induction k with
    | zero => rfl
    | succ k ih => rw [List.range_succ, List.foldl_append, List.foldl_cons, List.foldl_nil, List.length_set, ih]
  induction n with
  | zero => exact absurd ha (Nat.not_lt_zero a)
  | succ n ih =>
    rw [List.range_succ, List.foldl_append, List.foldl_cons, List.foldl_nil, List.getD_eq_getElem?_getD, List.getElem?_set]
    by_cases hlast : a = n
    · rw [hlast, if_pos rfl, if_pos (by rw [hlength]; exact hbound n (Nat.lt_succ_self n))]
      rfl
    · have hne : f n ≠ f a := fun h => hlast (hinj n (Nat.lt_succ_self n) a ha h).symm
      rw [if_neg hne, ← List.getD_eq_getElem?_getD]
      exact ih (fun a ha b hb => hinj a (by omega) b (by omega)) (fun a ha => hbound a (by omega)) (by omega)

/-- The table holds, for every octet, what its bits make of an empty register. -/
theorem initTable_eq (hBits : 0 < w) (TruncPoly : BitVec w) (i : BitVec 8) :
    (initTable TruncPoly).getD i.toNat 0#w = Crc.feed TruncPoly.reverse 0#w (Crc.bits 8 i) := by
  have hinj : ∀ a < 256, ∀ b < 256, (reflect (BitVec.ofNat 8 a)).toNat = (reflect (BitVec.ofNat 8 b)).toNat → a = b := by
    intro a ha b hb h
    have hrev := congrArg BitVec.reverse (BitVec.eq_of_toNat_eq h)
    rw [reflect_eq, reflect_eq, BitVec.reverse_reverse_eq, BitVec.reverse_reverse_eq] at hrev
    have hnat := congrArg BitVec.toNat hrev
    rwa [BitVec.toNat_ofNat, BitVec.toNat_ofNat, Nat.mod_eq_of_lt ha, Nat.mod_eq_of_lt hb] at hnat
  have hentry := getD_foldl_set (fun d => (reflect (BitVec.ofNat 8 d)).toNat)
    (fun d => reflect (tableRemainder TruncPoly (BitVec.ofNat 8 d))) (List.replicate 256 0#w) 0#w hinj
    (fun d _ => by rw [List.length_replicate]; exact (reflect (BitVec.ofNat 8 d)).isLt) i.reverse.isLt
  have hdividend : BitVec.ofNat 8 i.reverse.toNat = i.reverse := by
    rw [BitVec.ofNat_toNat, BitVec.setWidth_eq]
  rw [initTable]
  simp only [hdividend, reflect_eq (BitVec.reverse i), BitVec.reverse_reverse_eq] at hentry
  rw [hentry, reflect_eq, tableRemainder_eq hBits, Crc.reverse_divide, BitVec.reverse_reverse_eq]
  have hzero : (0#w).reverse = 0#w := BitVec.reverse_eq_zero_iff.mpr rfl
  rw [hzero]

/-- What `crc_32_type` computes is CRC-32. -/
theorem crc32Type_eq (buffer : Bytes) : crc32Type buffer = UInt32.ofBitVec (Crc.crc32 buffer) := by
  have hpoly : (0x04C11DB7#32).reverse = 0xEDB88320#32 := by decide +kernel
  have hinit : reflect 0xFFFFFFFF#32 = 0xFFFFFFFF#32 := by
    rw [reflect_eq]
    decide +kernel
  have hbyte : ∀ (crc : CrcOptimal 32) (x : UInt8),
      (crc.processByte 0x04C11DB7#32 x).rem = Crc.crcByte 0xEDB88320#32 crc.rem x := by
    intro crc x
    rw [Crc.crcByte_table (by decide), CrcOptimal.processByte, BitVec.xor_comm x.toBitVec, initTable_eq (by decide), hpoly]
  have hbytes : ∀ crc : CrcOptimal 32,
      (crc.processBytes 0x04C11DB7#32 buffer).rem = buffer.foldl (Crc.crcByte 0xEDB88320#32) crc.rem := by
    intro crc
    rw [CrcOptimal.processBytes]
    induction buffer generalizing crc with
    | nil => rfl
    | cons x buffer ih => rw [List.foldl_cons, List.foldl_cons, ih, hbyte]
  rw [crc32Type, CrcOptimal.checksum, hbytes, CrcOptimal.new, hinit]
  rfl

end NatTester.Source
