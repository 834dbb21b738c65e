import Mathlib.Data.Int.Log
import Mathlib.Data.Rat.Floor
import Mathlib.Tactic.FieldSimp
import Mathlib.Tactic.Linarith

/-!
# Doubles

`double q` is the number with 53 significant bits that is nearest to `q`, the even one
where two are. The range of the exponent is left out. Below 2^52 the double of a
quotient has the floor and the ceiling of the quotient itself.
-/
namespace NatTester.Lib

/-- The nearest integer, the even one halfway between two. -/
def roundEven (q : ℚ) : ℤ :=
  if q - ⌊q⌋ < 1 / 2 then ⌊q⌋
  else if 1 / 2 < q - ⌊q⌋ then ⌊q⌋ + 1
  else if ⌊q⌋ % 2 = 0 then ⌊q⌋
  else ⌊q⌋ + 1

theorem roundEven_intCast (n : ℤ) : roundEven n = n := by
  unfold roundEven
  rw [Int.floor_intCast, sub_self, if_pos (by norm_num)]

theorem floor_le_roundEven (q : ℚ) : ⌊q⌋ ≤ roundEven q := by
  unfold roundEven
  split_ifs <;> omega

theorem roundEven_le (q : ℚ) : roundEven q ≤ ⌊q⌋ + 1 := by
  unfold roundEven
  split_ifs <;> omega

/-- The exponent of the last significant bit. -/
def lastBit (q : ℚ) : ℤ := Int.log 2 |q| - 52

def double (q : ℚ) : ℚ := roundEven (q / 2 ^ lastBit q) * 2 ^ lastBit q

/-- Where the last bit stands behind the point, `double` rounds the quotient times a power of two. -/
theorem double_eq {q : ℚ} {k : ℕ} (h : lastBit q = -k) : double q = roundEven (q * 2 ^ k) / 2 ^ k := by
  rw [double, h, zpow_neg, zpow_natCast, div_inv_eq_mul, div_eq_mul_inv]

theorem lastBit_eq {q : ℚ} (hne : q ≠ 0) (hlt : |q| < 2 ^ 53) : ∃ k : ℕ, lastBit q = -k ∧ 2 ^ 52 ≤ |q| * 2 ^ k := by
  have hpos : 0 < |q| := abs_pos.mpr hne
  have hlog : Int.log 2 |q| < 53 := (Int.lt_zpow_iff_log_lt (by decide) hpos).mp (by exact_mod_cast hlt)
  have hle := Int.zpow_log_le_self (b := 2) (by decide) hpos
  refine ⟨(52 - Int.log 2 |q|).toNat, ?_, ?_⟩
  · unfold lastBit
    omega
  · have hsplit : (2 : ℚ) ^ (52 : ℤ) = 2 ^ Int.log 2 |q| * 2 ^ (52 - Int.log 2 |q|) := by
      rw [← zpow_add₀ (by norm_num : (2 : ℚ) ≠ 0)]
      congr 1
      omega
    have hpower : (2 : ℚ) ^ (52 - Int.log 2 |q|) = 2 ^ (52 - Int.log 2 |q|).toNat := by
      rw [← zpow_natCast, Int.toNat_of_nonneg (by omega)]
    rw [← hpower]
    calc (2 : ℚ) ^ 52 = 2 ^ Int.log 2 |q| * 2 ^ (52 - Int.log 2 |q|) := by rw [← hsplit]; norm_num
      _ ≤ |q| * 2 ^ (52 - Int.log 2 |q|) := by
        refine mul_le_mul_of_nonneg_right ?_ (zpow_nonneg (by norm_num) _)
        exact_mod_cast hle

theorem double_intCast {n : ℤ} (h : |n| < 2 ^ 53) : double n = n := by
  by_cases hzero : n = 0
  · subst hzero
    unfold double
    rw [Int.cast_zero, zero_div, ← Int.cast_zero, roundEven_intCast, Int.cast_zero, zero_mul]
  · obtain ⟨k, hlast, -⟩ := lastBit_eq (q := n) (by exact_mod_cast hzero) (by exact_mod_cast h)
    have hscaled : (n : ℚ) * 2 ^ k = ((n * 2 ^ k : ℤ) : ℚ) := by push_cast; rfl
    rw [double_eq hlast, hscaled, roundEven_intCast, ← hscaled, mul_div_cancel_right₀ _ (by positivity)]

section Quotient

variable {d n : ℕ}

/-- The quotient of numbers below 2^52 is rounded at a bit that is finer than the denominator. -/
theorem double_quotient (hpos : 0 < d) (hd : d < 2 ^ 52) (hn : 0 < n) :
    ∃ k : ℕ, n < 2 ^ k ∧ double (d / n) = roundEven (d / n * 2 ^ k) / 2 ^ k := by
  have hn' : (0 : ℚ) < n := by exact_mod_cast hn
  have hq : (0 : ℚ) < d / n := div_pos (by exact_mod_cast hpos) hn'
  have hle : (d / n : ℚ) ≤ d := div_le_self (by positivity) (by exact_mod_cast hn)
  have hd' : (d : ℚ) < 2 ^ 52 := by exact_mod_cast hd
  have hlt : |(d / n : ℚ)| < 2 ^ 53 := by
    rw [abs_of_pos hq]
    linarith
  obtain ⟨k, hlast, hbits⟩ := lastBit_eq (ne_of_gt hq) hlt
  refine ⟨k, ?_, double_eq hlast⟩
  rw [abs_of_pos hq, div_mul_eq_mul_div, le_div_iff₀ hn'] at hbits
  have hmul : (2 : ℚ) ^ 52 * n < 2 ^ 52 * 2 ^ k := by
    refine lt_of_le_of_lt hbits ?_
    exact mul_lt_mul_of_pos_right hd' (by positivity)
  exact_mod_cast lt_of_mul_lt_mul_left hmul (by positivity)

theorem double_quotient_eq {c : ℕ} (hd : d < 2 ^ 52) (hn : 0 < n) (h : d = c * n) : double (d / n) = c := by
  have hquotient : (d / n : ℚ) = ((c : ℤ) : ℚ) := by
    rw [h, Nat.cast_mul, mul_div_cancel_right₀ _ (by exact_mod_cast hn.ne'), Int.cast_natCast]
  have hle : c ≤ d := by nlinarith
  rw [hquotient, double_intCast (by rw [abs_of_nonneg (by omega)]; omega), Int.cast_natCast]

theorem double_quotient_lt {c : ℕ} (hd : d < 2 ^ 52) (hn : 0 < n) (h : d < c * n) : double (d / n) < c := by
  rcases Nat.eq_zero_or_pos d with rfl | hpos
  · rw [double_quotient_eq hd hn (Nat.zero_mul n).symm]
    exact_mod_cast Nat.pos_of_mul_pos_right h
  obtain ⟨k, hk, hdouble⟩ := double_quotient hpos hd hn
  have hround : (roundEven (d / n * 2 ^ k) : ℚ) ≤ d / n * 2 ^ k + 1 := by
    have hle : (roundEven (d / n * 2 ^ k) : ℚ) ≤ ⌊(d / n * 2 ^ k : ℚ)⌋ + 1 := by exact_mod_cast roundEven_le _
    linarith [Int.floor_le (d / n * 2 ^ k : ℚ)]
  have hroom : d * 2 ^ k + n < c * n * 2 ^ k := by nlinarith
  rw [hdouble, div_lt_iff₀ (by positivity)]
  refine lt_of_le_of_lt hround ?_
  rw [div_mul_eq_mul_div, ← lt_sub_iff_add_lt, div_lt_iff₀ (by exact_mod_cast hn)]
  have hroom' : (d * 2 ^ k + n : ℚ) < c * n * 2 ^ k := by exact_mod_cast hroom
  linarith

theorem lt_double_quotient {c : ℕ} (hd : d < 2 ^ 52) (hn : 0 < n) (h : c * n < d) : c < double (d / n) := by
  obtain ⟨k, hk, hdouble⟩ := double_quotient (by omega) hd hn
  have hround : (d / n * 2 ^ k : ℚ) - 1 < roundEven (d / n * 2 ^ k) := by
    have hle : (⌊(d / n * 2 ^ k : ℚ)⌋ : ℚ) ≤ roundEven (d / n * 2 ^ k) := by exact_mod_cast floor_le_roundEven _
    linarith [Int.sub_one_lt_floor (d / n * 2 ^ k : ℚ)]
  have hroom : c * n * 2 ^ k + n < d * 2 ^ k := by nlinarith
  rw [hdouble, lt_div_iff₀ (by positivity)]
  refine lt_of_lt_of_le ?_ hround.le
  rw [div_mul_eq_mul_div, lt_sub_iff_add_lt, lt_div_iff₀ (by exact_mod_cast hn)]
  have hroom' : (c * n * 2 ^ k + n : ℚ) < d * 2 ^ k := by exact_mod_cast hroom
  linarith

theorem floor_double_quotient (hd : d < 2 ^ 52) (hn : 0 < n) : ⌊double (d / n)⌋ = (d / n : ℕ) := by
  have hbehind := double_quotient_lt hd hn (Nat.lt_mul_of_div_lt (Nat.lt_succ_self (d / n)) hn)
  rw [Int.floor_eq_iff]
  constructor
  · rcases Nat.lt_or_eq_of_le (Nat.div_mul_le_self d n) with hlt | heq
    · exact_mod_cast (lt_double_quotient hd hn hlt).le
    · exact_mod_cast (double_quotient_eq hd hn heq.symm).ge
  · exact_mod_cast hbehind

theorem ceil_double_quotient (hd : d < 2 ^ 52) (hn : 0 < n) (hpos : 0 < d) :
    ⌈double (d / n)⌉ = ((d - 1) / n + 1 : ℕ) := by
  have hbelow := Nat.div_mul_le_self (d - 1) n
  have hfront := lt_double_quotient (c := (d - 1) / n) hd hn (by omega)
  have hle : d ≤ ((d - 1) / n + 1) * n := by
    have hlt : d - 1 < ((d - 1) / n + 1) * n := Nat.lt_mul_of_div_lt (Nat.lt_succ_self _) hn
    omega
  rw [Int.ceil_eq_iff]
  constructor
  · push_cast
    rw [add_sub_cancel_right]
    exact hfront
  · rcases Nat.lt_or_eq_of_le hle with hlt | heq
    · exact_mod_cast (double_quotient_lt hd hn hlt).le
    · exact_mod_cast (double_quotient_eq hd hn heq).le

end Quotient

end NatTester.Lib
