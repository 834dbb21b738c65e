import NatTester.Source.FindPrime
import Mathlib.Order.Bounds.Basic

/-!
# The table width is the next prime

Up to the largest prime that an `unsigned int` holds, `FindPrime` ends without a counter
that comes round, and what it returns is the least prime from its argument on.
-/
namespace NatTester.Guarantees
open NatTester.Lib NatTester.Source

/-- What holds in front of each round of the `while` loop: no prime from `val` on has been passed. -/
structure NoPrimeBelow (val result : Nat) : Prop where
  odd : result % 2 = 1
  low : 3 ≤ result
  high : result ≤ 4294967291
  from_val : val ≤ result
  below : ∀ p, p.Prime → val ≤ p → result ≤ p

theorem firstCandidate_noPrimeBelow {val : Nat} (hval : val ≤ 4294967291) (hlow : 3 ≤ val) :
    NoPrimeBelow val (firstCandidate val) := by
  unfold firstCandidate
  by_cases heven : val % 2 = 0
  · rw [if_pos heven]
    refine ⟨by omega, by omega, by omega, by omega, fun p hp hle => ?_⟩
    rcases hp.eq_two_or_odd with rfl | hodd <;> omega
  · rw [if_neg heven]
    exact ⟨by omega, hlow, hval, Nat.le_refl val, fun _ _ hle => hle⟩

theorem candidateBody_step {val result : Nat} (h : NoPrimeBelow val result) :
    (∃ found, candidateBody result = .inl found ∧ IsLeast {p | p.Prime ∧ val ≤ p} found) ∨
      ∃ after, candidateBody result = .inr after ∧ result + 2 < 0x100000000 ∧ NoPrimeBelow val after ∧
        (4294967291 - after) / 2 < (4294967291 - result) / 2 := by
  obtain ⟨hodd, hlow, hhigh, hval, hbelow⟩ := h
  have hiff := isPrime_iff hodd hlow
  unfold candidateBody
  by_cases hprime : result.Prime
  · rw [if_pos (hiff.mpr hprime)]
    exact .inl ⟨result, rfl, ⟨hprime, hval⟩, fun p hp => hbelow p hp.1 hp.2⟩
  · -- the largest prime is not passed, so there is room for two more
    have hne : result ≠ 4294967291 := fun heq => hprime (heq ▸ prime_4294967291)
    rw [if_neg (mt hiff.mp hprime), Nat.mod_eq_of_lt (by omega)]
    refine .inr ⟨result + 2, rfl, by omega, ⟨by omega, by omega, by omega, by omega, fun p hp hle => ?_⟩, by omega⟩
    have hfrom := hbelow p hp hle
    have hself : p ≠ result := fun heq => hprime (heq ▸ hp)
    rcases hp.eq_two_or_odd with rfl | hpodd <;> omega

/-- Where `FindPrime` searches, it finds the least prime before `result` comes round. -/
theorem findPrime_search {val : Nat} (hval : val ≤ 4294967291) (hlow : 3 < val) :
    ∃ passed, Leaves candidateBody (firstCandidate val) passed (findPrime val) ∧
      IsLeast {p | p.Prime ∧ val ≤ p} (findPrime val) ∧ ∀ result ∈ passed, result + 2 < 0x100000000 := by
  obtain ⟨passed, found, hleaves, hleast, hpassed, hlength⟩ := leaves_of_variant candidateBody
    (fun result => (4294967291 - result) / 2) (fun _ => candidateBody_step) (firstCandidate_noPrimeBelow hval (by omega))
  have hfind : findPrime val = found := by
    rw [findPrime, if_neg (by omega), if_neg (by omega)]
    exact findPrimeLoop_of_leaves hleaves (by omega)
  rw [hfind]
  exact ⟨passed, hleaves, hleast, hpassed⟩

theorem findPrime_least {val : Nat} (hval : val ≤ 4294967291) : IsLeast {p | p.Prime ∧ val ≤ p} (findPrime val) := by
  rcases Nat.lt_or_ge 3 val with hlow | hsmall
  · obtain ⟨passed, -, hleast, -⟩ := findPrime_search hval hlow
    exact hleast
  unfold findPrime
  by_cases htwo : val ≤ 2
  · rw [if_pos htwo]
    exact ⟨⟨Nat.prime_two, htwo⟩, fun p hp => hp.1.two_le⟩
  · have hthree : val = 3 := by omega
    subst hthree
    exact ⟨⟨Nat.prime_three, Nat.le_refl 3⟩, fun p hp => hp.2⟩

/-- `FindPrime(val)` returns the least prime from `val` on; where it searches, its loops are left, and neither
`result` nor `x` comes round before. -/
structure FindsPrime (val : Nat) : Prop where
  least : IsLeast {p | p.Prime ∧ val ≤ p} (findPrime val)
  ends : 3 < val → ∃ passed, Leaves candidateBody (firstCandidate val) passed (findPrime val) ∧
    (∀ result ∈ passed, result + 2 < 0x100000000) ∧
    ∀ result ∈ findPrime val :: passed, result < 0x100000000 ∧
      ∃ divisors, Leaves (divisorBody result) 3 divisors (isPrime result) ∧ ∀ x ∈ divisors, x + 1 < 0x100000000

/-- **Up to the largest prime of 32 bits, `FindPrime` ends with the next prime.** -/
theorem findPrime_next_prime {val : Nat} (hval : val ≤ 4294967291) : FindsPrime val := by
  refine ⟨findPrime_least hval, fun hlow => ?_⟩
  obtain ⟨passed, hleaves, hleast, hpassed⟩ := findPrime_search hval hlow
  refine ⟨passed, hleaves, hpassed, fun result hresult => ?_⟩
  have hlt : result < 0x100000000 := by
    rcases List.mem_cons.mp hresult with rfl | hmem
    · exact Nat.lt_of_le_of_lt (hleast.2 ⟨prime_4294967291, hval⟩) (by decide)
    · exact Nat.lt_of_le_of_lt (Nat.le_add_right result 2) (hpassed result hmem)
  exact ⟨hlt, divisorBody_leaves hlt⟩

theorem findPrime_next_prime_14 : FindsPrime 14 := findPrime_next_prime (by decide)

end NatTester.Guarantees
