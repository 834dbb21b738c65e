import NatTester.Lib.Loop
import NatTester.Source.FastHashDynamic
import Mathlib.NumberTheory.LucasPrimality
import Mathlib.Tactic.NormNum.Prime
import Mathlib.Tactic.ReduceModChar

/-!
# FindPrime by its loops

`fasthash.cpp`: the two loops of `FindPrime` with their counters, which are
`unsigned int`, and what `isPrime` and `findPrimeLoop` have to do with them. On odd
numbers the test for divisors is one for primes.
-/
namespace NatTester.Source
open NatTester.Lib

/-- The `for` loop, for one `x`: what `fPrime` is where it is left. -/
def divisorBody (result x : Nat) : Bool ⊕ Nat :=
  let stop := Nat.sqrt result + 1
  if x ≤ stop then
    if result % x = 0 then .inl false else .inr ((x + 1) % 0x100000000)
  else .inl true

/-- The `while` loop, for one `result`. -/
def candidateBody (result : Nat) : Nat ⊕ Nat :=
  if isPrime result then .inl result else .inr ((result + 2) % 0x100000000)

/-- `result` in front of the `while` loop. -/
def firstCandidate (val : Nat) : Nat := if val % 2 = 0 then val + 1 else val

/-! ## The loops and the functions -/

theorem isPrime_iff_forall (result : Nat) :
    isPrime result = true ↔ ∀ x, 3 ≤ x → x ≤ Nat.sqrt result + 1 → result % x ≠ 0 := by
  rw [isPrime, List.all_eq_true]
  simp only [List.mem_range'_1, decide_eq_true_eq]
  constructor
  · intro h x hlow hhigh
    exact h x ⟨hlow, by omega⟩
  · intro h x hx
    exact h x hx.1 (by omega)

/-- What holds in front of each round of the `for` loop. -/
structure NoDivisorBelow (result x : Nat) : Prop where
  low : 3 ≤ x
  high : x ≤ Nat.sqrt result + 3
  below : ∀ y, 3 ≤ y → y < x → result % y ≠ 0

theorem divisorBody_step {result x : Nat} (hresult : result < 0x100000000) (hx : NoDivisorBelow result x) :
    (∃ fPrime, divisorBody result x = .inl fPrime ∧ fPrime = isPrime result) ∨
      ∃ after, divisorBody result x = .inr after ∧ x + 1 < 0x100000000 ∧ NoDivisorBelow result after ∧
        Nat.sqrt result + 3 - after < Nat.sqrt result + 3 - x := by
  obtain ⟨hlow, -, hbelow⟩ := hx
  have hsqrt : Nat.sqrt result < 0x10000 := Nat.sqrt_lt.mpr hresult
  unfold divisorBody
  dsimp only
  by_cases hstop : x ≤ Nat.sqrt result + 1
  · rw [if_pos hstop]
    by_cases hdivides : result % x = 0
    · have hprime : isPrime result = false :=
        Bool.eq_false_iff.mpr fun hprime => (isPrime_iff_forall result).mp hprime x hlow hstop hdivides
      rw [if_pos hdivides, hprime]
      exact .inl ⟨false, rfl, rfl⟩
    · rw [if_neg hdivides, Nat.mod_eq_of_lt (by omega)]
      refine .inr ⟨x + 1, rfl, by omega, ⟨by omega, by omega, fun y hy hless => ?_⟩, by omega⟩
      rcases Nat.lt_succ_iff_lt_or_eq.mp hless with hbefore | rfl
      · exact hbelow y hy hbefore
      · exact hdivides
  · have hprime : isPrime result = true :=
      (isPrime_iff_forall result).mpr fun y hy hle => hbelow y hy (by omega)
    rw [if_neg hstop, hprime]
    exact .inl ⟨true, rfl, rfl⟩

/-- The `for` loop ends with what `isPrime` says, long before `x` comes round. -/
theorem divisorBody_leaves {result : Nat} (hresult : result < 0x100000000) :
    ∃ divisors, Leaves (divisorBody result) 3 divisors (isPrime result) ∧ ∀ x ∈ divisors, x + 1 < 0x100000000 := by
  obtain ⟨divisors, fPrime, hleaves, rfl, hpassed, -⟩ := leaves_of_variant (divisorBody result)
    (fun x => Nat.sqrt result + 3 - x) (fun _ => divisorBody_step hresult) (s := 3) ⟨by omega, by omega, by omega⟩
  exact ⟨divisors, hleaves, hpassed⟩

/-- What the `while` loop ends with is found by `findPrimeLoop`, given as many rounds. -/
theorem findPrimeLoop_of_leaves {result found : Nat} {passed : List Nat} (h : Leaves candidateBody result passed found)
    {fuel : Nat} (hfuel : passed.length < fuel) : findPrimeLoop fuel result = found := by
  induction h generalizing fuel with
  | @leave result found left =>
    obtain ⟨fuel, rfl⟩ := Nat.exists_eq_succ_of_ne_zero (Nat.ne_of_gt hfuel)
    unfold candidateBody at left
    rw [findPrimeLoop]
    split at left
    next hprime => rw [if_pos hprime, Sum.inl.inj left]
    next => cases left
  | @next result after passed found goesOn rest ih =>
    rw [List.length_cons] at hfuel
    obtain ⟨fuel, rfl⟩ := Nat.exists_eq_succ_of_ne_zero (Nat.ne_of_gt (Nat.lt_of_le_of_lt (Nat.zero_le _) hfuel))
    unfold candidateBody at goesOn
    rw [findPrimeLoop]
    split at goesOn
    next => cases goesOn
    next hprime =>
      rw [if_neg hprime, Sum.inr.inj goesOn]
      exact ih (by omega)

/-! ## Primes -/

/-- For odd numbers from 3 on, the divisors from 3 to `sqrt(result)+1` decide. -/
theorem isPrime_iff {result : Nat} (hodd : result % 2 = 1) (hlow : 3 ≤ result) : isPrime result = true ↔ result.Prime := by
  rw [isPrime_iff_forall, Nat.prime_def_le_sqrt]
  constructor
  · intro h
    refine ⟨by omega, fun m hm hsqrt hdvd => ?_⟩
    rcases Nat.eq_or_lt_of_le hm with rfl | hthree
    · omega
    · exact h m hthree (by omega) (Nat.mod_eq_zero_of_dvd hdvd)
  · rintro ⟨-, h⟩ x hx hstop hmod
    have hprime : result.Prime := Nat.prime_def_le_sqrt.mpr ⟨by omega, h⟩
    have hself : x = result := (hprime.eq_one_or_self_of_dvd x (Nat.dvd_of_mod_eq_zero hmod)).resolve_left (by omega)
    -- the candidate itself is beyond the bound
    have hsquare := Nat.sqrt_le' result
    nlinarith

/-- The largest prime that an `unsigned int` holds, by Lucas's test with 2. -/
theorem prime_4294967291 : Nat.Prime 4294967291 := by
  refine lucas_primality _ (2 : ZMod 4294967291) (by norm_num; reduce_mod_char) ?_
  intro q hq hdvd
  have hfactor : Nat.Prime 22605091 := by norm_num
  have hproduct : q ∣ 2 * 5 * 19 * 22605091 := hdvd
  simp only [hq.dvd_mul, Nat.prime_dvd_prime_iff_eq hq Nat.prime_two, Nat.prime_dvd_prime_iff_eq hq Nat.prime_five,
    Nat.prime_dvd_prime_iff_eq hq (show Nat.Prime 19 by norm_num), Nat.prime_dvd_prime_iff_eq hq hfactor] at hproduct
  rcases hproduct with ((rfl | rfl) | rfl) | rfl <;> norm_num <;> reduce_mod_char <;> decide

end NatTester.Source
