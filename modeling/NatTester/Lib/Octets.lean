import Mathlib.Data.List.Basic
import Mathlib.Tactic.Ring

/-!
# Numbers as octets

Fixed-width little- and big-endian digits of a natural number in base 256, and
the numbers octet lists denote.
-/
namespace NatTester.Lib

/-- The `k` low octets of `n`, least significant first. -/
def leOctets : Nat → Nat → List UInt8
  | 0, _ => []
  | k + 1, n => UInt8.ofNat n :: leOctets k (n / 256)

/-- The number a list of octets denotes, least significant first. -/
def ofLeOctets : List UInt8 → Nat
  | [] => 0
  | b :: bs => b.toNat + 256 * ofLeOctets bs

def beOctets (k n : Nat) : List UInt8 := (leOctets k n).reverse

def ofBeOctets (bs : List UInt8) : Nat := ofLeOctets bs.reverse

@[simp] theorem leOctets_length (k n : Nat) : (leOctets k n).length = k := by
  induction k generalizing n with
  | zero => rfl
  | succ k ih => simp [leOctets, ih]

@[simp] theorem beOctets_length (k n : Nat) : (beOctets k n).length = k := by
  simp [beOctets]

theorem ofLeOctets_lt (bs : List UInt8) : ofLeOctets bs < 256 ^ bs.length := by
  induction bs with
  | nil => simp [ofLeOctets]
  | cons b bs ih =>
    have hb := b.toNat_lt
    simp only [ofLeOctets, List.length_cons, Nat.pow_succ]
    omega

theorem ofBeOctets_lt (bs : List UInt8) : ofBeOctets bs < 256 ^ bs.length := by
  simpa [ofBeOctets] using ofLeOctets_lt bs.reverse

theorem ofLeOctets_leOctets (k n : Nat) : ofLeOctets (leOctets k n) = n % 256 ^ k := by
  induction k generalizing n with
  | zero => simp [leOctets, ofLeOctets, Nat.mod_one]
  | succ k ih =>
    have hb : (UInt8.ofNat n).toNat = n % 256 := UInt8.toNat_ofNat'
    rw [leOctets, ofLeOctets, ih, hb, Nat.pow_succ, Nat.mul_comm (256 ^ k), Nat.mod_mul]

theorem ofBeOctets_beOctets (k n : Nat) : ofBeOctets (beOctets k n) = n % 256 ^ k := by
  simp [ofBeOctets, beOctets, ofLeOctets_leOctets]

theorem ofBeOctets_beOctets_of_lt {k n : Nat} (h : n < 256 ^ k) :
    ofBeOctets (beOctets k n) = n := by
  rw [ofBeOctets_beOctets, Nat.mod_eq_of_lt h]

theorem leOctets_ofLeOctets (bs : List UInt8) : leOctets bs.length (ofLeOctets bs) = bs := by
  induction bs with
  | nil => rfl
  | cons b bs ih =>
    have hb := b.toNat_lt
    have hmod : UInt8.ofNat (b.toNat + 256 * ofLeOctets bs) = b := by
      apply UInt8.toNat.inj
      rw [UInt8.toNat_ofNat']
      omega
    have hdiv : (b.toNat + 256 * ofLeOctets bs) / 256 = ofLeOctets bs := by omega
    simp only [List.length_cons, ofLeOctets, leOctets, hmod, hdiv, ih]

theorem beOctets_ofBeOctets {bs : List UInt8} {k : Nat} (h : bs.length = k) :
    beOctets k (ofBeOctets bs) = bs := by
  subst h
  have hle := leOctets_ofLeOctets bs.reverse
  rw [List.length_reverse] at hle
  simp [beOctets, ofBeOctets, hle]

theorem leOctets_mod (k n : Nat) : leOctets k (n % 256 ^ k) = leOctets k n := by
  have h := leOctets_ofLeOctets (leOctets k n)
  rwa [leOctets_length, ofLeOctets_leOctets] at h

theorem beOctets_mod (k n : Nat) : beOctets k (n % 256 ^ k) = beOctets k n := by
  rw [beOctets, leOctets_mod, beOctets]

end NatTester.Lib
