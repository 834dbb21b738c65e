import NatTester.Source.HResult
import NatTester.Source.StunTypes
import Mathlib.Data.List.TakeWhile

/-!
# Strings, digests and the authentication interface

`stunauth.h`, and what the code calls of the C and OpenSSL libraries. HMAC-SHA1,
MD5 and the CRC-32 of boost are functions of their inputs about which only the
length of the result is known.
-/
namespace NatTester.Source

/-- The digests. `NULL` results do not occur: every call passes a result buffer. -/
class Digests where
  hmacSha1 : (key data : Bytes) → Bytes
  hmacSha1_length : ∀ key data, (hmacSha1 key data).length = 20
  md5 : Bytes → Bytes
  md5_length : ∀ data, (md5 data).length = 16
  crc32 : Bytes → UInt32

/-- The string at a `char*`: the bytes before the first NUL. -/
def cstr (mem : Bytes) : Bytes := mem.takeWhile (· ≠ 0)

theorem cstr_ne_zero {mem : Bytes} {b : UInt8} (h : b ∈ cstr mem) : b ≠ 0 := by
  simpa using List.mem_takeWhile_imp h

theorem cstr_length_le (mem : Bytes) : (cstr mem).length ≤ mem.length :=
  (List.takeWhile_prefix _).length_le

@[simp] theorem cstr_cstr_append_zero (mem rest : Bytes) : cstr (cstr mem ++ 0 :: rest) = cstr mem := by
  rw [cstr, List.takeWhile_append_of_pos]
  · simp
  · intro b hb
    simpa using cstr_ne_zero hb

@[simp] theorem cstr_cstr (mem : Bytes) : cstr (cstr mem) = cstr mem := by
  rw [cstr, cstr, List.takeWhile_idem]

/-- Zero octets after a string do not change it. -/
@[simp] theorem cstr_append_zeros (mem : Bytes) (n : Nat) :
    cstr (cstr mem ++ List.replicate n 0) = cstr mem := by
  cases n with
  | zero => simp
  | succ n => rw [List.replicate_succ, cstr_cstr_append_zero]

/-- `StringHelper::IsNullOrEmpty` on a pointer that is not NULL. -/
theorem cstr_eq_nil_iff {mem : Bytes} : cstr mem = [] ↔ mem = [] ∨ mem.head? = some 0 := by
  cases mem with
  | nil => simp [cstr]
  | cons b mem =>
    by_cases hb : b = 0 <;> simp [cstr, hb]

/-- The text whose MD5 is a long-term key: user, realm and password between colons. -/
def longTermText (pszUser pszRealm pszPassword : Bytes) : Bytes :=
  cstr pszUser ++ [0x3A] ++ cstr pszRealm ++ [0x3A] ++ cstr pszPassword

def MAX_STUN_AUTH_STRING_SIZE : Nat := 64

/-- `char sz[MAX_STUN_AUTH_STRING_SIZE + 1]` -/
structure AuthString where
  chars : Bytes
  chars_length : chars.length = MAX_STUN_AUTH_STRING_SIZE + 1
  deriving DecidableEq, Repr

namespace AuthString

def zero : AuthString := ⟨List.replicate 65 0, rfl⟩

/-- `sz[ARRAYSIZE(sz) - 1] = 0` -/
def terminate (s : AuthString) : AuthString :=
  ⟨s.chars.set 64 0, by rw [List.length_set, s.chars_length]⟩

/-- The array over whose beginning `bs` was written. -/
def overlay (s : AuthString) (bs : Bytes) : AuthString :=
  ⟨(bs ++ s.chars.drop bs.length).take 65, by
    have h : s.chars.length = 65 := s.chars_length
    simp only [List.length_take, List.length_append, List.length_drop, MAX_STUN_AUTH_STRING_SIZE]
    omega⟩

/-- `strcpy(dst, src)` -/
def strcpy (dst src : AuthString) : AuthString := dst.overlay (cstr src.chars ++ [0])

def str (s : AuthString) : Bytes := cstr s.chars

theorem terminate_str_length (s : AuthString) : s.terminate.str.length ≤ 64 := by
  have h : s.chars.length = 65 := s.chars_length
  by_contra hlt
  have hlen := cstr_length_le (s.chars.set 64 0)
  have hpre : (s.chars.set 64 0).takeWhile (· ≠ 0) = s.chars.set 64 0 := by
    apply (List.takeWhile_prefix _).eq_of_length
    simp only [str, cstr, terminate] at hlt
    simp only [cstr, List.length_set] at hlen ⊢
    omega
  have hzero : (0 : UInt8) ∈ s.chars.set 64 0 := List.mem_set (by omega) 0
  rw [← hpre] at hzero
  exact cstr_ne_zero hzero rfl

/-- A terminated string is copied whole. -/
theorem strcpy_str (dst : AuthString) {src : AuthString} (h : src.str.length ≤ 64) : (dst.strcpy src).str = src.str := by
  simp only [str] at h
  have hwhole : cstr src.chars ++ [0] ++ dst.chars.drop (cstr src.chars ++ [0]).length =
      cstr src.chars ++ 0 :: dst.chars.drop (cstr src.chars ++ [0]).length := by simp
  simp only [str, strcpy, overlay, hwhole]
  obtain ⟨n, hn⟩ : ∃ n, 65 - (cstr src.chars).length = n + 1 := ⟨64 - (cstr src.chars).length, by omega⟩
  rw [List.take_append, List.take_of_length_le (by omega), hn, List.take_succ_cons, cstr_cstr_append_zero]

end AuthString

structure AuthAttributes where
  szUser : AuthString
  szRealm : AuthString
  szNonce : AuthString
  szLegacyPassword : AuthString
  fMessageIntegrityPresent : Bool
  deriving DecidableEq, Repr

inductive AuthCredentialMechanism where
  | authCredShortTerm | authCredLongTerm
  deriving DecidableEq, Repr

inductive AuthResponseType where
  | allow | allowConditional | staleNonce | reject | unauthorized
  deriving DecidableEq, Repr

structure AuthResponse where
  responseType : AuthResponseType
  authCredMech : AuthCredentialMechanism
  szPassword : AuthString
  szRealm : AuthString
  szNonce : AuthString
  deriving DecidableEq, Repr

/-- `DoAuthCheck`: the code it returns and the response it leaves in the zeroed `AuthResponse`. -/
abbrev IStunAuth := AuthAttributes → HRESULT × AuthResponse

end NatTester.Source
