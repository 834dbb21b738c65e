import NatTester.Lib.Strip
import NatTester.Source.DataStream

/-!
# StringHelper

`stringhelper.cpp`, with the `atoi` of the C library: `strtol`, which stops at the
bounds of `long`, converted to `int`. A `long` is as wide as a `size_t` on the
platforms the programs are built for. A text holds no NUL, and each
of its characters stands for one `char`; only those of ASCII are told apart.
-/
namespace NatTester.Source
open NatTester.Lib

/-- A number, as a conversion to `int` leaves it. -/
def asInt (n : Int) : Int := n.bmod 0x100000000

theorem asInt_of_int {n : Int} (hlow : -0x80000000 ≤ n) (hhigh : n < 0x80000000) : asInt n = n := by
  unfold asInt
  exact Int.bmod_eq_of_le (by omega) (by omega)

/-- `ISWHITESPACE`; also what `atoi` skips. -/
def isWhitespace (ch : Char) : Bool := (9 ≤ ch.toNat ∧ ch.toNat ≤ 13) ∨ ch = ' '

def isNullOrEmpty (psz : String) : Bool := psz = ""

def toLower (str : String) : String := String.ofList (str.toList.map Char.toLower)

/-- The loop of `Trim`: the first and the last position of other than white space, -1 where there is none yet. -/
def trimLoop (length : Int) : List Char → Int → Int × Int → Int × Int
  | [], _, bounds => bounds
  | ch :: rest, index, (start, last) =>
    if index < length then
      trimLoop length rest (index + 1)
        (if isWhitespace ch then (start, last) else if start = -1 then (index, index) else (start, index))
    else (start, last)

/-- A text of nothing but white space stays as it is. -/
def trim (str : String) : String :=
  let length := asInt str.length
  let (start, last) := trimLoop length str.toList 0 (-1, -1)
  if start ≠ -1 then String.ofList ((str.toList.drop start.toNat).take (last - start + 1).toNat) else str

/-- The number the leading digits write. -/
def decimal (digits : List Char) : Nat :=
  (digits.takeWhile Char.isDigit).foldl (fun value ch => 10 * value + (ch.toNat - 48)) 0

/-- The number at the front of a text, behind white space and a sign; 0 where there is no digit. -/
def leadingNumber (psz : String) : Int :=
  match psz.toList.dropWhile isWhitespace with
  | '-' :: digits => -(decimal digits : Int)
  | '+' :: digits => decimal digits
  | digits => decimal digits

/-- `strtol(psz, NULL, 10)` -/
def strtol [Platform] (psz : String) : Int :=
  max (-2 ^ (Platform.sizeBits - 1)) (min (leadingNumber psz) (2 ^ (Platform.sizeBits - 1) - 1))

def atoi [Platform] (psz : String) : Int := asInt (strtol psz)

/-- `ValidateNumberString(psz, nMinValue, nMaxValue, &nResult)`; `none` is -1. -/
def validateNumberString [Platform] (psz : String) (nMinValue nMaxValue : Int) : Option Int :=
  let nVal := atoi psz
  if isNullOrEmpty psz then none
  else if nVal < nMinValue then none
  else if nVal > nMaxValue then none
  else some nVal

/-- The result and `*pnResult`, which only a success writes. -/
def validateNumberStringInto [Platform] (psz : String) (nMinValue nMaxValue pnResult : Int) : Int × Int :=
  match validateNumberString psz nMinValue nMaxValue with
  | none => (-1, pnResult)
  | some nVal => (0, nVal)

/-! ## Trim -/

section Trim
variable {length : Int}

/-- The loop on a text that is followed by another. -/
theorem trimLoop_append {l : List Char} {index : Int} (h : index + l.length ≤ length) (m : List Char) (bounds : Int × Int) :
    trimLoop length (l ++ m) index bounds = trimLoop length m (index + l.length) (trimLoop length l index bounds) := by
  induction l generalizing index bounds with
  | nil => simp [trimLoop]
  | cons ch rest ih =>
    rw [List.length_cons] at h
    have hinside : index < length := by omega
    rw [List.cons_append, trimLoop, if_pos hinside, ih (by omega), trimLoop, if_pos hinside, List.length_cons,
      Nat.cast_succ, add_assoc, add_comm 1]

theorem trimLoop_blank {l : List Char} (h : ∀ ch ∈ l, isWhitespace ch = true) (index : Int) (bounds : Int × Int) :
    trimLoop length l index bounds = bounds := by
  induction l generalizing index with
  | nil => rfl
  | cons ch rest ih =>
    rw [trimLoop, if_pos (h ch List.mem_cons_self)]
    split
    · exact ih (fun other hother => h other (List.mem_cons_of_mem _ hother)) (index + 1)
    · rfl

/-- A first position that is there stays. -/
theorem trimLoop_start (l : List Char) (index : Int) {start : Int} (hstart : start ≠ -1) (last : Int) :
    (trimLoop length l index (start, last)).1 = start := by
  induction l generalizing index last with
  | nil => rfl
  | cons ch rest ih =>
    rw [trimLoop, if_neg hstart]
    split
    · split <;> exact ih _ _
    · rfl

/-- From the first to the last position of other than white space. -/
theorem trimLoop_text {u : List Char} (hu : u ≠ []) (hhead : ∀ x ∈ u.head?, isWhitespace x = false)
    (hlast : ∀ x ∈ u.getLast?, isWhitespace x = false) {index : Int} (hindex : 0 ≤ index)
    (hlength : index + u.length ≤ length) :
    trimLoop length u index (-1, -1) = (index, index + u.length - 1) := by
  obtain ⟨front, ch, rfl⟩ := (List.eq_nil_or_concat' u).resolve_left hu
  have hch : isWhitespace ch = false := hlast ch (by simp)
  have hne : index ≠ -1 := by omega
  rw [List.length_append, List.length_singleton] at hlength ⊢
  rw [trimLoop_append (by omega)]
  cases front with
  | nil =>
    have hinside : index < length := by omega
    simp [trimLoop, hch, hinside]
  | cons first rest =>
    have hfirst : isWhitespace first = false := hhead first (by simp)
    have hstart : (trimLoop length (first :: rest) index (-1, -1)).1 = index := by
      rw [List.length_cons] at hlength
      rw [trimLoop, if_pos (by omega), hfirst]
      exact trimLoop_start rest (index + 1) hne index
    generalize hbounds : trimLoop length (first :: rest) index (-1, -1) = bounds at hstart
    obtain ⟨start, last⟩ := bounds
    obtain rfl : start = index := hstart
    have hinside : start + (first :: rest).length < length := by omega
    rw [trimLoop, if_pos hinside, hch]
    simp only [trimLoop, Bool.false_eq_true, if_false, if_neg hne]
    congr 1
    omega

/-- `Trim` strips the text, unless nothing would remain of it. -/
theorem trim_eq {str : String} (h : str.length < 0x80000000) :
    trim str = if strip isWhitespace str.toList = [] then str else String.ofList (strip isWhitespace str.toList) := by
  have hlength : asInt str.length = str.length := asInt_of_int (by omega) (by omega)
  have hstripped := strip_isStripped isWhitespace str.toList
  obtain ⟨a, b, hs, ha, hb⟩ := hstripped.between
  have htotal := congrArg List.length hs
  rw [String.length_toList, List.length_append, List.length_append] at htotal
  unfold trim
  dsimp only
  rw [hlength, htotal]
  generalize strip isWhitespace str.toList = u at *
  push_cast
  by_cases hu : u = []
  · have hblank : trimLoop ((a.length : Int) + u.length + b.length) str.toList 0 (-1, -1) = (-1, -1) := by
      rw [hs, hu, List.append_nil, trimLoop_append (by simp), trimLoop_blank ha, trimLoop_blank hb]
    rw [hblank, if_pos hu]
    rfl
  · have hbounds : trimLoop ((a.length : Int) + u.length + b.length) str.toList 0 (-1, -1) =
        ((a.length : Int), (a.length : Int) + u.length - 1) := by
      rw [hs, trimLoop_append (by simp), trimLoop_blank hb, trimLoop_append (by omega), trimLoop_blank ha, zero_add,
        trimLoop_text hu hstripped.head hstripped.last (by omega) (by omega)]
    rw [hbounds, if_neg hu]
    have hstart : (a.length : Int) ≠ -1 := by omega
    have hcount : ((a.length : Int) + u.length - 1 - a.length + 1).toNat = u.length := by omega
    simp only [if_pos hstart, Int.toNat_natCast, hcount]
    rw [hs, List.append_assoc, List.drop_left, List.take_left]

end Trim

/-! ## atoi -/

section Numbers
variable [Platform] {psz : String}

omit [Platform] in
theorem decimal_of_digits {digits : List Char} (h : ∀ ch ∈ digits, ch.isDigit = true) :
    decimal digits = Nat.ofDigitChars 10 digits 0 := by
  rw [decimal, List.takeWhile_eq_self_iff.mpr h, Nat.ofDigitChars_eq_foldl]
  rfl

/-- A number that fits in an `int` is converted as it is. -/
theorem atoi_of_int (hlow : -0x80000000 ≤ leadingNumber psz) (hhigh : leadingNumber psz < 0x80000000) :
    atoi psz = leadingNumber psz := by
  have hpow : (2 : Int) ^ 31 ≤ 2 ^ (Platform.sizeBits - 1) := by
    have hbits : 31 ≤ Platform.sizeBits - 1 := Nat.le_sub_one_of_lt Platform.sizeBits_ge
    exact_mod_cast Nat.pow_le_pow_right (by decide) hbits
  have hwide : strtol psz = leadingNumber psz := by
    unfold strtol
    rw [min_eq_left (by omega), max_eq_right (by omega)]
  rw [atoi, hwide]
  exact asInt_of_int hlow hhigh

theorem validateNumberString_eq (psz : String) (nMinValue nMaxValue : Int) :
    validateNumberString psz nMinValue nMaxValue =
      if psz ≠ "" ∧ nMinValue ≤ atoi psz ∧ atoi psz ≤ nMaxValue then some (atoi psz) else none := by
  unfold validateNumberString isNullOrEmpty
  by_cases hempty : psz = ""
  · simp [hempty]
  by_cases hlow : atoi psz < nMinValue
  · have hout : ¬ nMinValue ≤ atoi psz := by omega
    simp [hempty, hlow, hout]
  by_cases hhigh : atoi psz > nMaxValue
  · have hout : ¬ atoi psz ≤ nMaxValue := by omega
    simp [hempty, hlow, hhigh, hout]
  · have hin : nMinValue ≤ atoi psz ∧ atoi psz ≤ nMaxValue := by omega
    simp [hempty, hlow, hhigh, hin]

end Numbers

end NatTester.Source
