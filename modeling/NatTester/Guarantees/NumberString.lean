import NatTester.Source.StringHelper

/-!
# Numbers in a text

`ValidateNumberString` leaves the text to `atoi`, which stops at the first character
that is no digit, takes no digits for 0 and reports no number that is out of range.
So it keeps to the numerals exactly where the text is one that fits in an `int`, or
where what `atoi` makes of it is out of the bounds.
-/
namespace NatTester.Guarantees
open NatTester.Lib NatTester.Source

/-- The text is a numeral with the value `v`: white space, a sign, digits and nothing else. -/
def Writes (psz : String) (v : Int) : Prop :=
  ∃ blanks sign digits, psz.toList = blanks ++ (sign ++ digits) ∧ (∀ ch ∈ blanks, isWhitespace ch = true) ∧
    digits ≠ [] ∧ (∀ ch ∈ digits, ch.isDigit = true) ∧
    ((sign = [] ∨ sign = ['+']) ∧ v = Nat.ofDigitChars 10 digits 0 ∨
      sign = ['-'] ∧ v = -(Nat.ofDigitChars 10 digits 0 : Int))

/-- A numeral within the bounds is accepted with its value; everything else is refused, and `*pnResult` stays. -/
structure ValidatesNumerals [Platform] (psz : String) (nMinValue nMaxValue : Int) : Prop where
  accepts : ∀ v pnResult, Writes psz v → nMinValue ≤ v → v ≤ nMaxValue →
    validateNumberStringInto psz nMinValue nMaxValue pnResult = (0, v)
  refuses : ∀ pnResult, (¬ ∃ v, Writes psz v ∧ nMinValue ≤ v ∧ v ≤ nMaxValue) →
    validateNumberStringInto psz nMinValue nMaxValue pnResult = (-1, pnResult)

/-! ## What is read of a numeral -/

theorem digit_not_blank {ch : Char} (h : ch.isDigit = true) : isWhitespace ch = false := by
  have hrange : 48 ≤ ch.toNat ∧ ch.toNat ≤ 57 := Char.isDigit_iff_toNat.mp h
  have hspace : ch ≠ ' ' := by
    rintro rfl
    cases h
  have hout : ¬ (9 ≤ ch.toNat ∧ ch.toNat ≤ 13) := by omega
  simp [isWhitespace, hspace, hout]

/-- White space is skipped, up to the sign or the first digit. -/
theorem dropWhile_blanks {blanks rest : List Char} (hblanks : ∀ ch ∈ blanks, isWhitespace ch = true)
    (hrest : ∀ ch ∈ rest.head?, isWhitespace ch = false) : (blanks ++ rest).dropWhile isWhitespace = rest := by
  rw [List.dropWhile_append_of_pos hblanks]
  cases rest with
  | nil => rfl
  | cons ch rest =>
    have hch := hrest ch rfl
    rw [List.dropWhile_cons_of_neg]
    simp [hch]

theorem leadingNumber_of_writes {psz : String} {v : Int} (h : Writes psz v) : leadingNumber psz = v := by
  obtain ⟨blanks, sign, digits, hpsz, hblanks, hne, hdigits, hvalue⟩ := h
  have hdecimal := decimal_of_digits hdigits
  unfold leadingNumber
  rcases hvalue with ⟨rfl | rfl, rfl⟩ | ⟨rfl, rfl⟩
  · cases digits with
    | nil => exact absurd rfl hne
    | cons ch rest =>
      have hch := hdigits ch List.mem_cons_self
      have hminus : ch ≠ '-' := by
        rintro rfl
        cases hch
      have hplus : ch ≠ '+' := by
        rintro rfl
        cases hch
      rw [hpsz, List.nil_append, dropWhile_blanks hblanks (by simpa using digit_not_blank hch), ← hdecimal]
      split
      next heq => exact absurd (List.cons.inj heq).1 hminus
      next heq => exact absurd (List.cons.inj heq).1 hplus
      next => rfl
  · rw [hpsz, dropWhile_blanks hblanks (by simp [isWhitespace]), ← hdecimal]
    rfl
  · rw [hpsz, dropWhile_blanks hblanks (by simp [isWhitespace]), ← hdecimal]
    rfl

theorem Writes.ne_empty {psz : String} {v : Int} (h : Writes psz v) : psz ≠ "" := by
  rintro rfl
  obtain ⟨blanks, sign, digits, hpsz, -, hne, -⟩ := h
  have hnil := (List.append_eq_nil_iff.mp hpsz.symm).2
  exact hne (List.append_eq_nil_iff.mp hnil).2

/-! ## Both results -/

section Validation
variable [Platform] {psz : String} {nMinValue nMaxValue : Int}

theorem into_accepts (hne : psz ≠ "") (hlow : nMinValue ≤ atoi psz) (hhigh : atoi psz ≤ nMaxValue) (pnResult : Int) :
    validateNumberStringInto psz nMinValue nMaxValue pnResult = (0, atoi psz) := by
  rw [validateNumberStringInto, validateNumberString_eq, if_pos ⟨hne, hlow, hhigh⟩]

theorem into_refuses (h : psz = "" ∨ atoi psz < nMinValue ∨ nMaxValue < atoi psz) (pnResult : Int) :
    validateNumberStringInto psz nMinValue nMaxValue pnResult = (-1, pnResult) := by
  rw [validateNumberStringInto, validateNumberString_eq, if_neg]
  rintro ⟨hne, hlow, hhigh⟩
  rcases h with hempty | hbelow | habove
  · exact hne hempty
  · omega
  · omega

/-- For bounds within `int`: numerals are told from other texts exactly where the text is empty, or a numeral that fits in
an `int`, or one of which `atoi` makes a number out of the bounds. -/
theorem validates_numerals_iff (hmin : -0x80000000 ≤ nMinValue) (hle : nMinValue ≤ nMaxValue)
    (hmax : nMaxValue < 0x80000000) (psz : String) :
    ValidatesNumerals psz nMinValue nMaxValue ↔
      psz = "" ∨ (∃ v, Writes psz v ∧ -0x80000000 ≤ v ∧ v < 0x80000000) ∨ atoi psz < nMinValue ∨ nMaxValue < atoi psz := by
  constructor
  · intro h
    by_contra hnot
    obtain ⟨hne, hrest⟩ := not_or.mp hnot
    obtain ⟨hnumeral, hrange⟩ := not_or.mp hrest
    -- what is accepted is no numeral within the bounds
    have hnone : ¬ ∃ v, Writes psz v ∧ nMinValue ≤ v ∧ v ≤ nMaxValue := by
      rintro ⟨v, hwrites, hlow, hhigh⟩
      exact hnumeral ⟨v, hwrites, by omega, by omega⟩
    have hrefused := h.refuses 0 hnone
    rw [into_accepts hne (by omega) (by omega)] at hrefused
    cases hrefused
  · intro h
    have hnumeral : ∀ v, Writes psz v → -0x80000000 ≤ v → v < 0x80000000 → atoi psz = v := by
      intro v hwrites hlow hhigh
      have hleading := leadingNumber_of_writes hwrites
      rw [← hleading] at hlow hhigh ⊢
      exact atoi_of_int hlow hhigh
    refine ⟨?_, ?_⟩
    · intro v pnResult hwrites hlow hhigh
      have hatoi := hnumeral v hwrites (by omega) (by omega)
      rw [into_accepts hwrites.ne_empty (by omega) (by omega), hatoi]
    · intro pnResult hnone
      apply into_refuses
      rcases h with hempty | ⟨v, hwrites, hlow, hhigh⟩ | hrange
      · exact .inl hempty
      · have hatoi := hnumeral v hwrites hlow hhigh
        have hout : ¬ (nMinValue ≤ v ∧ v ≤ nMaxValue) := fun hin => hnone ⟨v, hwrites, hin⟩
        exact .inr (by omega)
      · exact .inr hrange

end Validation

theorem writes_eighty : Writes "80" 80 := ⟨[], [], ['8', '0'], by decide, by simp, by simp, by simp, .inl ⟨.inl rfl, rfl⟩⟩

/-- The port 80. -/
theorem validates_numerals_iff_eighty :
    let _ := Platform.armeabi
    ValidatesNumerals "80" 1 65535 := by
  intro platform
  exact (validates_numerals_iff (by decide) (by decide) (by decide) "80").mpr
    (.inr (.inl ⟨80, writes_eighty, by decide, by decide⟩))

/-- The port `80abc` is taken for 80. -/
theorem validates_trailing_letters :
    let _ := Platform.armeabi
    ¬ ValidatesNumerals "80abc" 1 65535 := by
  intro platform h
  have hnone : ¬ ∃ v, Writes "80abc" v ∧ 1 ≤ v ∧ v ≤ 65535 := by
    rintro ⟨v, ⟨blanks, sign, digits, hpsz, -, hne, hdigits, -⟩, -⟩
    have hlast := congrArg List.getLast? hpsz
    rw [List.getLast?_append_of_ne_nil _ (by simp [hne]), List.getLast?_append_of_ne_nil _ hne,
      List.getLast?_eq_some_getLast hne] at hlast
    have hc : 'c' = digits.getLast hne := Option.some.inj hlast
    have hdigit := hdigits _ (List.getLast_mem hne)
    rw [← hc] at hdigit
    cases hdigit
  have hrefused := h.refuses 0 hnone
  exact absurd hrefused (by decide)

end NatTester.Guarantees
