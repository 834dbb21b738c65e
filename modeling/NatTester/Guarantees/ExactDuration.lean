import NatTester.Source.TimeFormatterParts

/-!
# Exact durations read back

`getExactly` leaves out the units that are zero, down to the empty text. What is written
and what is left add up to the duration at each unit, and nothing is left at the end.
-/
namespace NatTester.Guarantees
open NatTester.Lib NatTester.Source TimeFormatter

/-- The parts written and the duration left. -/
structure Accounted (delta : Int) (p : TimeFormatter.Exact) (parts : List Part) : Prop where
  writes : TimeFormatter.Writes p.a p.prependBlank parts
  sum : total parts + p.d = delta
  nonneg : 0 ≤ p.d

theorem exactUnit_of_le {p : TimeFormatter.Exact} {n : Int} (unit : String) (h : n ≤ p.d) :
    exactUnit n unit p = { p.append (floor p.d n) unit with d := p.d.tmod n } := by
  rw [exactUnit, if_pos h]
  rfl

theorem exactUnit_of_lt {p : TimeFormatter.Exact} {n : Int} (unit : String) (h : p.d < n) :
    exactUnit n unit p = { p with d := p.d.tmod n } := by
  rw [exactUnit, if_neg (Int.not_le.mpr h)]

/-- Each unit keeps the sum, and leaves less than itself. -/
theorem exactUnit_accounted {delta : Int} {p : TimeFormatter.Exact} {parts : List Part} (unit : TimeUnit)
    (h : Accounted delta p parts) (hd : p.d < 2 ^ 52) (hint : p.d < 0x80000000 * unit.length) :
    ∃ parts', Accounted delta (exactUnit unit.length unit.name p) parts' ∧
      (exactUnit unit.length unit.name p).d < unit.length := by
  have hpos := length_pos unit
  have hrest : p.d.tmod unit.length = p.d % unit.length := Int.tmod_eq_emod_of_nonneg h.nonneg
  have hlow : 0 ≤ p.d % unit.length := Int.emod_nonneg _ hpos.ne'
  have hless : p.d % unit.length < unit.length := Int.emod_lt_of_pos _ hpos
  rcases lt_or_ge p.d unit.length with hlt | hge
  · have hsame : p.d % unit.length = p.d := Int.emod_eq_of_lt h.nonneg hlt
    rw [exactUnit_of_lt unit.name hlt, hrest, hsame]
    exact ⟨parts, ⟨h.writes, h.sum, h.nonneg⟩, hlt⟩
  · obtain ⟨htext, hnumber⟩ := floor_eq unit h.nonneg hd hint
    have hquotient : ((p.d / unit.length).toNat : Int) = p.d / unit.length :=
      Int.toNat_of_nonneg (Int.ediv_nonneg h.nonneg hpos.le)
    have hsplit := Int.mul_ediv_add_emod p.d unit.length
    have hsum := h.sum
    have hwritten := h.writes.append ⟨(p.d / unit.length).toNat, unit⟩ hnumber
    rw [exactUnit_of_le unit.name hge, hrest, htext]
    refine ⟨parts ++ [(⟨(p.d / unit.length).toNat, unit⟩ : Part)], ⟨hwritten, ?_, hlow⟩, hless⟩
    rw [total_concat, Part.value, hquotient]
    dsimp only
    omega

/-- The milliseconds are written as they are. -/
theorem milliseconds_accounted {delta : Int} {p : TimeFormatter.Exact} {parts : List Part} (h : Accounted delta p parts)
    (hless : p.d < 1000) :
    ∃ parts', (if p.d > 0 then p.append (toString (asInt p.d)) "ms" else p).a.toList = rendered parts' ∧
      total parts' = delta ∧ ∀ part ∈ parts', part.number ≤ 0x7fffffff := by
  have hnonneg := h.nonneg
  have hsum := h.sum
  by_cases hzero : p.d > 0
  · obtain ⟨n, hn⟩ := Int.eq_ofNat_of_zero_le hnonneg
    have hwritten := h.writes.append ⟨n, .millisecond⟩ (by dsimp only; omega)
    refine ⟨parts ++ [⟨n, .millisecond⟩], ?_, ?_, hwritten.ints⟩
    · rw [if_pos hzero, asInt_of_int (by omega) (by omega), hn]
      exact hwritten.text
    · rw [total_concat, Part.value]
      simp only [TimeUnit.length]
      omega
  · rw [if_neg hzero]
    exact ⟨parts, h.writes.text, by omega, h.writes.ints⟩

/-- The text of a duration is the parts of a sum that is the duration. -/
theorem getExactly_parts {delta : Int} (hlow : 0 ≤ delta) (hdelta : delta < 2 ^ 52) :
    ∃ parts, (getExactly delta).toList = rendered parts ∧ total parts = delta ∧
      ∀ part ∈ parts, part.number ≤ 0x7fffffff := by
  have hstart : Accounted delta ⟨"", false, delta⟩ [] := ⟨.nil, Int.zero_add _, hlow⟩
  have hlengths : TimeUnit.year.length = 31536000000 ∧ TimeUnit.day.length = 86400000 ∧ TimeUnit.hour.length = 3600000 ∧
      TimeUnit.minute.length = 60000 ∧ TimeUnit.second.length = 1000 := by decide
  obtain ⟨hyear, hday, hhour, hminute, hsecond⟩ := hlengths
  obtain ⟨years, hyears, hyearsRest⟩ := exactUnit_accounted .year hstart hdelta (by dsimp only; omega)
  obtain ⟨days, hdays, hdaysRest⟩ := exactUnit_accounted .day hyears (by omega) (by omega)
  obtain ⟨hours, hhours, hhoursRest⟩ := exactUnit_accounted .hour hdays (by omega) (by omega)
  obtain ⟨minutes, hminutes, hminutesRest⟩ := exactUnit_accounted .minute hhours (by omega) (by omega)
  obtain ⟨seconds, hseconds, hsecondsRest⟩ := exactUnit_accounted .second hminutes (by omega) (by omega)
  exact milliseconds_accounted hseconds (lt_of_lt_of_eq hsecondsRest hsecond)

/-- **What `getExactly` writes is read back.** -/
theorem exact_duration_reads_back (l : Int) (hl : l.natAbs < 2 ^ 52) :
    eval (getExactly (ofLong l)).toList = some (l.natAbs : Int) := by
  have hdelta : ofLong l = l.natAbs := asLong_of_long (by omega) (by omega)
  have hlow : (0 : Int) ≤ l.natAbs := Int.natCast_nonneg _
  obtain ⟨parts, htext, htotal, hints⟩ := getExactly_parts hlow (by omega)
  rw [hdelta, htext, eval_rendered hints (by omega), htotal]

theorem exact_duration_reads_back_long : eval (getExactly (ofLong (-93784005))).toList = some 93784005 :=
  exact_duration_reads_back (-93784005) (by decide)

end NatTester.Guarantees
