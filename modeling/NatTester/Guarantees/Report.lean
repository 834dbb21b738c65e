import NatTester.Client.Completion
import NatTester.Guarantees.Filtering
import NatTester.Source.ClientMain

/-!
# What the report says of the filtering test

The lines on the filtering test are chosen by the success of the behavior test.
A finished run with a behavior verdict has its filtering verdict too, so the report
is wrong exactly about the runs that have come to a filtering verdict alone.
-/
namespace NatTester.Guarantees
open NatTester.Lib NatTester.Source NatTester.Client

/-- The report gives the outcome of a test, and its kind if it has succeeded. -/
structure Reports (fTest fSuccess : Bool) (outcomeFormat kindFormat kind : String) (report : List LogMsg) : Prop where
  succeeded : ⟨outcomeFormat, "success"⟩ ∈ report ↔ fTest = true ∧ fSuccess = true
  failed : ⟨outcomeFormat, "fail"⟩ ∈ report ↔ fTest = true ∧ fSuccess = false
  kindGiven : ⟨kindFormat, kind⟩ ∈ report ↔ fTest = true ∧ fSuccess = true
  noKind : fSuccess = false → ∀ line ∈ report, line.pszFormat ≠ kindFormat

/-- The lines on both tests agree with the results. -/
structure ReportAgrees (config : StunClientLogicConfig) (results : StunClientResults) (report : List LogMsg) : Prop where
  filtering : Reports config.fFilteringTest results.fFilteringTestSuccess "Filtering test: %s" "Nat filtering: %s"
    (natFilteringToString results.filtering) report
  behavior : Reports config.fBehaviorTest results.fBehaviorTestSuccess "Behavior test: %s" "Nat behavior: %s"
    (natBehaviorToString results.behavior) report

section Lines
variable {outcomeFormat kindFormat kind : String} {before after : List LogMsg} {fTest printed fSuccess : Bool}

/-- Lines of one of the two formats. -/
def Mentions (outcomeFormat kindFormat : String) (lines : List LogMsg) : Prop :=
  ∃ line ∈ lines, line.pszFormat = outcomeFormat ∨ line.pszFormat = kindFormat

theorem mem_between (hbefore : ¬ Mentions outcomeFormat kindFormat before)
    (hafter : ¬ Mentions outcomeFormat kindFormat after) {lines : List LogMsg} {line : LogMsg}
    (hline : line.pszFormat = outcomeFormat ∨ line.pszFormat = kindFormat) :
    line ∈ before ++ lines ++ after ↔ line ∈ lines := by
  rw [List.mem_append, List.mem_append]
  constructor
  · rintro ((hmem | hmem) | hmem)
    · exact absurd ⟨line, hmem, hline⟩ hbefore
    · exact hmem
    · exact absurd ⟨line, hmem, hline⟩ hafter
  · exact fun hmem => .inl (.inr hmem)

theorem mem_dumpTest_success (hformats : outcomeFormat ≠ kindFormat) :
    ⟨outcomeFormat, "success"⟩ ∈ dumpTest fTest printed outcomeFormat kindFormat kind ↔
      fTest = true ∧ printed = true := by
  cases fTest <;> cases printed <;> simp [dumpTest, successOrFail, hformats]

theorem mem_dumpTest_fail (hformats : outcomeFormat ≠ kindFormat) :
    ⟨outcomeFormat, "fail"⟩ ∈ dumpTest fTest printed outcomeFormat kindFormat kind ↔
      fTest = true ∧ printed = false := by
  cases fTest <;> cases printed <;> simp [dumpTest, successOrFail, hformats]

/-- A line on the kind is printed with a success only. -/
theorem mem_dumpTest_kind (hformats : outcomeFormat ≠ kindFormat) {line : LogMsg} (hline : line.pszFormat = kindFormat) :
    line ∈ dumpTest fTest printed outcomeFormat kindFormat kind ↔
      fTest = true ∧ printed = true ∧ line.argument = kind := by
  obtain ⟨pszFormat, argument⟩ := line
  obtain rfl : pszFormat = kindFormat := hline
  cases fTest <;> cases printed <;> simp [dumpTest, successOrFail, Ne.symm hformats]

/-- The lines on a test report it exactly if they are printed for the success it has had. -/
theorem reports_iff (hformats : outcomeFormat ≠ kindFormat) (hbefore : ¬ Mentions outcomeFormat kindFormat before)
    (hafter : ¬ Mentions outcomeFormat kindFormat after) :
    Reports fTest fSuccess outcomeFormat kindFormat kind
        (before ++ dumpTest fTest printed outcomeFormat kindFormat kind ++ after) ↔
      (fTest = true → printed = fSuccess) := by
  have hmem := @mem_between outcomeFormat kindFormat before after hbefore hafter
    (dumpTest fTest printed outcomeFormat kindFormat kind)
  have hsucceeded := (@hmem ⟨outcomeFormat, "success"⟩ (.inl rfl)).trans (mem_dumpTest_success hformats)
  have hfailed := (@hmem ⟨outcomeFormat, "fail"⟩ (.inl rfl)).trans (mem_dumpTest_fail hformats)
  have hkind := (@hmem ⟨kindFormat, kind⟩ (.inr rfl)).trans (mem_dumpTest_kind hformats rfl)
  simp only [and_true] at hkind
  constructor
  · intro hreports hasked
    have hgiven := hsucceeded.symm.trans hreports.succeeded
    exact Bool.eq_iff_iff.mpr (by simpa [hasked] using hgiven)
  · intro hsame
    refine ⟨hsucceeded.trans ?_, hfailed.trans ?_, hkind.trans ?_, fun hfail line hline hkindLine => ?_⟩
    · exact and_congr_right fun hasked => by rw [hsame hasked]
    · exact and_congr_right fun hasked => by rw [hsame hasked]
    · exact and_congr_right fun hasked => by rw [hsame hasked]
    · obtain ⟨hasked, hprinted, -⟩ := (mem_dumpTest_kind hformats hkindLine).mp ((hmem (.inr hkindLine)).mp hline)
      rw [hsame hasked, hfail] at hprinted
      cases hprinted

end Lines

section Report
variable (inet_ntop : AddressFamily → Bytes → String) (config : StunClientLogicConfig) (results : StunClientResults)

theorem dumpBinding_formats {line : LogMsg} (h : line ∈ dumpBinding inet_ntop results) :
    line.pszFormat ∈ ["Binding test: %s", "Local address: %s", "Mapped address: %s"] := by
  unfold dumpBinding at h
  split at h <;> simp at h
  · rcases h with rfl | rfl | rfl <;> simp
  · rw [h]
    simp

theorem dumpTest_formats {line : LogMsg} {fTest printed : Bool} {outcomeFormat kindFormat kind : String}
    (h : line ∈ dumpTest fTest printed outcomeFormat kindFormat kind) :
    line.pszFormat ∈ [outcomeFormat, kindFormat] := by
  unfold dumpTest at h
  split at h
  · split at h <;> simp at h
    · rcases h with rfl | rfl <;> simp
    · rw [h]
      simp
  · cases h

/-- The report agrees with any results for which the two tests, where both are asked for, have ended alike. -/
theorem reportAgrees_iff_alike :
    ReportAgrees config results (dumpResults inet_ntop config results) ↔
      (config.fFilteringTest = true → results.fBehaviorTestSuccess = results.fFilteringTestSuccess) := by
  have hfiltering : Reports config.fFilteringTest results.fFilteringTestSuccess "Filtering test: %s"
      "Nat filtering: %s" (natFilteringToString results.filtering) (dumpResults inet_ntop config results) ↔
      (config.fFilteringTest = true → results.fBehaviorTestSuccess = results.fFilteringTestSuccess) := by
    have hiff := @reports_iff "Filtering test: %s" "Nat filtering: %s" (natFilteringToString results.filtering)
      (dumpBinding inet_ntop results ++ dumpBehavior config results) [] config.fFilteringTest
      results.fBehaviorTestSuccess results.fFilteringTestSuccess (by decide) ?_ (by simp [Mentions])
    · rw [List.append_nil] at hiff
      exact hiff
    · rintro ⟨line, hmem, hformat⟩
      rcases List.mem_append.mp hmem with hmem | hmem
      · have hformats := dumpBinding_formats inet_ntop results hmem
        rcases hformat with hformat | hformat <;> simp [hformat] at hformats
      · have hformats := dumpTest_formats hmem
        rcases hformat with hformat | hformat <;> simp [hformat] at hformats
  have hbehavior : Reports config.fBehaviorTest results.fBehaviorTestSuccess "Behavior test: %s" "Nat behavior: %s"
      (natBehaviorToString results.behavior) (dumpResults inet_ntop config results) := by
    refine (reports_iff (by decide) ?_ ?_).mpr fun _ => rfl
    · rintro ⟨line, hmem, hformat⟩
      have hformats := dumpBinding_formats inet_ntop results hmem
      rcases hformat with hformat | hformat <;> simp [hformat] at hformats
    · rintro ⟨line, hmem, hformat⟩
      have hformats := dumpTest_formats hmem
      rcases hformat with hformat | hformat <;> simp [hformat] at hformats
  exact ⟨fun h => hfiltering.mp h.filtering, fun h => ⟨hfiltering.mpr h, hbehavior⟩⟩

end Report

/-- The report of a finished run agrees with its results exactly if no filtering verdict stands alone. -/
theorem report_agrees_iff [Platform] (inet_ntop : AddressFamily → Bytes → String) {config : StunClientLogicConfig}
    {l : CStunClientLogic} (h : (client config).Reachable l) (hdone : l.current = none) :
    ReportAgrees config l.results (dumpResults inet_ntop config l.results) ↔
      (config.fFilteringTest = true → l.results.fFilteringTestSuccess = true →
        l.results.fBehaviorTestSuccess = true) := by
  rw [reportAgrees_iff_alike]
  refine forall_congr' fun hasked => ⟨fun hsame hfiltering => hsame.trans hfiltering, fun halone => ?_⟩
  exact Bool.eq_iff_iff.mpr ⟨finished_filtering h hdone hasked, halone⟩

/-- All tests: the binding test is answered, the others time out. -/
def callsToTimeouts : List ClientCall :=
  [.getNextMessage (constantSource 1) sendBuffer 5,
    .processResponse (bindingReply 1) fullConfig.addrServer CSocketAddress.zero,
    .getNextMessage (constantSource 2) sendBuffer 5, .getNextMessage (constantSource 3) sendBuffer 4005,
    .getNextMessage (constantSource 4) sendBuffer 8005, .getNextMessage (constantSource 5) sendBuffer 12005]

set_option maxRecDepth 8000 in
/-- A run that ends with a filtering verdict its report calls a failure. -/
theorem report_agrees_timeouts :
    let _ := Platform.armeabi
    ∃ l, (client fullConfig).Reachable l ∧ l.current = none ∧
      l.results.filtering = .addressAndPortDependentFiltering ∧
      ∀ inet_ntop, ⟨"Filtering test: %s", "fail"⟩ ∈ dumpResults inet_ntop fullConfig l.results ∧
        ¬ ReportAgrees fullConfig l.results (dumpResults inet_ntop fullConfig l.results) := by
  intro platform
  have hreach := runCalls_reachable fullConfig_initialized callsToTimeouts
  have hdone : (runCalls callsToTimeouts (fresh fullConfig)).current = none := by decide
  have hverdict : (runCalls callsToTimeouts (fresh fullConfig)).results.filtering = .addressAndPortDependentFiltering := by
    decide
  have hflags : (runCalls callsToTimeouts (fresh fullConfig)).results.fBehaviorTestSuccess = false ∧
      (runCalls callsToTimeouts (fresh fullConfig)).results.fFilteringTestSuccess = true := by decide
  generalize runCalls callsToTimeouts (fresh fullConfig) = l at hreach hdone hverdict hflags
  refine ⟨l, hreach, hdone, hverdict, fun inet_ntop => ?_⟩
  have hfail : ⟨"Filtering test: %s", "fail"⟩ ∈ dumpResults inet_ntop fullConfig l.results := by
    simp [dumpResults, dumpFiltering, dumpTest, hflags.1, fullConfig, successOrFail]
  refine ⟨hfail, fun hagrees => ?_⟩
  have hfailed := (hagrees.filtering.failed.mp hfail).2
  rw [hflags.2] at hfailed
  cases hfailed

/-- `inet_ntop` on the addresses of IPv4. -/
def dottedQuad (_family : AddressFamily) (ip : Bytes) : String := ".".intercalate (ip.map fun b => toString b.toNat)

set_option maxRecDepth 8000 in
/-- A run in which both kinds of tests come to a verdict. -/
theorem report_agrees_iff_answered :
    let _ := Platform.armeabi
    let l := runCalls callsToAnswers (fresh fullConfig)
    ReportAgrees fullConfig l.results (dumpResults dottedQuad fullConfig l.results) ∧
      l.results.fFilteringTestSuccess = true ∧ l.results.fBehaviorTestSuccess = true := by
  intro platform
  have hreach := runCalls_reachable fullConfig_initialized callsToAnswers
  have hdone : (runCalls callsToAnswers (fresh fullConfig)).current = none := by decide
  have hflags : (runCalls callsToAnswers (fresh fullConfig)).results.fFilteringTestSuccess = true ∧
      (runCalls callsToAnswers (fresh fullConfig)).results.fBehaviorTestSuccess = true := by decide
  dsimp only
  generalize runCalls callsToAnswers (fresh fullConfig) = l at hreach hdone hflags ⊢
  exact ⟨(report_agrees_iff dottedQuad hreach hdone).mpr fun _ _ => hflags.2, hflags⟩

end NatTester.Guarantees
