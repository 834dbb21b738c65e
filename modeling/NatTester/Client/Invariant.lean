import NatTester.Client.Logic

/-!
# The invariant of the client

`LogicInv` holds after every turn of the loop, and `Settled` between two calls:
the current test is over, or it has been found ready to run. Only the binding
test can be answered before its first message has been sent.
-/
namespace NatTester.Client
open NatTester.Lib NatTester.Source IStunClientTest CStunClientLogic

structure LogicInv (config : StunClientLogicConfig) (l : CStunClientLogic) : Prop where
  initialized : l.fInitialized = true
  config_eq : l.config = withDefaults config
  classes : l.testlist.map (·.testClass) = testClasses config
  results : ResultsInv l.config l.results
  untouched : l.nTestIndex = 0 → Untouched l.results
  direct : 1 < l.nTestIndex ∨ (l.nTestIndex = 1 ∧ l.fPreCheckRunOnTest = true) → config.fBehaviorTest = true →
    l.results.fBindingTestSuccess = true → l.results.fIsDirect = true → l.results.fBehaviorTestSuccess = true
  noBehavior : config.fBehaviorTest = false → l.results.fBehaviorTestSuccess = false
  noFiltering : config.fFilteringTest = false → l.results.fFilteringTestSuccess = false

/-- The current test, if any, waits for a reply or is over. -/
def Settled (l : CStunClientLogic) : Prop :=
  ∀ s, l.current = some s →
    l.nTestIndex = 0 ∨ isCompleted s = true ∨ (l.fPreCheckRunOnTest = true ∧ isReadyToRun s = true)

variable {config : StunClientLogicConfig} {l : CStunClientLogic} {s t : TestState}

theorem LogicInv.class_at (h : LogicInv config l) (hs : l.current = some s) :
    (testClasses config)[l.nTestIndex]? = some s.test.testClass := by
  obtain ⟨-, -, htest⟩ := current_eq_some.mp hs
  rw [← h.classes, List.getElem?_map, htest]
  rfl

theorem LogicInv.basic_iff (h : LogicInv config l) (hs : l.current = some s) :
    s.test.testClass = .basicBindingTest ↔ l.nTestIndex = 0 := by
  have hclass := h.class_at hs
  constructor
  · intro hbasic
    rw [hbasic] at hclass
    exact testClasses_basic.mp hclass
  · intro hzero
    rw [hzero, testClasses_basic.mpr rfl] at hclass
    exact (Option.some.inj hclass).symm

theorem LogicInv.behavior_at (h : LogicInv config l) (hs : l.current = some s) {fIsTest3 : Bool}
    (hclass : s.test.testClass = .behaviorTest fIsTest3) :
    config.fBehaviorTest = true ∧ l.nTestIndex = if fIsTest3 then 2 else 1 :=
  testClasses_behavior (by rw [← hclass]; exact h.class_at hs)

/-- The current test sees the results of the client. -/
theorem LogicInv.results_current (h : LogicInv config l) (hs : l.current = some s) : ResultsInv s.config s.results := by
  obtain ⟨hconfig, hresults, -⟩ := current_eq_some.mp hs
  rw [hconfig, hresults]
  exact h.results

theorem LogicInv.untouched_current (h : LogicInv config l) (hs : l.current = some s) (hzero : l.nTestIndex = 0) :
    Untouched s.results := by
  obtain ⟨-, hresults, -⟩ := current_eq_some.mp hs
  rw [hresults]
  exact h.untouched hzero

theorem LogicInv.direct_current (h : LogicInv config l) (hs : l.current = some s)
    (hposition : 1 < l.nTestIndex ∨ (l.nTestIndex = 1 ∧ l.fPreCheckRunOnTest = true)) (htest : config.fBehaviorTest = true)
    (hb : s.results.fBindingTestSuccess = true) (hd : s.results.fIsDirect = true) :
    s.results.fBehaviorTestSuccess = true := by
  obtain ⟨-, hresults, -⟩ := current_eq_some.mp hs
  rw [hresults] at hb hd ⊢
  exact h.direct hposition htest hb hd

/-- A behavior test that is ready to run is not about a direct connection. -/
theorem LogicInv.not_direct (h : LogicInv config l) (hs : l.current = some s) {fIsTest3 : Bool}
    (hclass : s.test.testClass = .behaviorTest fIsTest3) (hcheck : l.fPreCheckRunOnTest = true)
    (hready : isReadyToRun s = true) : s.results.fIsDirect = false := by
  obtain ⟨htest, hindex⟩ := h.behavior_at hs hclass
  simp only [isReadyToRun, hclass, CBehaviorTest.isReadyToRun] at hready
  have hflags : s.results.fBindingTestSuccess = true ∧ s.results.fBehaviorTestSuccess = false := by
    cases fIsTest3 <;> simp_all
  by_contra hne
  have hdirect : s.results.fIsDirect = true := by simpa using hne
  have hposition : 1 < l.nTestIndex ∨ (l.nTestIndex = 1 ∧ l.fPreCheckRunOnTest = true) := by
    cases fIsTest3 with
    | true => exact .inl (by rw [hindex]; decide)
    | false => exact .inr ⟨hindex, hcheck⟩
  have hsuccess := h.direct_current hs hposition htest hflags.1 hdirect
  rw [hflags.2] at hsuccess
  cases hsuccess

/-- No test decides what no test was asked for. -/
theorem LogicInv.unasked (h : LogicInv config l) (hs : l.current = some s) (hsame : SameTest s t) :
    (config.fBehaviorTest = false → t.results.fBehaviorTestSuccess = false) ∧
      (config.fFilteringTest = false → t.results.fFilteringTestSuccess = false) := by
  obtain ⟨-, hresults, -⟩ := current_eq_some.mp hs
  refine ⟨fun hoff => ?_, fun hoff => ?_⟩
  · rw [hsame.behavior fun fIsTest3 hclass => ?_, hresults]
    · exact h.noBehavior hoff
    · rw [(h.behavior_at hs hclass).1] at hoff
      cases hoff
  · rw [hsame.filtering fun fIsTest3 hclass => ?_, hresults]
    · exact h.noFiltering hoff
    · have hat := h.class_at hs
      rw [hclass] at hat
      rw [testClasses_filtering hat] at hoff
      cases hoff

/-- What a test writes keeps the invariant, if the results it leaves do. -/
theorem LogicInv.put (h : LogicInv config l) (hs : l.current = some s) (hsame : SameTest s t)
    (hresults : ResultsInv l.config t.results) (huntouched : l.nTestIndex = 0 → Untouched t.results)
    (hdirect : 1 < l.nTestIndex ∨ (l.nTestIndex = 1 ∧ l.fPreCheckRunOnTest = true) → config.fBehaviorTest = true →
      t.results.fBindingTestSuccess = true → t.results.fIsDirect = true → t.results.fBehaviorTestSuccess = true) :
    LogicInv config (l.put t) :=
  ⟨h.initialized, h.config_eq, (put_classes hs hsame.testClass).trans h.classes, hresults, huntouched, hdirect,
    (h.unasked hs hsame).1, (h.unasked hs hsame).2⟩

/-! ## A turn -/

/-- The early check concludes from what is known, and forgets nothing. -/
theorem preRunCheck_results (s : TestState) :
    (preRunCheck s).results.fBindingTestSuccess = s.results.fBindingTestSuccess ∧
      (preRunCheck s).results.fIsDirect = s.results.fIsDirect ∧
      (s.results.fBehaviorTestSuccess = true → (preRunCheck s).results.fBehaviorTestSuccess = true) ∧
      (s.test.testClass = .behaviorTest false → s.results.fBindingTestSuccess = true → s.results.fIsDirect = true →
        (preRunCheck s).results.fBehaviorTestSuccess = true) ∧
      (s.test.testClass = .basicBindingTest → preRunCheck s = s) := by
  unfold preRunCheck
  cases hclass : s.test.testClass with
  | basicBindingTest => exact ⟨rfl, rfl, id, by simp, fun _ => rfl⟩
  | behaviorTest fIsTest3 =>
    simp only [CBehaviorTest.preRunCheck]
    cases fIsTest3 with
    | true => exact ⟨rfl, rfl, id, by simp, by simp⟩
    | false =>
      by_cases hdirect : s.results.fBindingTestSuccess = true ∧ s.results.fIsDirect = true
      · rw [if_pos rfl, if_pos hdirect]
        exact ⟨rfl, rfl, fun _ => rfl, fun _ _ _ => rfl, by simp⟩
      · rw [if_pos rfl, if_neg hdirect]
        exact ⟨rfl, rfl, id, fun _ hb hd => absurd ⟨hb, hd⟩ hdirect, by simp⟩
  | filteringTest fIsTest3 =>
    simp only [CFilteringTest.preRunCheck]
    split
    · split <;> exact ⟨rfl, rfl, id, by simp, by simp⟩
    · exact ⟨rfl, rfl, id, by simp, by simp⟩

theorem LogicInv.checked (h : LogicInv config l) (hs : l.current = some s) : LogicInv config (checked l s) := by
  obtain ⟨hconfig, -, -⟩ := current_eq_some.mp hs
  obtain ⟨hbinding, hisDirect, hkeeps, hdecides, hbasic⟩ := preRunCheck_results s
  have hinv : ResultsInv l.config (l.preCheck s).results := by
    rw [← hconfig]
    unfold preCheck
    split
    · exact resultsInv_preRunCheck (h.results_current hs)
    · exact h.results_current hs
  have huntouched : l.nTestIndex = 0 → Untouched (l.preCheck s).results := by
    intro hzero
    have hsame : l.preCheck s = s := by
      unfold preCheck
      split
      · exact hbasic ((h.basic_iff hs).mpr hzero)
      · rfl
    rw [hsame]
    exact h.untouched_current hs hzero
  obtain ⟨hnoBehavior, hnoFiltering⟩ := h.unasked hs (sameTest_preCheck l s)
  refine ⟨h.initialized, h.config_eq, (put_classes hs (sameTest_preCheck l s).testClass).trans h.classes, hinv,
    huntouched, fun hposition htest hb hd => ?_, hnoBehavior, hnoFiltering⟩
  change (l.preCheck s).results.fBindingTestSuccess = true at hb
  change (l.preCheck s).results.fIsDirect = true at hd
  change (l.preCheck s).results.fBehaviorTestSuccess = true
  unfold preCheck at hb hd ⊢
  split
  case isTrue hcheck =>
    rw [if_pos hcheck, hbinding] at hb
    rw [if_pos hcheck, hisDirect] at hd
    rcases hposition with hpast | ⟨hfirst, -⟩
    · exact hkeeps (h.direct_current hs (.inl hpast) htest hb hd)
    · have hclass := h.class_at hs
      rw [show l.nTestIndex = 1 from hfirst, testClasses_first htest] at hclass
      exact hdecides (Option.some.inj hclass).symm hb hd
  case isFalse hcheck =>
    rw [if_neg hcheck] at hb hd
    refine h.direct_current hs (hposition.imp_right fun hfirst => ⟨hfirst.1, ?_⟩) htest hb hd
    simpa using hcheck

theorem LogicInv.nextTest (h : LogicInv config l) (hcheck : l.fPreCheckRunOnTest = true) :
    LogicInv config l.nextTest := by
  refine ⟨h.initialized, h.config_eq, h.classes, h.results, fun hzero => absurd hzero (Nat.succ_ne_zero _),
    fun hposition => h.direct ?_, h.noBehavior, h.noFiltering⟩
  change 1 < l.nTestIndex + 1 ∨ _ ∧ false = true at hposition
  rcases hposition with hpast | ⟨-, hfalse⟩
  · rcases Nat.lt_or_ge 1 l.nTestIndex with hlt | hge
    · exact .inl hlt
    · exact .inr ⟨by omega, hcheck⟩
  · cases hfalse

/-- A timeout in the current test. -/
theorem LogicInv.timedOut (h : LogicInv config l) (hs : l.current = some s) (hcheck : l.fPreCheckRunOnTest = true)
    (hready : isReadyToRun s = true) : LogicInv config (l.put (notifyTimeout s)) := by
  obtain ⟨hconfig, -, -⟩ := current_eq_some.mp hs
  have hinv := resultsInv_notifyTimeout (h.results_current hs) hready fun hbasic =>
    h.untouched_current hs ((h.basic_iff hs).mp hbasic)
  rw [hconfig] at hinv
  refine h.put hs (sameTest_notifyTimeout s) hinv (fun hzero => ?_) fun hposition htest hb hd => ?_
  · obtain ⟨hbehavior, hfiltering, hmapping⟩ := h.untouched_current hs hzero
    simp only [notifyTimeout, (h.basic_iff hs).mpr hzero]
    exact ⟨hbehavior, hfiltering, hmapping⟩
  · unfold notifyTimeout at hb hd ⊢
    cases hclass : s.test.testClass with
    | basicBindingTest =>
      simp only [hclass] at hb
      cases hb
    | behaviorTest fIsTest3 =>
      simp only [hclass] at hd
      have hnot := h.not_direct hs hclass hcheck hready
      exact absurd (hd.symm.trans hnot) (by decide)
    | filteringTest fIsTest3 =>
      simp only [hclass, CFilteringTest.notifyTimeout] at hb hd ⊢
      have hkept : s.results.fBindingTestSuccess = true ∧ s.results.fIsDirect = true := by
        split at hb <;> exact ⟨hb, by split at hd <;> exact hd⟩
      have hsuccess := h.direct_current hs hposition htest hkept.1 hkept.2
      split <;> exact hsuccess

theorem LogicInv.turn [Platform] (source : RandomSource) (spMsg : CBuffer) (time : UInt32) (h : LogicInv config l) :
    LogicInv config (l.turn source spMsg time).2 := by
  have htaken := turn_taken source spMsg time l
  generalize l.turn source spMsg time = result at htaken
  cases htaken with
  | finished => exact h
  | skipped hs _ => exact (h.checked hs).nextTest rfl
  | waited hs _ => exact h.checked hs
  | timedOut hs hready => exact (h.checked hs).timedOut (current_checked hs) rfl hready
  | @sent s hs hready =>
    have hchecked := h.checked hs
    have hclasses : (afterSend source time l s).testlist.map (·.testClass) = (Client.checked l s).testlist.map (·.testClass) :=
      put_classes (current_checked hs) rfl
    exact ⟨hchecked.initialized, hchecked.config_eq, hclasses.trans hchecked.classes, hchecked.results,
      hchecked.untouched, hchecked.direct, hchecked.noBehavior, hchecked.noFiltering⟩

end NatTester.Client
