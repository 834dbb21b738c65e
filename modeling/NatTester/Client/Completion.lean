import NatTester.Client.Runs

/-!
# What a finished run has settled

When no test is left, the filtering tests have decided wherever the binding test
has found a direct connection or another address of the server; and a behavior
test decides nowhere else.
-/
namespace NatTester.Client
open NatTester.Lib NatTester.Source IStunClientTest CStunClientLogic

/-- What an operation on a later test than the binding test adds to the results. -/
structure Advances (s t : TestState) : Prop where
  binding : t.results.fBindingTestSuccess = s.results.fBindingTestSuccess
  isDirect : t.results.fIsDirect = s.results.fIsDirect
  other : t.results.fHasOtherAddress = s.results.fHasOtherAddress
  filtering : s.results.fFilteringTestSuccess = true → t.results.fFilteringTestSuccess = true
  decided : s.test.testClass = .filteringTest true → t.test.fCompleted = true →
    s.test.fCompleted = true ∨ t.results.fFilteringTestSuccess = true
  found : t.results.fBehaviorTestSuccess = true →
    s.results.fBehaviorTestSuccess = true ∨ s.results.fIsDirect = true ∨ s.results.fHasOtherAddress = true

/-- What holds of the results as the tests are passed one after the other. -/
structure CompletionInv (config : StunClientLogicConfig) (l : CStunClientLogic) : Prop where
  found : l.results.fBehaviorTestSuccess = true → l.results.fIsDirect = true ∨ l.results.fHasOtherAddress = true
  decided : ∀ test ∈ l.testlist, test.testClass = .filteringTest true → test.fCompleted = true →
    l.results.fFilteringTestSuccess = true
  direct : ∀ i, (testClasses config)[i]? = some (.filteringTest false) →
    i < l.nTestIndex ∨ (i = l.nTestIndex ∧ l.fPreCheckRunOnTest = true) →
    l.results.fBindingTestSuccess = true → l.results.fIsDirect = true → l.results.fFilteringTestSuccess = true
  passed : ∀ i, (testClasses config)[i]? = some (.filteringTest true) → i < l.nTestIndex →
    l.results.fBindingTestSuccess = true → l.results.fHasOtherAddress = true → l.results.fFilteringTestSuccess = true

section Operations
variable {s t : TestState}

theorem Advances.refl (s : TestState) : Advances s s := ⟨rfl, rfl, rfl, id, fun _ => .inl, .inl⟩

theorem advances_preRunCheck (s : TestState) : Advances s (preRunCheck s) := by
  unfold preRunCheck
  split
  · exact .refl s
  · unfold CBehaviorTest.preRunCheck
    split
    · split
      case isTrue hdirect =>
        exact ⟨rfl, rfl, rfl, id, by simp_all, fun _ => .inr (.inl hdirect.2)⟩
      case isFalse => exact .refl s
    · exact .refl s
  · unfold CFilteringTest.preRunCheck
    split
    · split
      · exact ⟨rfl, rfl, rfl, fun _ => rfl, fun _ _ => .inr rfl, .inl⟩
      · exact .refl s
    · exact .refl s

theorem advances_notifyTimeout (hlater : s.test.testClass ≠ .basicBindingTest) : Advances s (notifyTimeout s) := by
  unfold notifyTimeout
  cases hclass : s.test.testClass with
  | basicBindingTest => exact absurd hclass hlater
  | behaviorTest fIsTest3 => exact ⟨rfl, rfl, rfl, id, by simp [hclass], fun h => Bool.noConfusion h⟩
  | filteringTest fIsTest3 =>
    simp only [CFilteringTest.notifyTimeout]
    cases fIsTest3 with
    | true => exact ⟨rfl, rfl, rfl, fun _ => rfl, fun _ _ => .inr rfl, .inl⟩
    | false => exact ⟨rfl, rfl, rfl, id, by simp [hclass], .inl⟩

theorem advances_effect [Platform] {spMsg : CBuffer} {addrLocal : CSocketAddress}
    (heffect : Effect spMsg addrLocal s t) (hlater : s.test.testClass ≠ .basicBindingTest)
    (hready : isReadyToRun s = true) : Advances s t := by
  cases heffect with
  | binding hclass => exact absurd hclass hlater
  | @behavior reader addrMapped fIsTest3 hclass =>
    have hother : s.results.fHasOtherAddress = true := by
      simp only [isReadyToRun, hclass, CBehaviorTest.isReadyToRun] at hready
      cases fIsTest3 <;> simp_all
    unfold CBehaviorTest.recordMapping
    split
    · exact ⟨rfl, rfl, rfl, id, by simp [hclass], fun _ => .inr (.inr hother)⟩
    · split <;> exact ⟨rfl, rfl, rfl, id, by simp [hclass], fun _ => .inr (.inr hother)⟩
  | filtering =>
    unfold CFilteringTest.recordReply
    split <;> exact ⟨rfl, rfl, rfl, fun _ => rfl, fun _ _ => .inr rfl, .inl⟩

end Operations

section Steps
variable {config : StunClientLogicConfig} {l : CStunClientLogic} {s t : TestState}

/-- The binding test leaves the behavior undecided. -/
theorem LogicInv.undecided (hinv : LogicInv config l) (hs : l.current = some s) (hsame : SameTest s t)
    (hzero : l.nTestIndex = 0) : t.results.fBehaviorTestSuccess = false := by
  have hbasic := (hinv.basic_iff hs).mpr hzero
  rw [hsame.behavior (by simp [hbasic]), (current_eq_some.mp hs).2.1]
  exact (hinv.untouched hzero).behavior

/-- What a test writes keeps the invariant. -/
theorem CompletionInv.put (h : CompletionInv config l) (hinv : LogicInv config l) (hs : l.current = some s)
    (hsame : t.test.testClass = s.test.testClass) (hadvances : l.nTestIndex ≠ 0 → Advances s t)
    (hfirst : l.nTestIndex = 0 → t.results.fBehaviorTestSuccess = false) : CompletionInv config (l.put t) := by
  obtain ⟨-, hresults, htest⟩ := current_eq_some.mp hs
  have hbasic : l.nTestIndex = 0 → (testClasses config)[l.nTestIndex]? = some .basicBindingTest := testClasses_basic.mpr
  have hkept : l.results.fFilteringTestSuccess = true → t.results.fFilteringTestSuccess = true := by
    intro hsuccess
    rw [← hresults] at hsuccess
    by_cases hzero : l.nTestIndex = 0
    · rw [hresults, (hinv.untouched hzero).filtering] at hsuccess
      cases hsuccess
    · exact (hadvances hzero).filtering hsuccess
  refine ⟨fun hsuccess => ?_, fun test hmem hclass hdone => ?_, fun i hi hposition hb hd => ?_,
    fun i hi hposition hb ho => ?_⟩
  · by_cases hzero : l.nTestIndex = 0
    · rw [show t.results.fBehaviorTestSuccess = true from hsuccess] at hfirst
      cases hfirst hzero
    · have hadv := hadvances hzero
      change t.results.fIsDirect = true ∨ t.results.fHasOtherAddress = true
      rw [hadv.isDirect, hadv.other]
      refine (hadv.found hsuccess).elim (fun hbefore => ?_) id
      rw [hresults] at hbefore ⊢
      exact h.found hbefore
  · rcases List.mem_or_eq_of_mem_set hmem with hold | rfl
    · exact hkept (h.decided test hold hclass hdone)
    · rw [hsame] at hclass
      have hzero : l.nTestIndex ≠ 0 := fun hzero => by
        rw [(hinv.basic_iff hs).mpr hzero] at hclass
        cases hclass
      rcases (hadvances hzero).decided hclass hdone with hbefore | hnow
      · exact hkept (h.decided s.test (List.mem_of_getElem? htest) hclass hbefore)
      · exact hnow
  · have hzero : l.nTestIndex ≠ 0 := fun hzero => by
      change i < l.nTestIndex ∨ (i = l.nTestIndex ∧ _) at hposition
      obtain rfl : i = l.nTestIndex := by omega
      rw [hbasic hzero] at hi
      cases hi
    have hadv := hadvances hzero
    refine hkept (h.direct i hi hposition ?_ ?_)
    · rw [← hresults, ← hadv.binding]
      exact hb
    · rw [← hresults, ← hadv.isDirect]
      exact hd
  · have hzero : l.nTestIndex ≠ 0 := Nat.ne_of_gt (Nat.zero_lt_of_lt hposition)
    have hadv := hadvances hzero
    refine hkept (h.passed i hi hposition ?_ ?_)
    · rw [← hresults, ← hadv.binding]
      exact hb
    · rw [← hresults, ← hadv.other]
      exact ho

/-- Filtering test 2 concludes from a direct connection before it sends anything. -/
theorem preRunCheck_direct (hclass : s.test.testClass = .filteringTest false)
    (hbinding : (preRunCheck s).results.fBindingTestSuccess = true)
    (hdirect : (preRunCheck s).results.fIsDirect = true) : (preRunCheck s).results.fFilteringTestSuccess = true := by
  have hadvances := advances_preRunCheck s
  rw [hadvances.binding] at hbinding
  rw [hadvances.isDirect] at hdirect
  rw [preRunCheck, hclass]
  simp only [CFilteringTest.preRunCheck]
  rw [if_pos trivial, if_pos ⟨hbinding, hdirect⟩]
  rfl

theorem CompletionInv.checked (h : CompletionInv config l) (hinv : LogicInv config l) (hs : l.current = some s) :
    CompletionInv config (checked l s) := by
  have hadvances : Advances s (l.preCheck s) := by
    unfold preCheck
    split
    · exact advances_preRunCheck s
    · exact .refl s
  obtain ⟨hfound, hdecided, hdirect, hpassed⟩ :=
    h.put hinv hs (sameTest_preCheck l s).testClass (fun _ => hadvances) (hinv.undecided hs (sameTest_preCheck l s))
  refine ⟨hfound, hdecided, fun i hi hposition hb hd => ?_, hpassed⟩
  cases hcheck : l.fPreCheckRunOnTest with
  | true => exact hdirect i hi (hposition.imp_right fun hat => ⟨hat.1, hcheck⟩) hb hd
  | false =>
    rcases hposition with hpast | ⟨hat, -⟩
    · exact hdirect i hi (.inl hpast) hb hd
    · have hclass := hinv.class_at hs
      rw [← show i = l.nTestIndex from hat, hi] at hclass
      change (l.preCheck s).results.fBindingTestSuccess = true at hb
      change (l.preCheck s).results.fIsDirect = true at hd
      change (l.preCheck s).results.fFilteringTestSuccess = true
      rw [preCheck, if_pos hcheck] at hb hd ⊢
      exact preRunCheck_direct (Option.some.inj hclass).symm hb hd

/-- A filtering test 3 that is passed leaves nothing undecided. -/
theorem CompletionInv.decides (h : CompletionInv config l) (hinv : LogicInv config l) (hs : l.current = some s)
    (hclass : s.test.testClass = .filteringTest true) (hover : isCompleted s = true ∨ isReadyToRun s = false)
    (hbinding : l.results.fBindingTestSuccess = true) (hother : l.results.fHasOtherAddress = true) :
    l.results.fFilteringTestSuccess = true := by
  obtain ⟨-, hresults, htest⟩ := current_eq_some.mp hs
  have hdone : s.test.fCompleted = true → l.results.fFilteringTestSuccess = true :=
    h.decided s.test (List.mem_of_getElem? htest) hclass
  rcases hover with hcompleted | hready
  · exact hdone hcompleted
  · by_contra hfail
    rw [Bool.not_eq_true] at hfail
    obtain ⟨htest2, -⟩ := hinv.results.replies hfail
    have hopen : s.test.fCompleted = false := by
      by_contra hne
      rw [hdone (by simpa using hne)] at hfail
      cases hfail
    simp only [isReadyToRun, hclass, CFilteringTest.isReadyToRun, hresults] at hready
    rw [hopen, hbinding, hother, hfail, htest2] at hready
    cases hready

theorem CompletionInv.nextTest (h : CompletionInv config l) (hinv : LogicInv config l) (hs : l.current = some s)
    (hcheck : l.fPreCheckRunOnTest = true) (hover : isCompleted s = true ∨ isReadyToRun s = false) :
    CompletionInv config l.nextTest := by
  refine ⟨h.found, h.decided, fun i hi hposition => h.direct i hi ?_, fun i hi hposition hb ho => ?_⟩
  · change i < l.nTestIndex + 1 ∨ _ ∧ false = true at hposition
    rcases hposition with hpast | ⟨-, hfalse⟩
    · exact (Nat.lt_succ_iff_lt_or_eq.mp hpast).imp_right fun hat => ⟨hat, hcheck⟩
    · cases hfalse
  · rcases Nat.lt_succ_iff_lt_or_eq.mp hposition with hpast | rfl
    · exact h.passed i hi hpast hb ho
    · have hclass := hinv.class_at hs
      rw [hi] at hclass
      exact h.decides hinv hs (Option.some.inj hclass).symm hover hb ho

theorem CompletionInv.turn [Platform] (source : RandomSource) (spMsg : CBuffer) (time : UInt32)
    (h : CompletionInv config l) (hinv : LogicInv config l) :
    CompletionInv config (l.turn source spMsg time).2 := by
  have htaken := turn_taken source spMsg time l
  generalize l.turn source spMsg time = result at htaken
  cases htaken with
  | finished => exact h
  | skipped hs hover => exact (h.checked hinv hs).nextTest (hinv.checked hs) (current_checked hs) rfl hover
  | waited hs _ => exact h.checked hinv hs
  | @timedOut s hs _ =>
    have hat := current_checked hs
    exact (h.checked hinv hs).put (hinv.checked hs) hat (sameTest_notifyTimeout _).testClass
      (fun hlater => advances_notifyTimeout fun hclass => hlater (((hinv.checked hs).basic_iff hat).mp hclass))
      ((hinv.checked hs).undecided hat (sameTest_notifyTimeout _))
  | @sent s hs _ =>
    have hat := current_checked hs
    have hput := (h.checked hinv hs).put (hinv.checked hs) hat
      (t := withTransid (requestTransid source (l.preCheck s).test.transid) (l.preCheck s))
      rfl (fun _ => ⟨rfl, rfl, rfl, id, fun _ => .inl, .inl⟩)
      fun hzero => ((hinv.checked hs).untouched hzero).behavior
    exact ⟨hput.found, hput.decided, hput.direct, hput.passed⟩

end Steps

section Runs
variable {config : StunClientLogicConfig} {l : CStunClientLogic}

theorem Initialized.completionInv (h : Initialized config l) : CompletionInv config l := by
  obtain ⟨-, -, rfl⟩ := h.eq
  refine ⟨fun h => Bool.noConfusion h, fun test hmem _ hdone => ?_, fun i hi hposition => ?_,
    fun _ _ hpast => absurd hpast (Nat.not_lt_zero _)⟩
  · obtain ⟨_, -, rfl⟩ := List.mem_map.mp hmem
    cases hdone
  · rcases hposition with hpast | ⟨rfl, -⟩
    · cases hpast
    · cases hi

variable [Platform]

theorem call_completionInv (h : CompletionInv config l) (hinv : LogicInv config l) (hsettled : Settled l)
    (call : ClientCall) : CompletionInv config (call.run l) := by
  cases call with
  | getNextMessage source spMsg time =>
    rcases getNextMessage_cases source spMsg time hinv.initialized with ⟨-, hrun⟩ | ⟨-, outcome, after, hturns, hrun⟩
    · rw [ClientCall.run, hrun]
      exact h
    · obtain ⟨⟨-, hdone⟩, -⟩ := turns_invariant (I := fun l => LogicInv config l ∧ CompletionInv config l)
        (fun _ hl => ⟨hl.1.turn source spMsg time, hl.2.turn source spMsg time hl.1⟩) l.turnBound ⟨hinv, h⟩
      rw [hturns] at hdone
      rw [ClientCall.run, hrun]
      exact hdone
  | processResponse spMsg addrRemote addrLocal =>
    rcases processResponse_cases spMsg addrRemote addrLocal l with ⟨hr, hrun⟩ | ⟨s, t, hs, hopen, heffect, hrun⟩
    · rw [ClientCall.run, hrun]
      exact h
    · rw [ClientCall.run, hrun]
      refine h.put hinv hs heffect.sameTest.1.testClass (fun hlater => ?_) (hinv.undecided hs heffect.sameTest.1)
      have hready := ((hsettled s hs).resolve_left hlater).resolve_left (by simp [hopen])
      exact advances_effect heffect (fun hclass => hlater ((hinv.basic_iff hs).mp hclass)) hready.2

theorem client_completionInv (h : (client config).Reachable l) : CompletionInv config l := by
  have hall : (LogicInv config l ∧ Settled l) ∧ CompletionInv config l := by
    refine h.invariant (I := fun l => (LogicInv config l ∧ Settled l) ∧ CompletionInv config l)
      (fun _ hinit => ⟨hinit.inv, hinit.completionInv⟩) ?_
    rintro l call _ ⟨⟨hinv, hsettled⟩, hcompletion⟩ rfl
    exact ⟨call_inv hinv hsettled call, call_completionInv hcompletion hinv hsettled call⟩
  exact hall.2

/-- In a finished run a behavior verdict comes with a filtering verdict, where one was asked for. -/
theorem finished_filtering (h : (client config).Reachable l) (hdone : l.current = none)
    (hasked : config.fFilteringTest = true) (hbehavior : l.results.fBehaviorTestSuccess = true) :
    l.results.fFilteringTestSuccess = true := by
  obtain ⟨hinv, -⟩ := client_inv h
  have hcompletion := client_completionInv h
  have hpast : (testClasses config).length ≤ l.nTestIndex := by
    rw [← hinv.classes, List.length_map]
    simpa [current] using hdone
  obtain ⟨i, hi, hlast⟩ := testClasses_filtering_last hasked
  have hlt : i + 1 < (testClasses config).length := (List.getElem?_eq_some_iff.mp hlast).1
  have hbinding := hinv.results.consistent.binding (.inl hbehavior)
  rcases hcompletion.found hbehavior with hdirect | hother
  · exact hcompletion.direct i hi (.inl (by omega)) hbinding hdirect
  · exact hcompletion.passed (i + 1) hlast (by omega) hbinding hother

end Runs

end NatTester.Client
