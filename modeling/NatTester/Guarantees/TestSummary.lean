import Mathlib.Data.Bool.Count
import NatTester.Source.StunTester

/-!
# The summary of a test run

`testAll` counts the failures of all tests, the JSTUN test included, but takes the
number of the test cases for the total. So the failures are right, and the total and
the successes are one too few in every run.
-/
namespace NatTester.Guarantees
open NatTester.Lib NatTester.Source StunTester

/-- Whether a test case succeeds; what its client holds in `output` does not matter. -/
def caseSucceeds (outcome : ProcessOutcome) : Bool := (StunClient.execute none outcome).1

/-- The results of the tests that are executed, the JSTUN test in front. -/
def testResults (jstun : JstunRun) (testCases : List (StunClient × ProcessOutcome)) : List Bool :=
  jstun.discovery.isOk :: testCases.map fun test => caseSucceeds test.2

/-- The numbers count the executed tests. -/
structure SummaryAddsUp (results : List Bool) (summary : ResultSummary) : Prop where
  fail : summary.fail = results.count false
  success : summary.success = results.count true
  total : summary.total = summary.success + summary.fail
  executed : summary.total = results.length
  nonneg : 0 ≤ summary.total ∧ 0 ≤ summary.success ∧ 0 ≤ summary.fail

/-- The last text of the run is a summary that adds up. -/
def WritesGoodSummary (jstun : JstunRun) (testCases : List (StunClient × ProcessOutcome)) (run : Progress) : Prop :=
  ∃ summary : ResultSummary, run.written.getLast? = some summary.text ∧ SummaryAddsUp (testResults jstun testCases) summary

/-! ## Counting -/

theorem testJstun_counts (jstun : JstunRun) (p : Progress) :
    (testJstun jstun p).1 = jstun.discovery.isOk ∧ (testJstun jstun p).2.failCount = p.failCount := by
  have hinterfaces : ∀ (interfaces : List (String × String)) (p : Progress),
      (interfaces.foldl (fun p intf => p.writeOutput ("interface " ++ intf.1 ++ " - address " ++ intf.2 ++ "\r\n")) p).failCount =
        p.failCount := by
    intro interfaces
    induction interfaces with
    | nil => exact fun _ => rfl
    | cons intf interfaces ih => exact fun p => ih _
  unfold testJstun
  cases hdiscovery : jstun.discovery with
  | ok discoveryInfo => exact ⟨rfl, hinterfaces jstun.interfaces p⟩
  | error message => exact ⟨rfl, hinterfaces jstun.interfaces p⟩

theorem testOne_failCount (p : Progress) (test : StunClient × ProcessOutcome) :
    (testOne p test).failCount = p.failCount + [caseSucceeds test.2].count false := by
  unfold testOne caseSucceeds
  dsimp only
  cases (StunClient.execute none test.2).1 <;> rfl

/-- The loop adds the test cases that fail. -/
theorem testCases_failCount (testCases : List (StunClient × ProcessOutcome)) (p : Progress) :
    (testCases.foldl testOne p).failCount = p.failCount + (testCases.map fun test => caseSucceeds test.2).count false := by
  induction testCases generalizing p with
  | nil => rfl
  | cons test testCases ih =>
    have hfirst : ((caseSucceeds test.2) :: testCases.map fun test => caseSucceeds test.2).count false =
        [caseSucceeds test.2].count false + (testCases.map fun test => caseSucceeds test.2).count false :=
      show ([caseSucceeds test.2] ++ _).count false = _ from List.count_append
    rw [List.foldl_cons, ih, testOne_failCount, List.map_cons, hfirst, Nat.add_assoc]

theorem startTests_failCount (systemChecker now : String) (jstun : JstunRun) :
    (startTests systemChecker now jstun).failCount = [jstun.discovery.isOk].count false := by
  unfold startTests
  dsimp only
  generalize hbefore : Progress.mk .. = before
  obtain ⟨hresult, hcount⟩ := testJstun_counts jstun before
  have hzero : before.failCount = 0 := by rw [← hbefore]; rfl
  rw [hresult]
  cases jstun.discovery.isOk
  · exact congrArg (· + 1) (hcount.trans hzero)
  · exact hcount.trans hzero

theorem runTests_failCount (systemChecker now : String) (jstun : JstunRun) (testCases : List (StunClient × ProcessOutcome)) :
    (runTests systemChecker now jstun testCases).failCount = (testResults jstun testCases).count false := by
  calc
    (runTests systemChecker now jstun testCases).failCount
      = (testCases.foldl testOne (startTests systemChecker now jstun)).failCount := rfl
    _ = [jstun.discovery.isOk].count false + (testCases.map fun test => caseSucceeds test.2).count false := by
      rw [testCases_failCount, startTests_failCount]
    _ = ([jstun.discovery.isOk] ++ testCases.map fun test => caseSucceeds test.2).count false := List.count_append.symm
    _ = (testResults jstun testCases).count false := rfl

/-! ## Reading the summary -/

theorem toString_chars (n : Int) : ∀ ch ∈ (toString n).toList, ch ≠ ',' ∧ ch ≠ '\r' := by
  intro ch hch
  rw [Int.toString_eq_repr, Int.repr_eq_if] at hch
  have hdigits : ∀ m : Nat, ∀ x ∈ m.repr.toList, x ≠ ',' ∧ x ≠ '\r' := by
    intro m x hx
    rw [Nat.toList_repr] at hx
    have hdigit := Nat.isDigit_of_mem_toDigits (by decide) (by decide) hx
    constructor <;> rintro rfl <;> cases hdigit
  split at hch
  · exact hdigits _ ch hch
  · rw [String.toList_append] at hch
    rcases List.mem_append.mp hch with hminus | hrest
    · obtain rfl := List.mem_singleton.mp hminus
      decide
    · exact hdigits _ ch hrest

theorem toString_injective {m n : Int} (h : toString m = toString n) : m = n := by
  have hread : ∀ k : Nat, Nat.ofDigitChars 10 k.repr.toList 0 = k := by
    intro k
    rw [Nat.toList_repr, Nat.ofDigitChars_ten_toDigits]
  have hminus : ∀ (k : Nat) (s : String), k.repr ≠ "-" ++ s := by
    intro k s heq
    have hmem : '-' ∈ k.repr.toList := by
      rw [heq, String.toList_append]
      exact List.mem_append_left _ (by decide)
    rw [Nat.toList_repr] at hmem
    cases Nat.isDigit_of_mem_toDigits (by decide) (by decide) hmem
  have hnat : ∀ k l : Nat, k.repr = l.repr → k = l := by
    intro k l heq
    rw [← hread k, heq, hread l]
  rw [Int.toString_eq_repr, Int.toString_eq_repr, Int.repr_eq_if, Int.repr_eq_if] at h
  split at h
  · split at h
    · have hsame := hnat _ _ h
      omega
    · exact absurd h (hminus _ _)
  · split at h
    · exact absurd h.symm (hminus _ _)
    · have hsame := hnat _ _ ((String.append_right_inj "-").mp h)
      omega

/-- Texts that differ only in front of the first comma, or the first CR, agree there. -/
theorem front_inj {stop : Char} {a b rest rest' : List Char} (ha : stop ∉ a) (hb : stop ∉ b)
    (h : a ++ stop :: rest = b ++ stop :: rest') : a = b ∧ rest = rest' := by
  have hread : ∀ {s t : List Char}, stop ∉ s → (s ++ stop :: t).takeWhile (· ≠ stop) = s := by
    intro s t hs
    rw [List.takeWhile_append_of_pos fun x hx => by simpa using fun heq : x = stop => hs (heq ▸ hx)]
    simp
  have hsame : a = b := by rw [← hread ha (t := rest), h, hread hb]
  subst hsame
  exact ⟨rfl, (List.cons.inj (List.append_cancel_left h)).2⟩

/-- The text of a summary, cut behind each number. -/
theorem text_toList (s : ResultSummary) :
    s.text.toList = "Test Finished Total : ".toList ++ ((toString s.total).toList ++ ',' ::
      (" Success : ".toList ++ ((toString s.success).toList ++ ',' ::
        (" Fail : ".toList ++ ((toString s.fail).toList ++ '\r' :: ['\n']))))) := by
  have hsuccess : ", Success : ".toList = ',' :: " Success : ".toList := by simp
  have hfail : ", Fail : ".toList = ',' :: " Fail : ".toList := by simp
  have hend : "\r\n".toList = '\r' :: ['\n'] := by simp
  unfold ResultSummary.text
  simp only [String.toList_append, hsuccess, hfail, hend, List.append_assoc, List.cons_append]

/-- The numbers are read off the text of a summary. -/
theorem text_injective {s t : ResultSummary} (h : s.text = t.text) : s = t := by
  have hcomma : ∀ n : Int, ',' ∉ (toString n).toList := fun n hmem => (toString_chars n _ hmem).1 rfl
  have hreturn : ∀ n : Int, '\r' ∉ (toString n).toList := fun n hmem => (toString_chars n _ hmem).2 rfl
  have hlists := congrArg String.toList h
  rw [text_toList, text_toList] at hlists
  generalize "Test Finished Total : ".toList = beforeTotal at hlists
  generalize " Success : ".toList = beforeSuccess at hlists
  generalize " Fail : ".toList = beforeFail at hlists
  rw [List.append_right_inj] at hlists
  obtain ⟨htotal, hrest⟩ := front_inj (hcomma _) (hcomma _) hlists
  rw [List.append_right_inj] at hrest
  obtain ⟨hsuccess, hrest⟩ := front_inj (hcomma _) (hcomma _) hrest
  rw [List.append_right_inj] at hrest
  obtain ⟨hfail, -⟩ := front_inj (hreturn _) (hreturn _) hrest
  cases s
  cases t
  congr 1
  · exact toString_injective (String.toList_injective htotal)
  · exact toString_injective (String.toList_injective hsuccess)
  · exact toString_injective (String.toList_injective hfail)

/-! ## Every run -/

/-- The failures are right; the total and the successes leave out one test. -/
theorem resultSummary_counts (systemChecker now : String) (jstun : JstunRun) (testCases : List (StunClient × ProcessOutcome)) :
    let summary := resultSummary testCases.length (runTests systemChecker now jstun testCases).failCount
    summary.fail = (testResults jstun testCases).count false ∧
      summary.success = (testResults jstun testCases).count true - 1 ∧
      summary.total = (testResults jstun testCases).length - 1 := by
  have hfail := runTests_failCount systemChecker now jstun testCases
  have hsize : (testResults jstun testCases).length = testCases.length + 1 := by
    rw [testResults, List.length_cons, List.length_map]
  have hall := List.count_false_add_count_true (testResults jstun testCases)
  dsimp only [resultSummary]
  omega

/-- The summary that a run writes last. -/
theorem testAll_last (systemChecker now : String) (jstun : JstunRun) (testCases : List (StunClient × ProcessOutcome)) :
    (testAll systemChecker now jstun testCases).written.getLast? =
      some (resultSummary testCases.length (runTests systemChecker now jstun testCases).failCount).text :=
  List.getLast?_concat

/-- **No run writes a summary that adds up**: the executed tests are one more than the test cases. -/
theorem summary_never_adds_up (systemChecker now : String) (jstun : JstunRun) (testCases : List (StunClient × ProcessOutcome)) :
    ¬WritesGoodSummary jstun testCases (testAll systemChecker now jstun testCases) := by
  rintro ⟨summary, hwritten, haddsUp⟩
  rw [testAll_last, Option.some.injEq] at hwritten
  obtain rfl := text_injective hwritten
  have htotal := (resultSummary_counts systemChecker now jstun testCases).2.2
  have hexecuted := haddsUp.executed
  omega

/-- The test cases of the constructor, where the client program cannot be executed. -/
def nothingExecuted : List (StunClient × ProcessOutcome) :=
  (testCases NatTesterActivity.serverIpAddress).map fun client => (client, .execFailed "Permission denied")

/-- With a JSTUN test that fails too, the successes are minus one. -/
theorem summary_minus_one :
    (testAll "" "" ⟨[], .error "timeout"⟩ nothingExecuted).written.getLast? =
        some "Test Finished Total : 14, Success : -1, Fail : 15\r\n" ∧
      ¬WritesGoodSummary ⟨[], .error "timeout"⟩ nothingExecuted (testAll "" "" ⟨[], .error "timeout"⟩ nothingExecuted) := by
  have hcounts : resultSummary nothingExecuted.length (runTests "" "" ⟨[], .error "timeout"⟩ nothingExecuted).failCount =
      ⟨14, -1, 15⟩ := by
    rw [runTests_failCount]
    rfl
  have hlast := testAll_last "" "" ⟨[], .error "timeout"⟩ nothingExecuted
  rw [hcounts] at hlast
  constructor
  · rw [hlast]
    decide
  · rintro ⟨summary, hwritten, haddsUp⟩
    rw [hlast, Option.some.injEq] at hwritten
    obtain rfl := text_injective hwritten
    exact absurd haddsUp.nonneg.2.1 (by decide)

end NatTester.Guarantees
