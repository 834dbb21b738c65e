import NatTester.Source.StunTester

/-!
# The saved report

The `output` of a client is null until its first line is appended, and appending to
null writes the text `null` in front. So each case of the report has four characters
that its process has not printed; everything else is in its place, and `unix2Dos` keeps
the lines of whatever it copies.
-/
namespace NatTester.Guarantees
open NatTester.Lib NatTester.Source StunTester

/-- The lines of a process, each with CR and LF. -/
def printedLines (stdout : String) : String := String.ofList (terminated (lines stdout.toList))

/-- What the report is to say of a case whose process printed `stdout`. -/
def caseReport (test : StunClient × String) : String :=
  line ++ (test.1.text ++ "\r\n") ++ printedLines test.2 ++ "\r\n" ++ "\r\n"

/-- What the report says of it. -/
def savedCase (test : StunClient × String) : String :=
  line ++ (test.1.text ++ "\r\n") ++ ("null" ++ printedLines test.2) ++ "\r\n" ++ "\r\n"

/-- Test cases whose processes all run. -/
def ranCases (cases : List (StunClient × String)) : List (StunClient × ProcessOutcome) :=
  cases.map fun test => (test.1, .ran test.2)

/-- Between `header` and `footer` the report has its cases in order, and the copy has its lines. -/
structure SavedExactly (header footer : String) (cases : List (StunClient × String)) (file : String) : Prop where
  saved : file = header ++ String.join (cases.map caseReport) ++ footer
  copied : lines (unix2Dos file).toList = lines file.toList

/-! ## What a case writes -/

theorem Progress.file_writeOutput (p : Progress) (output : String) : (p.writeOutput output).file = p.file ++ output := by
  rw [Progress.file, Progress.writeOutput, String.join_append]
  rfl

/-- The lines are appended in order, behind whatever the output is in front of the first. -/
theorem appendLines_getD (ls : List (List Char)) (output : Option String) :
    (ls.foldl appendLine output).getD "null" = output.getD "null" ++ String.ofList (terminated ls) := by
  induction ls generalizing output with
  | nil => simp [terminated]
  | cons thisLine ls ih =>
    have hnext : terminated (thisLine :: ls) = thisLine ++ ['\r', '\n'] ++ terminated ls := rfl
    have hend : "\r\n" = String.ofList ['\r', '\n'] := by decide
    rw [List.foldl_cons, ih, hnext, String.ofList_append, String.ofList_append, appendLine, Option.getD_some, hend]
    simp only [String.append_assoc]

theorem testOne_file (p : Progress) (test : StunClient × String) :
    (testOne p (test.1, .ran test.2)).file = p.file ++ savedCase test := by
  have houtput : (StunClient.saveProcessOutput test.2 none).getD "null" = "null" ++ printedLines test.2 :=
    appendLines_getD (lines test.2.toList) none
  unfold testOne
  simp only [StunClient.execute, if_true, Progress.file_writeOutput, houtput, savedCase, String.append_assoc]
  rfl

/-- The cases stand one behind the other, each between the separators of its own. -/
theorem testCases_file (cases : List (StunClient × String)) (p : Progress) :
    ((ranCases cases).foldl testOne p).file = p.file ++ String.join (cases.map savedCase) := by
  induction cases generalizing p with
  | nil => simp [ranCases]
  | cons test cases ih =>
    have hrest := ih (testOne p (test.1, .ran test.2))
    rw [testOne_file] at hrest
    rw [ranCases, List.map_cons, List.foldl_cons, List.map_cons, String.join_cons, ← String.append_assoc]
    exact hrest

/-- What the report says behind its cases. -/
def reportFooter (systemChecker now : String) (jstun : JstunRun) (cases : List (StunClient × String)) : String :=
  line ++ (resultSummary cases.length (runTests systemChecker now jstun (ranCases cases)).failCount).text

/-- The whole report. -/
theorem testAll_file (systemChecker now : String) (jstun : JstunRun) (cases : List (StunClient × String)) :
    (testAll systemChecker now jstun (ranCases cases)).file =
      (startTests systemChecker now jstun).file ++ String.join (cases.map savedCase) ++
        reportFooter systemChecker now jstun cases := by
  have hsize : (ranCases cases).length = cases.length := List.length_map _
  rw [testAll, Progress.file_writeOutput, hsize, reportFooter, ← String.append_assoc, ← testCases_file,
    runTests, Progress.file_writeOutput]

/-! ## The copy -/

/-- `unix2Dos` keeps the lines of every text. -/
theorem unix2Dos_lines (source : String) : lines (unix2Dos source).toList = lines source.toList := by
  rw [unix2Dos, String.toList_ofList]
  exact lines_terminated fun line hline => mem_lines hline

/-! ## The report -/

theorem length_savedCase (test : StunClient × String) : (savedCase test).length = (caseReport test).length + 4 := by
  have hnull : "null".length = 4 := by decide
  simp only [savedCase, caseReport, String.length_append, hnull]
  omega

/-- Four characters for each case are too many. -/
theorem length_savedCases (cases : List (StunClient × String)) :
    (String.join (cases.map savedCase)).length = (String.join (cases.map caseReport)).length + 4 * cases.length := by
  induction cases with
  | nil => rfl
  | cons test cases ih =>
    rw [List.map_cons, List.map_cons, String.join_cons, String.join_cons, String.length_append, String.length_append, ih,
      length_savedCase, List.length_cons]
    omega

theorem saved_exactly_nil {systemChecker now : String} {jstun : JstunRun} {cases : List (StunClient × String)}
    (hsaved : SavedExactly (startTests systemChecker now jstun).file (reportFooter systemChecker now jstun cases) cases
      (testAll systemChecker now jstun (ranCases cases)).file) : cases = [] := by
  have hfile := hsaved.saved
  rw [testAll_file] at hfile
  have hlength := congrArg String.length hfile
  simp only [String.length_append, length_savedCases] at hlength
  exact List.eq_nil_of_length_eq_zero (by omega)

/-- **The report is what the processes printed exactly if there is no test case.** -/
theorem saved_exactly_iff (systemChecker now : String) (jstun : JstunRun) (cases : List (StunClient × String)) :
    SavedExactly (startTests systemChecker now jstun).file (reportFooter systemChecker now jstun cases) cases
      (testAll systemChecker now jstun (ranCases cases)).file ↔ cases = [] := by
  constructor
  · exact saved_exactly_nil
  · rintro rfl
    have hfile := testAll_file systemChecker now jstun []
    rw [List.map_nil] at hfile
    exact ⟨by rw [List.map_nil]; exact hfile, unix2Dos_lines _⟩

def fullUdp : StunClient × String := (⟨.full, .udp, "192.0.2.1", "3478"⟩, "Binding test: success\n")

/-- One case, whose process prints one line. -/
theorem saved_with_null :
    savedCase fullUdp = line ++ "mode : full, protocol : udp, server : 192.0.2.1:3478\r\n" ++
        "nullBinding test: success\r\n" ++ "\r\n" ++ "\r\n" ∧
      ¬SavedExactly (startTests "" "" ⟨[], .ok ""⟩).file (reportFooter "" "" ⟨[], .ok ""⟩ [fullUdp]) [fullUdp]
        (testAll "" "" ⟨[], .ok ""⟩ (ranCases [fullUdp])).file := by
  constructor
  · have htext : fullUdp.1.text ++ "\r\n" = "mode : full, protocol : udp, server : 192.0.2.1:3478\r\n" := by decide
    have hprinted : "null" ++ printedLines fullUdp.2 = "nullBinding test: success\r\n" := by
      have hlines : lines "Binding test: success\n".toList = ["Binding test: success".toList] := by
        simp [lines, isLineBreak, skipBreak]
      rw [fullUdp, printedLines, hlines]
      decide
    rw [savedCase, htext, hprinted]
  · exact fun hsaved => List.cons_ne_nil _ _ (saved_exactly_nil hsaved)

end NatTester.Guarantees
