import NatTester.Lib.Lines
import NatTester.Source.NatTesterActivity

/-!
# StunTester and StunClient

`StunTester.java` and `StunClient.java`: what a whole run of `testAll` writes and
counts, and `unix2Dos` of `NatTesterActivity.java`, which copies the result. What the
device, the JSTUN test and the `stunclient` processes say are arguments. Texts are
written and read in one charset, and the stream takes what is written to it.
-/
namespace NatTester.Source
open NatTester.Lib

/-- `output += thisLine + "\r\n"`, where `none` is null, which Java appends to as the text `null`. -/
def appendLine (output : Option String) (thisLine : List Char) : Option String :=
  some (output.getD "null" ++ (String.ofList thisLine ++ "\r\n"))

/-- What comes of `exec`: an exception, or a process with its output, reading which may fail behind `stdout`. -/
inductive ProcessOutcome where
  | execFailed (message : String)
  | ran (stdout : String)
  | readFailed (stdout message : String)

namespace StunClient

/-- `saveProcessOutput`, on the lines `readLine` returns. -/
def saveProcessOutput (stdout : String) (output : Option String) : Option String :=
  (lines stdout.toList).foldl appendLine output

/-- `execute`: its result and `output`. -/
def execute (output : Option String) : ProcessOutcome → Bool × Option String
  | .execFailed message => (false, some ("test error : " ++ message))
  | .ran stdout => (true, saveProcessOutput stdout output)
  | .readFailed _ message => (false, some ("test error : " ++ message))

end StunClient

namespace StunTester

/-- What the JSTUN test finds: the network interfaces, and the discovery or what its exception says. -/
structure JstunRun where
  interfaces : List (String × String)
  discovery : Except String String

/-- The counters of `testAll`, and what it has written. -/
structure Progress where
  failCount : Nat
  testCount : Nat
  written : List String

def Progress.writeOutput (p : Progress) (output : String) : Progress := { p with written := p.written ++ [output] }

def line : String := "----------------------------------------------------------------\r\n"

/-- `testJstun` -/
def testJstun (jstun : JstunRun) (p : Progress) : Bool × Progress :=
  let p := jstun.interfaces.foldl (fun p intf =>
    p.writeOutput ("interface " ++ intf.1 ++ " - address " ++ intf.2 ++ "\r\n")) p
  let p := p.writeOutput line
  match jstun.discovery with
  | .ok discoveryInfo => (true, p.writeOutput discoveryInfo)
  | .error message => (false, p.writeOutput ("Fail : " ++ message))

/-- The loop of `testAll`, for one client; its `output` is null until `execute`. -/
def testOne (p : Progress) (test : StunClient × ProcessOutcome) : Progress :=
  let (testResult, output) := StunClient.execute none test.2
  let p := { p with testCount := p.testCount + 1 }
  let p := p.writeOutput line
  let p := p.writeOutput (test.1.text ++ "\r\n")
  let p := p.writeOutput (output.getD "null" ++ "\r\n")
  let p := p.writeOutput "\r\n"
  if testResult then p else { p with failCount := p.failCount + 1 }

/-- The numbers of the summary. -/
structure ResultSummary where
  total : Int
  success : Int
  fail : Int
  deriving DecidableEq, Repr

def ResultSummary.text (s : ResultSummary) : String :=
  "Test Finished Total : " ++ toString s.total ++ ", Success : " ++ toString s.success ++ ", Fail : " ++ toString s.fail ++ "\r\n"

def resultSummary (size failCount : Nat) : ResultSummary := ⟨size, size - failCount, failCount⟩

/-- `testAll`, up to its loop. -/
def startTests (systemChecker now : String) (jstun : JstunRun) : Progress :=
  let p : Progress := ⟨0, 0, []⟩
  let p := p.writeOutput (systemChecker ++ "\r\n")
  let p := p.writeOutput ("test time : " ++ now ++ "\r\n")
  let p := p.writeOutput "\r\nJSTUN Test\r\n"
  let p := { p with testCount := p.testCount + 1 }
  let (isSuccess, p) := testJstun jstun p
  let p := if isSuccess then p else { p with failCount := p.failCount + 1 }
  p.writeOutput "\r\nSTUNTMAN Test\r\n\r\n"

/-- `testAll`, up to the summary. -/
def runTests (systemChecker now : String) (jstun : JstunRun) (testCases : List (StunClient × ProcessOutcome)) : Progress :=
  (testCases.foldl testOne (startTests systemChecker now jstun)).writeOutput line

def testAll (systemChecker now : String) (jstun : JstunRun) (testCases : List (StunClient × ProcessOutcome)) : Progress :=
  let p := runTests systemChecker now jstun testCases
  p.writeOutput (resultSummary testCases.length p.failCount).text

/-- What is in the file after the calls of `writeOutput`. -/
def Progress.file (p : Progress) : String := String.join p.written

end StunTester

/-- `unix2Dos`: the lines of the source, each with CR and LF. -/
def unix2Dos (source : String) : String := String.ofList (terminated (lines source.toList))

end NatTester.Source
