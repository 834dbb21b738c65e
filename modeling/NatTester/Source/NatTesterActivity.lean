import NatTester.Lib.Machine

/-!
# NatTesterActivity

`NatTesterActivity.java`, with `testAll` of `StunTester.java`. The UI thread
handles its queue in order: clicks on the Start/Stop button, and the messages the
test threads send through the handler of their run. A stopped thread does
nothing more. What a test finds out is an argument of the thread's step.
-/
namespace NatTester.Source
open NatTester.Lib

inductive StunMode where
  | full
  deriving DecidableEq, Repr

inductive StunProtocol where
  | tcp
  | udp
  deriving DecidableEq, Repr

def StunMode.name : StunMode → String
  | .full => "full"

def StunProtocol.name : StunProtocol → String
  | .tcp => "tcp"
  | .udp => "udp"

structure StunClient where
  mode : StunMode
  protocol : StunProtocol
  serverIpAddress : String
  port : String
  deriving DecidableEq, Repr

/-- `StunClient.toString` -/
def StunClient.text (client : StunClient) : String :=
  "mode : " ++ client.mode.name ++ ", " ++ "protocol : " ++ client.protocol.name ++ ", " ++
    "server : " ++ client.serverIpAddress ++ ":" ++ client.port

namespace StunTester

def PROGRESS_TEST : Nat := 2
def COMPLETE_TEST : Nat := 3

/-- The test cases of the constructor, in its order. -/
def testCases (serverIpAddress : String) : List StunClient :=
  [StunProtocol.udp, .tcp].flatMap fun protocol =>
    ["3478", "2000", "18350", "20000", "40000", "50000", "60000"].map fun port =>
      ⟨.full, protocol, serverIpAddress, port⟩

end StunTester

/-- `Message`; `run` is the run whose handler it goes to. -/
structure Message where
  run : Nat
  what : Nat
  obj : Option String

inductive UiEvent where
  | click
  | message (msg : Message)

/-- Where a test thread is: before the JSTUN test, in the loop of `testAll`, behind `testAll`, or at its end. -/
inductive Stage where
  | testJstun
  | testCases (testCount failCount : Nat) (remaining : List StunClient)
  | close
  | ended
  deriving DecidableEq, Repr

/-- A test thread. `stopped` says that `stop` was called on it; `completeHandled`, which nothing reads, that the UI
thread has handled its `COMPLETE_TEST`. -/
structure TestThread where
  stage : Stage
  stopped : Bool
  completeHandled : Bool
  deriving DecidableEq, Repr

structure NatTesterActivity where
  isRunning : Bool
  result : String
  testThread : Option Nat
  tvResult : String
  btStartStop : String
  btSendMailVisible : Bool

/-- The activity with the test threads, one for each run, and the queue of the UI thread. -/
structure NatTesterApp where
  activity : NatTesterActivity
  threads : List TestThread
  queue : List UiEvent

namespace NatTesterActivity
open StunTester

def serverIpAddress : String := "112.220.75.19"

/-- After `onCreate`. -/
def created : NatTesterActivity where
  isRunning := false
  result := ""
  testThread := none
  tvResult := ""
  btStartStop := "Start Test"
  btSendMailVisible := false

/-- `handleMessage`; it does not look at the run, and does nothing on `FAIL_TEST`. -/
def handleMessage (msg : Message) (a : NatTesterActivity) : NatTesterActivity :=
  if msg.what = COMPLETE_TEST then
    { a with isRunning := false, testThread := none, btStartStop := "Start Test", btSendMailVisible := true }
  else if msg.what = PROGRESS_TEST then
    let result := a.result ++ (msg.obj.getD "null" ++ "\r\n")
    { a with result, tvResult := result }
  else a

end NatTesterActivity

namespace NatTesterApp
open StunTester

/-- `stopTest` -/
def stopTest (app : NatTesterApp) : NatTesterApp :=
  match app.activity.testThread with
  | none => { app with activity := { app.activity with btStartStop := "Start Test" } }
  | some run =>
    { app with
      activity := { app.activity with testThread := none, isRunning := false, btStartStop := "Start Test" }
      threads := app.threads.modify run fun t => { t with stopped := true } }

/-- `startTest`: the next run gets a thread and a handler of its own. -/
def startTest (app : NatTesterApp) : NatTesterApp :=
  { app with
    activity :=
      { isRunning := true
        result := ""
        testThread := some app.threads.length
        tvResult := ""
        btStartStop := "Stop Test"
        btSendMailVisible := false }
    threads := app.threads ++ [⟨.testJstun, false, false⟩] }

def onStartStop (app : NatTesterApp) : NatTesterApp := if app.activity.isRunning then app.stopTest else app.startTest

/-- One event of the queue, taken out of it before. -/
def handleEvent (app : NatTesterApp) : UiEvent → NatTesterApp
  | .click => app.onStartStop
  | .message msg =>
    { app with
      activity := app.activity.handleMessage msg
      threads :=
        if msg.what = COMPLETE_TEST then app.threads.modify msg.run fun t => { t with completeHandled := true }
        else app.threads }

def progress (testCount : Nat) (text : String) : String := toString testCount ++ " : " ++ text

def summary (total failCount : Nat) : String :=
  "Test Finished Total : " ++ toString total ++ ", Success : " ++ toString ((total : Int) - failCount) ++ ", Fail : " ++
    toString failCount ++ "\r\n"

/-- The next step of a test thread up to its next message: the stage it comes to, and what it sends. -/
def advance (success : Bool) : Stage → Stage × Option (Nat × Option String)
  | .testJstun =>
    (.testCases 1 (if success then 0 else 1) (testCases NatTesterActivity.serverIpAddress),
      some (PROGRESS_TEST, some (progress 1 "jstun test")))
  | .testCases _ failCount [] =>
    (.close, some (PROGRESS_TEST, some (summary (testCases NatTesterActivity.serverIpAddress).length failCount)))
  | .testCases testCount failCount (client :: remaining) =>
    (.testCases (testCount + 1) (if success then failCount else failCount + 1) remaining,
      some (PROGRESS_TEST, some (progress (testCount + 1) client.text)))
  | .close => (.ended, some (COMPLETE_TEST, none))
  | .ended => (.ended, none)

/-- A step of the test thread of `run`. -/
def work (run : Nat) (success : Bool) (app : NatTesterApp) : NatTesterApp :=
  match app.threads[run]? with
  | none => app
  | some t =>
    if t.stopped then app
    else
      let next := advance success t.stage
      { app with
        threads := app.threads.set run { t with stage := next.1 }
        queue := app.queue ++ (next.2.map fun sent => UiEvent.message ⟨run, sent.1, sent.2⟩).toList }

/-- What can happen next: the button is tapped, a test thread goes on, the UI thread handles the next event. -/
inductive Happening where
  | tap
  | work (run : Nat) (success : Bool)
  | handle
  deriving DecidableEq, Repr

def next : Happening → NatTesterApp → NatTesterApp
  | .tap, app => { app with queue := app.queue ++ [.click] }
  | .work run success, app => app.work run success
  | .handle, app =>
    match app.queue with
    | [] => app
    | event :: queue => ({ app with queue } : NatTesterApp).handleEvent event

/-- The activity, from its creation on. -/
def machine : Machine NatTesterApp Happening := .ofFn (fun app => app = ⟨NatTesterActivity.created, [], []⟩) next

end NatTesterApp

end NatTester.Source
