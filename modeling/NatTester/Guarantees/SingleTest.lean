import NatTester.Source.NatTesterActivity

/-!
# At most one test run

As long as no run is started while messages of an earlier one are waiting, the
activity knows whether a test is running, it never starts a second one, and a run
is never changed by a message of another.
-/
namespace NatTester.Source.TestThread

/-- Started, and neither stopped nor its `COMPLETE_TEST` handled. -/
def Running (t : TestThread) : Prop := t.stopped = false ∧ t.completeHandled = false

/-- It still does something. -/
def Alive (t : TestThread) : Prop := t.stopped = false ∧ t.stage ≠ .ended

end NatTester.Source.TestThread

namespace NatTester.Guarantees
open NatTester.Lib NatTester.Source StunTester NatTesterApp

/-- At most one test runs. -/
structure OneTest (app : NatTesterApp) : Prop where
  isRunning_iff : app.activity.isRunning = true ↔ ∃ t ∈ app.threads, t.Running
  one_alive : ∀ (run run' : Nat) (t t' : TestThread), app.threads[run]? = some t → app.threads[run']? = some t' →
    t.Alive → t'.Alive → run = run'
  no_second : ∀ queue, app.queue = .click :: queue → app.activity.isRunning = false → ∀ t ∈ app.threads, ¬ t.Alive
  earlier_run : ∀ msg queue, app.queue = .message msg :: queue → msg.run + 1 < app.threads.length →
    (next .handle app).activity = app.activity

/-- A click that starts a run is handled when no message waits behind it. -/
def StartsQuietly (app : NatTesterApp) (happening : Happening) : Prop :=
  happening = .handle → ∀ queue, app.queue = .click :: queue → app.activity.isRunning = false →
    ∀ event ∈ queue, event = .click

def isClick : UiEvent → Bool
  | .click => true
  | .message _ => false

theorem all_isClick (queue : List UiEvent) : queue.all isClick = true ↔ ∀ event ∈ queue, event = .click := by
  refine List.all_eq_true.trans (forall₂_congr fun event _ => ?_)
  cases event <;> simp [isClick]

/-- Only the click at the head of the queue can start a run. -/
def startsQuietly (app : NatTesterApp) : Happening → Bool
  | .handle => match app.queue with
    | .click :: queue => app.activity.isRunning || queue.all isClick
    | _ => true
  | _ => true

theorem startsQuietly_iff (app : NatTesterApp) (happening : Happening) :
    startsQuietly app happening = true ↔ StartsQuietly app happening := by
  cases happening with
  | tap => simp [startsQuietly, StartsQuietly]
  | work run success => simp [startsQuietly, StartsQuietly]
  | handle =>
    cases hqueue : app.queue with
    | nil => simp [startsQuietly, StartsQuietly, hqueue]
    | cons event queue =>
      cases event with
      | message msg => simp [startsQuietly, StartsQuietly, hqueue]
      | click =>
        simp only [startsQuietly, StartsQuietly, hqueue, Bool.or_eq_true, all_isClick, List.cons.injEq, true_and]
        cases app.activity.isRunning <;> simp

instance (app : NatTesterApp) (happening : Happening) : Decidable (StartsQuietly app happening) :=
  decidable_of_iff _ (startsQuietly_iff app happening)

/-- Only the last thread can be running, and only its messages are waiting. -/
structure AppInv (app : NatTesterApp) : Prop where
  running : ∀ (run : Nat) (t : TestThread), app.threads[run]? = some t →
    (t.Running ↔ app.activity.isRunning = true ∧ run + 1 = app.threads.length)
  started : app.activity.isRunning = true → app.threads ≠ []
  testThread_eq : app.activity.testThread = if app.activity.isRunning then some (app.threads.length - 1) else none
  messages : ∀ msg, UiEvent.message msg ∈ app.queue → msg.run + 1 = app.threads.length
  complete : ∀ msg, UiEvent.message msg ∈ app.queue → msg.what = COMPLETE_TEST →
    ∀ t, app.threads[msg.run]? = some t → t.stage = .ended
  handled : ∀ t ∈ app.threads, t.completeHandled = true → t.stage = .ended

variable {app : NatTesterApp}

theorem AppInv.alive_running (inv : AppInv app) {t : TestThread} (ht : t ∈ app.threads) (halive : t.Alive) : t.Running := by
  refine ⟨halive.1, ?_⟩
  by_contra hcomplete
  exact halive.2 (inv.handled t ht (by simpa using hcomplete))

theorem AppInv.oneTest (inv : AppInv app) : OneTest app where
  isRunning_iff := by
    constructor
    · intro hrunning
      have hpos := List.length_pos_iff.mpr (inv.started hrunning)
      have hlast := List.getElem?_eq_getElem (l := app.threads) (i := app.threads.length - 1) (by omega)
      exact ⟨_, List.mem_of_getElem? hlast, (inv.running _ _ hlast).mpr ⟨hrunning, by omega⟩⟩
    · intro h
      obtain ⟨t, ht, hrunning⟩ := h
      obtain ⟨run, hrun⟩ := List.mem_iff_getElem?.mp ht
      exact ((inv.running run t hrun).mp hrunning).1
  one_alive := by
    intro run run' t t' hrun hrun' halive halive'
    have hlast := (inv.running run t hrun).mp (inv.alive_running (List.mem_of_getElem? hrun) halive)
    have hlast' := (inv.running run' t' hrun').mp (inv.alive_running (List.mem_of_getElem? hrun') halive')
    omega
  no_second := by
    intro queue _ hidle t ht halive
    obtain ⟨run, hrun⟩ := List.mem_iff_getElem?.mp ht
    have hrunning := ((inv.running run t hrun).mp (inv.alive_running ht halive)).1
    rw [hidle] at hrunning
    cases hrunning
  earlier_run := by
    intro msg queue hqueue hearlier
    have hlast := inv.messages msg (by simp [hqueue])
    omega

/-! ## Steps -/

theorem tap_inv (inv : AppInv app) : AppInv { app with queue := app.queue ++ [.click] } where
  running := inv.running
  started := inv.started
  testThread_eq := inv.testThread_eq
  messages := fun msg hmsg => inv.messages msg (by simpa using hmsg)
  complete := fun msg hmsg => inv.complete msg (by simpa using hmsg)
  handled := inv.handled

theorem getElem?_modify_eq {threads : List TestThread} {i run : Nat} {f : TestThread → TestThread} {t : TestThread}
    (ht : (threads.modify i f)[run]? = some t) :
    ∃ old, threads[run]? = some old ∧ t = if i = run then f old else old := by
  rw [List.getElem?_modify, Option.map_eq_map, Option.map_eq_some_iff] at ht
  obtain ⟨old, hold, heq⟩ := ht
  exact ⟨old, hold, heq.symm⟩

/-- The last run is over: its thread is marked and the activity is idle. -/
theorem finished_inv {a : NatTesterActivity} {queue : List UiEvent} {f : TestThread → TestThread} {i : Nat}
    (inv : AppInv app) (hi : i + 1 = app.threads.length) (hidle : a.isRunning = false) (hthread : a.testThread = none)
    (hqueue : ∀ event ∈ queue, event ∈ app.queue) (hmark : ∀ t, ¬ (f t).Running) (hstage : ∀ t, (f t).stage = t.stage)
    (hhandled : ∀ t, app.threads[i]? = some t → (f t).completeHandled = true → t.stage = .ended) :
    AppInv ⟨a, app.threads.modify i f, queue⟩ where
  running := by
    intro run t ht
    obtain ⟨old, hold, rfl⟩ := getElem?_modify_eq ht
    simp only [hidle, Bool.false_eq_true, false_and, iff_false]
    split
    · exact hmark old
    · intro hrunning
      have hlast := ((inv.running run old hold).mp hrunning).2
      omega
  started := by simp [hidle]
  testThread_eq := by simp [hidle, hthread]
  messages := by
    intro msg hmsg
    rw [List.length_modify]
    exact inv.messages msg (hqueue _ hmsg)
  complete := by
    intro msg hmsg hwhat t ht
    obtain ⟨old, hold, rfl⟩ := getElem?_modify_eq ht
    have hended := inv.complete msg (hqueue _ hmsg) hwhat old hold
    split
    · rw [hstage, hended]
    · exact hended
  handled := by
    intro t ht hcomplete
    obtain ⟨run, hrun⟩ := List.mem_iff_getElem?.mp ht
    obtain ⟨old, hold, rfl⟩ := getElem?_modify_eq hrun
    split at hcomplete
    next heq =>
      subst heq
      rw [if_pos rfl, hstage]
      exact hhandled old hold hcomplete
    next hne =>
      rw [if_neg hne]
      exact inv.handled old (List.mem_of_getElem? hold) hcomplete

theorem stopTest_inv (inv : AppInv app) (hrunning : app.activity.isRunning = true) : AppInv app.stopTest := by
  have hthread := inv.testThread_eq
  have hpos := List.length_pos_iff.mpr (inv.started hrunning)
  rw [if_pos hrunning] at hthread
  simp only [stopTest, hthread]
  apply finished_inv inv (by omega) rfl rfl (fun _ h => h)
  · simp [TestThread.Running]
  · exact fun t => rfl
  · exact fun t ht hcomplete => inv.handled t (List.mem_of_getElem? ht) hcomplete

theorem startTest_inv (inv : AppInv app) (hidle : app.activity.isRunning = false)
    (hquiet : ∀ event ∈ app.queue, event = .click) : AppInv app.startTest := by
  have hnone : ∀ msg, UiEvent.message msg ∉ app.queue := by
    intro msg hmsg
    cases hquiet _ hmsg
  simp only [startTest]
  constructor
  · intro run t ht
    simp only [List.length_append, List.length_singleton, true_and]
    by_cases hold : run < app.threads.length
    · rw [List.getElem?_append_left hold] at ht
      have hiff := inv.running run t ht
      simp only [hidle, Bool.false_eq_true, false_and, iff_false] at hiff
      constructor
      · exact fun h => absurd h hiff
      · omega
    · have hnew : run = app.threads.length := by
        obtain ⟨hlt, -⟩ := List.getElem?_eq_some_iff.mp ht
        simp only [List.length_append, List.length_singleton] at hlt
        omega
      subst hnew
      rw [List.getElem?_concat_length] at ht
      cases ht
      simp [TestThread.Running]
  · simp
  · simp
  · exact fun msg hmsg => absurd hmsg (hnone msg)
  · exact fun msg hmsg => absurd hmsg (hnone msg)
  · intro t ht hcomplete
    rcases List.mem_append.mp ht with ht | ht
    · exact inv.handled t ht hcomplete
    · rw [List.mem_singleton.mp ht] at hcomplete
      cases hcomplete

theorem message_inv {queue : List UiEvent} {msg : Message} (inv : AppInv app) (hqueue : app.queue = .message msg :: queue) :
    AppInv (({ app with queue } : NatTesterApp).handleEvent (.message msg)) := by
  have hmem : UiEvent.message msg ∈ app.queue := by simp [hqueue]
  have hrest : ∀ event ∈ queue, event ∈ app.queue := by
    intro event hevent
    rw [hqueue]
    exact List.mem_cons_of_mem _ hevent
  by_cases hwhat : msg.what = COMPLETE_TEST
  · simp only [handleEvent, hwhat, if_true, NatTesterActivity.handleMessage]
    apply finished_inv inv (inv.messages msg hmem) rfl rfl hrest
    · simp [TestThread.Running]
    · exact fun t => rfl
    · exact fun t ht _ => inv.complete msg hmem hwhat t ht
  · -- only the texts change
    simp only [handleEvent, hwhat, if_false]
    have hflags : (app.activity.handleMessage msg).isRunning = app.activity.isRunning ∧
        (app.activity.handleMessage msg).testThread = app.activity.testThread := by
      simp only [NatTesterActivity.handleMessage, hwhat, if_false]
      split <;> exact ⟨rfl, rfl⟩
    constructor
    · simpa only [hflags.1] using inv.running
    · simpa only [hflags.1] using inv.started
    · simpa only [hflags.1, hflags.2] using inv.testThread_eq
    · exact fun other hother => inv.messages other (hrest _ hother)
    · exact fun other hother => inv.complete other (hrest _ hother)
    · exact inv.handled

/-- A thread that sends has not ended; where it ends it sends `COMPLETE_TEST`. -/
theorem advance_cases (success : Bool) (stage : Stage) :
    (stage = .ended ∧ advance success stage = (.ended, none)) ∨
      stage ≠ .ended ∧ ∃ stage' what obj, advance success stage = (stage', some (what, obj)) ∧
        (what = COMPLETE_TEST → stage' = .ended) := by
  cases stage with
  | testJstun => exact .inr ⟨by simp, _, _, _, rfl, fun h => absurd h (by decide)⟩
  | testCases testCount failCount remaining =>
    cases remaining with
    | nil => exact .inr ⟨by simp, _, _, _, rfl, fun h => absurd h (by decide)⟩
    | cons client remaining => exact .inr ⟨by simp, _, _, _, rfl, fun h => absurd h (by decide)⟩
  | close => exact .inr ⟨by simp, _, _, _, rfl, fun _ => rfl⟩
  | ended => exact .inl ⟨rfl, rfl⟩

theorem getElem?_stage_eq {threads : List TestThread} {run other : Nat} {t t' : TestThread} {stage : Stage}
    (ht : threads[run]? = some t) (h : (threads.set run { t with stage })[other]? = some t') :
    ∃ old, threads[other]? = some old ∧ t' = if run = other then { old with stage } else old := by
  rw [List.getElem?_set] at h
  split at h
  next heq =>
    subst heq
    rw [if_pos (List.getElem?_eq_some_iff.mp ht).1] at h
    exact ⟨t, ht, by rw [if_pos rfl, Option.some.inj h]⟩
  next hne => exact ⟨t', h, by rw [if_neg hne]⟩

/-- A thread at a new stage; an ended one stays ended. -/
theorem stage_inv {run : Nat} {t : TestThread} {stage : Stage} (inv : AppInv app) (ht : app.threads[run]? = some t)
    (hended : t.stage = .ended → stage = .ended) : AppInv { app with threads := app.threads.set run { t with stage } } where
  running := by
    intro other t' h
    obtain ⟨old, hold, rfl⟩ := getElem?_stage_eq ht h
    rw [List.length_set, ← inv.running other old hold]
    split <;> rfl
  started := by
    intro h
    simpa using inv.started h
  testThread_eq := by simpa using inv.testThread_eq
  messages := by simpa using inv.messages
  complete := by
    intro msg hmsg hwhat t' h
    obtain ⟨old, hold, rfl⟩ := getElem?_stage_eq ht h
    have hold' := inv.complete msg hmsg hwhat old hold
    split
    next heq =>
      subst heq
      rw [ht] at hold
      cases hold
      exact hended hold'
    next => exact hold'
  handled := by
    intro t' h hcomplete
    obtain ⟨other, hother⟩ := List.mem_iff_getElem?.mp h
    obtain ⟨old, hold, rfl⟩ := getElem?_stage_eq ht hother
    have hold' := inv.handled old (List.mem_of_getElem? hold)
    split at hcomplete
    next heq =>
      subst heq
      rw [ht] at hold
      cases hold
      rw [if_pos rfl]
      exact hended (hold' hcomplete)
    next hne =>
      rw [if_neg hne]
      exact hold' hcomplete

theorem work_inv (inv : AppInv app) (run : Nat) (success : Bool) : AppInv (app.work run success) := by
  unfold work
  split
  · exact inv
  next t ht =>
    split
    · exact inv
    next hstopped =>
      rcases advance_cases success t.stage with ⟨hstage, hadvance⟩ | ⟨hstage, stage', what, obj, hadvance, hlast⟩
      · rw [hadvance]
        simpa using stage_inv inv ht fun _ => rfl
      · -- the thread is running, so it is the last one
        have halive : t.Alive := ⟨by simpa using hstopped, hstage⟩
        have hrun := ((inv.running run t ht).mp (inv.alive_running (List.mem_of_getElem? ht) halive)).2
        have hset := @stage_inv app run t stage' inv ht fun h => absurd h hstage
        rw [hadvance]
        refine ⟨hset.running, hset.started, hset.testThread_eq, ?_, ?_, hset.handled⟩
        · intro msg hmsg
          simp only [Option.map_some, Option.toList_some, List.mem_append, List.mem_singleton, UiEvent.message.injEq] at hmsg
          rcases hmsg with hmsg | rfl
          · exact hset.messages msg hmsg
          · simpa using hrun
        · intro msg hmsg hwhat t' ht'
          simp only [Option.map_some, Option.toList_some, List.mem_append, List.mem_singleton, UiEvent.message.injEq] at hmsg
          rcases hmsg with hmsg | rfl
          · exact hset.complete msg hmsg hwhat t' ht'
          · obtain ⟨old, -, rfl⟩ := getElem?_stage_eq ht ht'
            rw [if_pos rfl]
            exact hlast hwhat

theorem next_inv (inv : AppInv app) {happening : Happening} (hquiet : StartsQuietly app happening) :
    AppInv (next happening app) := by
  cases happening with
  | tap => exact tap_inv inv
  | work run success => exact work_inv inv run success
  | handle =>
    cases hqueue : app.queue with
    | nil =>
      simp only [next, hqueue]
      exact inv
    | cons event queue =>
      simp only [next, hqueue]
      cases event with
      | message msg => exact message_inv inv hqueue
      | click =>
        have hrest : AppInv { app with queue } :=
          ⟨inv.running, inv.started, inv.testThread_eq, fun msg hmsg => inv.messages msg (by simp [hqueue, hmsg]),
            fun msg hmsg => inv.complete msg (by simp [hqueue, hmsg]), inv.handled⟩
        simp only [handleEvent, onStartStop]
        split
        next hrunning => exact stopTest_inv hrest hrunning
        next hidle =>
          have hidle' : app.activity.isRunning = false := by simpa using hidle
          exact startTest_inv hrest hidle' (hquiet rfl queue hqueue hidle')

/-- In every run in which no test is started while a message of an earlier one is waiting, at most one test runs. -/
theorem one_test_at_a_time {history : List (Machine.Taken NatTesterApp Happening)} (hrun : machine.Run history app)
    (hquiet : ∀ k ∈ history, StartsQuietly k.before k.label) : OneTest app := by
  have hinv : (∀ k ∈ history, StartsQuietly k.before k.label) → AppInv app := by
    refine hrun.invariant (I := fun history app => (∀ k ∈ history, StartsQuietly k.before k.label) → AppInv app) ?_ ?_
    · intro app hinit _
      rw [hinit]
      constructor <;> simp [NatTesterActivity.created]
    · intro history app happening app' ih hstep hsteps
      have hnext : app' = next happening app := hstep
      rw [hnext]
      exact next_inv (ih fun k hk => hsteps k (List.mem_cons_of_mem _ hk)) (hsteps _ List.mem_cons_self)
  exact (hinv hquiet).oneTest

/-- The activity as it is created. -/
def createdApp : NatTesterApp := ⟨NatTesterActivity.created, [], []⟩

/-- A test that runs to its end, all its messages handled, and a second one that is started then. -/
def twoTests : List Happening :=
  [.tap, .handle] ++ List.replicate 17 (.work 0 true) ++ List.replicate 17 .handle ++ [.tap, .handle]

set_option maxRecDepth 8000 in
/-- The second test is then the only one that runs. -/
theorem one_test_at_a_time_second :
    let app := twoTests.foldl (fun app happening => next happening app) createdApp
    machine.Run (Machine.stepsOf next createdApp twoTests) app ∧ OneTest app ∧ app.activity.isRunning = true ∧
      app.threads = [⟨.ended, false, true⟩, ⟨.testJstun, false, false⟩] := by
  have hquiet : ∀ k ∈ Machine.stepsOf next createdApp twoTests, StartsQuietly k.before k.label := by decide
  have hrun := @Machine.run_stepsOf _ _ _ next twoTests _ _ (.start (M := machine) (s := createdApp) rfl)
  rw [List.append_nil] at hrun
  exact ⟨hrun, one_test_at_a_time hrun hquiet, by decide, by decide⟩

/-- Run 0 is tapped to a stop and run 1 to a start while the thread of run 0 sends its last message. -/
def staleComplete : List Happening :=
  [.tap, .handle] ++ List.replicate 16 (.work 0 true) ++ List.replicate 16 .handle ++
    [.tap, .tap, .work 0 true, .handle, .handle, .handle]

/-- The last message of run 0 is handled while run 1 is running: the activity takes itself for idle, and the next tap
starts a third thread beside the second. -/
theorem stale_complete_starts_second :
    let app := staleComplete.foldl (fun app happening => next happening app) createdApp
    let app' := [Happening.tap, .handle].foldl (fun app happening => next happening app) app
    machine.Reachable app ∧ app.activity.isRunning = false ∧ app.threads[1]? = some ⟨.testJstun, false, false⟩ ∧
      ¬ OneTest app ∧
    machine.Reachable app' ∧ app'.threads[1]? = some ⟨.testJstun, false, false⟩ ∧
      app'.threads[2]? = some ⟨.testJstun, false, false⟩ ∧ ¬ OneTest app' := by
  have hreach := @Machine.reachable_foldl _ _ (fun app => app = createdApp) next staleComplete _ (Machine.Reachable.start rfl)
  have hreach' := Machine.reachable_foldl [Happening.tap, .handle] hreach
  have hidle : (staleComplete.foldl (fun app happening => next happening app) createdApp).activity.isRunning = false := by
    decide
  have hthread : (staleComplete.foldl (fun app happening => next happening app) createdApp).threads[1]? =
      some ⟨.testJstun, false, false⟩ := by decide
  have hsecond : ([Happening.tap, .handle].foldl (fun app happening => next happening app)
      (staleComplete.foldl (fun app happening => next happening app) createdApp)).threads[1]? =
      some ⟨.testJstun, false, false⟩ := by decide
  have hthird : ([Happening.tap, .handle].foldl (fun app happening => next happening app)
      (staleComplete.foldl (fun app happening => next happening app) createdApp)).threads[2]? =
      some ⟨.testJstun, false, false⟩ := by decide
  refine ⟨hreach, hidle, hthread, ?_, hreach', hsecond, hthird, ?_⟩
  · intro hone
    have hrunning := hone.isRunning_iff.mpr ⟨_, List.mem_of_getElem? hthread, rfl, rfl⟩
    rw [hidle] at hrunning
    cases hrunning
  · intro hone
    have hsame := hone.one_alive 1 2 _ _ hsecond hthird ⟨rfl, by decide⟩ ⟨rfl, by decide⟩
    cases hsame

end NatTester.Guarantees
