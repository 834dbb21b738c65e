import NatTester.Guarantees.Polling
import NatTester.Source.PollingEvents

/-!
# The events between two calls of poll

An event that `poll` reports is returned by exactly one call of
`WaitForNextEvent` before `poll` is called again, unless its descriptor is
removed first. Such a removal leaves `_unreadcount` one too high: it is the exact
number of the events as long as no descriptor is removed while it has one.
-/
namespace NatTester.Guarantees
open NatTester.Lib NatTester.Source CPoll Batches

variable [PollFlags]

omit [PollFlags] in
/-- `poll` returns the number of entries it reports an event for, or it fails and reports none. -/
structure HonestPoll (answer : PollAnswer) (fds : List Pollfd) : Prop where
  ret_lt : answer.ret < 2 ^ 31
  counted : answer.ret = pending (polled answer fds) ∨ answer.ret < 0 ∧ pending (polled answer fds) = 0

namespace PollCall

/-- The answer of `poll` to the call, if it comes to calling it. -/
def Answered (p : CPoll) : PollCall → Prop
  | add _ _ => True
  | remove _ => True
  | changeEventSet _ _ => True
  | waitForNextEvent event answer => reachesPoll p event = true → HonestPoll answer p.fds

/-- What the call has to do with events: `poll` reports some, one is returned, a descriptor is gone. -/
def log (p : CPoll) : PollCall → List (Step Int32 UInt32)
  | add _ _ => []
  | remove fd =>
    match (Proc.exec (CPoll.remove fd) p).1 with
    | .ok _ => [.drop fd]
    | .error _ => []
  | changeEventSet _ _ => []
  | waitForNextEvent event answer =>
    (if reachesPoll p event then [.batch (waiting (polled answer p.fds))] else []) ++
      match Proc.exec (CPoll.waitForNextEvent answer) (p, event) with
      | (.ok _, (_, returned)) => [.deliver returned.fd returned.eventflags]
      | (.error _, _) => []

end PollCall

def WellAnswered : CPoll → List PollCall → Prop
  | _, [] => True
  | p, call :: calls => call.Answered p ∧ WellAnswered (call.run p).2 calls

def pollLog : CPoll → List PollCall → List (Step Int32 UInt32)
  | _, [] => []
  | p, call :: calls => call.log p ++ pollLog (call.run p).2 calls

/-- `_unreadcount` is the number of the events. -/
def Exact (p : CPoll) : Prop := p.unreadcount.toNat = pending p.fds

/-- What is known of the counter whatever was removed. -/
def Counted (p : CPoll) : Prop := pending p.fds ≤ p.unreadcount.toNat

/-- The call removes a descriptor that has an event. -/
def PollCall.Discards (p : CPoll) : PollCall → Prop
  | .add _ _ => False
  | .remove fd => ∃ pfd ∈ p.fds, pfd.fd = fd ∧ pfd.revents ≠ 0
  | .changeEventSet _ _ => False
  | .waitForNextEvent _ _ => False

/-- What one call does to the events and to the counter. -/
structure PollEffect (p : CPoll) (call : PollCall) : Prop where
  follows : Follows (waiting p.fds) (call.log p) (waiting (call.run p).2.fds)
  counted : Counted (call.run p).2
  exact : Exact p → (Exact (call.run p).2 ↔ ¬ call.Discards p)

variable {p : CPoll} {maxSockets : Nat} {listed : List Int32}

omit [PollFlags] in
theorem registers_distinct (r : p.Registers maxSockets listed) : (p.fds.map Pollfd.fd).Nodup := by
  rw [← fdsOf, r.fds_eq]
  exact r.distinct

/-- The event that a search finds is taken out and counted down. -/
theorem findNextEvent_taken (hdistinct : (p.fds.map Pollfd.fd).Nodup) (hcounted : Counted p) (hpending : 0 < pending p.fds)
    (event : PollEvent) :
    ∃ q returned, findNextEvent p event = (true, q, returned) ∧ waiting p.fds returned.fd = some returned.eventflags ∧
      waiting q.fds = Function.update (waiting p.fds) returned.fd none ∧ pending q.fds + 1 = pending p.fds ∧
      q.unreadcount.toNat + 1 = p.unreadcount.toNat := by
  have hle : pending p.fds ≤ p.unreadcount.toNat := hcounted
  have hunread : p.unreadcount ≠ 0 := by
    intro hzero
    rw [hzero, UInt32.toNat_zero] at hle
    omega
  obtain ⟨i, pfd, rotation, hi, hevent, hfound⟩ := findNextEvent_some hunread hpending event
  refine ⟨_, _, hfound, ?_, waiting_taken hdistinct hi, pending_taken hi hevent, ?_⟩
  · rw [waiting_eq_some hdistinct]
    exact ⟨report pfd, List.mem_map_of_mem (List.mem_of_getElem? hi), rfl, if_pos hevent⟩
  · have hone : (1 : UInt32) ≤ p.unreadcount := by
      rw [UInt32.le_iff_toNat_le, UInt32.toNat_one]
      omega
    rw [UInt32.toNat_sub_of_le _ _ hone, UInt32.toNat_one]
    omega

/-! ## The calls -/

/-- A call that neither takes an event nor removes a descriptor. -/
theorem effect_unchanged {call : PollCall} (hcounted : Counted p) (hlog : call.log p = [])
    (hwaiting : waiting (call.run p).2.fds = waiting p.fds) (hpending : pending (call.run p).2.fds = pending p.fds)
    (hunread : (call.run p).2.unreadcount = p.unreadcount) (hkeeps : ¬ call.Discards p) : PollEffect p call where
  follows := by
    rw [hlog]
    exact hwaiting.symm
  counted := by
    rw [Counted, hunread, hpending]
    exact hcounted
  exact := by
    intro hexact
    rw [Exact, hunread, hpending]
    exact ⟨fun _ => hkeeps, fun _ => hexact⟩

theorem add_effect (r : p.Registers maxSockets listed) (hcounted : Counted p) (fd : Int32) (eventflags : UInt32) :
    PollEffect p (.add fd eventflags) := by
  by_cases hfd : fd ∈ listed
  · have hrun := r.add_registered hfd eventflags
    refine effect_unchanged hcounted rfl ?_ ?_ ?_ id <;> rw [PollCall.run, hrun]
  · have hlookup : ¬ (p.hashtable.lookup fd).isSome = true := fun h => hfd (r.lookup_isSome.mp h)
    have habsent : fd ∉ p.fds.map Pollfd.fd := by
      rw [← fdsOf, r.fds_eq]
      exact hfd
    have hrun := exec_add fd eventflags r.initialized
    rw [if_neg hlookup] at hrun
    refine effect_unchanged hcounted rfl ?_ ?_ ?_ id <;> rw [PollCall.run, hrun]
    · exact waiting_added (registers_distinct r) habsent _
    · exact pending_added _ _ _

theorem remove_effect (r : p.Registers maxSockets listed) (hcounted : Counted p) (fd : Int32) :
    PollEffect p (.remove fd) := by
  have hdistinct := registers_distinct r
  by_cases hfd : fd ∈ listed
  · obtain ⟨q, pfd, hrun, rfl, hperm, hunread⟩ := r.remove_entry hfd
    have hpending := pending_removed hperm
    have hle : pending p.fds ≤ p.unreadcount.toNat := hcounted
    have hq : ((PollCall.remove pfd.fd).run p).2 = q := by rw [PollCall.run, hrun]
    have hlog : (PollCall.remove pfd.fd).log p = [.drop pfd.fd] := by rw [PollCall.log, hrun]
    refine ⟨?_, ?_, ?_⟩
    · rw [hlog, hq]
      exact (waiting_removed hdistinct hperm).symm
    · rw [hq, Counted, hunread]
      omega
    · intro hexact
      have hdiscards : (PollCall.remove pfd.fd).Discards p ↔ pfd.revents ≠ 0 := by
        constructor
        · intro hdiscards
          obtain ⟨other, hother, hkey, hevent⟩ := hdiscards
          have hsame : other = pfd := by
            rcases List.mem_cons.mp (hperm.mem_iff.mpr hother) with heq | hrest
            · exact heq
            · have hkeys := (hperm.map Pollfd.fd).symm.nodup_iff.mp hdistinct
              rw [List.map_cons, List.nodup_cons, ← hkey] at hkeys
              exact absurd (List.mem_map_of_mem hrest) hkeys.1
          rwa [← hsame]
        · intro hevent
          exact ⟨pfd, hperm.mem_iff.mp List.mem_cons_self, rfl, hevent⟩
      have hcount : p.unreadcount.toNat = pending p.fds := hexact
      rw [hq, hdiscards, Exact, hunread, hcount, hpending]
      by_cases hevent : pfd.revents = 0 <;> simp [hevent]
  · have habsent : fd ∉ p.fds.map Pollfd.fd := by
      rw [← fdsOf, r.fds_eq]
      exact hfd
    have hrun := r.remove_unregistered hfd
    refine effect_unchanged hcounted ?_ ?_ ?_ ?_ ?_
    · rw [PollCall.log, hrun]
    · rw [PollCall.run, hrun]
    · rw [PollCall.run, hrun]
    · rw [PollCall.run, hrun]
    · intro hdiscards
      obtain ⟨pfd, hpfd, rfl, -⟩ := hdiscards
      exact habsent (List.mem_map_of_mem hpfd)

theorem changeEventSet_effect (r : p.Registers maxSockets listed) (hcounted : Counted p) (fd : Int32)
    (eventflags : UInt32) : PollEffect p (.changeEventSet fd eventflags) := by
  have hdistinct := registers_distinct r
  by_cases hfd : fd ∈ listed
  · obtain ⟨pos, hpos⟩ := List.mem_iff_getElem?.mp hfd
    have hrun : ((PollCall.changeEventSet fd eventflags).run p).2 = { p with
        fds := p.fds.set pos { p.fds.getD pos default with events := toShort (toNativeFlags eventflags) } } := by
      rw [PollCall.run, changeEventSet, Proc.exec_bind_ok (r.position_registered hpos), Proc.exec_modify]
    have hreport := map_report_set p.fds pos (toShort (toNativeFlags eventflags))
    refine effect_unchanged hcounted rfl ?_ ?_ ?_ id <;> rw [hrun]
    · exact (waiting_perm hdistinct (.of_eq hreport.symm)).symm
    · exact pending_congr (.of_eq hreport)
  · have hrun := r.changeEventSet_unregistered hfd eventflags
    refine effect_unchanged hcounted rfl ?_ ?_ ?_ id <;> rw [PollCall.run, hrun]

/-- An event left from the last call of `poll` is returned, and `poll` is not called. -/
theorem wait_effect_pending (r : p.Registers maxSockets listed) (hcounted : Counted p) (hpending : 0 < pending p.fds)
    (event : PollEvent) (answer : PollAnswer) : PollEffect p (.waitForNextEvent event answer) := by
  obtain ⟨q, returned, hfound, hwaits, htaken, hless, hcounter⟩ :=
    findNextEvent_taken (registers_distinct r) hcounted hpending { event with eventflags := 0 }
  have hsize : p.fds.length ≠ 0 := by
    have hle : pending p.fds ≤ p.fds.length := List.countP_le_length
    omega
  have hrun := exec_wait_found r.initialized hsize answer hfound
  have hreach : reachesPoll p event = false := by rw [reachesPoll, hfound, Bool.not_true, Bool.and_false]
  have hq : ((PollCall.waitForNextEvent event answer).run p).2 = q := by rw [PollCall.run, hrun]
  have hlog : (PollCall.waitForNextEvent event answer).log p = [.deliver returned.fd returned.eventflags] := by
    simp [PollCall.log, hreach, hrun]
  have hle : pending p.fds ≤ p.unreadcount.toNat := hcounted
  refine ⟨?_, ?_, ?_⟩
  · rw [hlog, hq]
    exact ⟨hwaits, htaken.symm⟩
  · rw [hq, Counted]
    omega
  · intro hexact
    have hcount : p.unreadcount.toNat = pending p.fds := hexact
    rw [hq, Exact]
    exact ⟨fun _ => id, fun _ => by omega⟩

theorem log_polled {event : PollEvent} (hreach : reachesPoll p event = true) (answer : PollAnswer) :
    (PollCall.waitForNextEvent event answer).log p = .batch (waiting (polled answer p.fds)) ::
      match Proc.exec (CPoll.waitForNextEvent answer) (p, event) with
      | (.ok _, (_, returned)) => [.deliver returned.fd returned.eventflags]
      | (.error _, _) => [] := by
  simp [PollCall.log, hreach]

/-- `poll` fails, or it reports nothing. -/
theorem wait_effect_quiet {event : PollEvent} {answer : PollAnswer} {stop : PollStop} {rotation : UInt32}
    (hpending : pending p.fds = 0) (hreach : reachesPoll p event = true) (hquiet : pending (polled answer p.fds) = 0)
    (hrun : Proc.exec (CPoll.waitForNextEvent answer) (p, event) =
      (.error stop, ({ p with rotation, unreadcount := 0, fds := polled answer p.fds }, { event with eventflags := 0 }))) :
    PollEffect p (.waitForNextEvent event answer) := by
  have hq : ((PollCall.waitForNextEvent event answer).run p).2 =
      { p with rotation, unreadcount := 0, fds := polled answer p.fds } := by rw [PollCall.run, hrun]
  have hlog := log_polled hreach answer
  rw [hrun] at hlog
  have hexact : Exact ((PollCall.waitForNextEvent event answer).run p).2 := by
    rw [hq, Exact, hquiet]
    rfl
  refine ⟨?_, Nat.le_of_eq hexact.symm, fun _ => ⟨fun _ => id, fun _ => hexact⟩⟩
  rw [hlog, hq]
  exact ⟨waiting_eq_none hpending, rfl⟩

/-- With nothing left `poll` is called, and the first of the events it reports is returned. -/
theorem wait_effect_polled (r : p.Registers maxSockets listed) (hsize : p.fds.length ≠ 0) (hpending : pending p.fds = 0)
    (event : PollEvent) (answer : PollAnswer) (honest : HonestPoll answer p.fds) :
    PollEffect p (.waitForNextEvent event answer) := by
  obtain ⟨rotation, hnone⟩ := findNextEvent_none hpending { event with eventflags := 0 }
  have hrun := exec_wait_polled r.initialized hsize answer hnone
  have hreach : reachesPoll p event = true := by
    simp [reachesPoll, hnone, r.initialized, hsize]
  have hnothing : ∀ fd, waiting p.fds fd = none := waiting_eq_none hpending
  have hlog := log_polled hreach answer
  have hret := honest.ret_lt
  rcases honest.counted with hcount | ⟨herror, hzero⟩
  · by_cases hzero : pending (polled answer p.fds) = 0
    · have hneg : ¬ answer.ret < 0 := by omega
      have htimeout : answer.ret = 0 := by omega
      rw [if_neg hneg, if_pos htimeout] at hrun
      exact wait_effect_quiet hpending hreach hzero hrun
    · have hneg : ¬ answer.ret < 0 := by omega
      have hsome : ¬ answer.ret = 0 := by omega
      rw [if_neg hneg, if_neg hsome] at hrun
      have hunread : (UInt32.ofInt answer.ret).toNat = pending (polled answer p.fds) := by
        have hfits : (answer.ret % 2 ^ 32).toNat = pending (polled answer p.fds) := by omega
        rw [UInt32.ofInt, hfits, UInt32.toNat_ofNat_of_lt']
        change _ < 2 ^ 32
        omega
      have hdistinct : ((polled answer p.fds).map Pollfd.fd).Nodup := by
        rw [polled_fds]
        exact registers_distinct r
      obtain ⟨q, returned, hfound, hwaits, htaken, hless, hcounter⟩ := findNextEvent_taken
        (p := { p with rotation, unreadcount := UInt32.ofInt answer.ret, fds := polled answer p.fds }) hdistinct
        (Nat.le_of_eq hunread.symm) (Nat.pos_of_ne_zero hzero) { event with eventflags := 0 }
      dsimp only at hrun
      rw [hfound] at hrun
      have hq : ((PollCall.waitForNextEvent event answer).run p).2 = q := by rw [PollCall.run, hrun]
      rw [hrun] at hlog
      have hexact : Exact ((PollCall.waitForNextEvent event answer).run p).2 := by
        rw [hq, Exact]
        dsimp only at hless hcounter
        omega
      refine ⟨?_, Nat.le_of_eq hexact.symm, fun _ => ⟨fun _ => id, fun _ => hexact⟩⟩
      rw [hlog, hq]
      exact ⟨hnothing, hwaits, htaken.symm⟩
  · rw [if_pos herror] at hrun
    exact wait_effect_quiet hpending hreach hzero hrun

theorem wait_effect (r : p.Registers maxSockets listed) (hcounted : Counted p) (event : PollEvent) (answer : PollAnswer)
    (hanswered : (PollCall.waitForNextEvent event answer).Answered p) : PollEffect p (.waitForNextEvent event answer) := by
  by_cases hsize : p.fds.length = 0
  · have hrun := exec_wait_empty r.initialized hsize answer event
    refine effect_unchanged hcounted ?_ ?_ ?_ ?_ id
    · simp [PollCall.log, reachesPoll, hsize, hrun]
    all_goals rw [PollCall.run, hrun]
  · by_cases hpending : pending p.fds = 0
    · obtain ⟨rotation, hnone⟩ := findNextEvent_none hpending { event with eventflags := 0 }
      refine wait_effect_polled r hsize hpending event answer (hanswered ?_)
      simp [reachesPoll, hnone, r.initialized, hsize]
    · exact wait_effect_pending r hcounted (Nat.pos_of_ne_zero hpending) event answer

theorem run_effect (r : p.Registers maxSockets listed) (hcounted : Counted p) (call : PollCall)
    (hanswered : call.Answered p) : PollEffect p call := by
  cases call with
  | add fd eventflags => exact add_effect r hcounted fd eventflags
  | remove fd => exact remove_effect r hcounted fd
  | changeEventSet fd eventflags => exact changeEventSet_effect r hcounted fd eventflags
  | waitForNextEvent event answer => exact wait_effect r hcounted event answer hanswered

/-! ## Runs -/

omit [PollFlags] in
/-- `CPoll` after `Initialize(maxSockets)`. -/
def initialized (arrays : FastHashArrays Int32 Nat) (maxSockets : Nat) : CPoll :=
  (Proc.exec (initializePoll arrays maxSockets) CPoll.new).2

/-- No call removes a descriptor that has an event. -/
def KeepsEvents : CPoll → List PollCall → Prop
  | _, [] => True
  | p, call :: calls => ¬ call.Discards p ∧ KeepsEvents (call.run p).2 calls

/-- `ASSERT(_unreadcount == 0)` holds where a search finds nothing. -/
def Asserts (p : CPoll) : Prop :=
  ∀ event, (findNextEvent p event).1 = false → (findNextEvent p event).2.1.unreadcount = 0

theorem exact_asserts (hdistinct : (p.fds.map Pollfd.fd).Nodup) (hexact : Exact p) : Asserts p := by
  intro event hnone
  by_cases hpending : pending p.fds = 0
  · obtain ⟨rotation, hfound⟩ := findNextEvent_none hpending event
    rw [Exact, hpending] at hexact
    rw [hfound]
    exact UInt32.toNat_inj.mp hexact
  · obtain ⟨q, returned, hfound, -⟩ := findNextEvent_taken hdistinct (Nat.le_of_eq hexact.symm)
      (Nat.pos_of_ne_zero hpending) event
    rw [hfound] at hnone
    cases hnone

variable {fds : List Int32}

theorem run_follows (r : p.Registers maxSockets listed) (hperm : listed.Perm fds) (hcounted : Counted p)
    (calls : List PollCall) (hroom : WithinCapacity maxSockets fds calls) (hanswered : WellAnswered p calls) :
    ∃ g, Follows (waiting p.fds) (pollLog p calls) g := by
  induction calls generalizing p listed fds with
  | nil => exact ⟨_, rfl⟩
  | cons call calls ih =>
    have heffect := run_effect r hcounted call hanswered.1
    obtain ⟨listed', r', hperm'⟩ := run_registers r hperm call hroom.1
    obtain ⟨g, hrest⟩ := ih r' hperm' heffect.counted hroom.2 hanswered.2
    exact ⟨g, heffect.follows.append hrest⟩

theorem run_exact (r : p.Registers maxSockets listed) (hperm : listed.Perm fds) (hexact : Exact p)
    (calls : List PollCall) (hroom : WithinCapacity maxSockets fds calls) (hanswered : WellAnswered p calls) :
    (∀ done, done <+: calls → Exact (done.foldl (fun p call => (call.run p).2) p) ∧
      Asserts (done.foldl (fun p call => (call.run p).2) p)) ↔ KeepsEvents p calls := by
  induction calls generalizing p listed fds with
  | nil =>
    refine ⟨fun _ => trivial, fun _ done hdone => ?_⟩
    rw [List.prefix_nil.mp hdone]
    exact ⟨hexact, exact_asserts (registers_distinct r) hexact⟩
  | cons call calls ih =>
    have heffect := run_effect r (Nat.le_of_eq hexact.symm) call hanswered.1
    obtain ⟨listed', r', hperm'⟩ := run_registers r hperm call hroom.1
    constructor
    · intro h
      have hnext := (h [call] (by simp)).1
      refine ⟨(heffect.exact hexact).mp hnext, (ih r' hperm' hnext hroom.2 hanswered.2).mp ?_⟩
      intro done hdone
      exact h (call :: done) (List.cons_prefix_cons.mpr ⟨rfl, hdone⟩)
    · intro h done hdone
      obtain ⟨hkeeps, hrest⟩ := h
      cases done with
      | nil => exact ⟨hexact, exact_asserts (registers_distinct r) hexact⟩
      | cons first done =>
        obtain ⟨rfl, hrestDone⟩ := List.cons_prefix_cons.mp hdone
        have hnext := (heffect.exact hexact).mpr hkeeps
        exact (ih r' hperm' hnext hroom.2 hanswered.2).mpr hrest done hrestDone

/-- Without room for any socket there never is one, and no call does anything. -/
theorem run_empty (hinit : p.fInitialized = true) (hfds : p.fds = []) (calls : List PollCall)
    (hroom : WithinCapacity 0 [] calls) :
    pollLog p calls = [] ∧ KeepsEvents p calls ∧
      ∀ done, done <+: calls → done.foldl (fun p call => (call.run p).2) p = p := by
  induction calls with
  | nil => exact ⟨rfl, trivial, fun done hdone => by rw [List.prefix_nil.mp hdone]; rfl⟩
  | cons call calls ih =>
    obtain ⟨hfits, hrest⟩ := hroom
    have hposition : ∀ fd, Proc.exec (position fd) p = (.error (.code E_FAIL), p) := by
      intro fd
      rw [position, Proc.exec_bind_ok (Proc.exec_get p), Proc.exec_bind_ok (exec_check_false (by simp [hinit]) _ _),
        Proc.exec_bind_error (exec_check_true (by rw [hfds]; rfl) _ _)]
    have hcall : (call.run p).2 = p ∧ call.log p = [] ∧ ¬ call.Discards p ∧ call.register [] = [] := by
      cases call with
      | add fd eventflags => simp [PollCall.HasRoom] at hfits
      | remove fd =>
        have hrun : Proc.exec (CPoll.remove fd) p = (.error (.code E_FAIL), p) := by
          rw [remove, Proc.exec_bind_error (hposition fd)]
        simp [PollCall.run, PollCall.log, PollCall.Discards, PollCall.register, hrun, hfds]
      | changeEventSet fd eventflags =>
        have hrun : Proc.exec (CPoll.changeEventSet fd eventflags) p = (.error (.code E_FAIL), p) := by
          rw [changeEventSet, Proc.exec_bind_error (hposition fd)]
        simp [PollCall.run, PollCall.log, PollCall.Discards, PollCall.register, hrun]
      | waitForNextEvent event answer =>
        have hrun := exec_wait_empty hinit (by rw [hfds]; rfl) answer event
        simp [PollCall.run, PollCall.log, PollCall.Discards, PollCall.register, hrun, reachesPoll, hfds]
    obtain ⟨hrun, hlog, hkeeps, hregister⟩ := hcall
    rw [hregister] at hrest
    obtain ⟨hlogs, hkeepsAll, hstates⟩ := ih hrest
    refine ⟨?_, ?_, ?_⟩
    · rw [pollLog, hlog, hrun, hlogs, List.nil_append]
    · rw [KeepsEvents, hrun]
      exact ⟨hkeeps, hkeepsAll⟩
    · intro done hdone
      cases done with
      | nil => rfl
      | cons first done =>
        obtain ⟨rfl, hdoneRest⟩ := List.cons_prefix_cons.mp hdone
        rw [List.foldl_cons, hrun, hstates done hdoneRest]

/-- Between two calls of `poll`, whatever the calls and whatever it reports: each event is returned at most once, with
its flags and not after its descriptor was removed, exactly once if it is not removed, and no other is returned. -/
theorem poll_events_lossless (arrays : FastHashArrays Int32 Nat) (maxSockets : Nat) (calls : List PollCall)
    (hroom : WithinCapacity maxSockets [] calls) (hanswered : WellAnswered (initialized arrays maxSockets) calls) :
    Lossless (pollLog (initialized arrays maxSockets) calls) := by
  rcases Nat.eq_zero_or_pos maxSockets with rfl | hpos
  · rw [(run_empty rfl rfl calls hroom).1]
    exact Follows.lossless (g := fun _ => none) rfl
  · obtain ⟨g, hfollows⟩ := run_follows (fresh_registers hpos arrays) (.refl []) (Nat.zero_le _) calls hroom hanswered
    exact Follows.lossless hfollows

omit [PollFlags] in
/-- `poll` reports an event for every descriptor it is given, `count` of them. -/
def allReady (count : Nat) : PollAnswer := ⟨count, 0, fun _ => 1⟩

omit [PollFlags] in
/-- Two sockets become ready at once: two calls return their events, the third one is told of none. -/
def twoReady : List PollCall :=
  [.add 3 IPOLLING_READ, .add 4 IPOLLING_READ, .waitForNextEvent default (allReady 2),
    .waitForNextEvent default (allReady 0), .waitForNextEvent default ⟨0, 0, fun _ => 0⟩]

omit [PollFlags] in
theorem twoReady_room : WithinCapacity 2 [] twoReady := by
  simp [twoReady, WithinCapacity, PollCall.HasRoom, PollCall.register, INT_ELEMENTS]

omit [PollFlags] in
theorem twoReady_answered : @WellAnswered PollFlags.linux (initialized unwritten 2) twoReady := by
  refine ⟨trivial, trivial, fun _ => ⟨by decide, Or.inl (by decide)⟩, ?_, fun _ => ⟨by decide, Or.inl (by decide)⟩, trivial⟩
  intro hreach
  exact absurd hreach (by decide)

omit [PollFlags] in
theorem poll_events_lossless_pair :
    let _ := PollFlags.linux
    delivered (pollLog (initialized unwritten 2) twoReady) = [3, 4] ∧
      Lossless (pollLog (initialized unwritten 2) twoReady) := by
  intro flags
  exact ⟨by decide, poll_events_lossless unwritten 2 twoReady twoReady_room twoReady_answered⟩

/-- The counter is exact after every call, and the assertion holds, exactly when no descriptor is removed while it has
an event. -/
theorem unreadcount_exact_iff (arrays : FastHashArrays Int32 Nat) (maxSockets : Nat) (calls : List PollCall)
    (hroom : WithinCapacity maxSockets [] calls) (hanswered : WellAnswered (initialized arrays maxSockets) calls) :
    (∀ done, done <+: calls → Exact (pollAfter arrays maxSockets done) ∧ Asserts (pollAfter arrays maxSockets done)) ↔
      KeepsEvents (initialized arrays maxSockets) calls := by
  rcases Nat.eq_zero_or_pos maxSockets with rfl | hpos
  · obtain ⟨-, hkeeps, hstates⟩ := run_empty (p := initialized arrays 0) rfl rfl calls hroom
    refine ⟨fun _ => hkeeps, fun _ done hdone => ?_⟩
    have hstate : pollAfter arrays 0 done = initialized arrays 0 := hstates done hdone
    rw [hstate]
    exact ⟨rfl, exact_asserts List.nodup_nil rfl⟩
  · exact run_exact (fresh_registers hpos arrays) (.refl []) rfl calls hroom hanswered

omit [PollFlags] in
theorem unreadcount_exact_iff_pair :
    let _ := PollFlags.linux
    ∀ done, done <+: twoReady → Exact (pollAfter unwritten 2 done) ∧ Asserts (pollAfter unwritten 2 done) := by
  intro flags
  have hkeeps : KeepsEvents (initialized unwritten 2) twoReady := ⟨id, id, id, id, id, trivial⟩
  exact (unreadcount_exact_iff unwritten 2 twoReady twoReady_room twoReady_answered).mpr hkeeps

omit [PollFlags] in
/-- The second of two sockets that became ready at once is removed before its event is returned. -/
def readyAndRemoved : List PollCall :=
  [.add 3 IPOLLING_READ, .add 4 IPOLLING_READ, .waitForNextEvent default (allReady 2), .remove 4]

omit [PollFlags] in
/-- The counter then stays at one with no event left, and the assertion of the next call fails. -/
theorem unreadcount_too_high :
    let _ := PollFlags.linux
    let p := pollAfter unwritten 2 readyAndRemoved
    WithinCapacity 2 [] readyAndRemoved ∧ WellAnswered (initialized unwritten 2) readyAndRemoved ∧
      p.unreadcount = 1 ∧ pending p.fds = 0 ∧ ¬ Exact p ∧ ¬ Asserts p := by
  have hcount : (@pollAfter PollFlags.linux unwritten 2 readyAndRemoved).unreadcount = 1 := by decide
  have hnone : pending (@pollAfter PollFlags.linux unwritten 2 readyAndRemoved).fds = 0 := by decide
  intro flags
  generalize @pollAfter PollFlags.linux unwritten 2 readyAndRemoved = p at hcount hnone ⊢
  refine ⟨?_, ⟨trivial, trivial, fun _ => ⟨by decide, Or.inl (by decide)⟩, trivial, trivial⟩, hcount, hnone, ?_, ?_⟩
  · simp [readyAndRemoved, WithinCapacity, PollCall.HasRoom, PollCall.register, INT_ELEMENTS]
  · intro hexact
    have hcounter : p.unreadcount.toNat = pending p.fds := hexact
    rw [hcount, hnone] at hcounter
    exact absurd hcounter (by decide)
  · intro hasserts
    obtain ⟨rotation, hfound⟩ := findNextEvent_none hnone default
    have hzero := hasserts default (by rw [hfound])
    rw [hfound] at hzero
    exact absurd (hcount.symm.trans hzero) (by decide)

end NatTester.Guarantees
