import NatTester.Guarantees.PollingSetup
import NatTester.Source.EpollEvents

/-!
# The events between two calls of epoll_wait

A `CEpoll` over any calls, failing ones included, `Initialize` and `Close` at any time.
The events that `epoll_wait` finds are returned in its order, each by one call, all of
them before it is called again; a descriptor that is removed meanwhile keeps its event,
and only `Close` and `Initialize` discard what is left. Every descriptor from
`epoll_create` is closed once, before the next one is opened.
-/
namespace NatTester.Guarantees
open NatTester.Lib NatTester.Source Queue

inductive EpollCall where
  | initializeEpoll (answers : SetupAnswers) (uninitialized : Nat → EpollEvent) (maxSockets : Nat)
  | close
  | add (refused : Option Int) (fd : Int32) (eventflags : UInt32)
  | remove (refused : Option Int) (fd : Int32)
  | changeEventSet (refused : Option Int) (fd : Int32) (eventflags : UInt32)
  | waitForNextEvent (answer : Except Int (List EpollEvent))
  /-- The program closes a descriptor, which the kernel then takes off the list. -/
  | closeDescriptor (fd : Int32)

variable [EpollFlags]

namespace EpollCall

def run (s : EpollState) : EpollCall → EpollState
  | initializeEpoll answers uninitialized maxSockets => (s.initializeEpoll answers uninitialized maxSockets).2
  | close => s.close
  | add refused fd eventflags => (Proc.exec (EpollState.add refused fd eventflags) s).2
  | remove refused fd => (Proc.exec (EpollState.remove refused fd) s).2
  | changeEventSet refused fd eventflags => (Proc.exec (EpollState.changeEventSet refused fd eventflags) s).2
  | waitForNextEvent answer => (Proc.exec (EpollState.waitForNextEvent answer) s).2
  | closeDescriptor fd => { s with interest := Function.update s.interest fd none }

end EpollCall

/-- The call of `WaitForNextEvent` comes to `epoll_wait`. -/
def AsksKernel (s : EpollState) : Prop := s.object.epollfd ≠ none ∧ s.object.pendingCount ≤ s.object.currentEventIndex

omit [EpollFlags] in
instance (s : EpollState) : Decidable (AsksKernel s) := inferInstanceAs (Decidable (_ ∧ _))

/-- `epoll_wait` finds as many events as it may write at most. -/
def FitsEvents (s : EpollState) : Except Int (List EpollEvent) → Prop
  | .error _ => True
  | .ok events => (events.length : Int) ≤ s.maxevents

/-- The events of an answer, as they are returned. -/
def answered : Except Int (List EpollEvent) → List PollEvent
  | .error _ => []
  | .ok events => events.map EpollState.report

namespace EpollCall

def Answered (s : EpollState) : EpollCall → Prop
  | waitForNextEvent answer => AsksKernel s → FitsEvents s answer
  | _ => True

/-- What the call has to do with events: the kernel finds some, one is returned, what is left is discarded. -/
def log (s : EpollState) : EpollCall → List (Step PollEvent)
  | initializeEpoll _ _ _ => [.discard]
  | close => [.discard]
  | waitForNextEvent answer =>
    (if AsksKernel s then [.batch (answered answer)] else []) ++
      match (Proc.exec (EpollState.waitForNextEvent answer) s).1 with
      | .ok event => [.deliver event]
      | .error _ => []
  | _ => []

end EpollCall

def EpollAnswered : EpollState → List EpollCall → Prop
  | _, [] => True
  | s, call :: calls => call.Answered s ∧ EpollAnswered (call.run s) calls

def epollLog : EpollState → List EpollCall → List (Step PollEvent)
  | _, [] => []
  | s, call :: calls => call.log s ++ epollLog (call.run s) calls

omit [EpollFlags] in
/-- Descriptors are opened and closed in turn; the one that is open is the last one. -/
inductive OpenedInTurn : List Effect → Option Nat → Prop
  | start : OpenedInTurn [] none
  | opened {effects : List Effect} (h : OpenedInTurn effects none) (fd : Nat) : OpenedInTurn (effects ++ [.opened fd]) (some fd)
  | closed {effects : List Effect} {fd : Nat} (h : OpenedInTurn effects (some fd)) :
    OpenedInTurn (effects ++ [.closed fd]) none

/-- What one call does. -/
structure EpollEffect (s : EpollState) (call : EpollCall) : Prop where
  inv : (call.run s).Inv
  follows : Follows (s.pending.map EpollState.report) (call.log s) ((call.run s).pending.map EpollState.report)
  turns : OpenedInTurn s.effects s.object.epollfd → OpenedInTurn (call.run s).effects (call.run s).object.epollfd

variable {s : EpollState}

omit [EpollFlags] in
theorem close_turns (p : Instance CEpoll) (h : OpenedInTurn p.effects p.object.epollfd) :
    OpenedInTurn (CEpoll.close p).effects none := by
  unfold CEpoll.close
  cases hfd : p.object.epollfd with
  | none => rwa [hfd] at h
  | some fd =>
    rw [hfd] at h
    exact h.closed

omit [EpollFlags] in
/-- `Initialize` closes first; if it fails after `epoll_create`, it closes again. -/
theorem initializeEpoll_cases (answers : SetupAnswers) (maxSockets : Nat) (p : Instance CEpoll) :
    (CEpoll.initializeEpoll answers maxSockets p).2 = CEpoll.close p ∨
    (∃ fd, (CEpoll.initializeEpoll answers maxSockets p).2 =
      { CEpoll.close p with effects := (CEpoll.close p).effects ++ [.opened fd] ++ [.closed fd] }) ∨
    ∃ fd, (CEpoll.initializeEpoll answers maxSockets p).2 =
      { CEpoll.close p with
        object := ⟨some fd, some maxSockets, maxSockets, 0, 0⟩, effects := (CEpoll.close p).effects ++ [.opened fd] } := by
  cases hcreate : answers.epollCreate with
  | error errno =>
    left
    have hopen : Proc.exec (CEpoll.openEvents answers maxSockets) p = (.error (ERRNOHR errno), CEpoll.close p) := by
      rw [CEpoll.openEvents, hcreate]
      rfl
    rw [CEpoll.initializeEpoll, hopen]
    simp only [hrOf, ERRNOHR_failed, if_true]
    rfl
  | ok fd =>
    cases hevents : answers.eventsAllocated with
    | false =>
      right
      left
      refine ⟨fd, ?_⟩
      rw [CEpoll.initializeEpoll, CEpoll.openEvents, hcreate, hevents]
      rfl
    | true =>
      right
      right
      refine ⟨fd, ?_⟩
      rw [CEpoll.initializeEpoll, CEpoll.openEvents, hcreate, hevents]
      rfl

/-! ## The calls -/

/-- After a `Close` nothing is left. -/
theorem discarded_effect {call : EpollCall} (hlog : call.log s = [.discard]) (hinv : (call.run s).Inv)
    (hpending : (call.run s).pending = [])
    (hturns : OpenedInTurn s.effects s.object.epollfd → OpenedInTurn (call.run s).effects (call.run s).object.epollfd) :
    EpollEffect s call where
  inv := hinv
  follows := by
    rw [hlog, hpending]
    rfl
  turns := hturns

theorem initialize_effect (answers : SetupAnswers) (uninitialized : Nat → EpollEvent) (maxSockets : Nat) (s : EpollState) :
    EpollEffect s (.initializeEpoll answers uninitialized maxSockets) := by
  have hclosed := close_turns s.toInstance
  rcases initializeEpoll_cases answers maxSockets s.toInstance with hmade | ⟨fd, hmade⟩ | ⟨fd, hmade⟩
  · have hrun : (EpollCall.initializeEpoll answers uninitialized maxSockets).run s = s.close :=
      EpollState.initializeEpoll_made hmade uninitialized
    refine discarded_effect rfl ?_ ?_ ?_ <;> rw [hrun]
    · exact s.inv_closed
    · rfl
    · exact hclosed
  · have hrun : (EpollCall.initializeEpoll answers uninitialized maxSockets).run s =
        { s.close with effects := s.close.effects ++ [.opened fd] ++ [.closed fd] } :=
      EpollState.initializeEpoll_made hmade uninitialized
    have hinv := s.inv_closed
    refine discarded_effect rfl ?_ ?_ ?_ <;> rw [hrun]
    · exact ⟨hinv.length_eq, hinv.pending_le, hinv.index_le, hinv.data_fd⟩
    · rfl
    · exact fun h => ((hclosed h).opened fd).closed
  · have hrun : (EpollCall.initializeEpoll answers uninitialized maxSockets).run s =
        ⟨{ CEpoll.close s.toInstance with
            object := ⟨some fd, some maxSockets, maxSockets, 0, 0⟩, effects := s.close.effects ++ [.opened fd] },
          (List.range maxSockets).map uninitialized, fun _ => none⟩ :=
      EpollState.initializeEpoll_made hmade uninitialized
    refine discarded_effect rfl ?_ ?_ ?_ <;> rw [hrun]
    · refine ⟨?_, Nat.zero_le _, Nat.le_refl 0, nofun⟩
      rw [List.length_map, List.length_range]
    · rfl
    · exact fun h => (hclosed h).opened fd

theorem close_effect (s : EpollState) : EpollEffect s .close :=
  discarded_effect rfl s.inv_closed s.pending_closed (close_turns s.toInstance)

/-- A call on the list leaves the events alone, those of a removed descriptor included. -/
theorem control_effect (h : s.Inv) {call : EpollCall} (op : EpollOp) (refused : Option Int) (fd : Int32) (ev : EpollEvent)
    (hev : op ≠ .del → ev.fd = fd) (hlog : call.log s = [])
    (hrun : call.run s = (Proc.exec (EpollState.control op refused fd ev) s).2) : EpollEffect s call := by
  have hinv := h.control hev refused
  obtain ⟨interest, hs, -⟩ := EpollState.exec_control op refused fd ev s
  refine ⟨hrun ▸ hinv, ?_, ?_⟩
  · rw [hlog, hrun, hs]
    rfl
  · rw [hrun, hs]
    exact id

theorem closeDescriptor_effect (h : s.Inv) (fd : Int32) : EpollEffect s (.closeDescriptor fd) where
  inv := by
    refine ⟨h.length_eq, h.pending_le, h.index_le, ?_⟩
    intro other ev hother
    by_cases hsame : other = fd
    · subst hsame
      simp [EpollCall.run] at hother
    · exact h.data_fd other ev (by simpa [EpollCall.run, hsame] using hother)
  follows := rfl
  turns := id

theorem wait_effect_closed (h : s.Inv) (hclosed : s.object.epollfd = none) (answer : Except Int (List EpollEvent)) :
    EpollEffect s (.waitForNextEvent answer) := by
  have hexec := EpollState.exec_wait_closed hclosed answer
  have hasks : ¬ AsksKernel s := fun hasks => hasks.1 hclosed
  have hrun : (EpollCall.waitForNextEvent answer).run s = s := by rw [EpollCall.run, hexec]
  have hlog : (EpollCall.waitForNextEvent answer).log s = [] := by rw [EpollCall.log, if_neg hasks, hexec, List.nil_append]
  refine ⟨?_, ?_, ?_⟩ <;> rw [hrun]
  · exact h
  · rw [hlog]
    rfl
  · exact id

theorem wait_effect_left (h : s.Inv) (hopen : s.object.epollfd ≠ none)
    (hlt : s.object.currentEventIndex < s.object.pendingCount) (answer : Except Int (List EpollEvent)) :
    EpollEffect s (.waitForNextEvent answer) := by
  obtain ⟨ev, t, hexec, hpending, hinv, heffects, hfd, -⟩ := EpollState.exec_wait_pending h hopen hlt answer
  have hasks : ¬ AsksKernel s := fun hasks => absurd hasks.2 (Nat.not_le.mpr hlt)
  have hrun : (EpollCall.waitForNextEvent answer).run s = t := by rw [EpollCall.run, hexec]
  have hlog : (EpollCall.waitForNextEvent answer).log s = [.deliver (EpollState.report ev)] := by
    rw [EpollCall.log, if_neg hasks, hexec, List.nil_append]
  refine ⟨?_, ?_, ?_⟩ <;> rw [hrun]
  · exact hinv
  · rw [hlog, hpending]
    exact ⟨_, rfl, rfl⟩
  · rw [heffects, hfd]
    exact id

theorem wait_effect_asked (h : s.Inv) (hasks : AsksKernel s) (answer : Except Int (List EpollEvent))
    (hfits : FitsEvents s answer) : EpollEffect s (.waitForNextEvent answer) := by
  obtain ⟨hfailed, hnone, hfound⟩ := EpollState.exec_wait_asked h hasks.1 hasks.2
  have hnothing : s.pending = [] := (EpollState.pending_eq_nil h).mpr hasks.2
  cases answer with
  | error errno =>
    have hrun : (EpollCall.waitForNextEvent (.error errno)).run s = s.waited (.error errno) := by
      rw [EpollCall.run, hfailed]
    have hlog : (EpollCall.waitForNextEvent (.error errno)).log s = [.batch []] := by
      rw [EpollCall.log, if_pos hasks, hfailed]
      rfl
    refine ⟨?_, ?_, ?_⟩ <;> rw [hrun]
    · exact ⟨h.length_eq, Nat.zero_le _, Nat.le_refl 0, h.data_fd⟩
    · rw [hlog, hnothing]
      exact ⟨rfl, rfl⟩
    · exact id
  | ok events =>
    have hmax := s.maxevents_le
    have hlength : events.length ≤ s.object.sizeEvents := by
      change (events.length : Int) ≤ s.maxevents at hfits
      omega
    cases events with
    | nil =>
      have hrun : (EpollCall.waitForNextEvent (.ok [])).run s = s.waited (.ok []) := by rw [EpollCall.run, hnone]
      have hlog : (EpollCall.waitForNextEvent (.ok [])).log s = [.batch []] := by
        rw [EpollCall.log, if_pos hasks, hnone]
        rfl
      obtain ⟨hinv, hpending⟩ := EpollState.waited_spec h hlength
      refine ⟨?_, ?_, ?_⟩ <;> rw [hrun]
      · exact hinv
      · rw [hlog, hnothing, hpending]
        exact ⟨rfl, rfl⟩
      · exact id
    | cons ev rest =>
      obtain ⟨t, hexec, hpending, hinv, heffects, hfd, -⟩ := hfound ev rest hlength
      have hrun : (EpollCall.waitForNextEvent (.ok (ev :: rest))).run s = t := by rw [EpollCall.run, hexec]
      have hlog : (EpollCall.waitForNextEvent (.ok (ev :: rest))).log s =
          [.batch (answered (.ok (ev :: rest))), .deliver (EpollState.report ev)] := by
        rw [EpollCall.log, if_pos hasks, hexec]
        rfl
      refine ⟨?_, ?_, ?_⟩ <;> rw [hrun]
      · exact hinv
      · rw [hlog, hnothing, hpending]
        exact ⟨rfl, _, rfl, rfl⟩
      · rw [heffects, hfd]
        exact id

theorem epollCall_effect (h : s.Inv) (call : EpollCall) (hanswered : call.Answered s) : EpollEffect s call := by
  cases call with
  | initializeEpoll answers uninitialized maxSockets => exact initialize_effect answers uninitialized maxSockets s
  | close => exact close_effect s
  | add refused fd eventflags =>
    exact control_effect h .add refused fd ⟨CEpoll.toNativeFlags eventflags, fd⟩ (fun _ => rfl) rfl rfl
  | remove refused fd => exact control_effect h .del refused fd ⟨0, 0⟩ (fun hop => absurd rfl hop) rfl rfl
  | changeEventSet refused fd eventflags =>
    exact control_effect h .mod refused fd ⟨CEpoll.toNativeFlags eventflags, fd⟩ (fun _ => rfl) rfl rfl
  | closeDescriptor fd => exact closeDescriptor_effect h fd
  | waitForNextEvent answer =>
    by_cases hopen : s.object.epollfd = none
    · exact wait_effect_closed h hopen answer
    · by_cases hle : s.object.pendingCount ≤ s.object.currentEventIndex
      · exact wait_effect_asked h ⟨hopen, hle⟩ answer (hanswered ⟨hopen, hle⟩)
      · exact wait_effect_left h hopen (Nat.not_le.mp hle) answer

/-! ## Runs -/

theorem epoll_run (h : s.Inv) (hturns : OpenedInTurn s.effects s.object.epollfd) (calls : List EpollCall)
    (hanswered : EpollAnswered s calls) :
    (calls.foldl EpollCall.run s).Inv ∧
      Follows (s.pending.map EpollState.report) (epollLog s calls)
        ((calls.foldl EpollCall.run s).pending.map EpollState.report) ∧
      OpenedInTurn (calls.foldl EpollCall.run s).effects (calls.foldl EpollCall.run s).object.epollfd := by
  induction calls generalizing s with
  | nil => exact ⟨h, rfl, hturns⟩
  | cons call calls ih =>
    have heffect := epollCall_effect h call hanswered.1
    obtain ⟨hinv, hfollows, hrest⟩ := ih heffect.inv (heffect.turns hturns) hanswered.2
    exact ⟨hinv, heffect.follows.append hfollows, hrest⟩

/-- Whatever the calls and whatever the kernel answers: `epoll_wait` finds at most as many events as it is told, and they
are returned in its order, every one of them before it is called again, removed descriptors included, unless the instance
is closed first; the index stays within the events found, and these within the array; and the descriptors of
`epoll_create` are closed one by one, at most one of them is open. -/
theorem epoll_events_in_order (calls : List EpollCall) (hanswered : EpollAnswered EpollState.new calls) :
    InOrder (epollLog EpollState.new calls) ∧ (calls.foldl EpollCall.run EpollState.new).Inv ∧
      OpenedInTurn (calls.foldl EpollCall.run EpollState.new).effects
        (calls.foldl EpollCall.run EpollState.new).object.epollfd := by
  have hnew : EpollState.new.Inv := ⟨rfl, Nat.le_refl 0, Nat.le_refl 0, nofun⟩
  obtain ⟨hinv, hfollows, hturns⟩ := epoll_run hnew .start calls hanswered
  exact ⟨hfollows.inOrder, hinv, hturns⟩

omit [EpollFlags] in
/-- Two sockets become ready at once, and the second one is removed before its event is returned. -/
def foundAndRemoved : List EpollCall :=
  [.initializeEpoll ⟨true, .ok 7, true, none⟩ default 2, .add none 3 IPOLLING_READ, .add none 4 IPOLLING_READ,
    .waitForNextEvent (.ok [⟨1, 4⟩, ⟨1, 3⟩]), .remove none 3, .waitForNextEvent (.error 0), .close]

omit [EpollFlags] in
theorem epoll_events_in_order_removed :
    let _ := EpollFlags.linux
    delivered (epollLog EpollState.new foundAndRemoved) = [⟨4, IPOLLING_READ⟩, ⟨3, IPOLLING_READ⟩] ∧
      InOrder (epollLog EpollState.new foundAndRemoved) ∧
      (foundAndRemoved.foldl EpollCall.run EpollState.new).Inv ∧
      OpenedInTurn (foundAndRemoved.foldl EpollCall.run EpollState.new).effects
        (foundAndRemoved.foldl EpollCall.run EpollState.new).object.epollfd := by
  intro flags
  have hanswered : EpollAnswered EpollState.new foundAndRemoved := by
    refine ⟨trivial, trivial, trivial, fun _ => ?_, trivial, fun _ => trivial, trivial, trivial⟩
    change (2 : Int) ≤ _
    decide
  exact ⟨by decide, epoll_events_in_order foundAndRemoved hanswered⟩

end NatTester.Guarantees
