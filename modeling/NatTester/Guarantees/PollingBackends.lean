import Mathlib.Data.List.Perm.Subperm
import NatTester.Guarantees.EpollEvents
import NatTester.Guarantees.PollEvents
import NatTester.Source.PollingHost

/-!
# The same calls on a CPoll and on a CEpoll

`CreatePollingInstance` hands out one or the other. Side by side, on one host and
under the same calls, they succeed and fail alike. With a descriptor registered they
call the kernel at the same times, and of what it finds each returns every event
once, in an order of its own.
-/
namespace NatTester.Guarantees
open NatTester.Lib NatTester.Source

local instance : PollFlags := PollFlags.linux
local instance : EpollFlags := EpollFlags.linux

/-- A call of `IPolling`. A wait comes with what a call of the kernel would find: `errno`, or the conditions that the
descriptors are in, with the descriptors that `epoll_wait` would report, in its order. -/
inductive PollingCall where
  | add (fd : Int32) (eventflags : UInt32)
  | remove (fd : Int32)
  | changeEventSet (fd : Int32) (eventflags : UInt32)
  | waitForNextEvent (host : Except Nat (Int32 → UInt32)) (ready : List Int32)

/-- The code of a call; `none` where a NULL pointer is followed. -/
def stopCode : Except PollStop Unit → Option HRESULT
  | .ok _ => some S_OK
  | .error (.code hr) => some hr
  | .error .nullPointer => none

namespace PollingCall

def pollAnswer (fds : List Pollfd) : Except Nat (Int32 → UInt32) → PollAnswer
  | .error errno => pollFails errno fds
  | .ok conditions => pollOn conditions fds

def epollAnswer (interest : InterestList) (ready : List Int32) : Except Nat (Int32 → UInt32) → Except Int (List EpollEvent)
  | .error errno => .error errno
  | .ok conditions => .ok (ready.map (eventOf interest conditions))

def onPoll (p : CPoll) : PollingCall → PollCall
  | add fd eventflags => .add fd eventflags
  | remove fd => .remove fd
  | changeEventSet fd eventflags => .changeEventSet fd eventflags
  | waitForNextEvent host _ => .waitForNextEvent default (pollAnswer p.fds host)

def onEpoll (s : EpollState) : PollingCall → EpollCall
  | add fd eventflags => .add none fd eventflags
  | remove fd => .remove none fd
  | changeEventSet fd eventflags => .changeEventSet none fd eventflags
  | waitForNextEvent host ready => .waitForNextEvent (epollAnswer s.interest ready host)

def epollCode (s : EpollState) : PollingCall → HRESULT
  | add fd eventflags => hrOf (Proc.exec (EpollState.add none fd eventflags) s).1
  | remove fd => hrOf (Proc.exec (EpollState.remove none fd) s).1
  | changeEventSet fd eventflags => hrOf (Proc.exec (EpollState.changeEventSet none fd eventflags) s).1
  | waitForNextEvent host ready => hrOf (Proc.exec (EpollState.waitForNextEvent (epollAnswer s.interest ready host)) s).1

/-- A wait returns the same code, the other calls fail alike. -/
def SameCode (poll : Option HRESULT) (epoll : HRESULT) : PollingCall → Prop
  | waitForNextEvent _ _ => poll = some epoll
  | _ => poll.map FAILED = some (FAILED epoll)

/-- The calls of `poll` and the events of a call of `CPoll`. -/
def pollSteps (p : CPoll) (call : PollingCall) : List (Batches.Step Int32 UInt32) := (call.onPoll p).log p

/-- The calls of `epoll_wait` and the events of a call of `CEpoll`. -/
def epollSteps (s : EpollState) (call : PollingCall) : List (Batches.Step Int32 UInt32) :=
  ((call.onEpoll s).log s).flatMap (Queue.Step.byKey PollEvent.fd PollEvent.eventflags)

/-- A wait on no descriptors. -/
def WaitsOnNothing (p : CPoll) : PollingCall → Prop
  | waitForNextEvent _ _ => p.fds = []
  | _ => False

instance (p : CPoll) (call : PollingCall) : Decidable (call.WaitsOnNothing p) :=
  match call with
  | waitForNextEvent _ _ => inferInstanceAs (Decidable (p.fds = []))
  | add _ _ => isFalse id
  | remove _ => isFalse id
  | changeEventSet _ _ => isFalse id

/-- The steps of `CEpoll`, without those of a wait on no descriptors. -/
def sharedSteps (p : CPoll) (s : EpollState) (call : PollingCall) : List (Batches.Step Int32 UInt32) :=
  if call.WaitsOnNothing p then [] else call.epollSteps s

/-- `poll` is called where `epoll_wait` is. A wait on no descriptors is the exception: `CPoll` has nothing to poll, and
`epoll_wait` finds nothing. -/
def SameKernelCall (p : CPoll) (s : EpollState) (call : PollingCall) : Prop :=
  (call.WaitsOnNothing p → call.pollSteps p = [] ∧ call.epollSteps s = [.batch fun _ => none]) ∧
    (¬ call.WaitsOnNothing p → Batches.batches (call.pollSteps p) = Batches.batches (call.epollSteps s))

/-- What is expected of the caller and of the host: the descriptor is one, no flags are edge triggered, there is room for
it, and it is not removed while `CPoll` has an event of it; the kernel takes what `epoll_ctl` asks for, reports what is
ready, and does not fail where no descriptor is registered. -/
def Admissible (maxSockets : Nat) (p : CPoll) (s : EpollState) : PollingCall → Prop
  | add fd eventflags =>
    fd ≠ -1 ∧ eventflags &&& IPOLLING_EDGETRIGGER = 0 ∧ (fd ∈ p.fds.map Pollfd.fd ∨ p.fds.length < maxSockets)
  | remove fd => fd ≠ -1 ∧ ¬ (PollCall.remove fd).Discards p
  | changeEventSet fd eventflags => fd ≠ -1 ∧ eventflags &&& IPOLLING_EDGETRIGGER = 0
  | waitForNextEvent (.ok conditions) ready => AsksKernel s → ListsReady s conditions ready
  | waitForNextEvent (.error _) _ => p.fds ≠ []

end PollingCall

/-! ## The two states -/

/-- A `CPoll` and a `CEpoll` that know the same descriptors and have as many events left. -/
structure Together (maxSockets : Nat) (listed : List Int32) (p : CPoll) (s : EpollState) : Prop where
  registers : p.Registers maxSockets listed
  exact : Exact p
  inv : s.Inv
  opened : s.object.epollfd ≠ none
  size : s.object.sizeEvents = maxSockets
  known : s.interest = fun fd => (requests p.fds fd).map fun events => ⟨CPoll.ofShort events, fd⟩
  native : ∀ fd events, requests p.fds fd = some events → IsNative (CPoll.ofShort events)
  left : CPoll.pending p.fds = s.pending.length
  distinct : (s.pending.map EpollEvent.fd).Nodup

/-- What one call does to both. -/
structure Lockstep (maxSockets : Nat) (p : CPoll) (s : EpollState) (call : PollingCall) : Prop where
  together : ∃ listed, Together maxSockets listed ((call.onPoll p).run p).2 ((call.onEpoll s).run s)
  code : call.SameCode (stopCode ((call.onPoll p).run p).1) (call.epollCode s)
  kernel : call.SameKernelCall p s
  pollFollows : Batches.Follows (CPoll.waiting p.fds) (call.pollSteps p) (CPoll.waiting ((call.onPoll p).run p).2.fds)
  pollKeeps : Batches.Keeps (CPoll.waiting p.fds) (call.pollSteps p)

variable {maxSockets : Nat} {listed : List Int32} {p : CPoll} {s : EpollState}

namespace Together

theorem distinct_fds (t : Together maxSockets listed p s) : (p.fds.map Pollfd.fd).Nodup := registers_distinct t.registers

theorem mem_listed (t : Together maxSockets listed p s) {fd : Int32} : fd ∈ listed ↔ fd ∈ p.fds.map Pollfd.fd := by
  rw [← t.registers.fds_eq, CPoll.fdsOf]

/-- The kernel knows exactly the descriptors in the vector. -/
theorem interest_eq_none (t : Together maxSockets listed p s) {fd : Int32} : s.interest fd = none ↔ fd ∉ listed := by
  rw [t.known, Option.map_eq_none_iff, ← Option.not_isSome_iff_eq_none, requests_isSome, t.mem_listed]

theorem interest_isSome (t : Together maxSockets listed p s) {fd : Int32} (hfd : fd ∈ listed) :
    ∃ known, s.interest fd = some known := by
  rw [← Option.ne_none_iff_exists']
  exact fun hnone => t.interest_eq_none.mp hnone hfd

end Together

/-- A call of `epoll_ctl` on an open instance. -/
theorem control_open (hopened : s.object.epollfd ≠ none) {fd : Int32} (hfd : fd ≠ -1) (op : EpollOp) (refused : Option Int)
    (ev : EpollEvent) : Proc.exec (EpollState.control op refused fd ev) s =
      match epollCtl refused op fd ev s.interest with
      | .error errno => (.error (ERRNOHR errno), s)
      | .ok interest => (.ok (), { s with interest }) := by
  rw [EpollState.control, Proc.exec_bind_ok (Proc.exec_get s), exec_chkIf_bind, if_neg hfd, exec_chkIf_bind, if_neg hopened]
  cases epollCtl refused op fd ev s.interest <;> rfl

/-- What a call of `CPoll` keeps by itself. -/
theorem Together.onPoll (t : Together maxSockets listed p s) (call : PollCall) (hanswered : call.Answered p)
    (hroom : call.HasRoom maxSockets listed) (hdiscards : ¬ call.Discards p) :
    (∃ listed', (call.run p).2.Registers maxSockets listed') ∧ Exact (call.run p).2 ∧
      Batches.Follows (CPoll.waiting p.fds) (call.log p) (CPoll.waiting (call.run p).2.fds) := by
  have heffect := run_effect t.registers (Nat.le_of_eq t.exact.symm) call hanswered
  obtain ⟨listed', r, -⟩ := run_registers t.registers (.refl listed) call hroom
  exact ⟨⟨listed', r⟩, (heffect.exact t.exact).mpr hdiscards, heffect.follows⟩

/-- A descriptor without an event that is removed drops none. -/
theorem Together.remove_keeps (t : Together maxSockets listed p s) {fd : Int32} (hdiscards : ¬ (PollCall.remove fd).Discards p) :
    Batches.Keeps (CPoll.waiting p.fds) ((PollCall.remove fd).log p) := by
  have hnone : CPoll.waiting p.fds fd = none := by
    rw [Option.eq_none_iff_forall_ne_some]
    intro flags hflags
    obtain ⟨entry, hentry, hkey, hevent⟩ := (CPoll.waiting_eq_some t.distinct_fds).mp hflags
    obtain ⟨pfd, hpfd, rfl⟩ := List.mem_map.mp hentry
    refine hdiscards ⟨pfd, hpfd, hkey, ?_⟩
    intro hzero
    rw [CPoll.flagsOf, if_neg (by simpa [CPoll.report] using hzero)] at hevent
    cases hevent
  rw [PollCall.log]
  split
  · exact ⟨hnone, trivial⟩
  · trivial

/-- Both refuse the call. -/
theorem Together.refused (t : Together maxSockets listed p s) {call : PollingCall} {hr : HRESULT}
    (hpoll : (call.onPoll p).run p = (.error (.code hr), p)) (hepoll : (call.onEpoll s).run s = s) (hhr : FAILED hr = true)
    (hcode : FAILED (call.epollCode s) = true) (hwait : ∀ host ready, call ≠ .waitForNextEvent host ready)
    (hsteps : call.pollSteps p = []) (hesteps : call.epollSteps s = []) : Lockstep maxSockets p s call where
  together := by
    rw [hpoll, hepoll]
    exact ⟨listed, t⟩
  code := by
    rw [hpoll]
    have hboth : some (FAILED hr) = some (FAILED (call.epollCode s)) := by rw [hhr, hcode]
    cases call with
    | waitForNextEvent host ready => exact absurd rfl (hwait host ready)
    | add fd eventflags => exact hboth
    | remove fd => exact hboth
    | changeEventSet fd eventflags => exact hboth
  kernel := by
    have hsome : ¬ call.WaitsOnNothing p := by
      cases call with
      | waitForNextEvent host ready => exact absurd rfl (hwait host ready)
      | _ => exact id
    exact ⟨fun h => absurd h hsome, fun _ => by rw [hsteps, hesteps]⟩
  pollFollows := by
    rw [hpoll, hsteps]
    rfl
  pollKeeps := by
    rw [hsteps]
    trivial

/-- The calls on the list change one request, and no event. -/
theorem Together.updated (t : Together maxSockets listed p s) {q : CPoll} (fd : Int32) (events : Option Int16)
    (hregisters : ∃ listed', q.Registers maxSockets listed') (hexact : Exact q)
    (hrequests : requests q.fds = Function.update (requests p.fds) fd events)
    (hnative : ∀ new, events = some new → IsNative (CPoll.ofShort new)) (hpending : CPoll.pending q.fds = CPoll.pending p.fds) :
    ∃ listed', Together maxSockets listed' q
      { s with interest := Function.update s.interest fd (events.map fun new => ⟨CPoll.ofShort new, fd⟩) } := by
  obtain ⟨listed', r⟩ := hregisters
  have hknown : Function.update s.interest fd (events.map fun new => ⟨CPoll.ofShort new, fd⟩) =
      fun fd => (requests q.fds fd).map fun new => ⟨CPoll.ofShort new, fd⟩ := by
    funext other
    rw [hrequests]
    by_cases hother : other = fd
    · subst hother
      rw [Function.update_self, Function.update_self]
    · rw [Function.update_of_ne hother, Function.update_of_ne hother, t.known]
  refine ⟨listed', r, hexact, ⟨t.inv.length_eq, t.inv.pending_le, t.inv.index_le, ?_⟩, t.opened, t.size, hknown, ?_,
    hpending.trans t.left, t.distinct⟩
  · intro other ev hev
    change Function.update s.interest fd _ other = some ev at hev
    rw [congrFun hknown other, Option.map_eq_some_iff] at hev
    obtain ⟨new, -, rfl⟩ := hev
    rfl
  · intro other new hnew
    rw [hrequests] at hnew
    by_cases hother : other = fd
    · subst hother
      rw [Function.update_self] at hnew
      exact hnative new hnew
    · rw [Function.update_of_ne hother] at hnew
      exact t.native other new hnew

/-! ## Registration -/

/-- The request that `Add` and `ChangeEventSet` make is the same for both. -/
theorem request_eq {eventflags : UInt32} (hlevel : eventflags &&& IPOLLING_EDGETRIGGER = 0) :
    CPoll.ofShort (CPoll.toShort (CPoll.toNativeFlags eventflags)) = CEpoll.toNativeFlags eventflags := by
  rw [short_native (isNative_toNativeFlags eventflags), toNativeFlags_eq hlevel]

theorem request_native (eventflags : UInt32) :
    ∀ new, some (CPoll.toShort (CPoll.toNativeFlags eventflags)) = some new → IsNative (CPoll.ofShort new) := by
  intro new hnew
  cases hnew
  rw [short_native (isNative_toNativeFlags eventflags)]
  exact isNative_toNativeFlags eventflags

theorem add_lockstep (t : Together maxSockets listed p s) (hmax : maxSockets < 2 ^ 31) {fd : Int32}
    {eventflags : UInt32} (hfd : fd ≠ -1) (hlevel : eventflags &&& IPOLLING_EDGETRIGGER = 0)
    (hroom : fd ∈ p.fds.map Pollfd.fd ∨ p.fds.length < maxSockets) :
    Lockstep maxSockets p s (.add fd eventflags) := by
  have hcontrol := control_open t.opened hfd .add none ⟨CEpoll.toNativeFlags eventflags, fd⟩
  by_cases hmem : fd ∈ listed
  · have hpoll := t.registers.add_registered hmem eventflags
    obtain ⟨known, hknown⟩ := t.interest_isSome hmem
    have hepoll : Proc.exec (EpollState.add none fd eventflags) s = (.error (ERRNOHR EEXIST), s) := by
      rw [EpollState.add, hcontrol, epollCtl_known hknown]
      rfl
    refine t.refused hpoll ?_ (by decide) ?_ (by simp) rfl rfl
    · rw [PollingCall.onEpoll, EpollCall.run, hepoll]
    · rw [PollingCall.epollCode, hepoll]
      exact ERRNOHR_failed EEXIST
  · have habsent : fd ∉ p.fds.map Pollfd.fd := fun h => hmem (t.mem_listed.mpr h)
    have hroom' : (PollCall.add fd eventflags).HasRoom maxSockets listed := by
      rw [PollCall.HasRoom, ← t.registers.length_eq]
      exact hroom.imp t.mem_listed.mpr fun hlt => ⟨hlt, hlt.trans hmax⟩
    obtain ⟨hregisters, hexact, hfollows⟩ := t.onPoll (.add fd eventflags) trivial hroom' id
    have hlookup : ¬ (p.hashtable.lookup fd).isSome = true := fun h => hmem (t.registers.lookup_isSome.mp h)
    have hpoll := CPoll.exec_add fd eventflags t.registers.initialized
    rw [if_neg hlookup] at hpoll
    have hfds : ((PollCall.add fd eventflags).run p).2.fds =
        p.fds ++ [⟨fd, CPoll.toShort (CPoll.toNativeFlags eventflags), 0⟩] := by rw [PollCall.run, hpoll]
    have hepoll : Proc.exec (EpollState.add none fd eventflags) s =
        (.ok (), { s with interest := Function.update s.interest fd (some ⟨CEpoll.toNativeFlags eventflags, fd⟩) }) := by
      rw [EpollState.add, hcontrol, epollCtl_absent (t.interest_eq_none.mpr hmem)]
      rfl
    have htogether := t.updated fd (some (CPoll.toShort (CPoll.toNativeFlags eventflags))) hregisters hexact
      (hfds ▸ requests_added habsent t.distinct_fds _) (request_native eventflags) (hfds ▸ CPoll.pending_added _ _ _)
    rw [Option.map_some, request_eq hlevel] at htogether
    refine ⟨?_, ?_, ⟨False.elim, fun _ => rfl⟩, hfollows, trivial⟩
    · rw [PollingCall.onEpoll, EpollCall.run, hepoll]
      exact htogether
    · rw [PollingCall.onPoll, PollCall.run, hpoll, PollingCall.epollCode, hepoll]
      rfl

theorem remove_lockstep (t : Together maxSockets listed p s) {fd : Int32} (hfd : fd ≠ -1)
    (hdiscards : ¬ (PollCall.remove fd).Discards p) : Lockstep maxSockets p s (.remove fd) := by
  have hcontrol := control_open t.opened hfd .del none ⟨0, 0⟩
  by_cases hmem : fd ∈ listed
  · obtain ⟨hregisters, hexact, hfollows⟩ := t.onPoll (.remove fd) trivial trivial hdiscards
    obtain ⟨q, pfd, hpoll, rfl, hperm, -⟩ := t.registers.remove_entry hmem
    have hq : ((PollCall.remove pfd.fd).run p).2 = q := by rw [PollCall.run, hpoll]
    have hquiet : pfd.revents = 0 := by
      by_contra hevent
      exact hdiscards ⟨pfd, hperm.mem_iff.mp List.mem_cons_self, rfl, hevent⟩
    have hpending := CPoll.pending_removed hperm
    rw [if_neg (by simpa using hquiet), Nat.add_zero] at hpending
    obtain ⟨known, hknown⟩ := t.interest_isSome hmem
    have hepoll : Proc.exec (EpollState.remove none pfd.fd) s =
        (.ok (), { s with interest := Function.update s.interest pfd.fd none }) := by
      rw [EpollState.remove, hcontrol, epollCtl_known hknown]
      rfl
    have htogether := t.updated pfd.fd none hregisters hexact (hq ▸ requests_removed t.distinct_fds hperm)
      (fun new hnew => absurd hnew.symm (Option.some_ne_none new)) (hq ▸ hpending.symm)
    have hkeeps := t.remove_keeps hdiscards
    refine ⟨?_, ?_, ?_, hfollows, hkeeps⟩
    · rw [PollingCall.onEpoll, EpollCall.run, hepoll]
      exact htogether
    · rw [PollingCall.onPoll, PollCall.run, hpoll, PollingCall.epollCode, hepoll]
      rfl
    · refine ⟨False.elim, fun _ => ?_⟩
      rw [PollingCall.pollSteps, PollingCall.onPoll, PollCall.log, hpoll]
      rfl
  · have hpoll := t.registers.remove_unregistered hmem
    have hepoll : Proc.exec (EpollState.remove none fd) s = (.error (ERRNOHR ENOENT), s) := by
      rw [EpollState.remove, hcontrol, epollCtl_absent (t.interest_eq_none.mpr hmem)]
      rfl
    refine t.refused hpoll ?_ (by decide) ?_ (by simp) ?_ rfl
    · rw [PollingCall.onEpoll, EpollCall.run, hepoll]
    · rw [PollingCall.epollCode, hepoll]
      exact ERRNOHR_failed ENOENT
    · rw [PollingCall.pollSteps, PollingCall.onPoll, PollCall.log, hpoll]

theorem changeEventSet_lockstep (t : Together maxSockets listed p s) {fd : Int32} {eventflags : UInt32} (hfd : fd ≠ -1)
    (hlevel : eventflags &&& IPOLLING_EDGETRIGGER = 0) : Lockstep maxSockets p s (.changeEventSet fd eventflags) := by
  have hcontrol := control_open t.opened hfd .mod none ⟨CEpoll.toNativeFlags eventflags, fd⟩
  by_cases hmem : fd ∈ listed
  · obtain ⟨hregisters, hexact, hfollows⟩ := t.onPoll (.changeEventSet fd eventflags) trivial trivial id
    obtain ⟨pos, hpos⟩ := List.mem_iff_getElem?.mp hmem
    have hentry : ∃ pfd, p.fds[pos]? = some pfd ∧ pfd.fd = fd := by
      rw [← t.registers.fds_eq, CPoll.fdsOf, List.getElem?_map, Option.map_eq_some_iff] at hpos
      exact hpos
    obtain ⟨pfd, hget, rfl⟩ := hentry
    have hpoll : (PollCall.changeEventSet pfd.fd eventflags).run p = (.ok (), { p with
        fds := p.fds.set pos { pfd with events := CPoll.toShort (CPoll.toNativeFlags eventflags) } }) := by
      have hgetD : p.fds.getD pos default = pfd := by rw [List.getD_eq_getElem?_getD, hget, Option.getD_some]
      rw [PollCall.run, CPoll.changeEventSet, Proc.exec_bind_ok (t.registers.position_registered hpos), Proc.exec_modify, hgetD]
    have hfds : ((PollCall.changeEventSet pfd.fd eventflags).run p).2.fds =
        p.fds.set pos { pfd with events := CPoll.toShort (CPoll.toNativeFlags eventflags) } := by rw [hpoll]
    have hpending : CPoll.pending ((PollCall.changeEventSet pfd.fd eventflags).run p).2.fds = CPoll.pending p.fds := by
      have hset := CPoll.map_report_set p.fds pos (CPoll.toShort (CPoll.toNativeFlags eventflags))
      rw [List.getD_eq_getElem?_getD, hget, Option.getD_some] at hset
      rw [hpoll]
      exact CPoll.pending_congr (.of_eq hset)
    obtain ⟨known, hknown⟩ := t.interest_isSome hmem
    have hepoll : Proc.exec (EpollState.changeEventSet none pfd.fd eventflags) s =
        (.ok (), { s with
          interest := Function.update s.interest pfd.fd (some ⟨CEpoll.toNativeFlags eventflags, pfd.fd⟩) }) := by
      rw [EpollState.changeEventSet, hcontrol, epollCtl_known hknown]
      rfl
    have htogether := t.updated pfd.fd (some (CPoll.toShort (CPoll.toNativeFlags eventflags))) hregisters hexact
      (hfds ▸ requests_changed t.distinct_fds hget _) (request_native eventflags) hpending
    rw [Option.map_some, request_eq hlevel] at htogether
    refine ⟨?_, ?_, ⟨False.elim, fun _ => rfl⟩, hfollows, trivial⟩
    · rw [PollingCall.onEpoll, EpollCall.run, hepoll]
      exact htogether
    · rw [PollingCall.onPoll, hpoll, PollingCall.epollCode, hepoll]
      rfl
  · have hpoll := t.registers.changeEventSet_unregistered hmem eventflags
    have hepoll : Proc.exec (EpollState.changeEventSet none fd eventflags) s = (.error (ERRNOHR ENOENT), s) := by
      rw [EpollState.changeEventSet, hcontrol, epollCtl_absent (t.interest_eq_none.mpr hmem)]
      rfl
    refine t.refused hpoll ?_ (by decide) ?_ (by simp) rfl rfl
    · rw [PollingCall.onEpoll, EpollCall.run, hepoll]
    · rw [PollingCall.epollCode, hepoll]
      exact ERRNOHR_failed ENOENT

/-! ## What the kernel finds -/

namespace Together

/-- Both call the kernel where nothing is left. -/
theorem asks_iff (t : Together maxSockets listed p s) : AsksKernel s ↔ CPoll.pending p.fds = 0 := by
  rw [t.left, List.length_eq_zero_iff, EpollState.pending_eq_nil t.inv]
  exact and_iff_right t.opened

theorem length_le (t : Together maxSockets listed p s) : p.fds.length ≤ maxSockets := by
  obtain ⟨entries, hstores, hperm⟩ := t.registers.entries_perm
  have hle := hstores.length_le
  rwa [t.registers.capacity_eq, hperm.length_eq, List.length_mapIdx] at hle

theorem isReady_iff (t : Together maxSockets listed p s) {conditions : Int32 → UInt32} {fd : Int32} :
    IsReady s.interest conditions fd ↔ ∃ pfd ∈ p.fds, reventsOf conditions pfd ≠ 0 ∧ pfd.fd = fd := by
  have hkeys : ((asked p.fds).map Prod.fst).Nodup := by
    rw [asked_fst]
    exact t.distinct_fds
  have hrequest : ∀ events, requests p.fds fd = some events ↔ ∃ pfd ∈ p.fds, pfd.fd = fd ∧ pfd.events = events := by
    intro events
    rw [requests, Queue.byKey_eq_some hkeys]
    simp [asked]
  have hshort : ∀ x, IsNative x → (CPoll.toShort x ≠ 0 ↔ x ≠ 0) := by
    intro x hx
    refine not_congr ⟨fun hzero => ?_, fun hzero => by rw [hzero]; rfl⟩
    rw [← short_native hx, hzero]
    rfl
  rw [IsReady, t.known]
  constructor
  · intro h
    obtain ⟨known, hknown, hready⟩ := h
    obtain ⟨events, hevents, rfl⟩ := Option.map_eq_some_iff.mp hknown
    have hnative := IsNative.reported (conditions fd) (t.native fd events hevents)
    obtain ⟨pfd, hpfd, rfl, rfl⟩ := (hrequest events).mp hevents
    exact ⟨pfd, hpfd, (hshort _ hnative).mpr hready, rfl⟩
  · intro h
    obtain ⟨pfd, hpfd, hready, rfl⟩ := h
    have hevents := (hrequest pfd.events).mpr ⟨pfd, hpfd, rfl, rfl⟩
    have hnative := IsNative.reported (conditions pfd.fd) (t.native pfd.fd pfd.events hevents)
    exact ⟨_, Option.map_eq_some_iff.mpr ⟨pfd.events, hevents, rfl⟩, (hshort _ hnative).mp hready⟩

variable {conditions : Int32 → UInt32} {ready : List Int32}

/-- There is room for every ready descriptor, so `epoll_wait` reports them all. -/
theorem mem_ready (t : Together maxSockets listed p s) (hmax : maxSockets < 2 ^ 31) (hready : ListsReady s conditions ready)
    {fd : Int32} : fd ∈ ready ↔ IsReady s.interest conditions fd := by
  have hevents : s.maxevents = maxSockets := by rw [EpollState.maxevents_eq (by rwa [t.size]), t.size]
  have hlisted : ∀ other, IsReady s.interest conditions other → other ∈ listed := by
    intro other h
    obtain ⟨known, hknown, -⟩ := h
    by_contra hnot
    rw [t.interest_eq_none.mpr hnot] at hknown
    cases hknown
  refine ⟨hready.ready_of_mem fd, fun h => ?_⟩
  by_cases hless : (ready.length : Int) < s.maxevents
  · exact hready.complete hless fd h
  · have hsub : List.Subperm ready listed :=
      List.subperm_of_subset hready.distinct fun other hmem => hlisted other (hready.ready_of_mem other hmem)
    have hlength := t.length_le
    have hlisted_length := t.registers.length_eq
    have hperm : ready.Perm listed := hsub.perm_of_length_le (by omega)
    exact hperm.mem_iff.mpr (hlisted fd h)

/-- `poll` counts as many as `epoll_wait`. -/
theorem ret_eq (t : Together maxSockets listed p s) (hmax : maxSockets < 2 ^ 31) (hready : ListsReady s conditions ready) :
    (pollOn conditions p.fds).ret = ready.length := by
  have hsub : ((p.fds.filter fun pfd => reventsOf conditions pfd ≠ 0).map Pollfd.fd).Nodup :=
    t.distinct_fds.sublist (List.filter_sublist.map Pollfd.fd)
  have hperm : ready.Perm ((p.fds.filter fun pfd => reventsOf conditions pfd ≠ 0).map Pollfd.fd) := by
    rw [List.perm_ext_iff_of_nodup hready.distinct hsub]
    intro fd
    rw [t.mem_ready hmax hready, t.isReady_iff]
    simp [and_assoc]
  rw [hperm.length_eq, List.length_map, ← List.countP_eq_length_filter]
  rfl

theorem eventOf_fd (t : Together maxSockets listed p s) (hready : ListsReady s conditions ready) :
    ∀ fd ∈ ready, (eventOf s.interest conditions fd).fd = fd := by
  intro fd hfd
  obtain ⟨known, hknown, -⟩ := hready.ready_of_mem fd hfd
  have hdata := t.inv.data_fd fd known hknown
  rwa [eventOf, hknown, Option.getD_some]

/-- Both calls find the same events. -/
theorem found_eq (t : Together maxSockets listed p s) (hmax : maxSockets < 2 ^ 31) (hready : ListsReady s conditions ready) :
    CPoll.waiting (CPoll.polled (pollOn conditions p.fds) p.fds) =
      Queue.byKey PollEvent.fd PollEvent.eventflags (answered (.ok (ready.map (eventOf s.interest conditions)))) := by
  funext fd
  have hmake : ∀ other ∈ ready, (EpollState.report (eventOf s.interest conditions other)).fd = other := t.eventOf_fd hready
  have hfound := Queue.byKey_map PollEvent.eventflags hmake fd
  have hmem : fd ∈ ready ↔ IsReady s.interest conditions fd := t.mem_ready hmax hready
  rw [answered, List.map_map, Function.comp_def, hfound, waiting_pollOn]
  have hknown := congrFun t.known fd
  cases hrequest : requests p.fds fd with
  | none =>
    rw [hrequest, Option.map_none] at hknown
    rw [if_neg, Option.bind_none]
    intro hin
    obtain ⟨known, hsome, -⟩ := hmem.mp hin
    rw [hknown] at hsome
    cases hsome
  | some events =>
    rw [hrequest, Option.map_some] at hknown
    have hnative := IsNative.reported (conditions fd) (t.native fd events hrequest)
    rw [Option.bind_some, CPoll.flagsOf]
    by_cases hin : fd ∈ ready
    · obtain ⟨pfd, hpfd, hrevents, rfl⟩ := t.isReady_iff.mp (hmem.mp hin)
      obtain ⟨known, hsome, hevent⟩ := hmem.mp hin
      rw [hknown] at hsome
      cases hsome
      have hshort : CPoll.toShort (reported (conditions pfd.fd) (CPoll.ofShort events)) ≠ 0 := by
        intro hzero
        apply hevent
        rw [← short_native hnative, hzero]
        rfl
      rw [if_pos hin, if_pos hshort, short_native hnative, EpollState.report, eventOf, hknown, Option.getD_some,
        fromNativeFlags_eq hnative]
    · have hzero : reported (conditions fd) (CPoll.ofShort events) = 0 := by
        by_contra hevent
        exact hin (hmem.mpr ⟨_, hknown, hevent⟩)
      rw [if_neg hin, hzero]
      rfl

end Together

/-! ## Waiting -/

/-- A search that takes an event leaves the requests. -/
theorem findNextEvent_asked (hexact : Exact p) (hpending : 0 < CPoll.pending p.fds) (event : PollEvent) :
    ∃ q returned, CPoll.findNextEvent p event = (true, q, returned) ∧ CPoll.pending q.fds + 1 = CPoll.pending p.fds ∧
      asked q.fds = asked p.fds := by
  have hunread : p.unreadcount ≠ 0 := by
    intro hzero
    rw [Exact, hzero, UInt32.toNat_zero] at hexact
    omega
  obtain ⟨i, pfd, rotation, hi, hevent, hfound⟩ := CPoll.findNextEvent_some hunread hpending event
  exact ⟨_, _, hfound, CPoll.pending_taken hi hevent, asked_taken hi⟩

theorem reachesPoll_iff (hinit : p.fInitialized = true) (hexact : Exact p) (event : PollEvent) :
    CPoll.reachesPoll p event = true ↔ p.fds.length ≠ 0 ∧ CPoll.pending p.fds = 0 := by
  by_cases hpending : CPoll.pending p.fds = 0
  · obtain ⟨rotation, hnone⟩ := CPoll.findNextEvent_none hpending { event with eventflags := 0 }
    simp [CPoll.reachesPoll, hnone, hinit, hpending]
  · obtain ⟨q, returned, hfound, -⟩ := findNextEvent_asked hexact (Nat.pos_of_ne_zero hpending) { event with eventflags := 0 }
    simp [CPoll.reachesPoll, hfound, hpending]

/-- What waiting leaves of the two. -/
theorem Together.waited (t : Together maxSockets listed p s) {q : CPoll} {s' : EpollState}
    (hregisters : ∃ listed', q.Registers maxSockets listed') (hexact : Exact q) (hasked : asked q.fds = asked p.fds)
    (hinv : s'.Inv) (hopened : s'.object.epollfd = s.object.epollfd) (hsize : s'.object.sizeEvents = s.object.sizeEvents)
    (hinterest : s'.interest = s.interest) (hleft : CPoll.pending q.fds = s'.pending.length)
    (hdistinct : (s'.pending.map EpollEvent.fd).Nodup) : ∃ listed', Together maxSockets listed' q s' := by
  obtain ⟨listed', r⟩ := hregisters
  have hrequests : requests q.fds = requests p.fds := by rw [requests, requests, hasked]
  refine ⟨listed', r, hexact, hinv, ?_, hsize.trans t.size, ?_, ?_, hleft, hdistinct⟩
  · rw [hopened]
    exact t.opened
  · rw [hinterest, t.known, hrequests]
  · rw [hrequests]
    exact t.native

/-- The log of a wait drops nothing. -/
theorem wait_keeps (f : Int32 → Option UInt32) (host : Except Nat (Int32 → UInt32)) (ready : List Int32) :
    Batches.Keeps f ((PollingCall.waitForNextEvent host ready).pollSteps p) := by
  apply Batches.keeps_of_no_drop
  intro fd hmem
  rw [PollingCall.pollSteps, PollingCall.onPoll, PollCall.log, List.mem_append] at hmem
  rcases hmem with hmem | hmem
  all_goals split at hmem
  all_goals simp at hmem

/-- A wait brings a batch where it calls the kernel. -/
theorem batches_pollWait (p : CPoll) (event : PollEvent) (answer : PollAnswer) :
    Batches.batches ((PollCall.waitForNextEvent event answer).log p) =
      if CPoll.reachesPoll p event = true then [CPoll.waiting (CPoll.polled answer p.fds)] else [] := by
  rw [PollCall.log]
  by_cases hreach : CPoll.reachesPoll p event = true
  · rw [if_pos hreach, if_pos hreach]
    split <;> rfl
  · rw [if_neg hreach, if_neg hreach]
    split <;> rfl

theorem batches_epollWait (s : EpollState) (host : Except Nat (Int32 → UInt32)) (ready : List Int32) :
    Batches.batches ((PollingCall.waitForNextEvent host ready).epollSteps s) =
      if AsksKernel s then
        [Queue.byKey PollEvent.fd PollEvent.eventflags (answered (PollingCall.epollAnswer s.interest ready host))]
      else [] := by
  rw [PollingCall.epollSteps, PollingCall.onEpoll, EpollCall.log]
  by_cases hasks : AsksKernel s
  · rw [if_pos hasks, if_pos hasks]
    split <;> rfl
  · rw [if_neg hasks, if_neg hasks]
    split <;> rfl

/-- `epoll_wait` is called and finds `events`: the first of them is returned, if there is one. -/
theorem epoll_asked (h : s.Inv) (hasks : AsksKernel s) {events : List EpollEvent}
    (hroom : events.length ≤ s.object.sizeEvents) :
    ∃ outcome s', Proc.exec (EpollState.waitForNextEvent (.ok events)) s = (outcome, s') ∧
      hrOf outcome = (if events.length = 0 then S_FALSE else S_OK) ∧ s'.pending = events.tail ∧ s'.Inv ∧
      s'.object.epollfd = s.object.epollfd ∧ s'.object.sizeEvents = s.object.sizeEvents ∧ s'.interest = s.interest := by
  obtain ⟨-, hnone, hfound⟩ := EpollState.exec_wait_asked h hasks.1 hasks.2
  cases events with
  | nil =>
    obtain ⟨hinv, hpending⟩ := EpollState.waited_spec h hroom
    exact ⟨_, _, hnone, rfl, hpending, hinv, rfl, rfl, rfl⟩
  | cons ev rest =>
    obtain ⟨s', hexec, hpending, hinv, -, hopened, hinterest, hsize⟩ := hfound ev rest hroom
    exact ⟨_, s', hexec, rfl, hpending, hinv, hopened, hsize, hinterest⟩

/-- An event is left for both: each returns one, and no kernel is called. -/
theorem wait_lockstep_left (t : Together maxSockets listed p s) (hpending : 0 < CPoll.pending p.fds)
    (host : Except Nat (Int32 → UInt32)) (ready : List Int32) : Lockstep maxSockets p s (.waitForNextEvent host ready) := by
  have hsize : p.fds.length ≠ 0 := by
    have hle : CPoll.pending p.fds ≤ p.fds.length := List.countP_le_length
    omega
  have hreach : ¬ CPoll.reachesPoll p default = true := by
    rw [reachesPoll_iff t.registers.initialized t.exact]
    omega
  obtain ⟨hregisters, hexact, hfollows⟩ := t.onPoll
    (.waitForNextEvent default (PollingCall.pollAnswer p.fds host)) (fun h => absurd h hreach) trivial id
  obtain ⟨q, returned, hfound, hless, hasked⟩ :=
    findNextEvent_asked t.exact hpending { (default : PollEvent) with eventflags := 0 }
  have hpoll := CPoll.exec_wait_found t.registers.initialized hsize (PollingCall.pollAnswer p.fds host) hfound
  have hrun : (PollCall.waitForNextEvent default (PollingCall.pollAnswer p.fds host)).run p = (.ok (), q) := by
    rw [PollCall.run, hpoll]
  have hlt : s.object.currentEventIndex < s.object.pendingCount := by
    by_contra hnot
    have hzero := t.asks_iff.mp ⟨t.opened, Nat.le_of_not_lt hnot⟩
    omega
  obtain ⟨ev, s', hepoll, hcons, hinv, -, hopened, hinterest, hsizeEvents⟩ :=
    EpollState.exec_wait_pending t.inv t.opened hlt (PollingCall.epollAnswer s.interest ready host)
  have hasks : ¬ AsksKernel s := fun hasks => absurd hasks.2 (Nat.not_le.mpr hlt)
  have hleft := t.left
  have hdistinct := t.distinct
  rw [hcons] at hleft hdistinct
  rw [hrun] at hregisters hexact hfollows
  have hsome : ¬ (PollingCall.waitForNextEvent host ready).WaitsOnNothing p := fun h => hsize (by rw [h]; rfl)
  refine ⟨?_, ?_, ?_, ?_, wait_keeps _ host ready⟩
  · rw [PollingCall.onPoll, hrun, PollingCall.onEpoll, EpollCall.run, hepoll]
    refine t.waited hregisters hexact hasked hinv hopened hsizeEvents hinterest ?_ (List.nodup_cons.mp hdistinct).2
    change CPoll.pending q.fds = s'.pending.length
    rw [List.length_cons] at hleft
    omega
  · rw [PollingCall.onPoll, hrun, PollingCall.epollCode, hepoll]
    rfl
  · refine ⟨fun h => absurd h hsome, fun _ => ?_⟩
    rw [PollingCall.pollSteps, PollingCall.onPoll, batches_pollWait, if_neg hreach, batches_epollWait, if_neg hasks]
  · rw [PollingCall.pollSteps, PollingCall.onPoll, hrun]
    exact hfollows

/-- Nothing is registered: `CPoll` does not call `poll`, and `epoll_wait` finds nothing. -/
theorem wait_lockstep_empty (t : Together maxSockets listed p s) (hfds : p.fds = []) {conditions : Int32 → UInt32}
    {ready : List Int32} (hready : ListsReady s conditions ready) :
    Lockstep maxSockets p s (.waitForNextEvent (.ok conditions) ready) := by
  have hpending : CPoll.pending p.fds = 0 := by rw [hfds]; rfl
  have hasks := t.asks_iff.mpr hpending
  have hnone : ready = [] := by
    apply List.eq_nil_iff_forall_not_mem.mpr
    intro fd hfd
    obtain ⟨pfd, hpfd, -⟩ := t.isReady_iff.mp (hready.ready_of_mem fd hfd)
    simp [hfds] at hpfd
  subst hnone
  have hpoll := CPoll.exec_wait_empty t.registers.initialized (by rw [hfds]; rfl)
    (PollingCall.pollAnswer p.fds (.ok conditions)) (default : PollEvent)
  have hrun : (PollCall.waitForNextEvent default (PollingCall.pollAnswer p.fds (.ok conditions))).run p =
      (.error (.code S_FALSE), p) := by rw [PollCall.run, hpoll]
  have hroom : ([] : List EpollEvent).length ≤ s.object.sizeEvents := Nat.zero_le _
  obtain ⟨outcome, s', hepoll, hcode, hnothing, hinv, hopened, hsize, hinterest⟩ :=
    epoll_asked t.inv hasks hroom
  have hreach : ¬ CPoll.reachesPoll p default = true := by
    rw [reachesPoll_iff t.registers.initialized t.exact, hfds]
    exact fun h => h.1 rfl
  have hsteps : (PollingCall.waitForNextEvent (.ok conditions) []).pollSteps p = [] := by
    rw [PollingCall.pollSteps, PollingCall.onPoll, PollCall.log, if_neg hreach, hpoll]
    rfl
  have hesteps : (PollingCall.waitForNextEvent (.ok conditions) []).epollSteps s = [.batch fun _ => none] := by
    have hanswer : PollingCall.epollAnswer s.interest [] (.ok conditions) = .ok [] := rfl
    rw [PollingCall.epollSteps, PollingCall.onEpoll, hanswer, EpollCall.log, if_pos hasks, hepoll]
    cases outcome with
    | ok event => cases hcode
    | error stop => rfl
  refine ⟨?_, ?_, ?_, ?_, wait_keeps _ _ _⟩
  · rw [PollingCall.onPoll, hrun, PollingCall.onEpoll, EpollCall.run]
    change ∃ listed', Together maxSockets listed' p (Proc.exec (EpollState.waitForNextEvent (.ok [])) s).2
    rw [hepoll]
    refine t.waited ⟨listed, t.registers⟩ t.exact rfl hinv hopened hsize hinterest ?_ ?_ <;> rw [hnothing]
    · exact hpending
    · exact List.nodup_nil
  · rw [PollingCall.onPoll, hrun, PollingCall.epollCode]
    change some S_FALSE = some (hrOf (Proc.exec (EpollState.waitForNextEvent (.ok [])) s).1)
    rw [hepoll, hcode]
    rfl
  · exact ⟨fun _ => ⟨hsteps, hesteps⟩, fun hsome => absurd hfds hsome⟩
  · rw [hsteps, PollingCall.onPoll, hrun]
    rfl

/-- `poll` is called and counts `n` events: the first of them is returned, if there is one. -/
theorem poll_asked (hinit : p.fInitialized = true) (hsize : p.fds.length ≠ 0) (hpending : CPoll.pending p.fds = 0)
    {answer : PollAnswer} {n : Nat} (hret : answer.ret = n) (hcount : CPoll.pending (CPoll.polled answer p.fds) = n)
    (hlt : n < 2 ^ 31) :
    ∃ q, (PollCall.waitForNextEvent default answer).run p = (if n = 0 then .error (.code S_FALSE) else .ok (), q) ∧
      CPoll.pending q.fds = n - 1 ∧ asked q.fds = asked p.fds := by
  obtain ⟨rotation, hnone⟩ := CPoll.findNextEvent_none hpending { (default : PollEvent) with eventflags := 0 }
  have hrun := CPoll.exec_wait_polled hinit hsize answer hnone
  have hneg : ¬ answer.ret < 0 := by omega
  rw [if_neg hneg] at hrun
  by_cases hzero : n = 0
  · rw [if_pos (by omega)] at hrun
    refine ⟨{ p with rotation, unreadcount := 0, fds := CPoll.polled answer p.fds }, ?_, ?_, ?_⟩
    · rw [PollCall.run, hrun, if_pos hzero]
    · exact hcount.trans (by omega)
    · exact asked_polled answer p.fds
  · rw [if_neg (by omega)] at hrun
    have hunread : (UInt32.ofInt answer.ret).toNat = n := by
      have hfits : (answer.ret % 2 ^ 32).toNat = n := by omega
      rw [UInt32.ofInt, hfits, UInt32.toNat_ofNat_of_lt']
      change _ < 2 ^ 32
      omega
    have hexact : Exact { p with rotation, unreadcount := UInt32.ofInt answer.ret, fds := CPoll.polled answer p.fds } :=
      hunread.trans hcount.symm
    obtain ⟨q, returned, hfound, hless, hasked⟩ := findNextEvent_asked hexact
      (Nat.lt_of_lt_of_eq (Nat.pos_of_ne_zero hzero) hcount.symm) { (default : PollEvent) with eventflags := 0 }
    dsimp only at hrun
    rw [hfound] at hrun
    refine ⟨q, ?_, ?_, hasked.trans (asked_polled answer p.fds)⟩
    · rw [PollCall.run, hrun, if_neg hzero]
      rfl
    · change CPoll.pending q.fds + 1 = CPoll.pending (CPoll.polled answer p.fds) at hless
      omega

/-- The kernel fails for both. -/
theorem wait_lockstep_failed (t : Together maxSockets listed p s) (hfds : p.fds ≠ []) (hpending : CPoll.pending p.fds = 0)
    (errno : Nat) (ready : List Int32) : Lockstep maxSockets p s (.waitForNextEvent (.error errno) ready) := by
  have hasks := t.asks_iff.mpr hpending
  have hsize : p.fds.length ≠ 0 := fun h => hfds (List.length_eq_zero_iff.mp h)
  have hreach := (reachesPoll_iff t.registers.initialized t.exact default).mpr ⟨hsize, hpending⟩
  have hpolled := polled_pollFails errno p.fds
  have hneg : (pollFails errno p.fds).ret < 0 := by
    change (-1 : Int) < 0
    decide
  obtain ⟨hregisters, hexact, hfollows⟩ := t.onPoll (.waitForNextEvent default (pollFails errno p.fds))
    (fun _ => ⟨hneg.trans (by decide), Or.inr ⟨hneg, by rw [hpolled, hpending]⟩⟩) trivial id
  obtain ⟨rotation, hnone⟩ := CPoll.findNextEvent_none hpending { (default : PollEvent) with eventflags := 0 }
  have hpoll := CPoll.exec_wait_polled t.registers.initialized hsize (pollFails errno p.fds) hnone
  rw [if_pos hneg] at hpoll
  have hrun : (PollCall.waitForNextEvent default (pollFails errno p.fds)).run p =
      (.error (.code (ERRNOHR errno)), { p with rotation, unreadcount := 0, fds := p.fds }) := by
    rw [PollCall.run, hpoll]
    simp only [hpolled]
    rfl
  obtain ⟨hepoll, -⟩ := EpollState.exec_wait_asked t.inv hasks.1 hasks.2
  have hwaiting := CPoll.waiting_eq_none hpending
  have hsteps : (PollingCall.waitForNextEvent (.error errno) ready).pollSteps p =
      (PollCall.waitForNextEvent default (pollFails errno p.fds)).log p := rfl
  have hinv : (s.waited (.error errno)).Inv := ⟨t.inv.length_eq, Nat.zero_le _, Nat.le_refl 0, t.inv.data_fd⟩
  refine ⟨?_, ?_, ?_, ?_, wait_keeps _ _ _⟩
  · change ∃ listed', Together maxSockets listed' ((PollCall.waitForNextEvent default (pollFails errno p.fds)).run p).2
      (Proc.exec (EpollState.waitForNextEvent (.error errno)) s).2
    rw [hrun] at hregisters hexact
    rw [hrun, hepoll]
    exact t.waited hregisters hexact rfl hinv rfl rfl rfl hpending List.nodup_nil
  · change (stopCode (Proc.exec (CPoll.waitForNextEvent (pollFails errno p.fds)) (p, default)).1) =
      some (hrOf (Proc.exec (EpollState.waitForNextEvent (.error errno)) s).1)
    rw [hpoll, hepoll]
    rfl
  · refine ⟨fun h => absurd h hfds, fun _ => ?_⟩
    rw [hsteps, batches_pollWait, if_pos hreach, batches_epollWait, if_pos hasks, hpolled]
    exact congrArg (fun events => [events]) (funext hwaiting)
  · rw [hsteps]
    exact hfollows

/-- The kernel is called for both and finds the same events; each returns one of them, if there is one. -/
theorem wait_lockstep_asked (t : Together maxSockets listed p s) (hfds : p.fds ≠ []) (hpending : CPoll.pending p.fds = 0)
    (hmax : maxSockets < 2 ^ 31) {conditions : Int32 → UInt32} {ready : List Int32}
    (hready : ListsReady s conditions ready) : Lockstep maxSockets p s (.waitForNextEvent (.ok conditions) ready) := by
  have hasks := t.asks_iff.mpr hpending
  have hsize : p.fds.length ≠ 0 := fun h => hfds (List.length_eq_zero_iff.mp h)
  have hreach := (reachesPoll_iff t.registers.initialized t.exact default).mpr ⟨hsize, hpending⟩
  have hret := t.ret_eq hmax hready
  have hcount : CPoll.pending (CPoll.polled (pollOn conditions p.fds) p.fds) = ready.length := by
    have hsame := pending_pollOn conditions p.fds
    omega
  have hroom : ready.length ≤ s.object.sizeEvents := by
    have hle := hready.at_most
    have hevents := s.maxevents_le
    omega
  have hlt : ready.length < 2 ^ 31 := by
    rw [t.size] at hroom
    omega
  obtain ⟨hregisters, hexact, hfollows⟩ := t.onPoll (.waitForNextEvent default (pollOn conditions p.fds))
    (fun _ => ⟨by omega, Or.inl (by rw [hret, hcount])⟩) trivial id
  obtain ⟨q, hrun, hless, hasked⟩ := poll_asked t.registers.initialized hsize hpending hret hcount hlt
  have hsteps : (PollingCall.waitForNextEvent (.ok conditions) ready).pollSteps p =
      (PollCall.waitForNextEvent default (pollOn conditions p.fds)).log p := rfl
  have hlength : (ready.map (eventOf s.interest conditions)).length = ready.length := List.length_map _
  obtain ⟨outcome, s', hepoll, hcode, hleft, hinv, hopened, hsizeEvents, hinterest⟩ :=
    epoll_asked t.inv hasks (hlength.trans_le hroom)
  have hkeys : (ready.map (eventOf s.interest conditions)).map EpollEvent.fd = ready := by
    rw [List.map_map]
    exact (List.map_congr_left (t.eventOf_fd hready)).trans (List.map_id' ready)
  refine ⟨?_, ?_, ?_, ?_, wait_keeps _ _ _⟩
  · change ∃ listed', Together maxSockets listed' ((PollCall.waitForNextEvent default (pollOn conditions p.fds)).run p).2
      (Proc.exec (EpollState.waitForNextEvent (.ok (ready.map (eventOf s.interest conditions)))) s).2
    rw [hrun] at hregisters hexact
    rw [hrun, hepoll]
    refine t.waited hregisters hexact hasked hinv hopened hsizeEvents hinterest ?_ ?_ <;> rw [hleft]
    · rw [hless, List.length_tail, hlength]
    · rw [List.map_tail, hkeys]
      exact hready.distinct.tail
  · change (stopCode ((PollCall.waitForNextEvent default (pollOn conditions p.fds)).run p).1) =
      some (hrOf (Proc.exec (EpollState.waitForNextEvent (.ok (ready.map (eventOf s.interest conditions)))) s).1)
    rw [hrun, hepoll, hcode, hlength]
    by_cases hnone : ready.length = 0
    · rw [if_pos hnone, if_pos hnone]
      rfl
    · rw [if_neg hnone, if_neg hnone]
      rfl
  · refine ⟨fun h => absurd h hfds, fun _ => ?_⟩
    rw [hsteps, batches_pollWait, if_pos hreach, batches_epollWait, if_pos hasks, t.found_eq hmax hready]
    rfl
  · rw [hsteps]
    exact hfollows

theorem call_lockstep (t : Together maxSockets listed p s) (hmax : maxSockets < 2 ^ 31) {call : PollingCall}
    (h : call.Admissible maxSockets p s) : Lockstep maxSockets p s call := by
  cases call with
  | add fd eventflags =>
    obtain ⟨hfd, hlevel, hroom⟩ := h
    exact add_lockstep t hmax hfd hlevel hroom
  | remove fd => exact remove_lockstep t h.1 h.2
  | changeEventSet fd eventflags => exact changeEventSet_lockstep t h.1 h.2
  | waitForNextEvent host ready =>
    by_cases hpending : CPoll.pending p.fds = 0
    · cases host with
      | error errno => exact wait_lockstep_failed t h hpending errno ready
      | ok conditions =>
        have hready := h (t.asks_iff.mpr hpending)
        by_cases hfds : p.fds = []
        · exact wait_lockstep_empty t hfds hready
        · exact wait_lockstep_asked t hfds hpending hmax hready
    · exact wait_lockstep_left t (Nat.pos_of_ne_zero hpending) host ready

/-! ## The events of the CEpoll, by descriptor -/

/-- The events that are left, by descriptor. -/
def leftByFd (s : EpollState) : Int32 → Option UInt32 :=
  Queue.byKey PollEvent.fd PollEvent.eventflags (s.pending.map EpollState.report)

theorem epollSteps_follows (t : Together maxSockets listed p s) {call : PollingCall} (h : call.Admissible maxSockets p s) :
    Batches.Follows (leftByFd s) (call.epollSteps s) (leftByFd ((call.onEpoll s).run s)) := by
  have hanswered : (call.onEpoll s).Answered s := by
    cases call with
    | waitForNextEvent host ready =>
      intro hasks
      cases host with
      | error errno => trivial
      | ok conditions =>
        change ((ready.map (eventOf s.interest conditions)).length : Int) ≤ s.maxevents
        rw [List.length_map]
        exact (h hasks).at_most
    | _ => trivial
  have hbatches : ∀ items, .batch items ∈ (call.onEpoll s).log s → (items.map PollEvent.fd).Nodup := by
    intro items hmem
    cases call with
    | waitForNextEvent host ready =>
      rw [PollingCall.onEpoll, EpollCall.log, List.mem_append] at hmem
      rcases hmem with hmem | hmem
      · split at hmem
        next hasks =>
          cases List.mem_singleton.mp hmem
          cases host with
          | error errno => exact List.nodup_nil
          | ok conditions =>
            have hready := h hasks
            have hkeys : ((ready.map (eventOf s.interest conditions)).map EpollState.report).map PollEvent.fd = ready := by
              rw [List.map_map, List.map_map]
              exact (List.map_congr_left (t.eventOf_fd hready)).trans (List.map_id' ready)
            change (((ready.map (eventOf s.interest conditions)).map EpollState.report).map PollEvent.fd).Nodup
            rw [hkeys]
            exact hready.distinct
        next => cases hmem
      · split at hmem
        · cases List.mem_singleton.mp hmem
        · cases hmem
    | add fd eventflags => cases hmem
    | remove fd => cases hmem
    | changeEventSet fd eventflags => cases hmem
  have hkeeps : .discard ∉ (call.onEpoll s).log s := by
    cases call with
    | waitForNextEvent host ready =>
      rw [PollingCall.onEpoll, EpollCall.log, List.mem_append]
      intro hmem
      rcases hmem with hmem | hmem
      all_goals split at hmem
      all_goals simp at hmem
    | add fd eventflags => exact List.not_mem_nil
    | remove fd => exact List.not_mem_nil
    | changeEventSet fd eventflags => exact List.not_mem_nil
  have hdistinct : ((s.pending.map EpollState.report).map PollEvent.fd).Nodup := by
    rw [List.map_map]
    exact t.distinct
  exact (epollCall_effect t.inv (call.onEpoll s) hanswered).follows.byKey PollEvent.eventflags hdistinct hbatches hkeeps

theorem epollSteps_keeps (f : Int32 → Option UInt32) (s : EpollState) (call : PollingCall) :
    Batches.Keeps f (call.epollSteps s) := by
  apply Batches.keeps_of_no_drop
  intro fd hmem
  obtain ⟨step, -, hstep⟩ := List.mem_flatMap.mp hmem
  cases step <;> simp [Queue.Step.byKey] at hstep

/-! ## Runs -/

def AllAdmissible (maxSockets : Nat) : CPoll → EpollState → List PollingCall → Prop
  | _, _, [] => True
  | p, s, call :: calls =>
    call.Admissible maxSockets p s ∧ AllAdmissible maxSockets ((call.onPoll p).run p).2 ((call.onEpoll s).run s) calls

/-- Every call returns the same code from both, or fails for both. -/
def SameCodes : CPoll → EpollState → List PollingCall → Prop
  | _, _, [] => True
  | p, s, call :: calls =>
    call.SameCode (stopCode ((call.onPoll p).run p).1) (call.epollCode s) ∧
      SameCodes ((call.onPoll p).run p).2 ((call.onEpoll s).run s) calls

/-- Every call calls the kernel for both, or for neither. -/
def SameKernelCalls : CPoll → EpollState → List PollingCall → Prop
  | _, _, [] => True
  | p, s, call :: calls =>
    call.SameKernelCall p s ∧ SameKernelCalls ((call.onPoll p).run p).2 ((call.onEpoll s).run s) calls

def pollTrace : CPoll → List PollingCall → List (Batches.Step Int32 UInt32)
  | _, [] => []
  | p, call :: calls => call.pollSteps p ++ pollTrace ((call.onPoll p).run p).2 calls

def epollTrace : CPoll → EpollState → List PollingCall → List (Batches.Step Int32 UInt32)
  | _, _, [] => []
  | p, s, call :: calls =>
    call.sharedSteps p s ++ epollTrace ((call.onPoll p).run p).2 ((call.onEpoll s).run s) calls

/-- A log of one whose events are delivered, and none dropped. -/
structure Delivers (f : Int32 → Option UInt32) (log : List (Batches.Step Int32 UInt32)) : Prop where
  follows : ∃ g, Batches.Follows f log g
  keeps : Batches.Keeps f log

theorem Delivers.append {f g : Int32 → Option UInt32} {log more : List (Batches.Step Int32 UInt32)}
    (hfollows : Batches.Follows f log g) (hkeeps : Batches.Keeps f log) (hmore : Delivers g more) : Delivers f (log ++ more) := by
  obtain ⟨⟨h, hrest⟩, hrestKeeps⟩ := hmore
  exact ⟨⟨h, hfollows.append hrest⟩, Batches.Keeps.append hfollows hkeeps hrestKeeps⟩

/-- Without the waits on no descriptors the two call the kernel at the same calls. -/
theorem PollingCall.SameKernelCall.batches {call : PollingCall} (h : call.SameKernelCall p s) :
    Batches.batches (call.pollSteps p) = Batches.batches (call.sharedSteps p s) := by
  rw [PollingCall.sharedSteps]
  split
  next hnothing => rw [(h.1 hnothing).1]
  next hsome => exact h.2 hsome

theorem sharedSteps_follows (t : Together maxSockets listed p s) {call : PollingCall} (h : call.Admissible maxSockets p s)
    (hkernel : call.SameKernelCall p s) :
    Batches.Follows (leftByFd s) (call.sharedSteps p s) (leftByFd ((call.onEpoll s).run s)) := by
  have hfollows := epollSteps_follows t h
  rw [PollingCall.sharedSteps]
  split
  next hnothing =>
    rw [(hkernel.1 hnothing).2] at hfollows
    exact (funext hfollows.1).trans hfollows.2
  next => exact hfollows

theorem sharedSteps_keeps (f : Int32 → Option UInt32) (p : CPoll) (s : EpollState) (call : PollingCall) :
    Batches.Keeps f (call.sharedSteps p s) := by
  rw [PollingCall.sharedSteps]
  split
  · trivial
  · exact epollSteps_keeps f s call

theorem run_lockstep (t : Together maxSockets listed p s) (hmax : maxSockets < 2 ^ 31) (calls : List PollingCall)
    (h : AllAdmissible maxSockets p s calls) :
    SameCodes p s calls ∧ SameKernelCalls p s calls ∧
      Batches.batches (pollTrace p calls) = Batches.batches (epollTrace p s calls) ∧
      Delivers (CPoll.waiting p.fds) (pollTrace p calls) ∧ Delivers (leftByFd s) (epollTrace p s calls) := by
  induction calls generalizing p s listed with
  | nil => exact ⟨trivial, trivial, rfl, ⟨⟨_, rfl⟩, trivial⟩, ⟨⟨_, rfl⟩, trivial⟩⟩
  | cons call calls ih =>
    obtain ⟨⟨listed', together⟩, hcode, hkernel, hpollFollows, hpollKeeps⟩ := call_lockstep t hmax h.1
    obtain ⟨hcodes, hkernels, hrest, hpoll, hepoll⟩ := ih together h.2
    refine ⟨⟨hcode, hcodes⟩, ⟨hkernel, hkernels⟩, ?_, .append hpollFollows hpollKeeps hpoll,
      .append (sharedSteps_follows t h.1 hkernel) (sharedSteps_keeps _ p s call) hepoll⟩
    rw [pollTrace, epollTrace, Batches.batches_append, Batches.batches_append, hkernel.batches, hrest]

/-- `CEpoll` after `Initialize(maxSockets)` on a host that has what it asks for. -/
def epollInitialized (epollfd : Nat) (uninitialized : Nat → EpollEvent) (maxSockets : Nat) : EpollState :=
  (EpollState.new.initializeEpoll ⟨true, .ok epollfd, true, none⟩ uninitialized maxSockets).2

theorem together_initialized (hpos : 1 ≤ maxSockets) (arrays : FastHashArrays Int32 Nat) (epollfd : Nat)
    (uninitialized : Nat → EpollEvent) :
    Together maxSockets [] (initialized arrays maxSockets) (epollInitialized epollfd uninitialized maxSockets) where
  registers := fresh_registers hpos arrays
  exact := rfl
  inv := (initialize_effect ⟨true, .ok epollfd, true, none⟩ uninitialized maxSockets EpollState.new).inv
  opened := nofun
  size := rfl
  known := rfl
  native := nofun
  left := rfl
  distinct := List.nodup_nil

/-- A `CPoll` and a `CEpoll` for `maxSockets` descriptors, under the same calls and on one host, whatever its descriptors
do: every call succeeds or fails for both, a wait with the same code; with a descriptor registered both come to call the
kernel at the same calls and find the same events; and what they return of these before the next call of the kernel are
the same events, in some order. -/
theorem polling_backends_agree (arrays : FastHashArrays Int32 Nat) (epollfd : Nat) (uninitialized : Nat → EpollEvent)
    (maxSockets : Nat) (hpos : 1 ≤ maxSockets) (hmax : maxSockets < 2 ^ 31) (calls : List PollingCall)
    (h : AllAdmissible maxSockets (initialized arrays maxSockets) (epollInitialized epollfd uninitialized maxSockets) calls) :
    let p := initialized arrays maxSockets
    let s := epollInitialized epollfd uninitialized maxSockets
    SameCodes p s calls ∧ SameKernelCalls p s calls ∧
      Batches.batches (pollTrace p calls) = Batches.batches (epollTrace p s calls) ∧
      List.Forall₂ List.Perm (Batches.perBatch (pollTrace p calls)).dropLast
        (Batches.perBatch (epollTrace p s calls)).dropLast := by
  intro p s
  obtain ⟨hcodes, hkernels, hbatches, ⟨⟨g, hpoll⟩, hpollKeeps⟩, ⟨g', hepoll⟩, hepollKeeps⟩ :=
    run_lockstep (together_initialized hpos arrays epollfd uninitialized) hmax calls h
  exact ⟨hcodes, hkernels, hbatches, hpoll.same hepoll hpollKeeps hepollKeeps hbatches⟩

/-- A wait on no descriptors; then two sockets become readable at once, and `epoll_wait` lists the later one first. -/
def bothReadable : List PollingCall :=
  [.waitForNextEvent (.ok fun _ => 1) [], .add 3 IPOLLING_READ, .add 4 IPOLLING_READ,
    .waitForNextEvent (.ok fun _ => 1) [4, 3], .waitForNextEvent (.ok fun _ => 1) [], .waitForNextEvent (.ok fun _ => 0) []]

theorem bothReadable_admissible : AllAdmissible 2 (initialized unwritten 2) (epollInitialized 7 default 2) bothReadable := by
  refine ⟨?_, ⟨by decide, by decide, Or.inr (by decide)⟩, ⟨by decide, by decide, Or.inr (by decide)⟩, ?_, ?_, ?_, trivial⟩
  · intro hasks
    refine ⟨List.nodup_nil, by decide, nofun, ?_⟩
    intro hless fd hready
    obtain ⟨known, hknown, -⟩ := hready
    cases hknown
  · intro hasks
    refine ⟨by decide, by decide, ?_, fun hless => absurd hless (by decide)⟩
    intro fd hfd
    rcases List.mem_cons.mp hfd with rfl | hfd
    · exact ⟨⟨1, 4⟩, rfl, by decide⟩
    · cases List.mem_singleton.mp hfd
      exact ⟨⟨1, 3⟩, rfl, by decide⟩
  · intro hasks
    exact absurd hasks (by decide)
  · intro hasks
    refine ⟨List.nodup_nil, by decide, nofun, ?_⟩
    intro hless fd hready
    obtain ⟨known, -, hevent⟩ := hready
    exact absurd UInt32.zero_and hevent

theorem polling_backends_agree_pair :
    let p := initialized unwritten 2
    let s := epollInitialized 7 default 2
    Batches.perBatch (pollTrace p bothReadable) = [[], [(3, 1), (4, 1)], []] ∧
      Batches.perBatch (epollTrace p s bothReadable) = [[], [(4, 1), (3, 1)], []] ∧
      SameCodes p s bothReadable ∧ SameKernelCalls p s bothReadable := by
  intro p s
  obtain ⟨hcodes, hkernels, -⟩ :=
    polling_backends_agree unwritten 7 default 2 (by decide) (by decide) bothReadable bothReadable_admissible
  exact ⟨by decide, by decide, hcodes, hkernels⟩

end NatTester.Guarantees
