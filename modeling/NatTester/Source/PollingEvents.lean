import NatTester.Lib.Batches
import NatTester.Source.PollingInvariant

/-!
# The events of CPoll

An entry of the vector with nonzero `revents` is an event that `poll` reported
and that is still to be returned. `_unreadcount` is never less than their number,
so a call of `poll` finds none of them left.
-/
namespace NatTester.Source
open NatTester.Lib

namespace CPoll

/-- The entries with an event, counted. -/
def pending (fds : List Pollfd) : Nat := fds.countP fun pfd => pfd.revents ≠ 0

/-- What the calls read of an entry to return its event. -/
def report (pfd : Pollfd) : Int32 × Int16 := (pfd.fd, pfd.revents)

variable {p : CPoll} {capacity : Nat} {fds : List Int32}

theorem getD_of_lt {xs : List Pollfd} {i : Nat} (hi : i < xs.length) : xs.getD i default = xs[i] := by
  rw [List.getD_eq_getElem?_getD, List.getElem?_eq_getElem hi, Option.getD_some]

theorem pending_eq (fds : List Pollfd) : pending fds = (fds.map report).countP fun entry => entry.2 ≠ 0 := by
  rw [List.countP_map]
  rfl

theorem pending_congr {xs ys : List Pollfd} (h : (xs.map report).Perm (ys.map report)) : pending xs = pending ys := by
  rw [pending_eq, pending_eq, h.countP_eq]

theorem pending_removed {xs rest : List Pollfd} {pfd : Pollfd} (hperm : (pfd :: rest).Perm xs) :
    pending xs = pending rest + if pfd.revents ≠ 0 then 1 else 0 := by
  rw [pending, pending, ← hperm.countP_eq, List.countP_cons]
  simp

theorem pending_added (xs : List Pollfd) (fd : Int32) (events : Int16) :
    pending (xs ++ [⟨fd, events, 0⟩]) = pending xs := by
  simp [pending]

/-- Other `events` of an entry do not touch its event. -/
theorem map_report_set (xs : List Pollfd) (i : Nat) (events : Int16) :
    (xs.set i { xs.getD i default with events }).map report = xs.map report := by
  by_cases hi : i < xs.length
  · have hlt : i < (xs.map report).length := by rwa [List.length_map]
    have hsame : report { xs.getD i default with events } = (xs.map report)[i] := by
      rw [getD_of_lt hi, List.getElem_map]
      rfl
    rw [List.map_set, hsame, List.set_getElem_self]
  · rw [List.set_eq_of_length_le (by omega)]

theorem pending_taken {xs : List Pollfd} {i : Nat} {pfd : Pollfd} (hi : xs[i]? = some pfd) (hevent : pfd.revents ≠ 0) :
    pending (xs.set i { pfd with revents := 0 }) + 1 = pending xs := by
  obtain ⟨hlt, rfl⟩ := List.getElem?_eq_some_iff.mp hi
  have hpos : 0 < pending xs := List.countP_pos_iff.mpr ⟨xs[i], List.getElem_mem hlt, by simpa using hevent⟩
  rw [pending, List.countP_set hlt, ← pending]
  simp only [hevent, ne_eq, not_false_eq_true, decide_true, if_true, not_true_eq_false, decide_false,
    Bool.false_eq_true, if_false]
  omega

section Flags
variable [PollFlags]

/-- The flags returned for an entry, if it has an event. -/
def flagsOf (entry : Int32 × Int16) : Option UInt32 :=
  if entry.2 ≠ 0 then some (fromNativeFlags (ofShort entry.2)) else none

/-- The event of a descriptor that is still to be returned. -/
def waiting (fds : List Pollfd) (fd : Int32) : Option UInt32 := (Multimap.find Prod.fst fd (fds.map report)).bind flagsOf

omit [PollFlags] in
theorem map_report_fst (fds : List Pollfd) : (fds.map report).map Prod.fst = fds.map Pollfd.fd := by
  rw [List.map_map]
  rfl

theorem waiting_eq_some {fds : List Pollfd} (hdistinct : (fds.map Pollfd.fd).Nodup) {fd : Int32} {flags : UInt32} :
    waiting fds fd = some flags ↔ ∃ entry ∈ fds.map report, entry.1 = fd ∧ flagsOf entry = some flags := by
  rw [← map_report_fst] at hdistinct
  simp only [waiting, Option.bind_eq_some_iff, Multimap.find_eq_some_iff hdistinct, and_assoc]

theorem waiting_perm {xs ys : List Pollfd} (hdistinct : (xs.map Pollfd.fd).Nodup)
    (h : (xs.map report).Perm (ys.map report)) : waiting xs = waiting ys := by
  have hperm := h.map Prod.fst
  rw [map_report_fst, map_report_fst] at hperm
  funext fd
  apply Option.ext
  intro flags
  rw [waiting_eq_some hdistinct, waiting_eq_some (hperm.nodup_iff.mp hdistinct)]
  exact exists_congr fun entry => and_congr_left' h.mem_iff

theorem waiting_eq_none {fds : List Pollfd} (hpending : pending fds = 0) (fd : Int32) : waiting fds fd = none := by
  rw [pending_eq, List.countP_eq_zero] at hpending
  cases hfound : Multimap.find Prod.fst fd (fds.map report) with
  | none => rw [waiting, hfound, Option.bind_none]
  | some entry =>
    have hzero := hpending entry (List.mem_of_find?_eq_some hfound)
    rw [waiting, hfound, Option.bind_some, flagsOf, if_neg (by simpa using hzero)]

theorem waiting_cons (pfd : Pollfd) (rest : List Pollfd) (fd : Int32) :
    waiting (pfd :: rest) fd = if pfd.fd = fd then flagsOf (report pfd) else waiting rest fd := by
  by_cases hfd : pfd.fd = fd <;> simp [waiting, Multimap.find, report, hfd]

theorem waiting_absent {fds : List Pollfd} {fd : Int32} (hfd : fd ∉ fds.map Pollfd.fd) : waiting fds fd = none := by
  have hnone : Multimap.find Prod.fst fd (fds.map report) = none := by
    rw [Multimap.find_eq_none]
    intro entry hentry heq
    apply hfd
    rw [← map_report_fst, ← heq]
    exact List.mem_map_of_mem hentry
  rw [waiting, hnone, Option.bind_none]

/-- An entry that leaves the vector takes its event along. -/
theorem waiting_removed {xs rest : List Pollfd} {pfd : Pollfd} (hdistinct : (xs.map Pollfd.fd).Nodup)
    (hperm : (pfd :: rest).Perm xs) : waiting rest = Function.update (waiting xs) pfd.fd none := by
  have hkeys := (hperm.map Pollfd.fd).symm.nodup_iff.mp hdistinct
  rw [List.map_cons, List.nodup_cons] at hkeys
  rw [waiting_perm hdistinct (hperm.symm.map report)]
  funext fd
  by_cases hfd : fd = pfd.fd
  · rw [hfd, Function.update_self, waiting_absent hkeys.1]
  · rw [Function.update_of_ne hfd, waiting_cons, if_neg (Ne.symm hfd)]

/-- A new descriptor has no event. -/
theorem waiting_added {xs : List Pollfd} {fd : Int32} (hdistinct : (xs.map Pollfd.fd).Nodup)
    (hfd : fd ∉ xs.map Pollfd.fd) (events : Int16) : waiting (xs ++ [⟨fd, events, 0⟩]) = waiting xs := by
  have hperm : (⟨fd, events, 0⟩ :: xs : List Pollfd).Perm (xs ++ [⟨fd, events, 0⟩]) :=
    (List.perm_append_singleton _ xs).symm
  have hkeys : (((⟨fd, events, 0⟩ : Pollfd) :: xs).map Pollfd.fd).Nodup := List.nodup_cons.mpr ⟨hfd, hdistinct⟩
  rw [← waiting_perm hkeys (hperm.map report)]
  funext other
  rw [waiting_cons]
  split
  next heq =>
    obtain rfl : fd = other := heq
    rw [waiting_absent hfd, flagsOf, if_neg (by simp [report])]
  next => rfl

/-- An entry whose event is taken stays without one. -/
theorem waiting_taken {xs : List Pollfd} {i : Nat} {pfd : Pollfd} (hdistinct : (xs.map Pollfd.fd).Nodup)
    (hi : xs[i]? = some pfd) :
    waiting (xs.set i { pfd with revents := 0 }) = Function.update (waiting xs) pfd.fd none := by
  obtain ⟨before, rest, rfl, rfl⟩ : ∃ before rest, xs = before ++ pfd :: rest ∧ before.length = i := by
    obtain ⟨hlt, rfl⟩ := List.getElem?_eq_some_iff.mp hi
    exact ⟨xs.take i, xs.drop (i + 1), by simp, by simp [Nat.le_of_lt hlt]⟩
  rw [List.set_append_right _ _ (Nat.le_refl _), Nat.sub_self, List.set_cons_zero]
  have hcleared : ((before ++ { pfd with revents := 0 } :: rest).map Pollfd.fd).Nodup := by
    simpa only [List.map_append, List.map_cons] using hdistinct
  rw [waiting_perm hdistinct (List.perm_middle.map report), waiting_perm hcleared (List.perm_middle.map report)]
  funext fd
  by_cases hfd : fd = pfd.fd
  · rw [hfd, Function.update_self, waiting_cons, if_pos rfl, flagsOf, if_neg (by simp [report])]
  · rw [Function.update_of_ne hfd, waiting_cons, waiting_cons, if_neg (Ne.symm hfd), if_neg (Ne.symm hfd)]

end Flags

/-! ## Remove -/

theorem moveLast_fds {pos : Nat} {q : CPoll} (hmoved : Proc.exec (moveLast pos) p = (.ok (), q)) :
    q.fds = p.fds.set pos (p.fds.getD (p.fds.length - 1) default) ∧ q.unreadcount = p.unreadcount := by
  unfold moveLast at hmoved
  rw [Proc.exec_bind_ok (Proc.exec_get p)] at hmoved
  dsimp only at hmoved
  split at hmoved
  next => cases hmoved
  next hashtable _ =>
    rw [Proc.exec_set] at hmoved
    cases hmoved
    exact ⟨rfl, rfl⟩

/-- The entry of a removed descriptor leaves the vector as it is, with its event; the counter stays. -/
theorem Registers.remove_entry (r : p.Registers capacity fds) {fd : Int32} (hfd : fd ∈ fds) :
    ∃ q pfd, Proc.exec (remove fd) p = (.ok (), q) ∧ pfd.fd = fd ∧ (pfd :: q.fds).Perm p.fds ∧
      q.unreadcount = p.unreadcount := by
  obtain ⟨pos, hpos⟩ := List.mem_iff_getElem?.mp hfd
  obtain ⟨hlt, -⟩ := List.getElem?_eq_some_iff.mp hpos
  rw [← r.length_eq] at hlt
  have hentry := List.getElem?_eq_getElem hlt
  have hkey := r.fd_getD hpos
  rw [getD_of_lt hlt] at hkey
  have hlast : p.fds.getLast? = some (p.fds.getD (p.fds.length - 1) default) := by
    rw [List.getLast?_eq_getElem?, getD_of_lt (by omega), List.getElem?_eq_getElem (by omega)]
  obtain ⟨q, hrun, hfds, hunread⟩ : ∃ q, Proc.exec (remove fd) p = (.ok (), q) ∧ q.fds = swapRemove pos p.fds ∧
      q.unreadcount = p.unreadcount := by
    unfold remove
    rw [Proc.exec_bind_ok (r.position_registered hpos), Proc.exec_bind_ok (Proc.exec_get p), swapRemove_eq hlast]
    by_cases hmove : pos ≠ p.fds.length - 1
    · have hend : ∃ last, fds.getLast? = some last := ⟨_, List.getLast?_eq_some_getLast (List.ne_nil_of_mem hfd)⟩
      obtain ⟨last, hlastFd⟩ := hend
      obtain ⟨q, -, hq, -⟩ := r.moveLast hlastFd pos
      obtain ⟨hqfds, hqunread⟩ := moveLast_fds hq
      rw [if_pos hmove, Proc.exec_bind_ok hq, Proc.exec_modify]
      exact ⟨_, rfl, by rw [hqfds], hqunread⟩
    · rw [if_neg hmove]
      refine ⟨_, rfl, ?_, rfl⟩
      have hsame : pos = p.fds.length - 1 := by omega
      have hset : p.fds.set pos (p.fds.getD (p.fds.length - 1) default) = p.fds := by
        rw [← hsame, getD_of_lt hlt, List.set_getElem_self]
      rw [hset]
  refine ⟨q, p.fds[pos], hrun, hkey, ?_, hunread⟩
  rw [hfds]
  exact cons_swapRemove_perm hentry

/-! ## FindNextEvent -/

/-- From every rotation the scan comes by every position. -/
theorem slotindex_surjective {size rotation j : Nat} (hrotation : rotation < size) (hj : j < size) :
    ∃ index, index < size ∧ (index + rotation) % size = j := by
  rcases Nat.lt_or_ge j rotation with hbefore | hbehind
  · refine ⟨j + size - rotation, by omega, ?_⟩
    rw [Nat.sub_add_cancel (by omega), Nat.add_mod_right, Nat.mod_eq_of_lt hj]
  · refine ⟨j - rotation, by omega, ?_⟩
    rw [Nat.sub_add_cancel hbehind, Nat.mod_eq_of_lt hj]

section FindNextEvent
variable [PollFlags]

theorem findNextEvent_none (hpending : pending p.fds = 0) (event : PollEvent) :
    ∃ rotation, findNextEvent p event = (false, { p with rotation }, event) := by
  rw [pending, List.countP_eq_zero] at hpending
  unfold findNextEvent
  dsimp only
  by_cases hunread : p.unreadcount = 0
  · exact ⟨p.rotation, by rw [if_pos hunread]⟩
  · rw [if_neg hunread]
    split
    next => exact ⟨_, rfl⟩
    next index hindex =>
      have hlt := List.mem_range.mp (List.mem_of_find?_eq_some hindex)
      have hsize : 0 < p.fds.length := Nat.lt_of_le_of_lt (Nat.zero_le _) hlt
      have hslot := Nat.mod_lt (index + (if p.rotation.toNat ≥ p.fds.length then 0 else p.rotation).toNat) hsize
      have hzero := hpending _ (List.getElem_mem hslot)
      rw [← getD_of_lt hslot] at hzero
      exact absurd (List.find?_some hindex) hzero

theorem findNextEvent_some (hunread : p.unreadcount ≠ 0) (hpending : 0 < pending p.fds) (event : PollEvent) :
    ∃ i pfd rotation, p.fds[i]? = some pfd ∧ pfd.revents ≠ 0 ∧
      findNextEvent p event =
        (true, { p with fds := p.fds.set i { pfd with revents := 0 }, rotation, unreadcount := p.unreadcount - 1 },
          ⟨pfd.fd, fromNativeFlags (ofShort pfd.revents)⟩) := by
  rw [pending, List.countP_pos_iff] at hpending
  obtain ⟨ready, hready, hrevents⟩ := hpending
  obtain ⟨j, hj, rfl⟩ := List.getElem_of_mem hready
  unfold findNextEvent
  dsimp only
  rw [if_neg hunread]
  have hrotation : (if p.rotation.toNat ≥ p.fds.length then 0 else p.rotation).toNat < p.fds.length := by
    split
    next => exact Nat.lt_of_le_of_lt (Nat.zero_le _) hj
    next h => exact Nat.lt_of_not_le h
  generalize (if p.rotation.toNat ≥ p.fds.length then 0 else p.rotation) = rotation at hrotation ⊢
  split
  next hnone =>
    obtain ⟨index, hindex, hslot⟩ := slotindex_surjective hrotation hj
    have hzero := List.find?_eq_none.mp hnone index (List.mem_range.mpr hindex)
    rw [← getD_of_lt hj, ← hslot] at hrevents
    exact absurd hrevents hzero
  next index hindex =>
    have hsize : 0 < p.fds.length := Nat.lt_of_le_of_lt (Nat.zero_le _) hj
    have hslot := Nat.mod_lt (index + rotation.toNat) hsize
    have hfound : (p.fds.getD ((index + rotation.toNat) % p.fds.length) default).revents ≠ 0 := by
      simpa using List.find?_some hindex
    rw [getD_of_lt hslot] at hfound ⊢
    exact ⟨_, _, _, List.getElem?_eq_getElem hslot, hfound, rfl⟩

end FindNextEvent

/-! ## WaitForNextEvent -/

section WaitForNextEvent
variable [PollFlags]

/-- `WaitForNextEvent` comes to its call of `poll`. -/
def reachesPoll (p : CPoll) (event : PollEvent) : Bool :=
  p.fInitialized && decide (p.fds.length ≠ 0) && !(findNextEvent p { event with eventflags := 0 }).1

theorem exec_wait_empty (hinit : p.fInitialized = true) (hempty : p.fds.length = 0) (answer : PollAnswer)
    (event : PollEvent) :
    Proc.exec (waitForNextEvent answer) (p, event) = (.error (.code S_FALSE), (p, { event with eventflags := 0 })) := by
  unfold waitForNextEvent
  rw [Proc.exec_bind_ok (Proc.exec_get _), Proc.exec_bind_ok (exec_check_false (by simp [hinit]) _ _),
    Proc.exec_bind_ok (Proc.exec_set _ _), Proc.exec_bind_error (exec_check_true hempty _ _)]

theorem exec_wait_found (hinit : p.fInitialized = true) (hsize : p.fds.length ≠ 0) (answer : PollAnswer)
    {event found : PollEvent} {q : CPoll} (hfound : findNextEvent p { event with eventflags := 0 } = (true, q, found)) :
    Proc.exec (waitForNextEvent answer) (p, event) = (.ok (), (q, found)) := by
  unfold waitForNextEvent
  rw [Proc.exec_bind_ok (Proc.exec_get _), Proc.exec_bind_ok (exec_check_false (by simp [hinit]) _ _),
    Proc.exec_bind_ok (Proc.exec_set _ _), Proc.exec_bind_ok (exec_check_false hsize _ _), hfound,
    Proc.exec_bind_ok (Proc.exec_set _ _), if_pos rfl, Proc.exec_pure]

omit [PollFlags] in
theorem exec_check {σ : Type} (cond : Prop) [Decidable cond] (hr : HRESULT) (s : σ) :
    Proc.exec (check cond hr) s = (if cond then .error (.code hr) else .ok (), s) := by
  unfold check
  split <;> rfl

/-- The state `poll` has written to, and what is found in it. -/
theorem exec_wait_polled (hinit : p.fInitialized = true) (hsize : p.fds.length ≠ 0) (answer : PollAnswer)
    {event left : PollEvent} {q : CPoll}
    (hnone : findNextEvent p { event with eventflags := 0 } = (false, q, left)) :
    Proc.exec (waitForNextEvent answer) (p, event) =
      let event := { event with eventflags := 0 }
      let polledTo : CPoll := { q with unreadcount := 0, fds := polled answer q.fds }
      if answer.ret < 0 then (.error (.code (ERRNOHR answer.errno)), (polledTo, event))
      else if answer.ret = 0 then (.error (.code S_FALSE), (polledTo, event))
      else
        let found := findNextEvent { polledTo with unreadcount := UInt32.ofInt answer.ret } event
        (if found.1 = false then .error (.code S_FALSE) else .ok (), found.2) := by
  unfold waitForNextEvent
  rw [Proc.exec_bind_ok (Proc.exec_get _), Proc.exec_bind_ok (exec_check_false (by simp [hinit]) _ _),
    Proc.exec_bind_ok (Proc.exec_set _ _), Proc.exec_bind_ok (exec_check_false hsize _ _), hnone,
    Proc.exec_bind_ok (Proc.exec_set _ _), if_neg (by simp), Proc.exec_bind_ok (Proc.exec_set _ _)]
  by_cases herror : answer.ret < 0
  · rw [Proc.exec_bind_error (exec_check_true herror _ _), if_pos herror]
  rw [Proc.exec_bind_ok (exec_check_false herror _ _), if_neg herror]
  by_cases htimeout : answer.ret = 0
  · rw [Proc.exec_bind_error (exec_check_true htimeout _ _), if_pos htimeout]
  rw [Proc.exec_bind_ok (exec_check_false htimeout _ _), if_neg htimeout, Proc.exec_bind_ok (Proc.exec_set _ _)]
  exact exec_check _ _ _

end WaitForNextEvent

end CPoll

end NatTester.Source
