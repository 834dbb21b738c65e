import NatTester.Source.EpollEvents
import NatTester.Source.PollingEvents

/-!
# One host for poll and for epoll

What Linux answers to a `CPoll` and to a `CEpoll` when the descriptors are in the same
conditions, for requests that are not edge triggered. The flags of `poll` and of
`epoll` have the same values there, and a `short` has room for them.
-/
namespace NatTester.Source
open NatTester.Lib CPoll

local instance : PollFlags := PollFlags.linux
local instance : EpollFlags := EpollFlags.linux

/-! ## Flags -/

/-- The flags that `ToNativeFlags` of `CPoll` knows. -/
def nativeFlags : UInt32 := 0x203F

def IsNative (x : UInt32) : Prop := x &&& nativeFlags = x

instance (x : UInt32) : Decidable (IsNative x) := inferInstanceAs (Decidable (_ = _))

theorem IsNative.or {a b : UInt32} (ha : IsNative a) (hb : IsNative b) : IsNative (a ||| b) := by
  have hor : (a ||| b) &&& nativeFlags = a &&& nativeFlags ||| b &&& nativeFlags := by
    apply UInt32.toBitVec_inj.1
    exact BitVec.and_or_distrib_right
  rw [IsNative, hor, ha, hb]

theorem IsNative.and (c : UInt32) {a : UInt32} (h : IsNative a) : IsNative (c &&& a) := by
  rw [IsNative, UInt32.and_assoc, h]

theorem isNative_toNativeFlags (eventflags : UInt32) : IsNative (CPoll.toNativeFlags eventflags) := by
  have hflag : ∀ bit native : UInt32, IsNative native → IsNative (flag eventflags bit native) := by
    intro bit native hnative
    unfold CPoll.flag
    split
    · exact hnative
    · rfl
  have hin := hflag IPOLLING_READ PollFlags.POLLIN (by decide)
  have hout := hin.or (hflag IPOLLING_WRITE PollFlags.POLLOUT (by decide))
  have hrdhup := hout.or (hflag IPOLLING_RDHUP 0x2000 (by decide))
  have hhup := hrdhup.or (hflag IPOLLING_HUP PollFlags.POLLHUP (by decide))
  have hpri := hhup.or (hflag IPOLLING_PRI PollFlags.POLLPRI (by decide))
  exact hpri.or (hflag IPOLLING_ERROR PollFlags.POLLERR (by decide))

/-- A `short` keeps such flags, its sign is not among them. -/
theorem short_native {x : UInt32} (h : IsNative x) : ofShort (toShort x) = x := by
  have hle : x.toNat ≤ 0x203F := by
    rw [← h, UInt32.toNat_and]
    exact Nat.and_le_right
  have hnat : (BitVec.setWidth 16 x.toBitVec).toNat = x.toNat := by
    rw [BitVec.toNat_setWidth]
    exact Nat.mod_eq_of_lt (by change x.toNat < _; omega)
  have hmsb : (BitVec.setWidth 16 x.toBitVec).msb = false := by
    rw [BitVec.msb_eq_false_iff_two_mul_lt, hnat]
    omega
  apply UInt32.toBitVec_inj.1
  change BitVec.signExtend 32 (BitVec.setWidth 16 x.toBitVec) = x.toBitVec
  rw [BitVec.signExtend_eq_setWidth_of_msb_false hmsb]
  apply BitVec.eq_of_toNat_eq
  rw [BitVec.toNat_setWidth, hnat]
  exact Nat.mod_eq_of_lt (by omega)

theorem toNativeFlags_eq {eventflags : UInt32} (h : eventflags &&& IPOLLING_EDGETRIGGER = 0) :
    CEpoll.toNativeFlags eventflags = CPoll.toNativeFlags eventflags := by
  have hedge : flag eventflags IPOLLING_EDGETRIGGER EpollFlags.EPOLLET = 0 := if_neg (by simp [h])
  unfold CEpoll.toNativeFlags CPoll.toNativeFlags
  rw [hedge, UInt32.or_zero]
  rfl

theorem fromNativeFlags_eq {x : UInt32} (h : IsNative x) : CEpoll.fromNativeFlags x = CPoll.fromNativeFlags x := by
  have hedge : flag x EpollFlags.EPOLLET IPOLLING_EDGETRIGGER = 0 := by
    refine if_neg (not_not.mpr ?_)
    rw [← h, UInt32.and_assoc]
    exact UInt32.and_zero
  unfold CEpoll.fromNativeFlags CPoll.fromNativeFlags
  rw [hedge, UInt32.or_zero]
  rfl

/-! ## Reports -/

/-- Of the conditions that a descriptor is in, the kernel reports those asked for, and errors and hang-ups in any case. -/
def reported (conditions request : UInt32) : UInt32 := conditions &&& (request ||| 0x018)

theorem IsNative.reported (conditions : UInt32) {request : UInt32} (h : IsNative request) :
    IsNative (Source.reported conditions request) :=
  IsNative.and conditions (h.or (by decide : IsNative 0x018))

/-- What `poll` writes for an entry. -/
def reventsOf (conditions : Int32 → UInt32) (pfd : Pollfd) : Int16 :=
  toShort (reported (conditions pfd.fd) (ofShort pfd.events))

/-- `poll(list, size, timeout)` on descriptors in these conditions. -/
def pollOn (conditions : Int32 → UInt32) (fds : List Pollfd) : PollAnswer :=
  ⟨fds.countP fun pfd => reventsOf conditions pfd ≠ 0, 0, fun i => reventsOf conditions (fds.getD i default)⟩

/-- A call of `poll` that fails writes nothing. -/
def pollFails (errno : Nat) (fds : List Pollfd) : PollAnswer := ⟨-1, errno, fun i => (fds.getD i default).revents⟩

/-- The `epoll_event` of a registered descriptor. -/
def eventOf (interest : InterestList) (conditions : Int32 → UInt32) (fd : Int32) : EpollEvent :=
  let known := (interest fd).getD default
  ⟨reported (conditions fd) known.events, known.fd⟩

/-- The kernel has an event of the descriptor to report. -/
def IsReady (interest : InterestList) (conditions : Int32 → UInt32) (fd : Int32) : Prop :=
  ∃ known, interest fd = some known ∧ reported (conditions fd) known.events ≠ 0

/-- `epoll_wait` may report the descriptors `ready`, in this order: each is ready and reported once, at most as many as
it is told, and if it is told of more, no ready one is missing. -/
structure ListsReady (s : EpollState) (conditions : Int32 → UInt32) (ready : List Int32) : Prop where
  distinct : ready.Nodup
  at_most : (ready.length : Int) ≤ s.maxevents
  ready_of_mem : ∀ fd ∈ ready, IsReady s.interest conditions fd
  complete : (ready.length : Int) < s.maxevents → ∀ fd, IsReady s.interest conditions fd → fd ∈ ready

theorem polled_pollOn (conditions : Int32 → UInt32) (fds : List Pollfd) :
    polled (pollOn conditions fds) fds = fds.map fun pfd => { pfd with revents := reventsOf conditions pfd } := by
  apply List.ext_getElem
  · rw [polled, List.length_mapIdx, List.length_map]
  · intro i hi _
    have hlt : i < fds.length := by rwa [polled, List.length_mapIdx] at hi
    simp only [polled, List.getElem_mapIdx, List.getElem_map, pollOn, getD_of_lt hlt]

theorem polled_pollFails (errno : Nat) (fds : List Pollfd) : polled (pollFails errno fds) fds = fds := by
  apply List.ext_getElem
  · rw [polled, List.length_mapIdx]
  · intro i hi _
    have hlt : i < fds.length := by rwa [polled, List.length_mapIdx] at hi
    simp only [polled, List.getElem_mapIdx, pollFails, getD_of_lt hlt]

theorem pending_pollOn (conditions : Int32 → UInt32) (fds : List Pollfd) :
    (pending (polled (pollOn conditions fds) fds) : Int) = (pollOn conditions fds).ret := by
  rw [polled_pollOn, pending, List.countP_map]
  rfl

/-! ## The requests -/

/-- What is asked of the descriptors in the vector. -/
def asked (fds : List Pollfd) : List (Int32 × Int16) := fds.map fun pfd => (pfd.fd, pfd.events)

def requests (fds : List Pollfd) : Int32 → Option Int16 := Queue.byKey Prod.fst Prod.snd (asked fds)

variable {fds : List Pollfd}

theorem asked_fst (fds : List Pollfd) : (asked fds).map Prod.fst = fds.map Pollfd.fd := by
  rw [asked, List.map_map]
  rfl

theorem requests_isSome {fd : Int32} : (requests fds fd).isSome = true ↔ fd ∈ fds.map Pollfd.fd := by
  rw [requests, Queue.byKey, Option.isSome_map, ← asked_fst, Multimap.find, List.find?_isSome, List.mem_map]
  exact exists_congr fun entry => and_congr_right' decide_eq_true_iff

theorem requests_added {fd : Int32} (hfd : fd ∉ fds.map Pollfd.fd) (hdistinct : (fds.map Pollfd.fd).Nodup) (events : Int16) :
    requests (fds ++ [⟨fd, events, 0⟩]) = Function.update (requests fds) fd (some events) := by
  have hperm : (asked (fds ++ [⟨fd, events, 0⟩])).Perm ((fd, events) :: asked fds) := by
    rw [asked, List.map_append]
    exact List.perm_append_singleton _ _
  have hkeys : ((asked (fds ++ [⟨fd, events, 0⟩])).map Prod.fst).Nodup := by
    rw [asked_fst, List.map_append]
    exact hdistinct.append (List.nodup_singleton fd) (by simpa using hfd)
  rw [requests, Queue.byKey_perm hkeys hperm, Queue.byKey_cons]
  rfl

theorem requests_removed {rest : List Pollfd} {pfd : Pollfd} (hdistinct : (fds.map Pollfd.fd).Nodup)
    (hperm : (pfd :: rest).Perm fds) : requests rest = Function.update (requests fds) pfd.fd none := by
  have hasked : ((pfd.fd, pfd.events) :: asked rest).Perm (asked fds) :=
    hperm.map fun pfd : Pollfd => (pfd.fd, pfd.events)
  have hkeys : (((pfd.fd, pfd.events) :: asked rest).map Prod.fst).Nodup := by
    rw [(hasked.map Prod.fst).nodup_iff, asked_fst]
    exact hdistinct
  rw [requests, requests, Queue.byKey_tail hkeys, Queue.byKey_perm hkeys hasked]

theorem requests_changed {i : Nat} {pfd : Pollfd} (hdistinct : (fds.map Pollfd.fd).Nodup) (hi : fds[i]? = some pfd)
    (events : Int16) :
    requests (fds.set i { pfd with events }) = Function.update (requests fds) pfd.fd (some events) := by
  have hkeys : ((asked fds).map Prod.fst).Nodup := by rwa [asked_fst]
  have hget : (asked fds)[i]? = some (pfd.fd, pfd.events) := by rw [asked, List.getElem?_map, hi, Option.map_some]
  have hset : asked (fds.set i { pfd with events }) = (asked fds).set i (pfd.fd, events) := List.map_set
  have hput := Queue.byKey_set Prod.snd (pfd.fd, events) hkeys hget rfl
  rw [requests, hset, hput]
  rfl

/-- An event that is taken leaves the requests. -/
theorem asked_taken {i : Nat} {pfd : Pollfd} (hi : fds[i]? = some pfd) : asked (fds.set i { pfd with revents := 0 }) = asked fds := by
  obtain ⟨hlt, rfl⟩ := List.getElem?_eq_some_iff.mp hi
  have hlt' : i < (asked fds).length := by rwa [asked, List.length_map]
  have hsame : (fds[i].fd, fds[i].events) = (asked fds)[i] := by simp only [asked, List.getElem_map]
  rw [asked, List.map_set, ← asked, hsame, List.set_getElem_self]

theorem asked_polled (answer : PollAnswer) (fds : List Pollfd) : asked (polled answer fds) = asked fds := by
  apply List.ext_getElem?
  intro i
  simp only [asked, polled, List.getElem?_map, List.getElem?_mapIdx, Option.map_map]
  rfl

/-- The events that `poll` finds, by descriptor. -/
theorem waiting_pollOn (conditions : Int32 → UInt32) (fds : List Pollfd) (fd : Int32) :
    waiting (polled (pollOn conditions fds) fds) fd = (requests fds fd).bind fun events =>
      flagsOf (fd, toShort (reported (conditions fd) (ofShort events))) := by
  rw [polled_pollOn, waiting, List.map_map, requests, Queue.byKey]
  induction fds with
  | nil => rfl
  | cons pfd fds ih =>
    by_cases hfd : pfd.fd = fd
    · simp [Multimap.find, report, reventsOf, asked, hfd]
    · simpa [Multimap.find, report, asked, hfd] using ih

end NatTester.Source
