import NatTester.Lib.Machine
import NatTester.Source.StunSocket

/-!
# Who owns a descriptor

A program that constructs, initializes, attaches, detaches, closes and destroys any
number of sockets in any order, and holds descriptors of its own. If it attaches and
closes only descriptors it holds, every open descriptor has exactly one owner, none
is closed twice, and none is left when the sockets are closed.
-/
namespace NatTester.Guarantees
open NatTester.Lib NatTester.Source CStunSocket

/-- The sockets (`none` once destroyed) and the descriptors the program holds itself. -/
structure SocketProgram where
  sockets : List (Option CStunSocket)
  loose : List Nat
  descriptors : Descriptors

inductive SocketCall where
  | construct
  | init (i : Nat) (role : SocketRole) (fSetReuseFlag : Bool) (answers : InitAnswers)
  | attach (i sock : Nat) (names : SocketNames)
  | detach (i : Nat)
  | close (i : Nat)
  | destroy (i : Nat)
  | accept
  | closeLoose (sock : Nat)

namespace SocketProgram

/-- The descriptor of a socket, if it is still there and has one. -/
def held (socket : Option CStunSocket) : Option Nat := socket.bind CStunSocket.sock

def slots (p : SocketProgram) : List (Option Nat) := p.sockets.map held

/-- A call. What is attached or closed by the program itself is a descriptor it holds, or the one the
socket has already. -/
inductive Step : SocketProgram → SocketCall → SocketProgram → Prop
  | construct (p : SocketProgram) : Step p .construct { p with sockets := p.sockets ++ [some CStunSocket.new] }
  | init {p : SocketProgram} {i : Nat} {s : CStunSocket} (hs : p.sockets[i]? = some (some s)) (role : SocketRole)
    (fSetReuseFlag : Bool) (answers : InitAnswers) :
    Step p (.init i role fSetReuseFlag answers)
      ⟨p.sockets.set i (some (s.initCommon role fSetReuseFlag answers p.descriptors).2.1), p.loose,
        (s.initCommon role fSetReuseFlag answers p.descriptors).2.2⟩
  | attach {p : SocketProgram} {i sock : Nat} {s : CStunSocket} (hs : p.sockets[i]? = some (some s))
    (hloose : sock ∈ p.loose) (names : SocketNames) :
    Step p (.attach i sock names)
      ⟨p.sockets.set i (some (s.attach (some sock) names p.descriptors).2.1), p.loose.erase sock,
        (s.attach (some sock) names p.descriptors).2.2⟩
  | attachOwn {p : SocketProgram} {i sock : Nat} {s : CStunSocket} (hs : p.sockets[i]? = some (some s))
    (hown : s.sock = some sock) (names : SocketNames) :
    Step p (.attach i sock names)
      ⟨p.sockets.set i (some (s.attach (some sock) names p.descriptors).2.1), p.loose,
        (s.attach (some sock) names p.descriptors).2.2⟩
  | detach {p : SocketProgram} {i : Nat} {s : CStunSocket} (hs : p.sockets[i]? = some (some s)) :
    Step p (.detach i) ⟨p.sockets.set i (some s.detach.2), s.detach.1.toList ++ p.loose, p.descriptors⟩
  | close {p : SocketProgram} {i : Nat} {s : CStunSocket} (hs : p.sockets[i]? = some (some s)) :
    Step p (.close i) ⟨p.sockets.set i (some (s.close p.descriptors).1), p.loose, (s.close p.descriptors).2⟩
  | destroy {p : SocketProgram} {i : Nat} {s : CStunSocket} (hs : p.sockets[i]? = some (some s)) :
    Step p (.destroy i) ⟨p.sockets.set i none, p.loose, (s.close p.descriptors).2⟩
  | accept (p : SocketProgram) :
    Step p .accept ⟨p.sockets, p.descriptors.opened.1 :: p.loose, p.descriptors.opened.2⟩
  | closeLoose {p : SocketProgram} {sock : Nat} (hloose : sock ∈ p.loose) :
    Step p (.closeLoose sock) ⟨p.sockets, p.loose.erase sock, p.descriptors.closed sock⟩

end SocketProgram

open SocketProgram

/-- Programs that start without a socket in a process that has `base` open. -/
def socketProgram (base : Descriptors) : Machine SocketProgram SocketCall := ⟨fun p => p = ⟨[], [], base⟩, Step⟩

/-- `close` was used well, and the books on the descriptors are right. -/
structure Owned (base : Descriptors) (p : SocketProgram) : Prop where
  misused : p.descriptors.misused = base.misused
  books : Books base.inUse p.descriptors.inUse p.slots p.loose

section Ownership
variable {base e : Descriptors} {p : SocketProgram} {i : Nat} {s : CStunSocket} {old new : Option CStunSocket}

/-- The table has no descriptor twice, so none has two owners. -/
theorem Owned.unique (h : Owned base p) (fd : Nat) : base.inUse fd + holders p.slots p.loose fd ≤ 1 := by
  rw [← h.books fd]
  exact p.descriptors.inUse_le_one fd

theorem base_nonneg (base : Descriptors) (fd : Nat) : 0 ≤ base.inUse fd := Int.natCast_nonneg _

theorem slots_get (hs : p.sockets[i]? = some old) : p.slots[i]? = some (held old) := by
  rw [slots, List.getElem?_map, hs]
  rfl

theorem slots_set (p : SocketProgram) (i : Nat) (new : Option CStunSocket) :
    (p.sockets.set i new).map held = p.slots.set i (held new) :=
  List.map_set ..

/-- What a holder has is open. -/
theorem Owned.open_of_held (h : Owned base p) {fd : Nat} (hheld : 1 ≤ holders p.slots p.loose fd) :
    fd ∈ p.descriptors.table := by
  have hbooks := h.books fd
  have hbase := base_nonneg base fd
  rw [Descriptors.mem_iff_inUse]
  omega

theorem Owned.mem (h : Owned base p) (hs : p.sockets[i]? = some (some s)) :
    ∀ fd, s.sock = some fd → fd ∈ p.descriptors.table := by
  intro fd hfd
  have hholds := once_le_holders (slots_get hs) p.loose fd
  have hone : once (held (some s)) fd = 1 := by
    change once s.sock fd = 1
    rw [hfd, once_self]
  exact h.open_of_held (by omega)

/-- A socket that accounts for its descriptors. -/
theorem Owned.change (h : Owned base p) (hs : p.sockets[i]? = some old)
    (hconserves : Descriptors.Conserves (held old) (held new) p.descriptors e) :
    Owned base ⟨p.sockets.set i new, p.loose, e⟩ := by
  refine ⟨hconserves.misused.trans h.misused, ?_⟩
  rw [slots, slots_set]
  exact h.books.change (slots_get hs) hconserves.balance

/-- A descriptor the program holds is not the one of a socket. -/
theorem Owned.other (h : Owned base p) (hs : p.sockets[i]? = some (some s)) {sock : Nat} (hloose : sock ∈ p.loose) :
    s.sock ≠ some sock := by
  intro hsame
  have hset := holders_set (slots_get hs) none p.loose sock
  have hone : once (held (some s)) sock = 1 := by
    change once s.sock sock = 1
    rw [hsame, once_self]
  have hmem := mem_le_holders (p.slots.set i none) hloose
  have hunique := h.unique sock
  have hbase := base_nonneg base sock
  rw [once_none] at hset
  omega

/-- Every call keeps to the owners. -/
theorem Owned.step {q : SocketProgram} {call : SocketCall} (h : Owned base p) (hstep : Step p call q) : Owned base q := by
  cases hstep with
  | construct =>
    refine ⟨h.misused, ?_⟩
    rw [slots, List.map_append]
    exact h.books.append (.refl none _)
  | init hs role fSetReuseFlag answers => exact h.change hs (initCommon_conserves role fSetReuseFlag answers (h.mem hs))
  | attach hs hloose names =>
    obtain ⟨htaken, hgiven⟩ := attach_other (d := p.descriptors) names (h.other hs hloose)
    have hclosed := close_conserves (h.mem hs)
    refine ⟨?_, ?_⟩
    · rw [hgiven]
      exact hclosed.misused.trans h.misused
    · rw [slots, slots_set, held, Option.bind_some, htaken, hgiven]
      exact h.books.put (slots_get hs) hloose hclosed.balance
  | attachOwn hs hown names =>
    obtain ⟨hkept, hsame⟩ := attach_own (d := p.descriptors) names hown
    apply h.change hs
    rw [hsame, held, Option.bind_some, hown, held, Option.bind_some, hkept]
    exact .refl _ _
  | detach hs =>
    refine ⟨h.misused, ?_⟩
    rw [slots, slots_set]
    exact h.books.pull (slots_get hs)
  | @close i s hs =>
    apply h.change hs
    rw [held, held, Option.bind_some, Option.bind_some, close_sock]
    exact close_conserves (h.mem hs)
  | destroy hs => exact h.change hs (close_conserves (h.mem hs))
  | accept =>
    have hopened := Descriptors.conserves_opened p.descriptors
    exact ⟨hopened.misused.trans h.misused, h.books.take hopened.balance⟩
  | closeLoose hloose =>
    have hclosed := Descriptors.conserves_closed (h.open_of_held (mem_le_holders p.slots hloose))
    exact ⟨hclosed.misused.trans h.misused, h.books.give hloose hclosed.balance⟩

theorem socketProgram_owned (h : (socketProgram base).Reachable p) : Owned base p := by
  apply h.invariant (I := Owned base)
  · intro p hp
    obtain rfl : p = ⟨[], [], base⟩ := hp
    exact ⟨rfl, .start base.inUse⟩
  · intro p call q hp hstep
    exact hp.step hstep

/-- In every program over sockets, in every order of its calls and whatever they fail with: `close` is
only called for an open descriptor; what is open is what was open at the start, which no call
touches, and the descriptors the sockets and the program hold, each held once; and when no socket
holds one and the program none, the table is the one of the start. -/
theorem sockets_own_descriptors (h : (socketProgram base).Reachable p) :
    p.descriptors.misused = base.misused ∧
    (∀ fd, p.descriptors.inUse fd = base.inUse fd + holders p.slots p.loose fd) ∧
    (∀ fd ∈ base.table, fd ∈ p.descriptors.table ∧ some fd ∉ p.slots ∧ fd ∉ p.loose) ∧
    (∀ fd, holders p.slots p.loose fd ≤ 1) ∧
    ((∀ socket ∈ p.slots, socket = none) → p.loose = [] → p.descriptors.table.Perm base.table) := by
  have howned := socketProgram_owned h
  refine ⟨howned.misused, howned.books, ?_, ?_, ?_⟩
  · intro fd hfd
    have hpos := Descriptors.mem_iff_inUse.mp hfd
    have hunique := howned.unique fd
    have hnone : p.slots.count (some fd) + p.loose.count fd = 0 := by
      change holders p.slots p.loose fd = 0
      omega
    refine ⟨?_, ?_, ?_⟩
    · have hbooks := howned.books fd
      exact Descriptors.mem_iff_inUse.mpr (by omega)
    · exact List.count_eq_zero.mp (by omega)
    · exact List.count_eq_zero.mp (by omega)
  · intro fd
    have hunique := howned.unique fd
    have hbase := base_nonneg base fd
    omega
  · intro hslots hloose
    have hbooks := howned.books
    rw [hloose] at hbooks
    exact Descriptors.perm_of_inUse (hbooks.settled hslots)

end Ownership

/-- The standard streams. -/
def standardStreams : Descriptors := ⟨[2, 1, 0], by decide, false⟩

/-- Every call of the host succeeds, but the names are not found. -/
def grantedInit : InitAnswers := ⟨none, none, none, ⟨none, none⟩⟩

/-- A socket that is constructed, initialized and detached; the program closes what it got. -/
theorem sockets_own_descriptors_detached :
    ∃ p, (socketProgram standardStreams).Reachable p ∧ p.sockets.length = 1 ∧
      p.descriptors.table.Perm standardStreams.table := by
  have hstart : (socketProgram standardStreams).Reachable ⟨[], [], standardStreams⟩ := .start rfl
  have hmade := hstart.step (Step.construct _)
  have hinit := hmade.step (Step.init (i := 0) rfl .rolePP false grantedInit)
  have hdetached := hinit.step (Step.detach (i := 0) rfl)
  have hclosed := hdetached.step (Step.closeLoose (show 3 ∈ _ by decide))
  obtain ⟨-, -, -, -, hrestored⟩ := sockets_own_descriptors hclosed
  exact ⟨_, hclosed, rfl, hrestored (by decide) (by decide)⟩

end NatTester.Guarantees
