import NatTester.Lib.Descriptors
import NatTester.Source.CommandLine
import NatTester.Source.MessageHandler

/-!
# CStunSocket

`stunsocket.cpp`: a socket that closes its descriptor. `socket`, `close` and the
table of open descriptors are those of the process; what the other calls of the host
return is an argument, a failure by its `errno`.
-/
namespace NatTester.Source
open NatTester.Lib

/-- `_sock` (`none` is -1) and the other members. -/
structure CStunSocket where
  sock : Option Nat
  addrlocal : CSocketAddress
  addrremote : CSocketAddress
  role : SocketRole
  deriving DecidableEq, Repr

/-- What `getsockname` and `getpeername` return; `none` where they fail. -/
structure SocketNames where
  getsockname : Option CSocketAddress
  getpeername : Option CSocketAddress

/-- What the calls of `InitCommon` return. -/
structure InitAnswers where
  socket : Option Int
  setsockopt : Option Int
  bind : Option Int
  names : SocketNames

namespace CStunSocket

/-- `CStunSocket()` -/
def new : CStunSocket := ⟨none, CSocketAddress.zero, CSocketAddress.zero, .rolePP⟩

/-- `Reset` -/
def reset (_s : CStunSocket) : CStunSocket := ⟨none, CSocketAddress.ofIp4 0 0, CSocketAddress.ofIp4 0 0, .rolePP⟩

/-- `Close`, which the destructor calls as well. -/
def close (s : CStunSocket) (d : Descriptors) : CStunSocket × Descriptors :=
  match s.sock with
  | none => (s.reset, d)
  | some sock => (s.reset, d.closed sock)

/-- `UpdateAddresses` -/
def updateAddresses (names : SocketNames) (s : CStunSocket) : CStunSocket :=
  if s.sock = none then s
  else
    { s with
      addrlocal := names.getsockname.getD s.addrlocal
      addrremote := names.getpeername.getD s.addrremote }

/-- `Attach`; `none` is -1. -/
def attach (sock : Option Nat) (names : SocketNames) (s : CStunSocket) (d : Descriptors) :
    HRESULT × CStunSocket × Descriptors :=
  if sock = none then (E_INVALIDARG, s, d)
  else if sock ≠ s.sock then
    let (s, d) := s.close d
    (S_OK, updateAddresses names { s with sock }, d)
  else (S_OK, updateAddresses names s, d)

/-- `Detach` -/
def detach (s : CStunSocket) : Option Nat × CStunSocket := (s.sock, s.reset)

/-- The options and the address of a new descriptor, and then the descriptor is the socket's. A failure
leads to `Cleanup` with the descriptor still in the local variable. -/
def setUp (sock : Nat) (role : SocketRole) (fSetReuseFlag : Bool) (answers : InitAnswers) :
    Hr (CStunSocket × Descriptors) Unit := do
  if fSetReuseFlag then
    match answers.setsockopt with
    | some errno => throw (ERRNOHR errno)
    | none => pure ()
  match answers.bind with
  | some errno => throw (ERRNOHR errno)
  | none => pure ()
  modify fun p => (p.1.attach (some sock) answers.names p.2).2
  modify fun p => ({ p.1 with role }, p.2)

/-- `InitCommon(socktype, addrlocal, ...)`. The type and the address only go to the host. -/
def initCommon (role : SocketRole) (fSetReuseFlag : Bool) (answers : InitAnswers) (s : CStunSocket) (d : Descriptors) :
    HRESULT × CStunSocket × Descriptors :=
  match answers.socket with
  | some errno => (ERRNOHR errno, s, d)
  | none =>
    let (sock, d) := d.opened
    match Proc.exec (setUp sock role fSetReuseFlag answers) (s, d) with
    | (.ok _, s, d) => (S_OK, s, d)
    | (.error hr, s, d) => (hr, s, d.closed sock)

/-- `UDPInit` -/
def udpInit (role : SocketRole) (answers : InitAnswers) (s : CStunSocket) (d : Descriptors) :
    HRESULT × CStunSocket × Descriptors :=
  s.initCommon role false answers d

/-- `TCPInit` -/
def tcpInit (role : SocketRole) (fSetReuseFlag : Bool) (answers : InitAnswers) (s : CStunSocket) (d : Descriptors) :
    HRESULT × CStunSocket × Descriptors :=
  s.initCommon role fSetReuseFlag answers d

section Conserves
variable {s : CStunSocket} {d : Descriptors}

theorem close_sock (s : CStunSocket) (d : Descriptors) : (s.close d).1.sock = none := by
  unfold close
  split <;> rfl

/-- What the socket holds is given back. -/
theorem close_conserves (h : ∀ fd, s.sock = some fd → fd ∈ d.table) : Descriptors.Conserves s.sock none d (s.close d).2 := by
  unfold close
  cases hsock : s.sock with
  | none => exact .refl none d
  | some fd => exact Descriptors.conserves_closed (h fd hsock)

@[simp] theorem updateAddresses_sock (names : SocketNames) (s : CStunSocket) : (s.updateAddresses names).sock = s.sock := by
  unfold updateAddresses
  split <;> rfl

/-- Another descriptor takes the place of the one the socket holds. -/
theorem attach_other {sock : Nat} (names : SocketNames) (hne : s.sock ≠ some sock) :
    (s.attach (some sock) names d).2.1.sock = some sock ∧ (s.attach (some sock) names d).2.2 = (s.close d).2 := by
  unfold attach
  rw [if_neg (Option.some_ne_none sock), if_pos hne.symm]
  exact ⟨updateAddresses_sock .., rfl⟩

/-- Its own descriptor changes nothing. -/
theorem attach_own {sock : Nat} (names : SocketNames) (hown : s.sock = some sock) :
    (s.attach (some sock) names d).2.1.sock = some sock ∧ (s.attach (some sock) names d).2.2 = d := by
  unfold attach
  rw [if_neg (Option.some_ne_none sock), if_neg (not_not.mpr hown.symm)]
  exact ⟨(updateAddresses_sock ..).trans hown, rfl⟩

/-- The socket takes the new descriptor, or the local variable still has it and closes it. -/
theorem setUp_cases (sock : Nat) (role : SocketRole) (fSetReuseFlag : Bool) (answers : InitAnswers) (s : CStunSocket)
    (d : Descriptors) :
    (∃ t e, Proc.exec (setUp sock role fSetReuseFlag answers) (s, d) = (.ok (), t, e) ∧
      t.sock = (s.attach (some sock) answers.names d).2.1.sock ∧ e = (s.attach (some sock) answers.names d).2.2) ∨
    ∃ errno, Proc.exec (setUp sock role fSetReuseFlag answers) (s, d) = (.error (ERRNOHR errno), s, d) := by
  unfold setUp
  cases fSetReuseFlag with
  | false =>
    cases answers.bind with
    | none => exact .inl ⟨_, _, rfl, rfl, rfl⟩
    | some errno => exact .inr ⟨errno, rfl⟩
  | true =>
    cases answers.setsockopt with
    | some errno => exact .inr ⟨errno, rfl⟩
    | none =>
      cases answers.bind with
      | none => exact .inl ⟨_, _, rfl, rfl, rfl⟩
      | some errno => exact .inr ⟨errno, rfl⟩

/-- Whatever fails on the way, the socket has its old descriptor or a new one, and no other is left. -/
theorem initCommon_conserves (role : SocketRole) (fSetReuseFlag : Bool) (answers : InitAnswers)
    (h : ∀ fd, s.sock = some fd → fd ∈ d.table) :
    Descriptors.Conserves s.sock (s.initCommon role fSetReuseFlag answers d).2.1.sock d
      (s.initCommon role fSetReuseFlag answers d).2.2 := by
  unfold initCommon
  cases answers.socket with
  | some errno => exact .refl s.sock d
  | none =>
    have hopened := Descriptors.conserves_opened d
    have hother : s.sock ≠ some d.opened.1 := fun hsame => Descriptors.opened_fresh d (h _ hsame)
    have hstill : ∀ fd, s.sock = some fd → fd ∈ d.opened.2.table := fun fd hfd => List.mem_cons_of_mem _ (h fd hfd)
    simp only
    rcases setUp_cases d.opened.1 role fSetReuseFlag answers s d.opened.2 with ⟨t, e, hexec, hsock, hclosed⟩ | ⟨errno, hexec⟩
    · obtain ⟨htaken, hgiven⟩ := attach_other (d := d.opened.2) answers.names hother
      rw [hexec]
      simp only
      rw [hsock, hclosed, htaken, hgiven]
      exact hopened.exchange (close_conserves hstill)
    · rw [hexec]
      exact (hopened.trans (Descriptors.conserves_closed hopened.mem)).frame s.sock

end Conserves

end CStunSocket

end NatTester.Source
