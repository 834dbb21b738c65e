import NatTester.Client.Invariant

/-!
# Runs of the client

`client config` is the client after an accepted `Initialize`, under any sequence
of calls. Its invariant holds in every reachable state, and a run whose results
are ready changes nothing any more.
-/
namespace NatTester.Client
open NatTester.Lib NatTester.Source IStunClientTest CStunClientLogic

section Steps
variable [Platform] {config : StunClientLogicConfig} {l : CStunClientLogic} {s t : TestState}
  {source : RandomSource} {spMsg : CBuffer} {time : UInt32} {addrRemote addrLocal : CSocketAddress}

/-- Where an accepted reply leads. -/
theorem LogicInv.effect (h : LogicInv config l) (hs : l.current = some s)
    (hready : l.nTestIndex = 0 ∨ (l.fPreCheckRunOnTest = true ∧ isReadyToRun s = true))
    (heffect : Effect spMsg addrLocal s t) : LogicInv config (l.put t) := by
  obtain ⟨hconfig, -, -⟩ := current_eq_some.mp hs
  have hchecked : s.test.testClass ≠ .basicBindingTest → l.fPreCheckRunOnTest = true ∧ isReadyToRun s = true :=
    fun hne => hready.resolve_left fun hzero => hne ((h.basic_iff hs).mpr hzero)
  have hinv := resultsInv_effect (h.results_current hs) heffect (fun hne => (hchecked hne).2)
    (fun hbasic => h.untouched_current hs ((h.basic_iff hs).mp hbasic)) fun hclass => by
      obtain ⟨hcheck, hready⟩ := hchecked (by simp [hclass])
      exact h.not_direct hs hclass hcheck hready
  rw [hconfig] at hinv
  refine h.put hs heffect.sameTest.1 hinv (fun hzero => ?_) fun hposition htest hb hd => ?_
  · obtain ⟨hbehavior, hfiltering, hmapping⟩ := h.untouched_current hs hzero
    have hbasic := (h.basic_iff hs).mpr hzero
    cases heffect with
    | binding =>
      unfold CBasicBindingTest.recordBinding CBasicBindingTest.recordOther
      split <;> exact ⟨hbehavior, hfiltering, hmapping⟩
    | behavior hclass => rw [hbasic] at hclass; cases hclass
    | filtering hclass => rw [hbasic] at hclass; cases hclass
  · cases heffect with
    | binding hclass =>
      have hzero := (h.basic_iff hs).mp hclass
      omega
    | @behavior reader addrMapped fIsTest3 hclass =>
      obtain ⟨hcheck, hready⟩ := hchecked (by simp [hclass])
      have hnot := h.not_direct hs hclass hcheck hready
      have hkept : (CBehaviorTest.recordMapping fIsTest3 addrMapped s).results.fIsDirect = s.results.fIsDirect := by
        unfold CBehaviorTest.recordMapping
        split
        · rfl
        · split <;> rfl
      rw [hkept, hnot] at hd
      cases hd
    | @filtering reader fIsTest3 hclass =>
      unfold CFilteringTest.recordReply at hb hd ⊢
      have hkept : s.results.fBindingTestSuccess = true ∧ s.results.fIsDirect = true := by
        split at hb <;> exact ⟨hb, by split at hd <;> exact hd⟩
      have hsuccess := h.direct_current hs hposition htest hkept.1 hkept.2
      split <;> exact hsuccess

/-- What `GetNextMessage` does: nothing to a client that cannot send, or the loop. -/
theorem getNextMessage_cases (source : RandomSource) (spMsg : CBuffer) (time : UInt32)
    (hinit : l.fInitialized = true) :
    (spMsg.allocatedSize < MAX_STUN_MESSAGE_SIZE ∧
      Proc.exec (getNextMessage source spMsg time) l = (.error E_INVALIDARG, l)) ∨
    (MAX_STUN_MESSAGE_SIZE ≤ spMsg.allocatedSize ∧ ∃ outcome after,
      l.turns source spMsg time l.turnBound = (some outcome, after) ∧
      Proc.exec (getNextMessage source spMsg time) l = (outcome, after)) := by
  have hnot : ¬ l.fInitialized = false := by simp [hinit]
  unfold getNextMessage
  rw [Proc.exec_bind_ok (Proc.exec_get l), Proc.exec_bind_ok (exec_chkIf_false hnot ..)]
  by_cases hempty : spMsg.allocatedSize = 0
  · rw [Proc.exec_bind_error (exec_chkIf_true hempty ..)]
    exact .inl ⟨by rw [hempty]; decide, rfl⟩
  rw [Proc.exec_bind_ok (exec_chkIf_false hempty ..)]
  by_cases hsmall : spMsg.allocatedSize < MAX_STUN_MESSAGE_SIZE
  · rw [Proc.exec_bind_error (exec_chkIf_true hsmall ..)]
    exact .inl ⟨hsmall, rfl⟩
  rw [Proc.exec_bind_ok (exec_chkIf_false hsmall ..)]
  obtain ⟨outcome, houtcome⟩ := turns_returns source spMsg time (turnsLeft_lt_bound l)
  refine .inr ⟨Nat.le_of_not_lt hsmall, outcome, (l.turns source spMsg time l.turnBound).2, ?_, ?_⟩
  · rw [← houtcome]
  · generalize l.turns source spMsg time l.turnBound = done at houtcome
    simp only [houtcome]
    rw [Proc.exec_bind_ok (Proc.exec_set ..)]
    cases outcome <;> rfl

omit [Platform] in
theorem put_current (hs : l.current = some s) : l.put s = l := by
  obtain ⟨-, hresults, htest⟩ := current_eq_some.mp hs
  obtain ⟨hlt, hget⟩ := List.getElem?_eq_some_iff.mp htest
  rw [CStunClientLogic.put, hresults, ← hget, List.set_getElem_self]

/-- `ProcessResponse` hands the message to the current test. -/
theorem exec_processResponse_current (addrRemote addrLocal : CSocketAddress) (hinit : l.fInitialized = true)
    (hsize : spMsg.size ≠ 0) (hs : l.current = some s) (hopen : isCompleted s = false) :
    Proc.exec (CStunClientLogic.processResponse spMsg addrRemote addrLocal) l =
      ((Proc.exec (IStunClientTest.processResponse spMsg addrRemote addrLocal) s).1,
        l.put (Proc.exec (IStunClientTest.processResponse spMsg addrRemote addrLocal) s).2) := by
  have hnot : ¬ l.fInitialized = false := by simp [hinit]
  have hpending : ¬ isCompleted s = true := by simp [hopen]
  unfold CStunClientLogic.processResponse
  rw [Proc.exec_bind_ok (Proc.exec_get l), Proc.exec_bind_ok (exec_chkIf_false hnot ..),
    Proc.exec_bind_ok (exec_chkIf_false hsize ..), hs]
  simp only
  rw [Proc.exec_bind_ok (exec_chkIf_false hpending ..), Proc.exec_bind_ok (Proc.exec_set ..)]
  rcases Proc.exec (IStunClientTest.processResponse spMsg addrRemote addrLocal) s with ⟨_ | _, _⟩ <;> rfl

/-- What `ProcessResponse` does: nothing, or the effect of a reply on the current test. -/
theorem processResponse_cases (spMsg : CBuffer) (addrRemote addrLocal : CSocketAddress) (l : CStunClientLogic) :
    (∃ hr, Proc.exec (CStunClientLogic.processResponse spMsg addrRemote addrLocal) l = (.error hr, l)) ∨
    ∃ s t, l.current = some s ∧ isCompleted s = false ∧ Effect spMsg addrLocal s t ∧
      Proc.exec (CStunClientLogic.processResponse spMsg addrRemote addrLocal) l = (.ok (), l.put t) := by
  by_cases hopen : l.fInitialized = true ∧ spMsg.size ≠ 0 ∧ ∃ s, l.current = some s ∧ isCompleted s = false
  · obtain ⟨hinit, hsize, s, hs, hopen⟩ := hopen
    have hrun := exec_processResponse_current addrRemote addrLocal hinit hsize hs hopen
    rcases exec_processResponse spMsg addrRemote addrLocal s with ⟨hr, htest⟩ | ⟨t, htest, heffect⟩
    · rw [htest, put_current hs] at hrun
      exact .inl ⟨hr, hrun⟩
    · rw [htest] at hrun
      exact .inr ⟨s, t, hs, hopen, heffect, hrun⟩
  · refine .inl ?_
    unfold CStunClientLogic.processResponse
    rw [Proc.exec_bind_ok (Proc.exec_get l)]
    by_cases hinit : l.fInitialized = false
    · exact ⟨_, Proc.exec_bind_error (exec_chkIf_true hinit ..) _⟩
    rw [Proc.exec_bind_ok (exec_chkIf_false hinit ..)]
    by_cases hempty : spMsg.size = 0
    · exact ⟨_, Proc.exec_bind_error (exec_chkIf_true hempty ..) _⟩
    rw [Proc.exec_bind_ok (exec_chkIf_false hempty ..)]
    cases hs : l.current with
    | none => exact ⟨_, rfl⟩
    | some s =>
      have hdone : isCompleted s = true := by
        by_contra hne
        exact hopen ⟨by simpa using hinit, hempty, s, hs, by simpa using hne⟩
      exact ⟨_, Proc.exec_bind_error (exec_chkIf_true hdone ..) _⟩

end Steps

/-! ## The machine -/

/-- A call on the client. -/
inductive ClientCall where
  | getNextMessage (source : RandomSource) (spMsg : CBuffer) (timeCurrentMilliseconds : UInt32)
  | processResponse (spMsg : CBuffer) (addrRemote addrLocal : CSocketAddress)

def ClientCall.run [Platform] : ClientCall → CStunClientLogic → CStunClientLogic
  | .getNextMessage source spMsg time, l => (Proc.exec (CStunClientLogic.getNextMessage source spMsg time) l).2
  | .processResponse spMsg addrRemote addrLocal, l =>
    (Proc.exec (CStunClientLogic.processResponse spMsg addrRemote addrLocal) l).2

/-- The calls, one after the other. -/
def runCalls [Platform] (calls : List ClientCall) (l : CStunClientLogic) : CStunClientLogic :=
  calls.foldl (fun l call => call.run l) l

/-- `Initialize` has accepted the configuration on a new client. -/
def Initialized (config : StunClientLogicConfig) (l : CStunClientLogic) : Prop :=
  ∃ memory fPreCheckRunOnTest,
    Proc.exec (initializeClient config) (CStunClientLogic.new memory fPreCheckRunOnTest) = (.ok (), l)

def client [Platform] (config : StunClientLogicConfig) : Machine CStunClientLogic ClientCall :=
  .ofFn (Initialized config) ClientCall.run

section Machine
variable {config : StunClientLogicConfig} {l : CStunClientLogic}

theorem Initialized.eq (h : Initialized config l) :
    config.addrServer.isIPAddressZero = false ∧ config.addrServer.getPort ≠ 0 ∧
    l = ⟨withDefaults config, StunClientResults.init, true, 0, 0, false, (testClasses config).map CStunClientTest.init,
      0⟩ := by
  obtain ⟨memory, fPreCheckRunOnTest, hrun⟩ := h
  have hnew : ¬ (CStunClientLogic.new memory fPreCheckRunOnTest).fInitialized = true := Bool.false_ne_true
  unfold initializeClient at hrun
  rw [Proc.exec_bind_ok (Proc.exec_get _), Proc.exec_bind_ok (exec_chkIf_false hnew ..)] at hrun
  by_cases hzero : config.addrServer.isIPAddressZero = true
  · rw [Proc.exec_bind_error (exec_chkIf_true hzero ..)] at hrun
    cases hrun
  rw [Proc.exec_bind_ok (exec_chkIf_false hzero ..)] at hrun
  by_cases hport : config.addrServer.getPort = 0
  · rw [Proc.exec_bind_error (exec_chkIf_true hport ..)] at hrun
    cases hrun
  rw [Proc.exec_bind_ok (exec_chkIf_false hport ..)] at hrun
  cases hrun
  exact ⟨by simpa using hzero, hport, rfl⟩

theorem Initialized.inv (h : Initialized config l) : LogicInv config l ∧ Settled l := by
  obtain ⟨-, -, rfl⟩ := h.eq
  refine ⟨⟨rfl, rfl, ?_, resultsInv_init _, fun _ => untouched_init, ?_, fun _ => rfl, fun _ => rfl⟩,
    fun _ _ => .inl rfl⟩
  · rw [List.map_map]
    exact List.map_id _
  · rintro (hpast | ⟨hfirst, -⟩)
    · cases hpast
    · cases hfirst

variable [Platform]

theorem settled_leave {source : RandomSource} {spMsg : CBuffer} {time : UInt32} {outcome : Except HRESULT Outgoing}
    {last after : CStunClientLogic} (h : last.turn source spMsg time = (.leave outcome, after)) : Settled after := by
  have htaken := turn_taken source spMsg time last
  rw [h] at htaken
  intro u hu
  cases htaken with
  | finished hnone => rw [hnone] at hu; cases hu
  | waited hs hready =>
    rw [current_checked hs] at hu
    obtain rfl := Option.some.inj hu
    exact .inr (.inr ⟨rfl, hready⟩)
  | sent hs hready =>
    rw [current_afterSend source time hs] at hu
    obtain rfl := Option.some.inj hu
    exact .inr (.inr ⟨rfl, hready⟩)

/-- A call of `GetNextMessage` that has room ends with the last turn of its loop. -/
theorem getNextMessage_last {I : CStunClientLogic → Prop} {source : RandomSource} {spMsg : CBuffer} {time : UInt32}
    (hagain : ∀ l t, I l → l.turn source spMsg time = (.again, t) → I t) (hinv : LogicInv config l) (h : I l)
    (hroom : MAX_STUN_MESSAGE_SIZE ≤ spMsg.allocatedSize) :
    ∃ outcome last after, LogicInv config last ∧ I last ∧ last.turn source spMsg time = (.leave outcome, after) ∧
      Proc.exec (CStunClientLogic.getNextMessage source spMsg time) l = (outcome, after) := by
  rcases getNextMessage_cases source spMsg time hinv.initialized with ⟨hsmall, -⟩ | ⟨-, outcome, after, hturns, hrun⟩
  · exact absurd hroom (Nat.not_le.mpr hsmall)
  · obtain ⟨last, ⟨hlogic, hlast⟩, hleave⟩ := turns_last (I := fun l => LogicInv config l ∧ I l) (fun l t hl hturn => by
      have hlogic := hl.1.turn source spMsg time
      rw [hturn] at hlogic
      exact ⟨hlogic, hagain l t hl.2 hturn⟩) l.turnBound ⟨hinv, h⟩ hturns
    exact ⟨outcome, last, after, hlogic, hlast, hleave, hrun⟩

/-- One call. -/
theorem call_inv (h : LogicInv config l) (hsettled : Settled l) (call : ClientCall) :
    LogicInv config (call.run l) ∧ Settled (call.run l) := by
  cases call with
  | getNextMessage source spMsg time =>
    rcases getNextMessage_cases source spMsg time h.initialized with ⟨-, hrun⟩ | ⟨-, outcome, after, hturns, hrun⟩
    · rw [ClientCall.run, hrun]
      exact ⟨h, hsettled⟩
    · obtain ⟨hinv, hlast⟩ := turns_invariant (fun _ hl => LogicInv.turn source spMsg time hl) l.turnBound h
      rw [hturns] at hinv hlast
      obtain ⟨last, -, hleave⟩ := hlast outcome rfl
      rw [ClientCall.run, hrun]
      exact ⟨hinv, settled_leave hleave⟩
  | processResponse spMsg addrRemote addrLocal =>
    rcases processResponse_cases spMsg addrRemote addrLocal l with ⟨hr, hrun⟩ | ⟨s, t, hs, hopen, heffect, hrun⟩
    · rw [ClientCall.run, hrun]
      exact ⟨h, hsettled⟩
    · rw [ClientCall.run, hrun]
      have hready : l.nTestIndex = 0 ∨ (l.fPreCheckRunOnTest = true ∧ isReadyToRun s = true) := by
        rcases hsettled s hs with hzero | hdone | hready
        · exact .inl hzero
        · rw [hopen] at hdone
          cases hdone
        · exact .inr hready
      refine ⟨h.effect hs hready heffect, fun u hu => .inr (.inl ?_)⟩
      rw [current_put hs heffect.sameTest.1.config] at hu
      obtain rfl := Option.some.inj hu
      exact heffect.sameTest.2

theorem client_inv (h : (client config).Reachable l) : LogicInv config l ∧ Settled l := by
  refine h.invariant (I := fun l => LogicInv config l ∧ Settled l) (fun _ => Initialized.inv) ?_
  rintro l call _ ⟨hinv, hsettled⟩ rfl
  exact call_inv hinv hsettled call

theorem runCalls_reachable (h : Initialized config l) (calls : List ClientCall) :
    (client config).Reachable (runCalls calls l) :=
  Machine.reachable_foldl calls (.start h)

/-- A run that ends with the given call. -/
theorem run_call (h : (client config).Reachable l) (call : ClientCall) :
    ∃ history, (client config).Run (⟨l, call, call.run l⟩ :: history) (call.run l) := by
  obtain ⟨history, hrun⟩ := h
  exact ⟨history, hrun.step rfl⟩

/-- Once the results are ready, `GetNextMessage` says so. -/
theorem getNextMessage_finished (h : LogicInv config l) (hdone : l.current = none) (source : RandomSource) {spMsg : CBuffer}
    (hroom : MAX_STUN_MESSAGE_SIZE ≤ spMsg.allocatedSize) (time : UInt32) :
    Proc.exec (CStunClientLogic.getNextMessage source spMsg time) l = (.error E_STUNCLIENT_RESULTS_READY, l) := by
  rcases getNextMessage_cases source spMsg time h.initialized with ⟨hsmall, -⟩ | ⟨-, outcome, after, hturns, hrun⟩
  · exact absurd hroom (Nat.not_le.mpr hsmall)
  · have hturn : l.turn source spMsg time = (.leave (.error E_STUNCLIENT_RESULTS_READY), l) := by
      rw [CStunClientLogic.turn, hdone]
    rw [turnBound, turns, hturn] at hturns
    cases hturns
    exact hrun

/-- Then no response is taken. -/
theorem processResponse_finished (hdone : l.current = none) (spMsg : CBuffer) (addrRemote addrLocal : CSocketAddress) :
    ∃ hr, Proc.exec (CStunClientLogic.processResponse spMsg addrRemote addrLocal) l = (.error hr, l) := by
  rcases processResponse_cases spMsg addrRemote addrLocal l with hrun | ⟨s, t, hs, -, -, -⟩
  · exact hrun
  · rw [hdone] at hs
    cases hs

theorem call_finished (h : LogicInv config l) (hdone : l.current = none) (call : ClientCall) : call.run l = l := by
  cases call with
  | getNextMessage source spMsg time =>
    rcases getNextMessage_cases source spMsg time h.initialized with ⟨-, hrun⟩ | ⟨hroom, -⟩
    · rw [ClientCall.run, hrun]
    · rw [ClientCall.run, getNextMessage_finished h hdone source hroom time]
  | processResponse spMsg addrRemote addrLocal =>
    obtain ⟨hr, hrun⟩ := processResponse_finished hdone spMsg addrRemote addrLocal
    rw [ClientCall.run, hrun]

theorem runCalls_finished (h : LogicInv config l) (hdone : l.current = none) (calls : List ClientCall) :
    runCalls calls l = l := by
  induction calls with
  | nil => rfl
  | cons call calls ih =>
    rw [runCalls, List.foldl_cons, call_finished h hdone]
    exact ih

end Machine

end NatTester.Client
