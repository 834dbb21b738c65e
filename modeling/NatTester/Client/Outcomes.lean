import NatTester.Client.Requests

/-!
# How a call of GetNextMessage ends

With room for a message a call sends one, or finds the results ready, or waits.
It waits exactly where the current test is open, has sent, and its timeout has
not passed.
-/
namespace NatTester.Client
open NatTester.Lib NatTester.Source IStunClientTest CStunClientLogic

/-- If a message was sent for the current test and the test is still open, its timeout has passed. -/
def PastTimeout (time : UInt32) (l : CStunClientLogic) : Prop :=
  ∀ s, l.current = some s → isCompleted s = false → l.sendCount ≠ 0 →
    l.config.timeoutSeconds ≤ (time - l.timeLastMessageSent) / 1000

section Outcomes
variable [Platform] {config : StunClientLogicConfig} {l t after : CStunClientLogic} {s : TestState}
  {source : RandomSource} {spMsg : CBuffer} {time : UInt32} {outgoing : Outgoing}

omit [Platform] in
theorem waiting_iff : l.waiting time = true ↔
    l.sendCount ≠ 0 ∧ ¬ l.config.timeoutSeconds ≤ (time - l.timeLastMessageSent) / 1000 := by
  rw [waiting, decide_eq_true_eq, UInt32.not_le]
  exact and_comm

omit [Platform] in
/-- Between two calls the early check of an open test has nothing left to do. -/
theorem Settled.preCheck (h : Settled l) (hinv : LogicInv config l) (hs : l.current = some s)
    (hopen : isCompleted s = false) : l.preCheck s = s ∧ isReadyToRun s = true := by
  rcases h s hs with hzero | hdone | ⟨hchecked, hready⟩
  · have hbasic := (hinv.basic_iff hs).mpr hzero
    obtain ⟨-, -, -, -, hsame⟩ := preRunCheck_results s
    constructor
    · unfold CStunClientLogic.preCheck
      split
      · exact hsame hbasic
      · rfl
    · have hcompleted : s.test.fCompleted = false := hopen
      simp only [isReadyToRun, hbasic, CBasicBindingTest.isReadyToRun, hcompleted, Bool.not_false]
  · rw [hopen] at hdone
    cases hdone
  · constructor
    · rw [CStunClientLogic.preCheck, hchecked]
      rfl
    · exact hready

/-- A turn that goes on leaves a test that has sent nothing, or one that is completed. -/
theorem turn_again_resting (h : l.turn source spMsg time = (.again, t)) :
    t.sendCount = 0 ∨ ∀ s, t.current = some s → isCompleted s = true := by
  have htaken := turn_taken source spMsg time l
  rw [h] at htaken
  cases htaken with
  | skipped hs _ => exact .inl rfl
  | timedOut hs _ =>
    apply Or.inr
    intro u hu
    rw [current_put (current_checked hs) (sameTest_notifyTimeout _).config] at hu
    obtain rfl := Option.some.inj hu
    exact notifyTimeout_completed _

/-- The last turn of a call that returns a message. -/
structure Sends (source : RandomSource) (spMsg : CBuffer) (time : UInt32) (outgoing : Outgoing)
    (last after : CStunClientLogic) (s : TestState) : Prop where
  current : last.current = some s
  ready : isReadyToRun (last.preCheck s) = true
  attempts : last.sendCount < last.config.uMaxAttempts
  outgoing_eq : outgoing = ⟨writtenTo source spMsg (last.preCheck s), destination (last.preCheck s)⟩
  after_eq : after = afterSend source time last s
  turn_eq : last.turn source spMsg time = (.leave (.ok outgoing), after)

/-- How the loop is left. -/
theorem turn_leave {outcome : Except HRESULT Outgoing} (h : l.turn source spMsg time = (.leave outcome, after)) :
    (outcome = .error E_STUNCLIENT_RESULTS_READY ∧ l.current = none ∧ after = l) ∨
    (outcome = .error E_STUNCLIENT_STILL_WAITING ∧ l.waiting time = true ∧
      ∃ s, l.current = some s ∧ isReadyToRun (l.preCheck s) = true) ∨
    ∃ outgoing s, outcome = .ok outgoing ∧ Sends source spMsg time outgoing l after s := by
  have htaken := turn_taken source spMsg time l
  rw [h] at htaken
  cases htaken with
  | finished hnone => exact .inl ⟨rfl, hnone, rfl⟩
  | waited hs hready hwaiting => exact .inr (.inl ⟨rfl, hwaiting, _, hs, hready⟩)
  | sent hs hready _ hattempts => exact .inr (.inr ⟨_, _, rfl, hs, hready, hattempts, rfl, rfl, h⟩)

/-- A call that waits does so in its first turn. -/
theorem getNextMessage_waiting_iff (hinv : LogicInv config l) (hsettled : Settled l)
    (hroom : MAX_STUN_MESSAGE_SIZE ≤ spMsg.allocatedSize) :
    (Proc.exec (CStunClientLogic.getNextMessage source spMsg time) l).1 = .error E_STUNCLIENT_STILL_WAITING ↔
      ¬ PastTimeout time l := by
  constructor
  · intro hwaits hpast
    obtain ⟨outcome, last, after, hlogic, hlast, hleave, hexec⟩ := getNextMessage_last
      (I := fun t => t = l ∨ t.sendCount = 0 ∨ ∀ s, t.current = some s → isCompleted s = true)
      (fun _ _ _ hturn => .inr (turn_again_resting hturn)) hinv (.inl rfl) hroom
    rw [hexec] at hwaits
    obtain rfl : outcome = _ := hwaits
    rcases turn_leave hleave with ⟨hcode, -⟩ | ⟨-, hwaiting, s, hs, hready⟩ | ⟨outgoing, s, hcode, -⟩
    · exact absurd (Except.error.inj hcode) (by decide)
    · obtain ⟨hsent, hshort⟩ := waiting_iff.mp hwaiting
      have hopen := not_completed_before hready
      rcases hlast with rfl | hzero | hdone
      · exact hshort (hpast _ hs hopen hsent)
      · exact hsent hzero
      · rw [hdone _ hs] at hopen
        cases hopen
    · cases hcode
  · intro hshort
    simp only [PastTimeout, not_forall] at hshort
    obtain ⟨s, hs, hopen, hsent, helapsed⟩ := hshort
    obtain ⟨hsame, hready⟩ := hsettled.preCheck hinv hs hopen
    have hwaiting : l.waiting time = true := waiting_iff.mpr ⟨hsent, helapsed⟩
    have hturn : l.turn source spMsg time = (.leave (.error E_STUNCLIENT_STILL_WAITING), checked l s) := by
      have htaken := turn_taken source spMsg time l
      generalize l.turn source spMsg time = result at htaken
      cases htaken with
      | finished hnone =>
        rw [hnone] at hs
        cases hs
      | skipped hs' hpassed =>
        obtain rfl := Option.some.inj (hs.symm.trans hs')
        rw [hsame, hopen, hready] at hpassed
        simp at hpassed
      | waited hs' =>
        obtain rfl := Option.some.inj (hs.symm.trans hs')
        rfl
      | timedOut _ _ hnot =>
        rw [hwaiting] at hnot
        cases hnot
      | sent _ _ hnot =>
        rw [hwaiting] at hnot
        cases hnot
    rcases getNextMessage_cases source spMsg time hinv.initialized with ⟨hsmall, -⟩ | ⟨-, outcome, after, hturns, hexec⟩
    · exact absurd hroom (Nat.not_le.mpr hsmall)
    · rw [turnBound, turns, hturn] at hturns
      cases hturns
      rw [hexec]

/-- A call that returns a message, and what held in its last turn. -/
theorem getNextMessage_sends {I : CStunClientLogic → Prop}
    (hagain : ∀ l t, I l → l.turn source spMsg time = (.again, t) → I t) (hinv : LogicInv config l) (h : I l)
    (hcall : Proc.exec (CStunClientLogic.getNextMessage source spMsg time) l = (.ok outgoing, after)) :
    MAX_STUN_MESSAGE_SIZE ≤ spMsg.allocatedSize ∧
      ∃ last s, LogicInv config last ∧ I last ∧ Sends source spMsg time outgoing last after s := by
  rcases getNextMessage_cases source spMsg time hinv.initialized with ⟨-, hrefused⟩ | ⟨hroom, -⟩
  · rw [hcall] at hrefused
    cases hrefused
  obtain ⟨outcome, last, after', hlogic, hlast, hleave, hexec⟩ := getNextMessage_last hagain hinv h hroom
  rw [hcall] at hexec
  cases hexec
  rcases turn_leave hleave with ⟨hcode, -⟩ | ⟨hcode, -⟩ | ⟨outgoing', s, hcode, hsends⟩
  · cases hcode
  · cases hcode
  · cases hcode
    exact ⟨hroom, last, s, hlogic, hlast, hsends⟩

/-- The message is in the buffer of the caller, and is a request. -/
theorem getNextMessage_request (hinv : LogicInv config l)
    (hcall : Proc.exec (CStunClientLogic.getNextMessage source spMsg time) l = (.ok outgoing, after)) :
    outgoing.spMsg.allocatedSize = spMsg.allocatedSize ∧
      ∃ transid change, outgoing.spMsg.contents = requestBytes transid change := by
  have hagain : ∀ l t : CStunClientLogic, True → l.turn source spMsg time = (.again, t) → True := fun _ _ _ _ => trivial
  obtain ⟨hroom, last, s, -, -, hsends⟩ := getNextMessage_sends hagain hinv trivial hcall
  obtain ⟨hcontents, hallocated⟩ := writtenTo_spec source hroom (last.preCheck s)
  rw [hsends.outgoing_eq]
  exact ⟨hallocated, _, _, hcontents⟩

/-- Where a call that sends leaves the client, when a test is attempted once: at a test that has
just sent, which is another one than before if that had sent already. -/
structure MovedOn (config : StunClientLogicConfig) (time : UInt32) (l after : CStunClientLogic) : Prop where
  sent : after.sendCount ≠ 0
  timer : after.timeLastMessageSent = time
  forward : l.nTestIndex ≤ after.nTestIndex
  next : l.sendCount ≠ 0 → l.nTestIndex < after.nTestIndex
  inRange : after.nTestIndex < (testClasses config).length

theorem getNextMessage_movedOn (honce : (withDefaults config).uMaxAttempts = 1) (hinv : LogicInv config l)
    (hcall : Proc.exec (CStunClientLogic.getNextMessage source spMsg time) l = (.ok outgoing, after)) :
    MovedOn config time l after := by
  have hagain : ∀ t u : CStunClientLogic,
      l.nTestIndex < t.nTestIndex ∨ (t.nTestIndex = l.nTestIndex ∧ t.sendCount = l.sendCount) →
      t.turn source spMsg time = (.again, u) →
      l.nTestIndex < u.nTestIndex ∨ (u.nTestIndex = l.nTestIndex ∧ u.sendCount = l.sendCount) := by
    intro t u ht hturn
    have htaken := turn_taken source spMsg time t
    rw [hturn] at htaken
    cases htaken with
    | skipped _ _ =>
      apply Or.inl
      change l.nTestIndex < t.nTestIndex + 1
      omega
    | timedOut _ _ => exact ht
  obtain ⟨-, last, s, hlogic, hlast, hsends⟩ := getNextMessage_sends hagain hinv (.inr ⟨rfl, rfl⟩) hcall
  have hattempts := hsends.attempts
  rw [hlogic.config_eq, honce] at hattempts
  have hzero : last.sendCount = 0 := UInt32.toNat_inj.mp (Nat.lt_one_iff.mp hattempts)
  have hlength : last.testlist.length = (testClasses config).length := by
    rw [← hlogic.classes, List.length_map]
  obtain rfl := hsends.after_eq
  constructor
  · change last.sendCount + 1 ≠ 0
    rw [hzero]
    decide
  · rfl
  · change l.nTestIndex ≤ last.nTestIndex
    omega
  · intro hne
    change l.nTestIndex < last.nTestIndex
    rcases hlast with hnext | ⟨-, hsame⟩
    · exact hnext
    · rw [← hsame] at hne
      exact absurd hzero hne
  · rw [← hlength]
    exact current_lt hsends.current

/-- A response moves no test on and touches no timer. -/
theorem processResponse_position (spMsg : CBuffer) (addrRemote addrLocal : CSocketAddress) (l : CStunClientLogic) :
    (Proc.exec (CStunClientLogic.processResponse spMsg addrRemote addrLocal) l).2.nTestIndex = l.nTestIndex ∧
      (Proc.exec (CStunClientLogic.processResponse spMsg addrRemote addrLocal) l).2.sendCount = l.sendCount ∧
      (Proc.exec (CStunClientLogic.processResponse spMsg addrRemote addrLocal) l).2.timeLastMessageSent =
        l.timeLastMessageSent := by
  rcases processResponse_cases spMsg addrRemote addrLocal l with ⟨hr, hrun⟩ | ⟨s, t, -, -, -, hrun⟩
  · rw [hrun]
    exact ⟨rfl, rfl, rfl⟩
  · rw [hrun]
    exact ⟨rfl, rfl, rfl⟩

/-- A call that has room sends, or finds the results ready, or waits. -/
theorem getNextMessage_outcome (hinv : LogicInv config l) (source : RandomSource) (time : UInt32)
    (hroom : MAX_STUN_MESSAGE_SIZE ≤ spMsg.allocatedSize) :
    (∃ outgoing, (Proc.exec (CStunClientLogic.getNextMessage source spMsg time) l).1 = .ok outgoing) ∨
      (Proc.exec (CStunClientLogic.getNextMessage source spMsg time) l).1 = .error E_STUNCLIENT_RESULTS_READY ∨
      (Proc.exec (CStunClientLogic.getNextMessage source spMsg time) l).1 = .error E_STUNCLIENT_STILL_WAITING := by
  have hagain : ∀ l t : CStunClientLogic, True → l.turn source spMsg time = (.again, t) → True := fun _ _ _ _ => trivial
  obtain ⟨outcome, last, after, -, -, hleave, hexec⟩ := getNextMessage_last hagain hinv trivial hroom
  rw [hexec]
  rcases turn_leave hleave with ⟨hcode, -⟩ | ⟨hcode, -⟩ | ⟨outgoing, s, hcode, -⟩
  · exact .inr (.inl hcode)
  · exact .inr (.inr hcode)
  · exact .inl ⟨outgoing, hcode⟩

end Outcomes

end NatTester.Client
