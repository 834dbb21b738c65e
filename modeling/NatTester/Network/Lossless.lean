import NatTester.Network.Plan

/-!
# The loop carries out the plan

On a network that loses nothing the client is, in front of every turn of its loop,
at some stage of one test of the plan: the test is fresh, or it waits for an answer
that the NAT does not let in, or it is settled as the plan has it. A turn of
`GetNextMessage`, a request and an answer lead from stage to stage.
-/
namespace NatTester.Network
open NatTester.Lib NatTester.Source NatTester.Wire NatTester.Client IStunClientTest CStunClientLogic
  CStunRequestHandler CStunMessageReader World

/-! ## What does not depend on the transaction id -/

section Transid
variable {s : TestState} {transid : StunTransactionId}

theorem withTransid_notifyTimeout : (notifyTimeout (withTransid transid s)).results = (notifyTimeout s).results := by
  obtain ⟨config, results, testClass, fCompleted, before⟩ := s
  cases testClass with
  | basicBindingTest => rfl
  | behaviorTest fIsTest3 => rfl
  | filteringTest fIsTest3 => cases fIsTest3 <;> rfl

theorem withTransid_answered (w : World) : (w.answered (withTransid transid s)).results = (w.answered s).results := by
  obtain ⟨config, results, testClass, fCompleted, before⟩ := s
  cases testClass with
  | basicBindingTest => rfl
  | behaviorTest fIsTest3 =>
    change (CBehaviorTest.recordMapping _ _ _).results = (CBehaviorTest.recordMapping _ _ _).results
    unfold CBehaviorTest.recordMapping
    simp only [apply_ite TestState.results]
    rfl
  | filteringTest fIsTest3 => cases fIsTest3 <;> rfl

theorem answered_completed (w : World) (s : TestState) : isCompleted (w.answered s) = true := by
  unfold answered
  split
  · rfl
  · unfold CBehaviorTest.recordMapping
    split
    · rfl
    · split <;> rfl
  · unfold CFilteringTest.recordReply
    split <;> rfl

theorem answered_config (w : World) (s : TestState) : (w.answered s).config = s.config := by
  unfold answered
  split
  · rfl
  · unfold CBehaviorTest.recordMapping
    split
    · rfl
    · split <;> rfl
  · unfold CFilteringTest.recordReply
    split <;> rfl

end Transid

/-! ## The stages -/

/-- The tests from the position on have not been begun. -/
def FreshFrom (config : StunClientLogicConfig) (l : CStunClientLogic) (i : Nat) : Prop :=
  ∀ j, i ≤ j → l.testlist[j]? = (testClasses config)[j]?.map CStunClientTest.init

/-- The results and the requests sent are those of the trial. -/
structure StandsAt (trial : Trial) (l : CStunClientLogic) (sent : List CSocketAddress) : Prop where
  results : l.results = trial.results
  contacted : ∀ addr, addr ∈ sent ↔ addr ∈ trial.contacted

/-- The current test has sent its request with the transaction id. -/
structure Asking (w : World) (config : StunClientLogicConfig) (l : CStunClientLogic) (sent : List CSocketAddress)
    (testClass : TestClass) (transid : StunTransactionId) : Prop where
  checked : l.fPreCheckRunOnTest = true
  later : FreshFrom config l (l.nTestIndex + 1)
  at_class : (testClasses config)[l.nTestIndex]? = some testClass
  current : l.current = some (withTransid transid (begun config (w.trialAt config l.nTestIndex) testClass))
  ready : isReadyToRun (begun config (w.trialAt config l.nTestIndex) testClass) = true
  contacted : ∀ addr, addr ∈ sent ↔ addr ∈ w.server.target testClass :: (w.trialAt config l.nTestIndex).contacted

inductive Stage (w : World) (config : StunClientLogicConfig) (l : CStunClientLogic) (sent : List CSocketAddress) : Prop
  | fresh (unsent : l.sendCount = 0) (unchecked : l.fPreCheckRunOnTest = false) (later : FreshFrom config l l.nTestIndex)
      (stands : StandsAt (w.trialAt config l.nTestIndex) l sent)
  | waiting {testClass : TestClass} {transid : StunTransactionId} (asking : Asking w config l sent testClass transid)
      (blocked : w.lets sent testClass = false)
  | settled {s : TestState} (checked : l.fPreCheckRunOnTest = true) (later : FreshFrom config l (l.nTestIndex + 1))
      (current : l.current = some s) (completed : isCompleted s = true)
      (stands : StandsAt (w.trialAt config (l.nTestIndex + 1)) l sent)

section Turns
variable {w : World} {config : StunClientLogicConfig} {l t : CStunClientLogic} {sent : List CSocketAddress}
  {s u : TestState} {testClass : TestClass} {transid : StunTransactionId}

theorem checked_eq (hs : l.current = some s) (hcheck : l.fPreCheckRunOnTest = true) :
    l.preCheck s = s ∧ checked l s = l := by
  have hpre : l.preCheck s = s := by rw [preCheck, if_neg (by rw [hcheck]; exact Bool.noConfusion)]
  refine ⟨hpre, ?_⟩
  rw [Client.checked, hpre, put_current hs, ← hcheck]

theorem FreshFrom.put (h : FreshFrom config l (l.nTestIndex + 1)) (u : TestState) :
    FreshFrom config (l.put u) (l.nTestIndex + 1) := by
  intro j hj
  rw [CStunClientLogic.put, List.getElem?_set_ne (Nat.ne_of_lt hj)]
  exact h j hj

/-- A fresh test begins as the plan has it. -/
theorem fresh_current (hinv : LogicInv config l) (hunchecked : l.fPreCheckRunOnTest = false)
    (hlater : FreshFrom config l l.nTestIndex) (hstands : StandsAt (w.trialAt config l.nTestIndex) l sent)
    (hs : l.current = some s) :
    ∃ testClass, (testClasses config)[l.nTestIndex]? = some testClass ∧
      l.preCheck s = begun config (w.trialAt config l.nTestIndex) testClass := by
  obtain ⟨hconfig, hresults, htest⟩ := current_eq_some.mp hs
  have hclass := hinv.class_at hs
  refine ⟨s.test.testClass, hclass, ?_⟩
  have hinit := hlater l.nTestIndex (Nat.le_refl _)
  rw [htest, hclass] at hinit
  have hfresh : s.test = CStunClientTest.init s.test.testClass := Option.some.inj hinit
  obtain ⟨config', results, test⟩ := s
  change config' = l.config at hconfig
  change results = l.results at hresults
  change test = CStunClientTest.init test.testClass at hfresh
  rw [preCheck, if_pos hunchecked, begun, ← hinv.config_eq, ← hstands.results, ← hconfig, ← hresults, ← hfresh]

theorem Asking.open (h : Asking w config l sent testClass transid) :
    isCompleted (withTransid transid (begun config (w.trialAt config l.nTestIndex) testClass)) = false :=
  not_completed_of_ready h.ready

/-- A test that has run out of attempts, or that has been answered, is settled as the plan has it. -/
theorem Asking.settles (h : Asking w config l sent testClass transid) (hconfig : u.config = withDefaults config)
    (hcompleted : isCompleted u = true)
    (hresults : u.results = (if w.lets sent testClass then
      w.answered (begun config (w.trialAt config l.nTestIndex) testClass)
      else notifyTimeout (begun config (w.trialAt config l.nTestIndex) testClass)).results) :
    Stage w config (l.put u) sent := by
  refine .settled h.checked (h.later.put u) (current_put h.current ?_) hcompleted ?_
  · exact hconfig.trans (begun_same config _ testClass).1.symm
  · change StandsAt (w.trialAt config (l.nTestIndex + 1)) _ _
    rw [trialAt_succ h.at_class, conduct]
    simp only [h.ready, if_true]
    rw [← lets_congr h.contacted]
    exact ⟨hresults, h.contacted⟩

variable [Platform] {source : RandomSource} {spMsg : CBuffer} {time : UInt32} {hr : HRESULT} {outgoing : Outgoing}

theorem Stage.again (hinv : LogicInv config l) (h : Stage w config l sent)
    (hturn : l.turn source spMsg time = (.again, t)) : Stage w config t sent := by
  have htaken := turn_taken source spMsg time l
  rw [hturn] at htaken
  cases htaken with
  | @skipped s hs hpassed =>
    cases h with
    | fresh hunsent hunchecked hlater hstands =>
      obtain ⟨testClass, hclass, hbegun⟩ := fresh_current hinv hunchecked hlater hstands hs
      rw [hbegun] at hpassed
      have hnot : isReadyToRun (begun config (w.trialAt config l.nTestIndex) testClass) = false := by
        by_contra hready
        rw [Bool.not_eq_false] at hready
        rw [hready, not_completed_of_ready hready] at hpassed
        exact hpassed.elim Bool.noConfusion Bool.noConfusion
      refine .fresh rfl rfl ?_ ?_
      · have hput := FreshFrom.put (fun j hj => hlater j (Nat.le_of_succ_le hj)) (l.preCheck s)
        exact hput
      · change StandsAt (w.trialAt config (l.nTestIndex + 1)) _ _
        rw [trialAt_succ hclass, conduct]
        simp only [hnot, Bool.false_eq_true, if_false]
        exact ⟨congrArg TestState.results hbegun, hstands.contacted⟩
    | waiting hasking =>
      obtain rfl := Option.some.inj (hs.symm.trans hasking.current)
      rw [(checked_eq hs hasking.checked).1, hasking.open] at hpassed
      have hready := hasking.ready
      rcases hpassed with hpassed | hpassed
      · cases hpassed
      · cases hready.symm.trans hpassed
    | settled hchecked hlater hcurrent hcompleted hstands =>
      rw [(checked_eq hs hchecked).2]
      exact .fresh rfl rfl hlater ⟨hstands.results, hstands.contacted⟩
  | @timedOut s hs hready helapsed hattempts =>
    cases h with
    | fresh hunsent =>
      rw [hunsent, hinv.config_eq] at hattempts
      exact absurd hattempts (UInt32.not_le.mpr (withDefaults_attempts config))
    | waiting hasking hblocked =>
      obtain rfl := Option.some.inj (hs.symm.trans hasking.current)
      rw [(checked_eq hs hasking.checked).2, (checked_eq hs hasking.checked).1]
      refine hasking.settles ?_ (notifyTimeout_completed _) ?_
      · exact (sameTest_notifyTimeout _).config.trans (begun_same config _ _).1
      · rw [if_neg (by rw [hblocked]; exact Bool.false_ne_true), withTransid_notifyTimeout]
    | settled hchecked _ hcurrent hcompleted _ =>
      obtain rfl := Option.some.inj (hs.symm.trans hcurrent)
      rw [(checked_eq hs hchecked).1] at hready
      cases hcompleted.symm.trans (not_completed_of_ready hready)

/-- A turn that leaves without a message leaves the client where it is. -/
theorem Stage.quiet (h : Stage w config l sent)
    (hturn : l.turn source spMsg time = (.leave (.error hr), t)) : t = l := by
  have htaken := turn_taken source spMsg time l
  rw [hturn] at htaken
  cases htaken with
  | finished => rfl
  | @waited s hs hready hwaiting =>
    cases h with
    | fresh hunsent =>
      rw [CStunClientLogic.waiting, hunsent] at hwaiting
      simp at hwaiting
    | waiting hasking => exact (checked_eq hs hasking.checked).2
    | settled hchecked => exact (checked_eq hs hchecked).2

/-- A test that has been given its early chance, and is ready, asks. -/
theorem asking_afterSend (haddress : config.addrServer = w.server.addrPrimary) (hs : l.current = some s)
    (hlater : FreshFrom config l (l.nTestIndex + 1)) (hclass : (testClasses config)[l.nTestIndex]? = some testClass)
    (hbegun : l.preCheck s = withTransid transid (begun config (w.trialAt config l.nTestIndex) testClass))
    (hready : isReadyToRun (l.preCheck s) = true)
    (hcontacted : ∀ addr, addr ∈ w.server.target testClass :: sent ↔
      addr ∈ w.server.target testClass :: (w.trialAt config l.nTestIndex).contacted)
    (hroom : MAX_STUN_MESSAGE_SIZE ≤ spMsg.allocatedSize) (source : RandomSource) (time : UInt32) :
    Asking w config (afterSend source time l s) (w.server.target testClass :: sent) testClass
        (requestTransid source transid) ∧
      destination (l.preCheck s) = w.server.target testClass ∧
      (writtenTo source spMsg (l.preCheck s)).contents =
        requestBytes (requestTransid source transid) (requestedChange testClass) := by
  have hat := current_afterSend source time hs
  have hwritten := (writtenTo_spec source hroom (l.preCheck s)).1
  have hput := (hlater.put (l.preCheck s)).put (withTransid (requestTransid source (l.preCheck s).test.transid) (l.preCheck s))
  rw [hbegun] at hready hat hwritten
  refine ⟨⟨rfl, hput, hclass, hat, hready, hcontacted⟩, ?_, ?_⟩
  · rw [hbegun]
    exact destination_begun haddress (trialAt_knowsOther haddress _) hready
  · rw [hbegun, hwritten]
    exact congrArg (fun c => requestBytes _ (requestedChange c)) (begun_same config _ testClass).2

/-- The turn that sends a message is one of a test of the plan. -/
theorem Stage.sends (hinv : LogicInv config l) (haddress : config.addrServer = w.server.addrPrimary)
    (h : Stage w config l sent) (hroom : MAX_STUN_MESSAGE_SIZE ≤ spMsg.allocatedSize)
    (hturn : l.turn source spMsg time = (.leave (.ok outgoing), t)) :
    ∃ testClass transid, Asking w config t (w.server.target testClass :: sent) testClass transid ∧
      outgoing.addrDest = w.server.target testClass ∧
      outgoing.spMsg.contents = requestBytes transid (requestedChange testClass) := by
  have htaken := turn_taken source spMsg time l
  rw [hturn] at htaken
  cases htaken with
  | @sent s hs hready helapsed hattempts =>
    cases h with
    | fresh hunsent hunchecked hlater hstands =>
      obtain ⟨testClass, hclass, hbegun⟩ := fresh_current hinv hunchecked hlater hstands hs
      refine ⟨testClass, _, asking_afterSend haddress hs (fun j hj => hlater j (Nat.le_of_succ_le hj)) hclass hbegun hready
        (fun addr => ?_) hroom source time⟩
      rw [List.mem_cons, List.mem_cons, hstands.contacted addr]
    | @waiting testClass transid hasking hblocked =>
      obtain rfl := Option.some.inj (hs.symm.trans hasking.current)
      obtain ⟨hpre, -⟩ := checked_eq hs hasking.checked
      refine ⟨testClass, _, asking_afterSend haddress hs hasking.later hasking.at_class hpre hready (fun addr => ?_) hroom
        source time⟩
      rw [List.mem_cons, hasking.contacted addr, List.mem_cons, ← or_assoc, or_self]
    | settled hchecked _ hcurrent hcompleted _ =>
      obtain rfl := Option.some.inj (hs.symm.trans hcurrent)
      rw [(checked_eq hs hchecked).1] at hready
      cases hcompleted.symm.trans (not_completed_of_ready hready)

/-! ## The answer -/

/-- A test takes the answer to its own request. -/
theorem exec_processResponse_answered {reader : CStunMessageReader} (addrRemote : CSocketAddress)
    (hreplies : RepliesTo s.test spMsg reader) (hlearns : Learns w.server w.nat s.test.testClass reader) :
    Proc.exec (IStunClientTest.processResponse spMsg addrRemote w.addrLocal) s = (.ok (), w.answered s) := by
  have hvalidated : Proc.exec (CStunClientTestBase.basicReaderValidation spMsg) s = (.ok reader, s) := by
    rcases exec_basicReaderValidation spMsg s with ⟨reader', hreplies', hrun⟩ | ⟨hnone, -⟩
    · obtain rfl : reader' = reader := (Prod.mk.inj (hreplies'.1.symm.trans hreplies.1)).2
      exact hrun
    · exact absurd hreplies (hnone reader)
  have hmapped := exec_mappedAddress reader s
  rw [hlearns.mapped] at hmapped
  unfold IStunClientTest.processResponse answered
  rw [Proc.exec_bind_ok (Proc.exec_get s)]
  cases hclass : s.test.testClass with
  | basicBindingTest =>
    simp only [CBasicBindingTest.processResponse]
    rw [Proc.exec_bind_ok hvalidated, Proc.exec_bind_ok hmapped, Proc.exec_modify, hlearns.other hclass, hclass]
    rfl
  | behaviorTest fIsTest3 =>
    simp only [CBehaviorTest.processResponse]
    rw [Proc.exec_bind_ok hvalidated, Proc.exec_bind_ok hmapped, Proc.exec_modify, hclass]
  | filteringTest fIsTest3 =>
    simp only [CFilteringTest.processResponse]
    rw [Proc.exec_bind_ok hvalidated, Proc.exec_modify]

/-- The answer settles the test. -/
theorem Asking.answered (hinv : LogicInv config l) (h : Asking w config l sent testClass transid)
    (hlets : w.lets sent testClass = true) {out : StunMessageOut}
    (hanswers : AnswersTest w.server w.nat testClass transid out) (hcontents : spMsg.contents = out.spBufferOut.contents)
    (addrRemote : CSocketAddress) :
    Stage w config (Proc.exec (CStunClientLogic.processResponse spMsg addrRemote w.addrLocal) l).2 sent := by
  have hclass := (begun_same config (w.trialAt config l.nTestIndex) testClass).2
  have hreplies : RepliesTo (withTransid transid (begun config (w.trialAt config l.nTestIndex) testClass)).test spMsg
      (addBytes out.spBufferOut.contents CStunMessageReader.new).2 := by
    rw [RepliesTo, hcontents]
    exact ⟨Prod.ext hanswers.whole rfl, hanswers.transid_eq⟩
  have hrun := exec_processResponse_current addrRemote w.addrLocal hinv.initialized hreplies.size_ne_zero h.current h.open
  rw [exec_processResponse_answered addrRemote hreplies (hclass.symm ▸ hanswers.learns)] at hrun
  rw [hrun]
  refine h.settles ?_ (answered_completed w _) ?_
  · exact (answered_config w _).trans (begun_same config _ _).1
  · rw [if_pos hlets, withTransid_answered]

variable [Digests] {round : UdpRound} {before : List (UInt32 × Outgoing)} {m : UInt32 × Outgoing}

omit [Digests] in
theorem heard_quiet (h : Heard config round l t) (hnone : round.incoming config MAX_STUN_MESSAGE_SIZE = none) :
    t = l := by
  cases h with
  | nothing => rfl
  | datagram hsome => cases hnone.symm.trans hsome

/-- Nothing comes where nothing was sent. -/
theorem Brings.quiet (h : Brings w config round before before) : round.incoming config MAX_STUN_MESSAGE_SIZE = none := by
  obtain ⟨after, hafter, h⟩ : ∃ after, after = before ∧ Brings w config round before after := ⟨_, rfl, h⟩
  cases h with
  | nothing hnone => exact hnone
  | answer => exact absurd hafter (List.cons_ne_self _ _)

/-- What comes after a request leaves its test waiting or settled. -/
theorem Asking.heard (hinv : LogicInv config l) (hdistinct : w.server.Distinct)
    (h : Asking w config l (destinations (m :: before)) testClass transid)
    (haddrDest : m.2.addrDest = w.server.target testClass)
    (hcontents : m.2.spMsg.contents = requestBytes transid (requestedChange testClass))
    (hbrings : Brings w config round before (m :: before)) (hheard : Heard config round l t) :
    Stage w config t (destinations (m :: before)) := by
  generalize hsent : m :: before = sent at hbrings
  cases hbrings with
  | nothing => exact absurd hsent (List.cons_ne_self m before)
  | @answer m' msgIn msgOut hreceived hroom hcomes =>
    obtain rfl : m = m' := (List.cons.inj hsent).1
    rw [haddrDest, hcontents] at hreceived
    obtain ⟨out, hrun, hanswers⟩ := processRequest_answersTest hdistinct hreceived hroom
    have harriving : w.arriving (destinations (m :: before)) msgIn msgOut =
        if w.lets (destinations (m :: before)) testClass then
          some ⟨out.spBufferOut.contents, w.server.address out.socketrole, w.addrLocal⟩
        else none := by
      rw [arriving, hrun]
      simp only
      rw [hanswers.addrDest, hanswers.role, lets]
    rw [harriving] at hcomes
    cases hlets : w.lets (destinations (m :: before)) testClass with
    | false =>
      rw [hlets] at hcomes
      cases hheard with
      | nothing => exact .waiting h hlets
      | datagram hsome => cases hcomes.symm.trans hsome
    | true =>
      rw [hlets] at hcomes
      cases hheard with
      | nothing hnone => cases hnone.symm.trans hcomes
      | datagram hsome hstored =>
        obtain rfl := Option.some.inj (hcomes.symm.trans hsome)
        exact h.answered hinv hlets hanswers hstored _

end Turns

/-! ## The loop -/

section Loop
variable [Platform] [Digests] {w : World} {inet_ntop : AddressFamily → Bytes → String} {config : StunClientLogicConfig}
  {c c' : UdpClient} {l : CStunClientLogic} {round : UdpRound} {rounds done : List UdpRound} {printed : List LogMsg}

/-- What holds in front of every turn. -/
structure OnPlan (w : World) (config : StunClientLogicConfig) (rounds : List UdpRound) (c : UdpClient) : Prop where
  loop : UdpInv config rounds c
  stage : Stage w config c.clientlogic (destinations c.sent)

omit [Digests] in
theorem onPlan_start (h : Initialized config l) : OnPlan w config [] (UdpClient.start l) := by
  refine ⟨udpInv_start h, ?_⟩
  obtain ⟨-, -, rfl⟩ := h.eq
  have hlater : FreshFrom config (⟨withDefaults config, StunClientResults.init, true, 0, 0, false,
      (testClasses config).map CStunClientTest.init, 0⟩ : CStunClientLogic) 0 := fun j _ => List.getElem?_map
  exact .fresh rfl rfl hlater ⟨rfl, fun addr => Iff.rfl⟩

omit [Digests] in
/-- The stage of the client when `GetNextMessage` leaves its loop. -/
theorem OnPlan.last (h : OnPlan w config done c) {outcome : Except HRESULT Outgoing}
    (hcall : Proc.exec (CStunClientLogic.getNextMessage round.source (c.spMsg.setSize 0).2 round.time) c.clientlogic =
      (outcome, l)) :
    ∃ last, LogicInv config last ∧ Stage w config last (destinations c.sent) ∧
      last.turn round.source (c.spMsg.setSize 0).2 round.time = (.leave outcome, l) := by
  obtain ⟨history, hdriven⟩ := h.loop.driven
  obtain ⟨hlogic, -⟩ := client_inv ⟨history, hdriven.run⟩
  have hroom : MAX_STUN_MESSAGE_SIZE ≤ (c.spMsg.setSize 0).2.allocatedSize :=
    Nat.le_of_eq ((CBuffer.setSize_allocatedSize ..).trans h.loop.allocated).symm
  have hagain : ∀ l t, LogicInv config l ∧ Stage w config l (destinations c.sent) →
      l.turn round.source (c.spMsg.setSize 0).2 round.time = (.again, t) →
      LogicInv config t ∧ Stage w config t (destinations c.sent) := by
    intro l t hl hturn
    have hinv := hl.1.turn round.source (c.spMsg.setSize 0).2 round.time
    rw [hturn] at hinv
    exact ⟨hinv, hl.2.again hl.1 hturn⟩
  obtain ⟨outcome, last, after, hinv, ⟨-, hstage⟩, hturn, hdone⟩ :=
    getNextMessage_last hagain hlogic ⟨hlogic, h.stage⟩ hroom
  cases hcall.symm.trans hdone
  exact ⟨last, hinv, hstage, hturn⟩

theorem OnPlan.turn (h : OnPlan w config done c) (hdistinct : w.server.Distinct)
    (haddress : config.addrServer = w.server.addrPrimary) (hturn : c.turn inet_ntop config round = .looping c')
    (hbrings : Brings w config round c.sent c'.sent) : OnPlan w config (done ++ [round]) c' := by
  constructor
  · rcases h.loop.turn inet_ntop round with ⟨c₁, hsame, hinv, -⟩ | ⟨_, _, hexit, -⟩
    · obtain rfl := UdpProgress.looping.inj (hturn.symm.trans hsame)
      exact hinv
    · cases hturn.symm.trans hexit
  · obtain ⟨outcome, after, hcall, -, hsent, hheard⟩ := h.loop.takes hturn
    obtain ⟨last, hinv, hstage, hleave⟩ := h.last hcall
    have hafter := hinv.turn round.source (c.spMsg.setSize 0).2 round.time
    rw [hleave] at hafter
    rw [hsent] at hbrings ⊢
    cases outcome with
    | ok outgoing =>
      have hroom : MAX_STUN_MESSAGE_SIZE ≤ (c.spMsg.setSize 0).2.allocatedSize :=
        Nat.le_of_eq ((CBuffer.setSize_allocatedSize ..).trans h.loop.allocated).symm
      obtain ⟨testClass, transid, hasking, haddrDest, hcontents⟩ := hstage.sends hinv haddress hroom hleave
      rw [← haddrDest] at hasking
      exact Asking.heard (m := (round.time, outgoing)) hafter hdistinct hasking haddrDest hcontents hbrings hheard
    | error hr =>
      obtain rfl := hstage.quiet hleave
      rw [heard_quiet hheard hbrings.quiet]
      exact hstage

omit [Digests] in
/-- The results that are printed are those of the plan. -/
theorem OnPlan.exit (h : OnPlan w config done c)
    (hturn : c.turn inet_ntop config round = .exited (.ready printed)) :
    printed = dumpResults inet_ntop config (w.plan config).results := by
  obtain ⟨hr, after, hcall, hdone, rfl⟩ := h.loop.reads hturn
  obtain ⟨last, hinv, hstage, hleave⟩ := h.last hcall
  obtain rfl := hstage.quiet hleave
  have hpast : (testClasses config).length ≤ after.nTestIndex := by
    rw [← hinv.classes, List.length_map]
    simpa [CStunClientLogic.current] using hdone
  cases hstage with
  | fresh _ _ _ hstands => rw [hstands.results, trialAt_end hpast]
  | waiting hasking => cases hdone.symm.trans hasking.current
  | settled _ _ hcurrent => cases hdone.symm.trans hcurrent

/-- A loop that loses nothing prints the results of the plan, if it prints any. -/
theorem lossless_plan (hdistinct : w.server.Distinct) (haddress : config.addrServer = w.server.addrPrimary)
    (h : OnPlan w config done c) (hlossless : Lossless w inet_ntop config (.looping c) rounds)
    (hturns : c.turns inet_ntop config rounds = .exited (.ready printed)) :
    printed = dumpResults inet_ntop config (w.plan config).results := by
  induction rounds generalizing done c with
  | nil => cases hturns
  | cons round rounds ih =>
    cases hlossless with
    | cons hbrings hrest =>
      rw [UdpClient.turns] at hturns
      cases hturn : c.turn inet_ntop config round with
      | looping c' =>
        rw [hturn] at hturns hrest
        exact ih (h.turn hdistinct haddress hturn (hbrings c' hturn)) hrest hturns
      | exited udpExit =>
        rw [hturn] at hturns
        obtain rfl : udpExit = .ready printed := UdpProgress.exited.inj hturns
        exact h.exit hturn

end Loop

end NatTester.Network
