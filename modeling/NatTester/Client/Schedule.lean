import NatTester.Client.Outcomes
import NatTester.Client.Probes
import NatTester.Lib.Retries

/-!
# The schedule of the client

A client has a number of attempts for each of its tests, and a call of
`GetNextMessage` is a look at the clock: it makes an attempt, or it waits because
the timeout of the last one has not passed, or the results are ready. In a whole
run the messages follow the order of the tests, and all attempts at a test are one
message to one address.
-/
namespace NatTester.Client
open NatTester.Lib NatTester.Source IStunClientTest CStunClientLogic

/-- All attempts of the tests that have been passed, and those made for the current one. -/
def attemptsUsed (config : StunClientLogicConfig) (l : CStunClientLogic) : Nat :=
  l.nTestIndex * (withDefaults config).uMaxAttempts.toNat + l.sendCount.toNat

/-- The attempts of all tests. -/
def attemptsMax (config : StunClientLogicConfig) : Nat :=
  (testClasses config).length * (withDefaults config).uMaxAttempts.toNat

/-- The timeout in milliseconds. -/
def timeoutMilliseconds (config : StunClientLogicConfig) : Nat := 1000 * (withDefaults config).timeoutSeconds.toNat

/-- What a call of `GetNextMessage` at `time` does to the attempts and the timer. -/
inductive Looked (config : StunClientLogicConfig) (time : UInt32) (l after : CStunClientLogic) :
    Except HRESULT Outgoing → Prop
  | ready (done : after.current = none) : Looked config time l after (.error E_STUNCLIENT_RESULTS_READY)
  | waits (begun : l.sendCount ≠ 0) (more : attemptsUsed config l ≤ attemptsUsed config after)
    (inRange : attemptsUsed config after ≤ attemptsMax config) (timer : after.timeLastMessageSent = l.timeLastMessageSent)
    (short : (time - l.timeLastMessageSent) / 1000 < (withDefaults config).timeoutSeconds) :
    Looked config time l after (.error E_STUNCLIENT_STILL_WAITING)
  | sends {outgoing : Outgoing} (more : attemptsUsed config l < attemptsUsed config after)
    (inRange : attemptsUsed config after ≤ attemptsMax config) (timer : after.timeLastMessageSent = time) :
    Looked config time l after (.ok outgoing)

section Schedule
variable [Platform] {config : StunClientLogicConfig} {l after : CStunClientLogic} {s : TestState}
  {source : RandomSource} {spMsg : CBuffer} {time : UInt32}

/-- What the turns of the loop before the last one keep. -/
structure NotSent (config : StunClientLogicConfig) (l t : CStunClientLogic) : Prop where
  bounded : t.sendCount ≤ (withDefaults config).uMaxAttempts
  more : attemptsUsed config l ≤ attemptsUsed config t
  timer : t.timeLastMessageSent = l.timeLastMessageSent
  unsent : l.sendCount = 0 → t.sendCount = 0

omit [Platform] in
theorem NotSent.nextTest {t : CStunClientLogic} (h : NotSent config l t) : NotSent config l t.nextTest := by
  constructor
  · exact UInt32.zero_le
  · have hle : t.sendCount.toNat ≤ (withDefaults config).uMaxAttempts.toNat := h.bounded
    have hmore := h.more
    change _ ≤ (t.nTestIndex + 1) * (withDefaults config).uMaxAttempts.toNat + 0
    unfold attemptsUsed at hmore ⊢
    rw [Nat.succ_mul]
    omega
  · exact h.timer
  · exact fun _ => rfl

theorem NotSent.again {t u : CStunClientLogic} (h : NotSent config l t) (hturn : t.turn source spMsg time = (.again, u)) :
    NotSent config l u := by
  have htaken := turn_taken source spMsg time t
  rw [hturn] at htaken
  cases htaken with
  | @skipped s hs _ =>
    have hchecked : NotSent config l (checked t s) := ⟨h.bounded, h.more, h.timer, h.unsent⟩
    exact hchecked.nextTest
  | timedOut hs _ => exact ⟨h.bounded, h.more, h.timer, h.unsent⟩

omit [Platform] in
/-- While a test is left, the attempts are in their range. -/
theorem attemptsUsed_le (hinv : LogicInv config l) (hs : l.current = some s) {sendCount : Nat}
    (hbounded : sendCount ≤ (withDefaults config).uMaxAttempts.toNat) :
    l.nTestIndex * (withDefaults config).uMaxAttempts.toNat + sendCount ≤ attemptsMax config := by
  have hlt := current_lt hs
  have hlength : l.testlist.length = (testClasses config).length := by rw [← hinv.classes, List.length_map]
  rw [hlength] at hlt
  have hall : (l.nTestIndex + 1) * (withDefaults config).uMaxAttempts.toNat ≤ attemptsMax config :=
    Nat.mul_le_mul_right _ hlt
  rw [Nat.succ_mul] at hall
  omega

/-- A call that has room. -/
theorem getNextMessage_looked (hinv : LogicInv config l) (hbounded : l.sendCount ≤ (withDefaults config).uMaxAttempts)
    (hroom : MAX_STUN_MESSAGE_SIZE ≤ spMsg.allocatedSize) (source : RandomSource) (time : UInt32) :
    ∃ outcome after, Proc.exec (CStunClientLogic.getNextMessage source spMsg time) l = (outcome, after) ∧
      Looked config time l after outcome := by
  have hagain : ∀ t u, NotSent config l t → t.turn source spMsg time = (.again, u) → NotSent config l u :=
    fun _ _ ht hturn => ht.again hturn
  obtain ⟨outcome, last, after, hlogic, hlast, hleave, hexec⟩ :=
    getNextMessage_last hagain hinv ⟨hbounded, Nat.le_refl _, rfl, id⟩ hroom
  refine ⟨outcome, after, hexec, ?_⟩
  have htaken := turn_taken source spMsg time last
  rw [hleave] at htaken
  cases htaken with
  | finished hnone => exact .ready hnone
  | @waited s hs hready hwaiting =>
    obtain ⟨hbegun, hshort⟩ := waiting_iff.mp hwaiting
    rw [hlast.timer, hlogic.config_eq] at hshort
    exact .waits (mt hlast.unsent hbegun) hlast.more (attemptsUsed_le hlogic hs hlast.bounded) hlast.timer
      (UInt32.not_le.mp hshort)
  | @sent s hs hready helapsed hattempts =>
    rw [hlogic.config_eq] at hattempts
    have hlt : last.sendCount.toNat < (withDefaults config).uMaxAttempts.toNat := hattempts
    have hsucc : (last.sendCount + 1).toNat = last.sendCount.toNat + 1 := by
      have hbound := (withDefaults config).uMaxAttempts.toNat_lt
      rw [UInt32.toNat_add]
      exact Nat.mod_eq_of_lt (by rw [show (1 : UInt32).toNat = 1 from rfl]; omega)
    have hused : attemptsUsed config (afterSend source time last s) = attemptsUsed config last + 1 := by
      change last.nTestIndex * _ + (last.sendCount + 1).toNat = _
      rw [hsucc]
      rfl
    refine .sends ?_ ?_ rfl
    · have hmore := hlast.more
      omega
    · rw [hused]
      exact attemptsUsed_le hlogic hs hlt

end Schedule

/-! ## The messages of a run -/

/-- A message is for a later test than the one before, or it is sent again a timeout later. -/
def InTurn (config : StunClientLogicConfig) (later earlier : Sending) : Prop :=
  earlier.index < later.index ∨
    (earlier.index = later.index ∧ Spaced (withDefaults config).timeoutSeconds later earlier)

/-- Messages in the order of the tests, each a request, no test with more than its attempts, and all of these the same
bytes to the same address. -/
structure Scheduled (config : StunClientLogicConfig) (ms : List Sending) : Prop where
  inTurn : ms.IsChain (InTurn config)
  attempts : ∀ i, (ms.filter fun m => m.index = i).length ≤ (withDefaults config).uMaxAttempts.toNat
  request : ∀ m ∈ ms, ∃ transid change, m.outgoing.spMsg.contents = requestBytes transid change
  same : ∀ m ∈ ms, ∀ m' ∈ ms, m'.index = m.index →
    m'.outgoing.spMsg.contents = m.outgoing.spMsg.contents ∧ m'.outgoing.addrDest = m.outgoing.addrDest
  test : ∀ m ∈ ms, m.index < (testClasses config).length

section Messages
variable [Platform] {config : StunClientLogicConfig} {l : CStunClientLogic} {m : Sending}
  {history : List (Machine.Taken CStunClientLogic ClientCall)} {k : Machine.Taken CStunClientLogic ClientCall}

theorem mem_sendings (h : m ∈ history.filterMap sending) : m ∈ sendings m.index history :=
  List.mem_filter.mpr ⟨h, decide_eq_true rfl⟩

/-- The test of a message is the one the client has moved to. -/
theorem sending_index (h : sending k = some m) : m.index = k.after.nTestIndex := by
  unfold sending at h
  split at h
  · split at h
    · cases h
      rfl
    · cases h
  · cases h

/-- No message is for a test the client has not reached. -/
theorem SentInv.index_le (h : SentInv config history l) (hm : m ∈ history.filterMap sending) :
    m.index ≤ l.nTestIndex := by
  by_contra hgt
  have hmem := mem_sendings hm
  rw [h.ahead m.index (Nat.lt_of_not_le hgt)] at hmem
  cases hmem

theorem run_inTurn (h : (client config).Run history l) : (history.filterMap sending).IsChain (InTurn config) := by
  induction h with
  | start _ => exact .nil
  | @step history l after call run step ih =>
    obtain ⟨-, hsent⟩ := run_sentInv (run.step step)
    cases hk : sending ⟨l, call, after⟩ with
    | none =>
      rw [List.filterMap_cons, hk]
      exact ih
    | some m =>
      have hlist : (⟨l, call, after⟩ :: history).filterMap sending = m :: history.filterMap sending := by
        rw [List.filterMap_cons, hk]
      rw [hlist]
      refine ih.cons ?_
      intro earlier hhead
      have hmem : earlier ∈ m :: history.filterMap sending :=
        List.mem_cons_of_mem m (List.mem_of_mem_head? hhead)
      have hle : earlier.index ≤ m.index := by
        rw [sending_index hk]
        exact hsent.index_le (hlist ▸ hmem)
      rcases Nat.lt_or_eq_of_le hle with hlt | heq
      · exact .inl hlt
      · refine .inr ⟨heq, ?_⟩
        have hchain := hsent.spaced m.index
        rw [sendings_cons_some hk, if_pos rfl] at hchain
        apply hchain.rel_head?
        obtain ⟨rest, hrest⟩ := List.head?_eq_some_iff.mp hhead
        rw [sendings, hrest, List.filter_cons, if_pos (decide_eq_true heq)]
        rfl

/-! ## One message for each test -/

/-- Where the tests of a class send, once the results are these. -/
def aim (addrServer : CSocketAddress) (r : StunClientResults) : TestClass → CSocketAddress
  | .basicBindingTest => addrServer
  | .behaviorTest fIsTest3 => if fIsTest3 = false then r.addrAP else r.addrAA
  | .filteringTest _ => addrServer

/-- The message is what the test it is for would send again. -/
def Aimed (config : StunClientLogicConfig) (m : Sending) (l : CStunClientLogic) : Prop :=
  ∃ testClass transid, (testClasses config)[m.index]? = some testClass ∧ HasId l m.index transid ∧
    m.outgoing.spMsg.contents = requestBytes transid (requestedChange testClass) ∧
    m.outgoing.addrDest = aim config.addrServer l.results testClass

omit [Platform] in
theorem destination_eq_aim {s : TestState} (hserver : s.config.addrServer = config.addrServer) :
    destination s = aim config.addrServer s.results s.test.testClass := by
  unfold destination aim
  cases s.test.testClass with
  | basicBindingTest => exact hserver
  | behaviorTest fIsTest3 => rfl
  | filteringTest fIsTest3 => exact hserver

omit [Platform] in
theorem Aimed.unique {m' : Sending} (h : Aimed config m l) (h' : Aimed config m' l) (hindex : m'.index = m.index) :
    m'.outgoing.spMsg.contents = m.outgoing.spMsg.contents ∧ m'.outgoing.addrDest = m.outgoing.addrDest := by
  obtain ⟨testClass, transid, hclass, hid, hcontents, hdest⟩ := h
  obtain ⟨testClass', transid', hclass', hid', hcontents', hdest'⟩ := h'
  rw [hindex] at hclass' hid'
  obtain rfl := Option.some.inj (hclass.symm.trans hclass')
  obtain rfl := hid.unique hid'
  exact ⟨hcontents'.trans hcontents.symm, hdest'.trans hdest.symm⟩

omit [Platform] in
theorem Aimed.kept {t : CStunClientLogic} (h : Aimed config m l) (hkeeps : KeepsIds l t)
    (hothers : SameOthers l.results t.results) : Aimed config m t := by
  obtain ⟨testClass, transid, hclass, hid, hcontents, hdest⟩ := h
  refine ⟨testClass, transid, hclass, hkeeps _ _ hid, hcontents, hdest.trans ?_⟩
  unfold aim
  cases testClass with
  | basicBindingTest => rfl
  | behaviorTest fIsTest3 => rw [hothers.addrAP, hothers.addrAA]
  | filteringTest fIsTest3 => rfl

/-- No turn of `GetNextMessage` changes the other addresses. -/
theorem sameOthers_turn (source : RandomSource) (spMsg : CBuffer) (time : UInt32) (l : CStunClientLogic) :
    SameOthers l.results (l.turn source spMsg time).2.results := by
  have htaken := turn_taken source spMsg time l
  have hchecked : ∀ s, l.current = some s → SameOthers l.results (l.preCheck s).results := by
    intro s hs
    rw [← (current_eq_some.mp hs).2.1]
    exact sameOthers_preCheck l s
  generalize l.turn source spMsg time = result at htaken
  cases htaken with
  | finished => exact .refl _
  | skipped hs _ => exact hchecked _ hs
  | waited hs _ => exact hchecked _ hs
  | timedOut hs _ => exact (hchecked _ hs).trans (sameOthers_notifyTimeout _)
  | sent hs _ => exact hchecked _ hs

theorem Aimed.turn (h : Aimed config m l) (source : RandomSource) (spMsg : CBuffer) (time : UInt32) :
    Aimed config m (l.turn source spMsg time).2 :=
  h.kept (turn_keepsIds source spMsg time l) (sameOthers_turn source spMsg time l)

/-- The binding test is the first one, so its response comes before there is a message that goes where it says. -/
theorem Aimed.call (h : Aimed config m l) (hinv : LogicInv config l) (hreached : m.index ≤ l.nTestIndex) (call : ClientCall) :
    Aimed config m (call.run l) := by
  cases call with
  | getNextMessage source spMsg time =>
    rcases getNextMessage_cases source spMsg time hinv.initialized with ⟨-, hrun⟩ | ⟨-, outcome, after, hturns, hrun⟩
    · rw [ClientCall.run, hrun]
      exact h
    · obtain ⟨hafter, -⟩ := turns_invariant (I := Aimed config m) (fun _ hl => hl.turn source spMsg time) l.turnBound h
      rw [hturns] at hafter
      rw [ClientCall.run, hrun]
      exact hafter
  | processResponse spMsg addrRemote addrLocal =>
    rcases processResponse_cases spMsg addrRemote addrLocal l with ⟨hr, hrun⟩ | ⟨s, t, hs, -, heffect, hrun⟩
    · rw [ClientCall.run, hrun]
      exact h
    · have hkeeps : KeepsIds l (l.put t) := keepsIds_put hs fun _ => heffect.sameTest.1.transid
      rw [ClientCall.run, hrun]
      by_cases hbasic : s.test.testClass = .basicBindingTest
      · obtain ⟨testClass, transid, hclass, hid, hcontents, hdest⟩ := h
        have hfirst : m.index = 0 := by
          rw [(hinv.basic_iff hs).mp hbasic] at hreached
          exact Nat.le_zero.mp hreached
        have hsame : testClass = .basicBindingTest := by
          rw [hfirst] at hclass
          exact (Option.some.inj hclass).symm
        subst hsame
        exact ⟨_, transid, hclass, hkeeps _ _ hid, hcontents, hdest⟩
      · have hothers := sameOthers_effect heffect hbasic
        rw [(current_eq_some.mp hs).2.1] at hothers
        exact h.kept hkeeps hothers

/-- A message that has just left. -/
theorem aimed_sent (hinv : LogicInv config l) {source : RandomSource} {spMsg : CBuffer} {time : UInt32} {outgoing : Outgoing}
    {after : CStunClientLogic}
    (hcall : Proc.exec (CStunClientLogic.getNextMessage source spMsg time) l = (.ok outgoing, after)) :
    Aimed config ⟨after.nTestIndex, time, outgoing⟩ after := by
  have hagain : ∀ l t : CStunClientLogic, True → l.turn source spMsg time = (.again, t) → True := fun _ _ _ _ => trivial
  obtain ⟨hroom, last, s, hlogic, -, hs, -, -, rfl, rfl, -⟩ := getNextMessage_sends hagain hinv trivial hcall
  have hat := current_checked hs
  obtain ⟨hconfig, -, -⟩ := current_eq_some.mp hat
  obtain ⟨-, -, htest⟩ := current_eq_some.mp (current_afterSend source time hs)
  have hserver : (last.preCheck s).config.addrServer = config.addrServer := by
    rw [hconfig, (hlogic.checked hs).config_eq]
    rfl
  exact ⟨(last.preCheck s).test.testClass, _, (hlogic.checked hs).class_at hat,
    ⟨requestTransid_isValid .., _, htest, rfl⟩, (writtenTo_spec source hroom (last.preCheck s)).1, destination_eq_aim hserver⟩

theorem run_aimed (h : (client config).Run history l) : ∀ m ∈ history.filterMap sending, Aimed config m l := by
  induction h with
  | start _ => simp
  | @step history l after call run step ih =>
    obtain rfl : after = call.run l := step
    obtain ⟨hinv, hsent⟩ := run_sentInv run
    intro m hm
    rw [List.filterMap_cons] at hm
    cases hk : sending ⟨l, call, call.run l⟩ with
    | none =>
      rw [hk] at hm
      exact (ih m hm).call hinv (hsent.index_le hm) call
    | some first =>
      rw [hk] at hm
      rcases List.mem_cons.mp hm with rfl | hm
      · cases call with
        | getNextMessage source spMsg time =>
          cases hcall : Proc.exec (CStunClientLogic.getNextMessage source spMsg time) l with
          | mk outcome after =>
            simp only [sending, ClientCall.run, hcall] at hk ⊢
            cases outcome with
            | error hr => cases hk
            | ok outgoing =>
              cases hk
              exact aimed_sent hinv hcall
        | processResponse spMsg addrRemote addrLocal => cases hk
      · exact (ih m hm).call hinv (hsent.index_le hm) call

/-- The messages of every run are scheduled. -/
theorem run_scheduled (h : (client config).Run history l) : Scheduled config (history.filterMap sending) := by
  obtain ⟨hinv, hsent⟩ := run_sentInv h
  have hlength : l.testlist.length = (testClasses config).length := by rw [← hinv.classes, List.length_map]
  refine ⟨run_inTurn h, ?_, ?_, fun m hm m' hm' => (run_aimed h m hm).unique (run_aimed h m' hm'), ?_⟩
  · intro i
    change (sendings i history).length ≤ _
    rcases Nat.lt_trichotomy i l.nTestIndex with hpast | rfl | hahead
    · exact hsent.past i hpast
    · rw [← hsent.count]
      exact hsent.bounded
    · rw [hsent.ahead i hahead]
      exact Nat.zero_le _
  · intro m hm
    obtain ⟨transid, change, -, hcontents⟩ := hsent.ids m.index m (mem_sendings hm)
    exact ⟨transid, change, hcontents⟩
  · intro m hm
    obtain ⟨transid, change, ⟨-, test, htest, -⟩, -⟩ := hsent.ids m.index m (mem_sendings hm)
    rw [← hlength]
    exact (List.getElem?_eq_some_iff.mp htest).1

end Messages

end NatTester.Client
