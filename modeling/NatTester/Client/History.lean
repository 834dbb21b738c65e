import NatTester.Client.Requests
import Mathlib.Data.List.Chain

/-!
# What a run of the client has sent

`sendings` reads the messages off the history of a run, each with the test it is
for and the clock at which it left. `SentInv` ties them to the client: the send
counter counts those of the current test, the timer is the clock of the last one,
and every test keeps the transaction id of its messages.
-/
namespace NatTester.Client
open NatTester.Lib NatTester.Source IStunClientTest CStunClientLogic

/-! ## The transaction ids -/

/-- The test at the position has drawn the transaction id. -/
def HasId (l : CStunClientLogic) (i : Nat) (transid : StunTransactionId) : Prop :=
  transid.isValid = true ∧ ∃ test, l.testlist[i]? = some test ∧ test.transid = transid

/-- No test has lost its transaction id. -/
def KeepsIds (l t : CStunClientLogic) : Prop := ∀ i transid, HasId l i transid → HasId t i transid

section Ids
variable {l t : CStunClientLogic} {s u : TestState}

theorem HasId.unique {i : Nat} {transid transid' : StunTransactionId} (h : HasId l i transid)
    (h' : HasId l i transid') : transid = transid' := by
  obtain ⟨-, test, htest, rfl⟩ := h
  obtain ⟨-, test', htest', rfl⟩ := h'
  rw [Option.some.inj (htest.symm.trans htest')]

theorem KeepsIds.refl (l : CStunClientLogic) : KeepsIds l l := fun _ _ => id

theorem KeepsIds.trans {m : CStunClientLogic} (h : KeepsIds l t) (h' : KeepsIds t m) : KeepsIds l m :=
  fun i transid hid => h' i transid (h i transid hid)

theorem keepsIds_put (hs : l.current = some s) (hsame : s.test.transid.isValid = true → u.test.transid = s.test.transid) :
    KeepsIds l (l.put u) := by
  obtain ⟨-, -, htest⟩ := current_eq_some.mp hs
  intro i transid hid
  obtain ⟨hvalid, test, hat, rfl⟩ := hid
  refine ⟨hvalid, ?_⟩
  by_cases hi : l.nTestIndex = i
  · subst hi
    obtain rfl := Option.some.inj (htest.symm.trans hat)
    exact ⟨u.test, List.getElem?_set_self (current_lt hs), hsame hvalid⟩
  · exact ⟨test, (List.getElem?_set_ne hi).trans hat, rfl⟩

theorem keepsIds_checked (hs : l.current = some s) : KeepsIds l (checked l s) :=
  keepsIds_put hs fun _ => (sameTest_preCheck l s).transid

theorem keepsIds_afterSend (source : RandomSource) (time : UInt32) (hs : l.current = some s) :
    KeepsIds l (afterSend source time l s) := by
  have hput := keepsIds_put (current_checked hs)
    (u := withTransid (requestTransid source (l.preCheck s).test.transid) (l.preCheck s)) fun hvalid => by
      rw [withTransid, requestTransid, if_pos hvalid]
  exact (keepsIds_checked hs).trans hput

theorem turn_keepsIds [Platform] (source : RandomSource) (spMsg : CBuffer) (time : UInt32) (l : CStunClientLogic) :
    KeepsIds l (l.turn source spMsg time).2 := by
  have htaken := turn_taken source spMsg time l
  generalize l.turn source spMsg time = result at htaken
  cases htaken with
  | finished => exact .refl l
  | skipped hs _ => exact keepsIds_checked hs
  | waited hs _ => exact keepsIds_checked hs
  | timedOut hs _ =>
    apply (keepsIds_checked hs).trans
    exact keepsIds_put (current_checked hs) fun _ => (sameTest_notifyTimeout _).transid
  | sent hs _ => exact keepsIds_afterSend source time hs

end Ids

/-! ## The messages of a run -/

/-- A message that left: the test it is for, and the clock. -/
structure Sending where
  index : Nat
  time : UInt32
  outgoing : Outgoing

section Sendings
variable [Platform]

/-- The message a call returned. -/
def sending (k : Machine.Taken CStunClientLogic ClientCall) : Option Sending :=
  match k.label with
  | .getNextMessage source spMsg time =>
    match (Proc.exec (CStunClientLogic.getNextMessage source spMsg time) k.before).1 with
    | .ok outgoing => some ⟨k.after.nTestIndex, time, outgoing⟩
    | .error _ => none
  | .processResponse _ _ _ => none

/-- The messages of a run for the test at a position, the last one first. -/
def sendings (i : Nat) (history : List (Machine.Taken CStunClientLogic ClientCall)) : List Sending :=
  (history.filterMap sending).filter fun m => m.index = i

variable {history : List (Machine.Taken CStunClientLogic ClientCall)} {k : Machine.Taken CStunClientLogic ClientCall}
  {m : Sending} {i : Nat}

theorem sendings_cons_none (h : sending k = none) : sendings i (k :: history) = sendings i history := by
  rw [sendings, List.filterMap_cons, h]
  rfl

theorem sendings_cons_some (h : sending k = some m) :
    sendings i (k :: history) = if m.index = i then m :: sendings i history else sendings i history := by
  rw [sendings, List.filterMap_cons, h]
  simp only [List.filter_cons, decide_eq_true_eq]
  rfl

/-- The timeout has passed between two messages; the difference of the clocks wraps. -/
def Spaced (timeoutSeconds : UInt32) (later earlier : Sending) : Prop :=
  timeoutSeconds ≤ (later.time - earlier.time) / 1000

/-- What a history says of the client it leads to. -/
structure SentInv (config : StunClientLogicConfig) (history : List (Machine.Taken CStunClientLogic ClientCall))
    (l : CStunClientLogic) : Prop where
  ids : ∀ i, ∀ m ∈ sendings i history, ∃ transid change, HasId l i transid ∧
    m.outgoing.spMsg.contents = requestBytes transid change
  count : l.sendCount.toNat = (sendings l.nTestIndex history).length
  bounded : l.sendCount ≤ (withDefaults config).uMaxAttempts
  past : ∀ i < l.nTestIndex, (sendings i history).length ≤ (withDefaults config).uMaxAttempts.toNat
  ahead : ∀ i, l.nTestIndex < i → sendings i history = []
  timer : ∀ m ∈ (sendings l.nTestIndex history).head?, m.time = l.timeLastMessageSent
  spaced : ∀ i, (sendings i history).IsChain (Spaced (withDefaults config).timeoutSeconds)

variable {config : StunClientLogicConfig} {l t : CStunClientLogic} {s u : TestState}

omit [Platform] in
theorem withDefaults_attempts (config : StunClientLogicConfig) : 0 < (withDefaults config).uMaxAttempts := by
  change 0 < if config.uMaxAttempts ≤ 0 then 2 else config.uMaxAttempts
  split
  · decide
  next h => exact UInt32.not_le.mp h

/-- The messages sent so far have ids that a client which keeps its ids has as well. -/
theorem SentInv.ids_kept (h : SentInv config history l) (hkeeps : KeepsIds l t) (i : Nat) (m : Sending)
    (hm : m ∈ sendings i history) :
    ∃ transid change, HasId t i transid ∧ m.outgoing.spMsg.contents = requestBytes transid change := by
  obtain ⟨transid, change, hid, hcontents⟩ := h.ids i m hm
  exact ⟨transid, change, hkeeps i transid hid, hcontents⟩

/-- What is tied to the history is the same. -/
theorem SentInv.congr (h : SentInv config history l) (hkeeps : KeepsIds l t) (hindex : t.nTestIndex = l.nTestIndex)
    (hcount : t.sendCount = l.sendCount) (htimer : t.timeLastMessageSent = l.timeLastMessageSent) :
    SentInv config history t where
  ids := h.ids_kept hkeeps
  count := by rw [hcount, hindex, h.count]
  bounded := hcount ▸ h.bounded
  past := by rw [hindex]; exact h.past
  ahead := by rw [hindex]; exact h.ahead
  timer := by rw [hindex, htimer]; exact h.timer
  spaced := h.spaced

theorem SentInv.nextTest (h : SentInv config history l) : SentInv config history l.nextTest where
  ids := h.ids
  count := by
    change 0 = (sendings (l.nTestIndex + 1) history).length
    rw [h.ahead _ (Nat.lt_succ_self _), List.length_nil]
  bounded := UInt32.le_of_lt (withDefaults_attempts config)
  past := by
    intro i hi
    rcases Nat.lt_succ_iff_lt_or_eq.mp hi with hpast | rfl
    · exact h.past i hpast
    · rw [← h.count]
      exact h.bounded
  ahead := fun i hi => h.ahead i (Nat.lt_of_succ_lt hi)
  timer := by
    change ∀ m ∈ (sendings (l.nTestIndex + 1) history).head?, _
    rw [h.ahead _ (Nat.lt_succ_self _)]
    intro m hm
    cases hm
  spaced := h.spaced

/-- A turn that does not send. -/
theorem SentInv.again (h : SentInv config history l) {source : RandomSource} {spMsg : CBuffer} {time : UInt32} {kind : Turn}
    (hturn : l.turn source spMsg time = (kind, t)) (hkind : ∀ outgoing, kind ≠ .leave (.ok outgoing)) :
    SentInv config history t := by
  have htaken := turn_taken source spMsg time l
  have hkeeps := turn_keepsIds source spMsg time l
  rw [hturn] at htaken hkeeps
  cases htaken with
  | finished => exact h
  | skipped hs _ => exact (h.congr (keepsIds_checked hs) rfl rfl rfl).nextTest
  | waited hs _ => exact h.congr hkeeps rfl rfl rfl
  | timedOut hs _ => exact h.congr hkeeps rfl rfl rfl
  | sent hs _ => exact absurd rfl (hkind _)

/-- The timer is the clock of the message before, and it has run out. -/
theorem SentInv.timer_out (h : SentInv config history l) (hconfig : l.config = withDefaults config) {time : UInt32}
    (helapsed : l.waiting time = false) {outgoing : Outgoing} :
    ∀ m ∈ (sendings l.nTestIndex history).head?,
      Spaced (withDefaults config).timeoutSeconds ⟨l.nTestIndex, time, outgoing⟩ m := by
  intro m hm
  have hcount : l.sendCount ≠ 0 := by
    intro hzero
    have hnone := h.count
    rw [hzero] at hnone
    rw [List.length_eq_zero_iff.mp hnone.symm] at hm
    cases hm
  have hran : ¬ (time - l.timeLastMessageSent) / 1000 < l.config.timeoutSeconds := by
    intro hshort
    rw [waiting, decide_eq_false_iff_not] at helapsed
    exact helapsed ⟨hshort, hcount⟩
  rw [Spaced, h.timer m hm, ← hconfig]
  exact UInt32.not_lt.mp hran

/-- The turn that sends, as the last step of the history. -/
theorem SentInv.sent (h : SentInv config history l) (hconfig : l.config = withDefaults config) {source : RandomSource}
    {spMsg : CBuffer} {time : UInt32} {outgoing : Outgoing} (hroom : MAX_STUN_MESSAGE_SIZE ≤ spMsg.allocatedSize)
    (hturn : l.turn source spMsg time = (.leave (.ok outgoing), t)) (hk : sending k = some ⟨t.nTestIndex, time, outgoing⟩) :
    SentInv config (k :: history) t := by
  have htaken := turn_taken source spMsg time l
  have hkeeps := turn_keepsIds source spMsg time l
  rw [hturn] at htaken hkeeps
  cases htaken with
  | @sent s hs hready helapsed hattempts =>
    change sending k = some ⟨l.nTestIndex, time, _⟩ at hk
    have hat := current_afterSend source time hs
    obtain ⟨-, -, htest⟩ := current_eq_some.mp hat
    have hself : sendings l.nTestIndex (k :: history) = ⟨l.nTestIndex, time, _⟩ :: sendings l.nTestIndex history :=
      (sendings_cons_some hk).trans (if_pos rfl)
    have hother : ∀ i, l.nTestIndex ≠ i → sendings i (k :: history) = sendings i history :=
      fun i hi => (sendings_cons_some hk).trans (if_neg hi)
    have hlt : l.sendCount.toNat < (withDefaults config).uMaxAttempts.toNat := by
      rw [← hconfig]
      exact hattempts
    have hsucc : (l.sendCount + 1).toNat = l.sendCount.toNat + 1 := by
      rw [UInt32.toNat_add]
      have hbound := (withDefaults config).uMaxAttempts.toNat_lt
      exact Nat.mod_eq_of_lt (by rw [show (1 : UInt32).toNat = 1 from rfl]; omega)
    refine ⟨?_, ?_, ?_, ?_, ?_, ?_, ?_⟩
    · intro i m hm
      by_cases hi : l.nTestIndex = i
      · subst hi
        rw [hself] at hm
        rcases List.mem_cons.mp hm with rfl | hm
        · exact ⟨requestTransid source (l.preCheck s).test.transid, _,
            ⟨requestTransid_isValid .., _, htest, rfl⟩, writtenTo_contents source hroom _⟩
        · exact h.ids_kept hkeeps _ m hm
      · rw [hother i hi] at hm
        exact h.ids_kept hkeeps i m hm
    · change (l.sendCount + 1).toNat = (sendings l.nTestIndex (k :: history)).length
      rw [hself, List.length_cons, hsucc, h.count]
    · change l.sendCount + 1 ≤ _
      rw [UInt32.le_iff_toNat_le, hsucc]
      exact hlt
    · intro i hi
      rw [hother i (Nat.ne_of_gt hi)]
      exact h.past i hi
    · intro i hi
      rw [hother i (Nat.ne_of_lt hi)]
      exact h.ahead i hi
    · change ∀ m ∈ (sendings l.nTestIndex (k :: history)).head?, m.time = time
      rw [hself]
      intro m hm
      rw [← Option.some.inj hm]
    · intro i
      by_cases hi : l.nTestIndex = i
      · subst hi
        rw [hself]
        exact (h.spaced _).cons (h.timer_out hconfig helapsed)
      · rw [hother i hi]
        exact h.spaced i

/-- A step that sends nothing and leaves the client as it is. -/
theorem SentInv.quiet (h : SentInv config history l) (hk : sending k = none) : SentInv config (k :: history) l := by
  have hsame : ∀ i, sendings i (k :: history) = sendings i history := fun i => sendings_cons_none hk
  refine ⟨?_, ?_, h.bounded, ?_, ?_, ?_, ?_⟩
  · intro i
    rw [hsame]
    exact h.ids i
  · rw [hsame]
    exact h.count
  · intro i
    rw [hsame]
    exact h.past i
  · intro i
    rw [hsame]
    exact h.ahead i
  · rw [hsame]
    exact h.timer
  · intro i
    rw [hsame]
    exact h.spaced i

/-! ## One call, and a run -/

/-- The buffer is large enough for `GetNextMessage` to look at the tests. -/
def ClientCall.HasRoom : ClientCall → Prop
  | .getNextMessage _ spMsg _ => MAX_STUN_MESSAGE_SIZE ≤ spMsg.allocatedSize
  | .processResponse _ _ _ => False

/-- A message has been sent for the current test, if it is still open. -/
def Awaiting (l : CStunClientLogic) : Prop := ∀ s, l.current = some s → isCompleted s = false → l.sendCount ≠ 0

theorem sending_error {source : RandomSource} {spMsg : CBuffer} {time : UInt32} {hr : HRESULT}
    (h : (Proc.exec (CStunClientLogic.getNextMessage source spMsg time) l).1 = .error hr) (after : CStunClientLogic) :
    sending ⟨l, .getNextMessage source spMsg time, after⟩ = none := by
  simp only [sending, h]

theorem sending_ok {source : RandomSource} {spMsg : CBuffer} {time : UInt32} {outgoing : Outgoing}
    (h : (Proc.exec (CStunClientLogic.getNextMessage source spMsg time) l).1 = .ok outgoing) (after : CStunClientLogic) :
    sending ⟨l, .getNextMessage source spMsg time, after⟩ = some ⟨after.nTestIndex, time, outgoing⟩ := by
  simp only [sending, h]

/-- The last turn of a call, and what has been sent before it. -/
theorem SentInv.getNextMessage_last (h : SentInv config history l) (hinv : LogicInv config l) (source : RandomSource)
    {spMsg : CBuffer} (hroom : MAX_STUN_MESSAGE_SIZE ≤ spMsg.allocatedSize) (time : UInt32) :
    ∃ outcome last after, LogicInv config last ∧ SentInv config history last ∧
      last.turn source spMsg time = (.leave outcome, after) ∧
      Proc.exec (CStunClientLogic.getNextMessage source spMsg time) l = (outcome, after) :=
  Client.getNextMessage_last (fun _ _ hl hturn => hl.again hturn fun _ => Turn.noConfusion) hinv h hroom

theorem SentInv.call (h : SentInv config history l) (hinv : LogicInv config l) (call : ClientCall) :
    SentInv config (⟨l, call, call.run l⟩ :: history) (call.run l) := by
  cases call with
  | getNextMessage source spMsg time =>
    by_cases hroom : MAX_STUN_MESSAGE_SIZE ≤ spMsg.allocatedSize
    · obtain ⟨outcome, last, after, hlogic, hlast, hleave, hrun⟩ := h.getNextMessage_last hinv source hroom time
      have hfst : (Proc.exec (CStunClientLogic.getNextMessage source spMsg time) l).1 = outcome := by rw [hrun]
      rw [ClientCall.run, hrun]
      cases outcome with
      | ok outgoing => exact hlast.sent hlogic.config_eq hroom hleave (sending_ok hfst _)
      | error hr => exact (hlast.again hleave (by simp)).quiet (sending_error hfst _)
    · rcases getNextMessage_cases source spMsg time hinv.initialized with ⟨-, hrun⟩ | ⟨hlarge, -⟩
      · have hfst : (Proc.exec (CStunClientLogic.getNextMessage source spMsg time) l).1 = .error E_INVALIDARG := by
          rw [hrun]
        rw [ClientCall.run, hrun]
        exact h.quiet (sending_error hfst _)
      · exact absurd hlarge hroom
  | processResponse spMsg addrRemote addrLocal =>
    have hquiet := h.quiet (k := ⟨l, .processResponse spMsg addrRemote addrLocal,
      ClientCall.run (.processResponse spMsg addrRemote addrLocal) l⟩) rfl
    rcases processResponse_cases spMsg addrRemote addrLocal l with ⟨hr, hrun⟩ | ⟨s, t, hs, -, heffect, hrun⟩
    · rw [ClientCall.run, hrun] at hquiet ⊢
      exact hquiet
    · rw [ClientCall.run, hrun] at hquiet ⊢
      exact hquiet.congr (keepsIds_put hs fun _ => heffect.sameTest.1.transid) rfl rfl rfl

theorem Initialized.sentInv (h : Initialized config l) : SentInv config [] l := by
  obtain ⟨-, -, rfl⟩ := h.eq
  refine ⟨?_, rfl, UInt32.le_of_lt (withDefaults_attempts config), ?_, fun _ _ => rfl, ?_, fun _ => .nil⟩
  · intro i m hm
    cases hm
  · intro i hi
    cases hi
  · intro m hm
    cases hm

theorem run_sentInv (h : (client config).Run history l) : LogicInv config l ∧ SentInv config history l := by
  have hall : (LogicInv config l ∧ Settled l) ∧ SentInv config history l := by
    refine h.invariant (I := fun history l => (LogicInv config l ∧ Settled l) ∧ SentInv config history l)
      (fun _ hinit => ⟨hinit.inv, hinit.sentInv⟩) ?_
    intro history l call after hl hstep
    obtain rfl : after = call.run l := hstep
    exact ⟨call_inv hl.1.1 hl.1.2 call, hl.2.call hl.1.1 call⟩
  exact ⟨hall.1.1, hall.2⟩

/-- Once a call of `GetNextMessage` has had room, an open test is one that has sent. -/
theorem awaiting_call (hinv : LogicInv config l) (hsent : SentInv config history l) (call : ClientCall)
    (h : call.HasRoom ∨ Awaiting l) : Awaiting (call.run l) := by
  cases call with
  | getNextMessage source spMsg time =>
    by_cases hroom : MAX_STUN_MESSAGE_SIZE ≤ spMsg.allocatedSize
    · obtain ⟨outcome, last, after, hlogic, hlast, hleave, hrun⟩ := hsent.getNextMessage_last hinv source hroom time
      rw [ClientCall.run, hrun]
      have htaken := turn_taken source spMsg time last
      rw [hleave] at htaken
      intro s hs hopen
      cases htaken with
      | finished hnone =>
        rw [hnone] at hs
        cases hs
      | waited _ _ hwaiting =>
        rw [waiting, decide_eq_true_eq] at hwaiting
        exact hwaiting.2
      | sent _ _ _ hattempts =>
        intro hzero
        have hsucc := congrArg UInt32.toNat hzero
        have hlt : last.sendCount.toNat < last.config.uMaxAttempts.toNat := hattempts
        have hbound := last.config.uMaxAttempts.toNat_lt
        change (last.sendCount + 1).toNat = 0 at hsucc
        rw [UInt32.toNat_add, Nat.mod_eq_of_lt (by rw [show (1 : UInt32).toNat = 1 from rfl]; omega)] at hsucc
        cases hsucc
    · rcases getNextMessage_cases source spMsg time hinv.initialized with ⟨-, hrun⟩ | ⟨hlarge, -⟩
      · rw [ClientCall.run, hrun]
        exact h.resolve_left hroom
      · exact absurd hlarge hroom
  | processResponse spMsg addrRemote addrLocal =>
    have hbefore : Awaiting l := h.resolve_left id
    rcases processResponse_cases spMsg addrRemote addrLocal l with ⟨hr, hrun⟩ | ⟨s, t, hs, -, heffect, hrun⟩
    · rw [ClientCall.run, hrun]
      exact hbefore
    · rw [ClientCall.run, hrun]
      intro u hu hopen
      rw [current_put hs heffect.sameTest.1.config] at hu
      obtain rfl := Option.some.inj hu
      rw [heffect.sameTest.2] at hopen
      cases hopen

theorem run_awaiting (h : (client config).Run history l) (hroom : ∃ k ∈ history, k.label.HasRoom) : Awaiting l := by
  induction h with
  | start _ =>
    obtain ⟨k, hk, -⟩ := hroom
    cases hk
  | @step history l after call run step ih =>
    obtain rfl : after = call.run l := step
    obtain ⟨hinv, hsent⟩ := run_sentInv run
    apply awaiting_call hinv hsent
    obtain ⟨k, hk, hkroom⟩ := hroom
    rcases List.mem_cons.mp hk with rfl | hk
    · exact .inl hkroom
    · exact .inr (ih ⟨k, hk, hkroom⟩)

end Sendings

end NatTester.Client
