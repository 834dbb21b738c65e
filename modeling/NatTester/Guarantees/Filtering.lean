import NatTester.Guarantees.ClientResults

/-!
# What a filtering verdict rests on

A filtering test takes any whole message with its transaction id for its answer;
neither the class, nor the type, nor the sender is looked at. So its verdict
rests on a genuine reply exactly in the runs in which every such message is one.
-/
namespace NatTester.Guarantees
open NatTester.Lib NatTester.Source NatTester.Client IStunClientTest CStunClientLogic

/-- The sender is one the test has asked the server to answer from. -/
def AskedSender (config : StunClientLogicConfig) (fIsTest3 : Bool) (addrRemote : CSocketAddress) : Prop :=
  addrRemote.getPort ≠ config.addrServer.getPort ∧
    (fIsTest3 = false → addrRemote.isSameIP config.addrServer = false)

/-- A Binding success response from such a sender. -/
structure Genuine [Platform] (config : StunClientLogicConfig) (fIsTest3 : Bool) (spMsg : CBuffer)
    (addrRemote : CSocketAddress) : Prop where
  msgClass : (CStunMessageReader.addBytes spMsg.contents CStunMessageReader.new).2.getMessageClass = .successResponse
  type : (CStunMessageReader.addBytes spMsg.contents CStunMessageReader.new).2.getMessageType = StunMsgTypeBinding
  sender : AskedSender config fIsTest3 addrRemote

/-- A step of the client. -/
abbrev ClientStep := Machine.Taken CStunClientLogic ClientCall

/-- In the step a message arrives for a filtering test that waits for its answer. -/
structure Pending (k : ClientStep) (fIsTest3 : Bool) (spMsg : CBuffer) (addrRemote : CSocketAddress)
    (s : TestState) : Prop where
  label : ∃ addrLocal, k.label = .processResponse spMsg addrRemote addrLocal
  current : k.before.current = some s
  testClass : s.test.testClass = .filteringTest fIsTest3
  waiting : isCompleted s = false

/-- The message completes the test. -/
def Completes (k : ClientStep) (fIsTest3 : Bool) (spMsg : CBuffer) (addrRemote : CSocketAddress) : Prop :=
  ∃ s t, Pending k fIsTest3 spMsg addrRemote s ∧ k.after.current = some t ∧ isCompleted t = true

section Filtering
variable [Platform]

/-- The step completes a filtering test on a genuine reply only. -/
def Evident (config : StunClientLogicConfig) (k : ClientStep) : Prop :=
  ∀ fIsTest3 spMsg addrRemote, Completes k fIsTest3 spMsg addrRemote → Genuine config fIsTest3 spMsg addrRemote

/-- A whole message with the transaction id of the waiting filtering test is a genuine reply to it. -/
def Honest (config : StunClientLogicConfig) (k : ClientStep) : Prop :=
  ∀ fIsTest3 spMsg addrRemote s reader, Pending k fIsTest3 spMsg addrRemote s → RepliesTo s.test spMsg reader →
    Genuine config fIsTest3 spMsg addrRemote

variable {config : StunClientLogicConfig} {k : ClientStep} {fIsTest3 : Bool} {spMsg : CBuffer}
  {addrRemote : CSocketAddress}

/-- Exactly the replies to a waiting filtering test complete it. -/
theorem completes_iff (hinv : LogicInv config k.before) (hstep : (client config).step k.before k.label k.after) :
    Completes k fIsTest3 spMsg addrRemote ↔
      ∃ s reader, Pending k fIsTest3 spMsg addrRemote s ∧ RepliesTo s.test spMsg reader := by
  have hafter : k.after = k.label.run k.before := hstep
  constructor
  · rintro ⟨s, t, hpending, ht, hdone⟩
    obtain ⟨addrLocal, hlabel⟩ := hpending.label
    rw [hlabel] at hafter
    rcases processResponse_cases spMsg addrRemote addrLocal k.before with ⟨hr, hrun⟩ | ⟨s', t', hs, -, heffect, hrun⟩
    · rw [hafter, ClientCall.run, hrun, hpending.current] at ht
      obtain rfl := Option.some.inj ht
      rw [hpending.waiting] at hdone
      cases hdone
    · obtain rfl := Option.some.inj (hpending.current.symm.trans hs)
      cases heffect with
      | binding hclass => rw [hpending.testClass] at hclass; cases hclass
      | behavior hclass => rw [hpending.testClass] at hclass; cases hclass
      | filtering _ hreplies => exact ⟨s, _, hpending, hreplies⟩
  · rintro ⟨s, reader, hpending, hreplies⟩
    obtain ⟨addrLocal, hlabel⟩ := hpending.label
    have hrun := exec_processResponse_current addrRemote addrLocal hinv.initialized hreplies.size_ne_zero
      hpending.current hpending.waiting
    rw [exec_processResponse_filtering addrRemote addrLocal hpending.testClass hreplies] at hrun
    have heffect : Effect spMsg addrLocal s (CFilteringTest.recordReply fIsTest3 s) :=
      .filtering hpending.testClass hreplies
    refine ⟨s, _, hpending, ?_, heffect.sameTest.2⟩
    rw [hafter, hlabel, ClientCall.run, hrun]
    exact current_put hpending.current heffect.sameTest.1.config

theorem evident_iff_honest (hinv : LogicInv config k.before)
    (hstep : (client config).step k.before k.label k.after) : Evident config k ↔ Honest config k := by
  constructor
  · intro hevident fIsTest3 spMsg addrRemote s reader hpending hreplies
    exact hevident fIsTest3 spMsg addrRemote ((completes_iff hinv hstep).mpr ⟨s, reader, hpending, hreplies⟩)
  · intro hhonest fIsTest3 spMsg addrRemote hcompletes
    obtain ⟨s, reader, hpending, hreplies⟩ := (completes_iff hinv hstep).mp hcompletes
    exact hhonest fIsTest3 spMsg addrRemote s reader hpending hreplies

/-- No message arrives while the client asks for the next one. -/
theorem honest_getNextMessage (source : RandomSource) (spMsg : CBuffer) (time : UInt32) (before after : CStunClientLogic) :
    Honest config ⟨before, .getNextMessage source spMsg time, after⟩ := by
  rintro fIsTest3 _ _ s reader ⟨⟨_, hlabel⟩, -, -, -⟩ -
  cases hlabel

/-- A message that arrives for another test, or a genuine one. -/
theorem honest_processResponse {before after : CStunClientLogic} {addrLocal : CSocketAddress} (testClass : TestClass)
    (hcurrent : before.current.map (·.test.testClass) = some testClass)
    (hgenuine : ∀ fIsTest3, testClass = .filteringTest fIsTest3 → Genuine config fIsTest3 spMsg addrRemote) :
    Honest config ⟨before, .processResponse spMsg addrRemote addrLocal, after⟩ := by
  rintro fIsTest3 _ _ s reader ⟨⟨_, hlabel⟩, hs, hclass, -⟩ -
  cases hlabel
  rw [hs, Option.map_some, hclass] at hcurrent
  exact hgenuine fIsTest3 (Option.some.inj hcurrent).symm

/-! ## The replies counted -/

/-- The flag of filtering test 2 or 3. -/
def gotReply (fIsTest3 : Bool) (r : StunClientResults) : Bool :=
  if fIsTest3 then r.fGotTest3Response else r.fGotTest2Response

omit [Platform] in
theorem gotReply_preRunCheck (fIsTest3 : Bool) (s : TestState) :
    gotReply fIsTest3 (preRunCheck s).results = gotReply fIsTest3 s.results := by
  unfold preRunCheck
  split
  · rfl
  · unfold CBehaviorTest.preRunCheck
    split
    · split <;> rfl
    · rfl
  · unfold CFilteringTest.preRunCheck
    split
    · split <;> rfl
    · rfl

omit [Platform] in
theorem gotReply_notifyTimeout (fIsTest3 : Bool) (s : TestState) :
    gotReply fIsTest3 (notifyTimeout s).results = gotReply fIsTest3 s.results := by
  unfold notifyTimeout
  split
  · rfl
  · rfl
  · unfold CFilteringTest.notifyTimeout
    split <;> rfl

/-- No turn of the loop counts a reply. -/
theorem gotReply_turn (fIsTest3 : Bool) (source : RandomSource) (spMsg : CBuffer) (time : UInt32)
    (l : CStunClientLogic) :
    gotReply fIsTest3 (l.turn source spMsg time).2.results = gotReply fIsTest3 l.results := by
  have hchecked : ∀ s, l.current = some s → gotReply fIsTest3 (l.preCheck s).results = gotReply fIsTest3 l.results := by
    intro s hs
    rw [← (current_eq_some.mp hs).2.1, preCheck]
    split
    · exact gotReply_preRunCheck fIsTest3 s
    · rfl
  have htaken := turn_taken source spMsg time l
  generalize l.turn source spMsg time = result at htaken
  cases htaken with
  | finished => rfl
  | skipped hs _ => exact hchecked _ hs
  | waited hs _ => exact hchecked _ hs
  | timedOut hs _ => exact (gotReply_notifyTimeout fIsTest3 _).trans (hchecked _ hs)
  | sent hs _ => exact hchecked _ hs

/-- A call that counts a reply completes the filtering test with it. -/
theorem gotReply_call (hinv : LogicInv config k.before) (hstep : (client config).step k.before k.label k.after)
    (hgot : gotReply fIsTest3 k.after.results = true) :
    gotReply fIsTest3 k.before.results = true ∨ ∃ spMsg addrRemote, Completes k fIsTest3 spMsg addrRemote := by
  have hafter : k.after = k.label.run k.before := hstep
  cases hlabel : k.label with
  | getNextMessage source spMsg time =>
    rw [hlabel] at hafter
    refine .inl ?_
    rcases getNextMessage_cases source spMsg time hinv.initialized with ⟨-, hrun⟩ | ⟨-, outcome, after, hturns, hrun⟩
    · rwa [hafter, ClientCall.run, hrun] at hgot
    · have hkept := (turns_invariant
        (I := fun l => gotReply fIsTest3 l.results = gotReply fIsTest3 k.before.results)
        (fun l hl => (gotReply_turn fIsTest3 source spMsg time l).trans hl) k.before.turnBound rfl).1
      rw [hturns] at hkept
      rw [hafter, ClientCall.run, hrun] at hgot
      exact hkept.symm.trans hgot
  | processResponse spMsg addrRemote addrLocal =>
    rw [hlabel] at hafter
    rcases processResponse_cases spMsg addrRemote addrLocal k.before with
      ⟨hr, hrun⟩ | ⟨s, t, hs, hwaiting, heffect, hrun⟩
    · rw [hafter, ClientCall.run, hrun] at hgot
      exact .inl hgot
    · rw [hafter, ClientCall.run, hrun] at hgot
      change gotReply fIsTest3 t.results = true at hgot
      rw [← (current_eq_some.mp hs).2.1]
      cases heffect with
      | binding =>
        unfold CBasicBindingTest.recordBinding CBasicBindingTest.recordOther at hgot
        split at hgot <;> exact .inl hgot
      | behavior =>
        unfold CBehaviorTest.recordMapping at hgot
        split at hgot
        · exact .inl hgot
        · split at hgot <;> exact .inl hgot
      | @filtering reader fIsTest3' hclass hreplies =>
        by_cases hsame : fIsTest3' = fIsTest3
        · subst hsame
          exact .inr ⟨spMsg, addrRemote,
            (completes_iff hinv hstep).mpr ⟨s, reader, ⟨⟨addrLocal, hlabel⟩, hs, hclass, hwaiting⟩, hreplies⟩⟩
        · refine .inl ?_
          cases fIsTest3' <;> cases fIsTest3
          · exact absurd rfl hsame
          · exact hgot
          · exact hgot
          · exact absurd rfl hsame

/-- Every reply that is counted has completed its test in the course of the run. -/
theorem gotReply_history {history : List ClientStep} {l : CStunClientLogic} (h : (client config).Run history l)
    (hgot : gotReply fIsTest3 l.results = true) :
    ∃ k ∈ history, ∃ spMsg addrRemote, Completes k fIsTest3 spMsg addrRemote := by
  have hall : LogicInv config l ∧ Settled l ∧ (gotReply fIsTest3 l.results = true →
      ∃ k ∈ history, ∃ spMsg addrRemote, Completes k fIsTest3 spMsg addrRemote) := by
    refine h.invariant (I := fun history l => LogicInv config l ∧ Settled l ∧ (gotReply fIsTest3 l.results = true →
      ∃ k ∈ history, ∃ spMsg addrRemote, Completes k fIsTest3 spMsg addrRemote)) ?_ ?_
    · intro start hstart
      obtain ⟨hinv, hsettled⟩ := hstart.inv
      refine ⟨hinv, hsettled, fun hgot => ?_⟩
      obtain ⟨-, -, rfl⟩ := hstart.eq
      cases fIsTest3 <;> cases hgot
    · rintro history s label t ⟨hinv, hsettled, hcounted⟩ hstep
      have hafter : t = label.run s := hstep
      obtain ⟨hinv', hsettled'⟩ := call_inv hinv hsettled label
      rw [← hafter] at hinv' hsettled'
      refine ⟨hinv', hsettled', fun hgot => ?_⟩
      rcases @gotReply_call _ config ⟨s, label, t⟩ fIsTest3 hinv hstep hgot with hbefore | hcompletes
      · obtain ⟨k, hk, hcompletes⟩ := hcounted hbefore
        exact ⟨k, List.mem_cons_of_mem _ hk, hcompletes⟩
      · exact ⟨_, List.mem_cons_self, hcompletes⟩
  exact hall.2.2 hgot

/-- The verdict is about a direct connection, about silence, or rests on a genuine reply of the run. -/
def VerdictRests (config : StunClientLogicConfig) (history : List ClientStep) (r : StunClientResults) : Prop :=
  (r.filtering = .endpointIndependentFiltering → r.fIsDirect = true ∨
    ∃ k ∈ history, ∃ spMsg addrRemote, Completes k false spMsg addrRemote ∧ Genuine config false spMsg addrRemote) ∧
  (r.filtering = .addressDependentFiltering →
    ∃ k ∈ history, ∃ spMsg addrRemote, Completes k true spMsg addrRemote ∧ Genuine config true spMsg addrRemote)

/-- A run accepts genuine evidence only if and only if it is offered no other; then its verdict rests on it. -/
theorem filtering_rests_on_evidence {history : List ClientStep} {l : CStunClientLogic}
    (h : (client config).Run history l) :
    ((∀ k ∈ history, Evident config k) ↔ ∀ k ∈ history, Honest config k) ∧
      ((∀ k ∈ history, Honest config k) → VerdictRests config history l.results) := by
  have hsame : ∀ k ∈ history, Evident config k ↔ Honest config k := by
    intro k hk
    obtain ⟨hreach, hstep⟩ := h.taken k hk
    exact evident_iff_honest (client_inv hreach).1 hstep
  have hiff : (∀ k ∈ history, Evident config k) ↔ ∀ k ∈ history, Honest config k :=
    forall₂_congr hsame
  refine ⟨hiff, fun hhonest => ?_⟩
  have hevident := hiff.mpr hhonest
  obtain ⟨hinv, -⟩ := client_inv ⟨history, h⟩
  have hgenuine : ∀ fIsTest3, gotReply fIsTest3 l.results = true →
      ∃ k ∈ history, ∃ spMsg addrRemote, Completes k fIsTest3 spMsg addrRemote ∧
        Genuine config fIsTest3 spMsg addrRemote := by
    intro fIsTest3 hgot
    obtain ⟨k, hk, spMsg, addrRemote, hcompletes⟩ := gotReply_history h hgot
    exact ⟨k, hk, spMsg, addrRemote, hcompletes, hevident k hk fIsTest3 spMsg addrRemote hcompletes⟩
  refine ⟨fun hverdict => ?_, fun hverdict => ?_⟩
  · exact (hinv.results.consistent.endpointIndependentFiltering hverdict).imp_right (hgenuine false)
  · exact hgenuine true (hinv.results.consistent.addressDependentFiltering hverdict).1

end Filtering

/-- The filtering tests alone, against a server at 0.0.0.1:3478. -/
def filterConfig : StunClientLogicConfig := { fullConfig with fBehaviorTest := false }

theorem filterConfig_initialized : Initialized filterConfig (fresh filterConfig) := ⟨filterConfig, false, rfl⟩

/-- A Binding error response with the code 400. -/
def errorReply (n : UInt8) : CBuffer :=
  CBuffer.initNoAlloc ([0x01, 0x11, 0x00, 0x08] ++ wireId n ++ [0x00, 0x09, 0x00, 0x04, 0, 0, 4, 0])

/-- The binding test is answered and the request of filtering test 2 is sent. -/
def callsToFilteringTest2 : List ClientCall :=
  [.getNextMessage (constantSource 1) sendBuffer 5,
    .processResponse (bindingReply 1) filterConfig.addrServer CSocketAddress.zero,
    .getNextMessage (constantSource 2) sendBuffer 5]

/-- An error response from the primary address of the server. -/
def errorCall : ClientCall := .processResponse (errorReply 2) filterConfig.addrServer CSocketAddress.zero

set_option maxRecDepth 8000 in
/-- A 400 from the server's primary address makes the filtering endpoint independent. -/
theorem filtering_rests_on_errorReply :
    let _ := Platform.armeabi
    ∃ history l, (client filterConfig).Run history l ∧
      (∃ k ∈ history, Completes k false (errorReply 2) filterConfig.addrServer ∧
        ¬ Genuine filterConfig false (errorReply 2) filterConfig.addrServer) ∧
      l.results.filtering = .endpointIndependentFiltering := by
  intro platform
  have hbefore : (runCalls callsToFilteringTest2 (fresh filterConfig)).current.map
      (fun s => (s.test.testClass, isCompleted s)) = some (.filteringTest false, false) := by decide
  have hafter : (errorCall.run (runCalls callsToFilteringTest2 (fresh filterConfig))).current.map isCompleted =
      some true := by decide
  have hverdict : (errorCall.run (runCalls callsToFilteringTest2 (fresh filterConfig))).results.filtering =
      .endpointIndependentFiltering := by decide
  have hclass : (CStunMessageReader.addBytes (errorReply 2).contents CStunMessageReader.new).2.getMessageClass =
      .failureResponse := by decide
  obtain ⟨history, hrun⟩ := run_call (runCalls_reachable filterConfig_initialized callsToFilteringTest2) errorCall
  generalize runCalls callsToFilteringTest2 (fresh filterConfig) = before at hbefore hafter hverdict hrun
  obtain ⟨s, hs, hpending⟩ := Option.map_eq_some_iff.mp hbefore
  obtain ⟨t, ht, hdone⟩ := Option.map_eq_some_iff.mp hafter
  obtain ⟨htest, hwaiting⟩ := Prod.mk.inj hpending
  refine ⟨_, _, hrun, ⟨_, List.mem_cons_self, ⟨s, t, ⟨⟨_, rfl⟩, hs, htest, hwaiting⟩, ht, hdone⟩, ?_⟩, hverdict⟩
  intro hgenuine
  rw [hgenuine.msgClass] at hclass
  cases hclass

/-- The answer to filtering test 2 from the other IP and port. -/
def genuineCall : ClientCall := .processResponse (bindingReply 2) (CSocketAddress.ofIp4 2 3479) CSocketAddress.zero

/-- The steps of a run up to the request of filtering test 2, which is then outstanding. -/
def askingSteps [Platform] : List ClientStep :=
  Machine.stepsOf ClientCall.run (fresh filterConfig) callsToFilteringTest2

theorem askingSteps_run [Platform] :
    (client filterConfig).Run askingSteps (runCalls callsToFilteringTest2 (fresh filterConfig)) := by
  have hsteps := Machine.run_stepsOf callsToFilteringTest2
    (Machine.Run.start (M := client filterConfig) filterConfig_initialized)
  rwa [List.append_nil] at hsteps

set_option maxRecDepth 8000 in
/-- The one message so far has answered the binding test. -/
theorem askingSteps_honest : let _ := Platform.armeabi; ∀ k ∈ askingSteps, Honest filterConfig k := by
  intro platform
  refine Machine.forall_stepsOf (honest_getNextMessage _ _ _ _ _) ?_
  refine Machine.forall_stepsOf (honest_processResponse .basicBindingTest (by decide) nofun) ?_
  refine Machine.forall_stepsOf (honest_getNextMessage _ _ _ _ _) ?_
  exact fun _ hk => absurd hk List.not_mem_nil

theorem genuine_bindingReply :
    @Genuine Platform.armeabi filterConfig false (bindingReply 2) (CSocketAddress.ofIp4 2 3479) :=
  let _ := Platform.armeabi
  ⟨by decide, by decide, by decide, by decide⟩

set_option maxRecDepth 8000 in
/-- A run in which filtering test 2 is answered from the other IP and port: no evidence is accepted but genuine
one, and the verdict rests on it. -/
theorem filtering_rests_on_evidence_answered :
    let _ := Platform.armeabi
    let asking := runCalls callsToFilteringTest2 (fresh filterConfig)
    let l := genuineCall.run asking
    let history := ⟨asking, genuineCall, l⟩ :: askingSteps
    (client filterConfig).Run history l ∧ (∀ k ∈ history, Evident filterConfig k) ∧
      VerdictRests filterConfig history l.results ∧ l.results.filtering = .endpointIndependentFiltering ∧
      l.results.fIsDirect = false := by
  intro platform
  have hrun := askingSteps_run
  have hasked : (runCalls callsToFilteringTest2 (fresh filterConfig)).current.map (·.test.testClass) =
      some (.filteringTest false) := by decide
  have hverdict : (genuineCall.run (runCalls callsToFilteringTest2 (fresh filterConfig))).results.filtering =
        .endpointIndependentFiltering ∧
      (genuineCall.run (runCalls callsToFilteringTest2 (fresh filterConfig))).results.fIsDirect = false := by decide
  dsimp only
  generalize runCalls callsToFilteringTest2 (fresh filterConfig) = asking at hrun hasked hverdict ⊢
  have hhonest : ∀ k ∈ ⟨asking, genuineCall, genuineCall.run asking⟩ :: askingSteps, Honest filterConfig k := by
    refine List.forall_mem_cons.mpr ⟨honest_processResponse (.filteringTest false) hasked ?_, askingSteps_honest⟩
    intro fIsTest3 hclass
    cases hclass
    exact genuine_bindingReply
  have hanswered : (client filterConfig).Run (⟨asking, genuineCall, genuineCall.run asking⟩ :: askingSteps) _ := hrun.step rfl
  obtain ⟨hiff, hrests⟩ := filtering_rests_on_evidence hanswered
  exact ⟨hanswered, hiff.mpr hhonest, hrests hhonest, hverdict⟩

end NatTester.Guarantees
