import NatTester.Client.History
import NatTester.Guarantees.Filtering

/-!
# The client believes answers to its own outstanding request

In every run the messages for one test carry one transaction id, an error leaves
the client as it was, and a response is believed only if it is whole and carries
the id of the messages of the current test. The last needs a message to have been
sent: a `GetNextMessage` refused for its buffer leaves the id of the test at zero.
-/
namespace NatTester.Guarantees
open NatTester.Lib NatTester.Source NatTester.Wire NatTester.Client IStunClientTest

/-- The transaction id in a message. -/
def messageId (spMsg : CBuffer) : Bytes := slice 4 16 spMsg.contents

/-- Which tests are completed. -/
def completionFlags (l : CStunClientLogic) : List Bool := l.testlist.map (·.fCompleted)

/-- The response is whole and carries the id of the messages sent for the current, open test. -/
structure AnswersOpenTest [Platform] (earlier : List (Machine.Taken CStunClientLogic ClientCall)) (l : CStunClientLogic)
    (spMsg : CBuffer) : Prop where
  isOpen : ∃ s, l.current = some s ∧ isCompleted s = false
  whole : (CStunMessageReader.addBytes spMsg.contents CStunMessageReader.new).1 = .bodyValidated
  sent : sendings l.nTestIndex earlier ≠ []
  id : ∀ m ∈ sendings l.nTestIndex earlier, messageId spMsg = messageId m.outgoing.spMsg

section Responses
variable [Platform] {config : StunClientLogicConfig} {history earlier : List (Machine.Taken CStunClientLogic ClientCall)}
  {l : CStunClientLogic} {spMsg : CBuffer} {addrLocal : CSocketAddress} {s t : TestState}

omit [Platform] in
theorem messageId_requestBytes {transid : StunTransactionId} {change : StunChangeRequestAttribute}
    (h : spMsg.contents = requestBytes transid change) : messageId spMsg = transid.id := by
  rw [messageId, h, requestBytes, frame_transid]

/-- The id a reader reports is the one in the bytes. -/
theorem messageId_of_replies {test : CStunClientTest} {reader : CStunMessageReader} (h : RepliesTo test spMsg reader) :
    messageId spMsg = test.transid.id := by
  obtain ⟨hread, hid⟩ := h
  obtain ⟨hresult, hparsed⟩ := addBytes_parsed fresh_new fresh_new.parsed spMsg.contents
  rw [hread] at hresult hparsed
  rw [List.nil_append] at hparsed
  obtain ⟨as, haccepted⟩ := hparsed.accepted fresh_new hresult.symm
  have hheader := haccepted.header
  have hlen : (slice 4 16 spMsg.contents).length = 16 := slice_length_of_le hheader
  rw [← hid, CStunMessageReader.getTransactionId, haccepted.transid, StunTransactionId.ofBytes_eq hlen, messageId]

theorem effect_replies (h : Effect spMsg addrLocal s t) : ∃ reader, RepliesTo s.test spMsg reader := by
  cases h with
  | binding _ hreplies => exact ⟨_, hreplies⟩
  | behavior _ hreplies => exact ⟨_, hreplies⟩
  | filtering _ hreplies => exact ⟨_, hreplies⟩

/-- All messages for one test carry its id. -/
theorem messageId_sent (h : SentInv config history l) {i : Nat} {m : Sending} (hm : m ∈ sendings i history)
    {transid : StunTransactionId} (hid : HasId l i transid) : messageId m.outgoing.spMsg = transid.id := by
  obtain ⟨transid', change, hid', hcontents⟩ := h.ids i m hm
  rw [messageId_requestBytes hcontents, hid'.unique hid]

/-- A response that has an effect answers the messages of the current test. -/
theorem effect_answers (hrun : (client config).Run earlier l) (hroom : ∃ first ∈ earlier, first.label.HasRoom)
    (hs : l.current = some s) (hopen : isCompleted s = false) (heffect : Effect spMsg addrLocal s t) :
    AnswersOpenTest earlier l spMsg := by
  obtain ⟨-, hsent⟩ := run_sentInv hrun
  obtain ⟨reader, hreplies⟩ := effect_replies heffect
  have hcount := run_awaiting hrun hroom s hs hopen
  have hsome : sendings l.nTestIndex earlier ≠ [] := by
    intro hnil
    have hzero := hsent.count
    rw [hnil] at hzero
    exact hcount (UInt32.toNat_inj.mp hzero)
  obtain ⟨first, hfirst⟩ := List.exists_mem_of_ne_nil _ hsome
  obtain ⟨-, -, htest⟩ := current_eq_some.mp hs
  obtain ⟨transid, change, hid, -⟩ := hsent.ids _ first hfirst
  have hown : HasId l l.nTestIndex s.test.transid := by
    obtain ⟨hvalid, test, hat, rfl⟩ := hid
    obtain rfl := Option.some.inj (htest.symm.trans hat)
    exact ⟨hvalid, _, htest, rfl⟩
  refine ⟨⟨s, hs, hopen⟩, by rw [hreplies.1], hsome, ?_⟩
  intro m hm
  rw [messageId_of_replies hreplies, messageId_sent hsent hm hown]

/-- In every run: one id for all messages of a test; a response that changes the results or
completes a test, once a `GetNextMessage` has had room, answers the open test; and one
that is an error changes neither results, completions, position nor send counter. -/
theorem responses_believed (hrun : (client config).Run history l) :
    (∀ i, ∀ m ∈ sendings i history, ∀ m' ∈ sendings i history,
      messageId m.outgoing.spMsg = messageId m'.outgoing.spMsg) ∧
    ∀ later k earlier spMsg addrRemote addrLocal, history = later ++ k :: earlier →
      k.label = .processResponse spMsg addrRemote addrLocal →
      ((∃ first ∈ earlier, first.label.HasRoom) →
        k.after.results ≠ k.before.results ∨ completionFlags k.after ≠ completionFlags k.before →
        AnswersOpenTest earlier k.before spMsg) ∧
      ∀ hr, (Proc.exec (CStunClientLogic.processResponse spMsg addrRemote addrLocal) k.before).1 = .error hr →
        k.after.results = k.before.results ∧ completionFlags k.after = completionFlags k.before ∧
        k.after.nTestIndex = k.before.nTestIndex ∧ k.after.sendCount = k.before.sendCount := by
  constructor
  · obtain ⟨-, hsent⟩ := run_sentInv hrun
    intro i m hm m' hm'
    obtain ⟨transid, change, hid, -⟩ := hsent.ids i m hm
    rw [messageId_sent hsent hm hid, messageId_sent hsent hm' hid]
  · intro later k earlier spMsg addrRemote addrLocal hsplit hlabel
    subst hsplit
    obtain ⟨hearlier, hstep, -⟩ := hrun.split
    obtain ⟨before, label, after⟩ := k
    obtain rfl : label = .processResponse spMsg addrRemote addrLocal := hlabel
    have hafter : after = (Proc.exec (CStunClientLogic.processResponse spMsg addrRemote addrLocal) before).2 := hstep
    rcases processResponse_cases spMsg addrRemote addrLocal before with ⟨hr, hexec⟩ | ⟨s, t, hs, hopen, heffect, hexec⟩
    · rw [hexec] at hafter
      obtain rfl : after = before := hafter
      constructor
      · intro _ hchanged
        rcases hchanged with hresults | hflags
        · exact absurd rfl hresults
        · exact absurd rfl hflags
      · intro _ _
        exact ⟨rfl, rfl, rfl, rfl⟩
    · constructor
      · intro hroom _
        exact effect_answers hearlier hroom hs hopen heffect
      · intro hr herror
        rw [hexec] at herror
        cases herror

end Responses

/-! ## A response before anything was sent -/

/-- A call of `GetNextMessage` that is refused for its buffer. -/
def refusedCall : ClientCall := .getNextMessage (constantSource 1) (CBuffer.initNoAlloc [0]) 5

/-- A Binding success response with the transaction id 0: mapped address 0.0.0.9:9. -/
def zeroIdReply : CBuffer :=
  CBuffer.initNoAlloc ([0x01, 0x01, 0x00, 0x0C] ++ List.replicate 16 0 ++ [0x00, 0x01, 0x00, 0x08, 0, 1, 0, 9, 0, 0, 0, 9])

def zeroIdCall : ClientCall := .processResponse zeroIdReply fullConfig.addrServer CSocketAddress.zero

/-- The first call is a `GetNextMessage` that sends nothing; the response is believed all the same. -/
theorem responses_believed_unsent :
    let _ := Platform.armeabi
    ∃ history l, (client fullConfig).Run history l ∧
      (∃ source spMsg time, history.getLast?.map (·.label) = some (.getNextMessage source spMsg time)) ∧
      ∃ later k earlier, history = later ++ k :: earlier ∧ k.label = zeroIdCall ∧
        k.after.results ≠ k.before.results ∧ ¬ AnswersOpenTest earlier k.before zeroIdReply := by
  intro platform
  have hbelieved : (zeroIdCall.run (refusedCall.run (fresh fullConfig))).results.fBindingTestSuccess = true := by decide
  have hbefore : (refusedCall.run (fresh fullConfig)).results.fBindingTestSuccess = false := by decide
  have hrefused : (Proc.exec (CStunClientLogic.getNextMessage (constantSource 1) (CBuffer.initNoAlloc [0]) 5)
      (fresh fullConfig)).1 = .error E_INVALIDARG := by decide
  have hsilent := sending_error hrefused (refusedCall.run (fresh fullConfig))
  have hrun : (client fullConfig).Run [⟨fresh fullConfig, refusedCall, refusedCall.run (fresh fullConfig)⟩]
      (refusedCall.run (fresh fullConfig)) := (Machine.Run.start fullConfig_initialized).step rfl
  have hnone : sending ⟨fresh fullConfig, refusedCall, refusedCall.run (fresh fullConfig)⟩ = none := hsilent
  generalize refusedCall.run (fresh fullConfig) = before at hbelieved hbefore hrun hnone
  have hrun' : (client fullConfig).Run (⟨before, zeroIdCall, zeroIdCall.run before⟩ :: _) _ := hrun.step rfl
  refine ⟨_, _, hrun', ⟨_, _, _, rfl⟩, [], _, _, rfl, rfl, ?_, ?_⟩
  · intro hsame
    have hflag := congrArg StunClientResults.fBindingTestSuccess hsame
    rw [hbefore, hbelieved] at hflag
    cases hflag
  · intro hanswers
    apply hanswers.sent
    rw [sendings_cons_none hnone]
    rfl

/-- A Binding success response with another id. -/
def strayCall : ClientCall := .processResponse (bindingReply 7) (CSocketAddress.ofIp4 2 3479) CSocketAddress.zero

theorem askingSteps_room [Platform] : ∃ first ∈ askingSteps, first.label.HasRoom := by
  have hsize : sendBuffer.allocatedSize = MAX_STUN_MESSAGE_SIZE := List.length_replicate
  exact ⟨_, List.mem_append_right _ (List.mem_singleton_self _), Nat.le_of_eq hsize.symm⟩

set_option maxRecDepth 8000 in
/-- A response with another id is refused and changes nothing; the next one is believed, and it answers the request
that is outstanding. -/
theorem responses_believed_answered :
    let _ := Platform.armeabi
    let asking := runCalls callsToFilteringTest2 (fresh filterConfig)
    let before := strayCall.run asking
    let earlier := ⟨asking, strayCall, before⟩ :: askingSteps
    let history := ⟨before, genuineCall, genuineCall.run before⟩ :: earlier
    (client filterConfig).Run history (genuineCall.run before) ∧
      (∀ i, ∀ m ∈ sendings i history, ∀ m' ∈ sendings i history,
        messageId m.outgoing.spMsg = messageId m'.outgoing.spMsg) ∧
      (before.results = asking.results ∧ completionFlags before = completionFlags asking ∧
        before.nTestIndex = asking.nTestIndex ∧ before.sendCount = asking.sendCount) ∧
      completionFlags (genuineCall.run before) ≠ completionFlags before ∧
      AnswersOpenTest earlier before (bindingReply 2) := by
  intro platform
  have hrun := askingSteps_run
  have hrefused : (Proc.exec (CStunClientLogic.processResponse (bindingReply 7) (CSocketAddress.ofIp4 2 3479)
      CSocketAddress.zero) (runCalls callsToFilteringTest2 (fresh filterConfig))).1 = .error E_FAIL := by decide
  have hcompletes : completionFlags (genuineCall.run (strayCall.run (runCalls callsToFilteringTest2 (fresh filterConfig)))) ≠
      completionFlags (strayCall.run (runCalls callsToFilteringTest2 (fresh filterConfig))) := by decide
  dsimp only
  generalize runCalls callsToFilteringTest2 (fresh filterConfig) = asking at hrun hrefused hcompletes ⊢
  have hstrayed : (client filterConfig).Run (⟨asking, strayCall, strayCall.run asking⟩ :: askingSteps) _ := hrun.step rfl
  have hanswered : (client filterConfig).Run
      (⟨strayCall.run asking, genuineCall, genuineCall.run (strayCall.run asking)⟩ :: _) _ := hstrayed.step rfl
  obtain ⟨hids, hbelieved⟩ := responses_believed hanswered
  obtain ⟨-, hunchanged⟩ := hbelieved [_] _ _ _ _ _ rfl rfl
  obtain ⟨hanswers, -⟩ := hbelieved [] _ _ _ _ _ rfl rfl
  obtain ⟨first, hfirst, hroom⟩ := askingSteps_room
  exact ⟨hanswered, hids, hunchanged _ hrefused, hcompletes,
    hanswers ⟨first, List.mem_cons_of_mem _ hfirst, hroom⟩ (.inr hcompletes)⟩

end NatTester.Guarantees
