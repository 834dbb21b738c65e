import NatTester.Client.Outcomes
import NatTester.Client.Probes
import NatTester.Guarantees.Filtering
import NatTester.Guarantees.ReaderGrammar

/-!
# Every probe is the right one

Whatever happened in a run, a message that `GetNextMessage` returns is a Binding
request with a CHANGE-REQUEST and nothing else, its flags and its destination are
those of the current test, and the tests that use the other address of the server
send only once the binding response has named one.
-/
namespace NatTester.Guarantees
open NatTester.Lib NatTester.Source NatTester.Wire NatTester.Client IStunClientTest CStunMessageReader

/-- A reader that takes no legacy message finds a Binding request with a CHANGE-REQUEST alone. -/
structure IsProbe [Platform] (change : StunChangeRequestAttribute) (bs : Bytes) : Prop where
  state : (addBytes bs (freshReader false)).1 = .bodyValidated
  type : (addBytes bs (freshReader false)).2.getMessageType = StunMsgTypeBinding
  msgClass : (addBytes bs (freshReader false)).2.getMessageClass = .request
  single : ∃ a : Attribute, a.type = STUN_ATTRIBUTE_CHANGEREQUEST ∧ TableLists [a] (addBytes bs (freshReader false)).2
  change_eq : (addBytes bs (freshReader false)).2.getChangeRequest = (S_OK, change)

/-- What a test asks the server to change: nothing, both, or the port. -/
def probeFlags : TestClass → StunChangeRequestAttribute
  | .basicBindingTest => ⟨false, false⟩
  | .behaviorTest _ => ⟨false, false⟩
  | .filteringTest false => ⟨true, true⟩
  | .filteringTest true => ⟨false, true⟩

/-- Where a test sends: to the server, or behind its other address. -/
def probeDestination (addrServer addrOther : CSocketAddress) : TestClass → CSocketAddress
  | .basicBindingTest => addrServer
  | .behaviorTest false => addrOther.setPort addrServer.getPort
  | .behaviorTest true => addrOther
  | .filteringTest _ => addrServer

section Probes
variable [Platform] {config : StunClientLogicConfig} {history : List (Machine.Taken CStunClientLogic ClientCall)}
  {l : CStunClientLogic} {s : TestState}

omit [Platform] in
theorem requestedChange_eq (testClass : TestClass) : requestedChange testClass = probeFlags testClass := by
  cases testClass with
  | basicBindingTest => rfl
  | behaviorTest fIsTest3 => rfl
  | filteringTest fIsTest3 => cases fIsTest3 <;> rfl

theorem isProbe_requestBytes {transid : StunTransactionId} (hcookie : transid.hasCookie)
    (change : StunChangeRequestAttribute) : IsProbe change (requestBytes transid change) := by
  obtain ⟨hresult, hread⟩ := readFrame_requestBytes transid change (freshReader_fresh false) (.inl hcookie)
  obtain ⟨a, htype, hattributes⟩ := requestAttributes_singleton transid change
  have hlists := table_lists hread.accepted
  rw [hattributes] at hlists
  exact ⟨hresult, hread.type_eq, hread.class_eq, ⟨a, htype, hlists⟩,
    (readsRequest_of_readFrame transid change hread).change_eq⟩

/-- Once the other address is named, a test sends where it should. -/
theorem destination_named (hserver : s.config.addrServer = config.addrServer) (hothers : OthersNamed config history s.results)
    (hready : isReadyToRun s = true) :
    ∃ addrOther, destination s = probeDestination config.addrServer addrOther s.test.testClass ∧
      (s.test.testClass ≠ .basicBindingTest → s.results.fHasOtherAddress = true ∧ NamesOther history addrOther ∧
        s.results.addrAA = addrOther) := by
  unfold destination
  cases hclass : s.test.testClass with
  | basicBindingTest => exact ⟨CSocketAddress.zero, hserver, fun hne => absurd rfl hne⟩
  | behaviorTest fIsTest3 =>
    have hhas := hasOther_of_ready hready (by rw [hclass]; exact TestClass.noConfusion)
    obtain ⟨addrOther, hnames, hAA, hAP⟩ := hothers hhas
    refine ⟨addrOther, ?_, fun _ => ⟨hhas, hnames, hAA⟩⟩
    cases fIsTest3 with
    | false => exact hAP
    | true => exact hAA
  | filteringTest fIsTest3 =>
    have hhas := hasOther_of_ready hready (by rw [hclass]; exact TestClass.noConfusion)
    obtain ⟨addrOther, hnames, hAA, -⟩ := hothers hhas
    exact ⟨addrOther, hserver, fun _ => ⟨hhas, hnames, hAA⟩⟩

/-- For every run and every message returned behind it: the message is in the buffer of the
caller, it is the probe of the current test with its flags and its destination, and a
behavior or filtering test sends only with another address from the binding response. -/
theorem probes_right (hrun : (client config).Run history l) {source : RandomSource} {spMsg : CBuffer} {time : UInt32}
    {outgoing : Outgoing} {after : CStunClientLogic}
    (hcall : Proc.exec (CStunClientLogic.getNextMessage source spMsg time) l = (.ok outgoing, after)) :
    ∃ testClass addrOther, (CStunClientLogic.testClasses config)[after.nTestIndex]? = some testClass ∧
      outgoing.spMsg.allocatedSize = spMsg.allocatedSize ∧
      IsProbe (probeFlags testClass) outgoing.spMsg.contents ∧
      outgoing.addrDest = probeDestination config.addrServer addrOther testClass ∧
      (testClass ≠ .basicBindingTest → after.results.fHasOtherAddress = true ∧ NamesOther history addrOther ∧
        after.results.addrAA = addrOther) := by
  obtain ⟨hinv, -⟩ := run_sentInv hrun
  have hprobe := run_probeInv hrun
  have hagain : ∀ l t, ProbeInv config history l → l.turn source spMsg time = (.again, t) → ProbeInv config history t := by
    intro l t hl hturn
    have hkept := hl.turn source spMsg time
    rw [hturn] at hkept
    exact hkept
  obtain ⟨hroom, last, s, hlogic, hlast, hs, hready, -, rfl, rfl, hleave⟩ := getNextMessage_sends hagain hinv hprobe hcall
  have hafterTurn := hlast.turn source spMsg time
  rw [hleave] at hafterTurn
  have hat := current_checked hs
  obtain ⟨hconfig, -, -⟩ := current_eq_some.mp hat
  obtain ⟨-, -, htest⟩ := current_eq_some.mp (current_afterSend source time hs)
  have hserver : (last.preCheck s).config.addrServer = config.addrServer := by
    rw [hconfig, (hlogic.checked hs).config_eq]
    rfl
  have hothers : OthersNamed config history (last.preCheck s).results := (hlast.checked hs).others
  obtain ⟨addrOther, hdestination, hnamed⟩ := destination_named hserver hothers hready
  obtain ⟨hcontents, hallocated⟩ := writtenTo_spec source hroom (last.preCheck s)
  have hcookie := hafterTurn.cookies _ _ ⟨requestTransid_isValid .., _, htest, rfl⟩
  refine ⟨(last.preCheck s).test.testClass, addrOther, (hlogic.checked hs).class_at hat, hallocated, ?_, hdestination,
    hnamed⟩
  rw [hcontents, requestedChange_eq]
  exact isProbe_requestBytes hcookie _

end Probes

set_option maxRecDepth 8000 in
/-- The request of filtering test 2 asks for another address and port. -/
theorem probes_right_filteringTest2 :
    let _ := Platform.armeabi
    ∃ outgoing after testClass addrOther, Proc.exec
        (CStunClientLogic.getNextMessage (constantSource 2) sendBuffer 5)
        (runCalls (callsToFilteringTest2.take 2) (fresh filterConfig)) = (.ok outgoing, after) ∧
      IsProbe (probeFlags testClass) outgoing.spMsg.contents ∧
      outgoing.addrDest = probeDestination filterConfig.addrServer addrOther testClass := by
  intro platform
  obtain ⟨history, hrun⟩ := runCalls_reachable filterConfig_initialized (callsToFilteringTest2.take 2)
  have hsome : (Proc.exec (CStunClientLogic.getNextMessage (constantSource 2) sendBuffer 5)
      (runCalls (callsToFilteringTest2.take 2) (fresh filterConfig))).1.isOk = true := by decide
  generalize runCalls (callsToFilteringTest2.take 2) (fresh filterConfig) = before at hrun hsome
  cases hcall : Proc.exec (CStunClientLogic.getNextMessage (constantSource 2) sendBuffer 5) before with
  | mk outcome after =>
    rw [hcall] at hsome
    cases outcome with
    | error hr => cases hsome
    | ok outgoing =>
      obtain ⟨testClass, addrOther, -, -, hprobe, hdestination, -⟩ := probes_right hrun hcall
      exact ⟨outgoing, after, testClass, addrOther, rfl, hprobe, hdestination⟩

end NatTester.Guarantees
