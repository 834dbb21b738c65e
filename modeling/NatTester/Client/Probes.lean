import NatTester.Client.History

/-!
# What the probes of the client rest on

Every transaction id a test has drawn carries the cookie, and the other addresses
in the results are those the binding response named. Both hold after every turn
of the loop and after every call.
-/
namespace NatTester.Client
open NatTester.Lib NatTester.Source IStunClientTest CStunClientLogic

/-- Two results name the same other addresses. -/
structure SameOthers (r r' : StunClientResults) : Prop where
  fHasOtherAddress : r'.fHasOtherAddress = r.fHasOtherAddress
  addrAA : r'.addrAA = r.addrAA
  addrAP : r'.addrAP = r.addrAP

section Others
variable {s t : TestState}

theorem SameOthers.refl (r : StunClientResults) : SameOthers r r := ⟨rfl, rfl, rfl⟩

theorem SameOthers.trans {r r' r'' : StunClientResults} (h : SameOthers r r') (h' : SameOthers r' r'') : SameOthers r r'' :=
  ⟨h'.fHasOtherAddress.trans h.fHasOtherAddress, h'.addrAA.trans h.addrAA, h'.addrAP.trans h.addrAP⟩

theorem sameOthers_preRunCheck (s : TestState) : SameOthers s.results (preRunCheck s).results := by
  unfold preRunCheck
  split
  · exact .refl _
  · unfold CBehaviorTest.preRunCheck
    split
    · split <;> exact ⟨rfl, rfl, rfl⟩
    · exact .refl _
  · unfold CFilteringTest.preRunCheck
    split
    · split <;> exact ⟨rfl, rfl, rfl⟩
    · exact .refl _

theorem sameOthers_preCheck (l : CStunClientLogic) (s : TestState) : SameOthers s.results (l.preCheck s).results := by
  unfold preCheck
  split
  · exact sameOthers_preRunCheck s
  · exact .refl _

theorem sameOthers_notifyTimeout (s : TestState) : SameOthers s.results (notifyTimeout s).results := by
  unfold notifyTimeout
  split
  · exact ⟨rfl, rfl, rfl⟩
  · exact ⟨rfl, rfl, rfl⟩
  · unfold CFilteringTest.notifyTimeout
    split <;> exact ⟨rfl, rfl, rfl⟩

/-- Only the binding response names another address. -/
theorem sameOthers_effect [Platform] {spMsg : CBuffer} {addrLocal : CSocketAddress} (h : Effect spMsg addrLocal s t)
    (hclass : s.test.testClass ≠ .basicBindingTest) : SameOthers s.results t.results := by
  cases h with
  | binding hbasic => exact absurd hbasic hclass
  | behavior =>
    unfold CBehaviorTest.recordMapping
    split
    · exact ⟨rfl, rfl, rfl⟩
    · split <;> exact ⟨rfl, rfl, rfl⟩
  | filtering =>
    unfold CFilteringTest.recordReply
    split <;> exact ⟨rfl, rfl, rfl⟩

/-- A test that needs the other addresses is ready only once there are some. -/
theorem hasOther_of_ready (hready : isReadyToRun s = true) (hclass : s.test.testClass ≠ .basicBindingTest) :
    s.results.fHasOtherAddress = true := by
  unfold isReadyToRun at hready
  split at hready
  next hbasic => exact absurd hbasic hclass
  next fIsTest3 _ =>
    simp only [CBehaviorTest.isReadyToRun] at hready
    cases fIsTest3 <;> simp_all
  next =>
    simp only [CFilteringTest.isReadyToRun, Bool.and_eq_true] at hready
    exact hready.1.1.2

end Others

section Ids
variable {l : CStunClientLogic} {s u : TestState} {i : Nat} {transid : StunTransactionId}

/-- A test that writes its state changes no other test. -/
theorem hasId_put (hs : l.current = some s) (h : HasId (l.put u) i transid) :
    HasId l i transid ∨ transid = u.test.transid := by
  obtain ⟨hvalid, test, hat, rfl⟩ := h
  rw [CStunClientLogic.put, List.getElem?_set] at hat
  split at hat
  next hi =>
    rw [if_pos (current_lt hs)] at hat
    right
    rw [Option.some.inj hat]
  next => exact .inl ⟨hvalid, test, hat, rfl⟩

end Ids

section Invariant
variable [Platform] {config : StunClientLogicConfig} {history : List (Machine.Taken CStunClientLogic ClientCall)}
  {l t : CStunClientLogic} {s u : TestState}

/-- A response that the binding test took in the run names `addrOther`. -/
def NamesOther (history : List (Machine.Taken CStunClientLogic ClientCall)) (addrOther : CSocketAddress) : Prop :=
  ∃ k ∈ history, k.before.nTestIndex = 0 ∧ ∃ spMsg addrRemote addrLocal reader,
    k.label = .processResponse spMsg addrRemote addrLocal ∧
    (Proc.exec (CStunClientLogic.processResponse spMsg addrRemote addrLocal) k.before).1 = .ok () ∧
    CStunMessageReader.addBytes spMsg.contents CStunMessageReader.new = (.bodyValidated, reader) ∧
    reader.getOtherAddress = .ok addrOther

/-- The other addresses in the results come from the binding response. -/
def OthersNamed (config : StunClientLogicConfig) (history : List (Machine.Taken CStunClientLogic ClientCall))
    (r : StunClientResults) : Prop :=
  r.fHasOtherAddress = true → ∃ addrOther, NamesOther history addrOther ∧ r.addrAA = addrOther ∧
    r.addrAP = addrOther.setPort config.addrServer.getPort

structure ProbeInv (config : StunClientLogicConfig) (history : List (Machine.Taken CStunClientLogic ClientCall))
    (l : CStunClientLogic) : Prop where
  cookies : ∀ i transid, HasId l i transid → transid.hasCookie
  others : OthersNamed config history l.results

theorem OthersNamed.same {r r' : StunClientResults} (h : OthersNamed config history r) (hsame : SameOthers r r') :
    OthersNamed config history r' := by
  intro hhas
  rw [hsame.fHasOtherAddress] at hhas
  obtain ⟨addrOther, hnames, hAA, hAP⟩ := h hhas
  exact ⟨addrOther, hnames, hsame.addrAA.trans hAA, hsame.addrAP.trans hAP⟩

theorem OthersNamed.mono {r : StunClientResults} (h : OthersNamed config history r)
    (k : Machine.Taken CStunClientLogic ClientCall) : OthersNamed config (k :: history) r := by
  intro hhas
  obtain ⟨addrOther, ⟨k', hk', hnamed⟩, hAA⟩ := h hhas
  exact ⟨addrOther, ⟨k', List.mem_cons_of_mem _ hk', hnamed⟩, hAA⟩

/-- A test that keeps its id, or draws one, and leaves the other addresses alone. -/
theorem ProbeInv.put (h : ProbeInv config history l) (hs : l.current = some s)
    (hid : u.test.transid = s.test.transid ∨ u.test.transid.hasCookie) (hothers : OthersNamed config history u.results) :
    ProbeInv config history (l.put u) where
  cookies := by
    obtain ⟨-, -, htest⟩ := current_eq_some.mp hs
    intro i transid hput
    rcases hasId_put hs hput with hold | rfl
    · exact h.cookies i transid hold
    · rcases hid with hsame | hcookie
      · exact h.cookies l.nTestIndex _ ⟨hput.1, _, htest, hsame.symm⟩
      · exact hcookie
  others := hothers

theorem ProbeInv.checked (h : ProbeInv config history l) (hs : l.current = some s) :
    ProbeInv config history (checked l s) := by
  obtain ⟨-, hresults, -⟩ := current_eq_some.mp hs
  have hothers : OthersNamed config history s.results := hresults ▸ h.others
  have hput := h.put hs (.inl (sameTest_preCheck l s).transid) (hothers.same (sameOthers_preCheck l s))
  exact ⟨hput.cookies, hput.others⟩

theorem ProbeInv.turn (h : ProbeInv config history l) (source : RandomSource) (spMsg : CBuffer) (time : UInt32) :
    ProbeInv config history (l.turn source spMsg time).2 := by
  have htaken := turn_taken source spMsg time l
  generalize l.turn source spMsg time = result at htaken
  cases htaken with
  | finished => exact h
  | skipped hs _ => exact ⟨(h.checked hs).cookies, (h.checked hs).others⟩
  | waited hs _ => exact h.checked hs
  | timedOut hs _ =>
    have hothers := (h.checked hs).others.same (sameOthers_notifyTimeout (l.preCheck _))
    exact (h.checked hs).put (current_checked hs) (.inl (sameTest_notifyTimeout _).transid) hothers
  | @sent s hs _ =>
    have hid : requestTransid source (l.preCheck s).test.transid = (l.preCheck s).test.transid ∨
        (requestTransid source (l.preCheck s).test.transid).hasCookie := by
      unfold requestTransid
      split
      · exact .inl rfl
      · exact .inr (transactionId_hasCookie source)
    have hput := (h.checked hs).put (u := withTransid (requestTransid source (l.preCheck s).test.transid) (l.preCheck s))
      (current_checked hs) hid (h.checked hs).others
    exact ⟨hput.cookies, hput.others⟩

/-- An accepted response, as the last step of the history. -/
theorem ProbeInv.effect (h : ProbeInv config history l) (hinv : LogicInv config l) (hs : l.current = some s) {spMsg : CBuffer}
    {addrRemote addrLocal : CSocketAddress} (heffect : Effect spMsg addrLocal s u) {after : CStunClientLogic}
    (hrun : (Proc.exec (CStunClientLogic.processResponse spMsg addrRemote addrLocal) l).1 = .ok ()) :
    ProbeInv config (⟨l, .processResponse spMsg addrRemote addrLocal, after⟩ :: history) (l.put u) := by
  have hmono : ProbeInv config (⟨l, .processResponse spMsg addrRemote addrLocal, after⟩ :: history) l :=
    ⟨h.cookies, h.others.mono _⟩
  obtain ⟨hconfig, hresults, -⟩ := current_eq_some.mp hs
  have hserver : s.config.addrServer = config.addrServer := by
    rw [hconfig, hinv.config_eq]
    rfl
  apply hmono.put hs (.inl heffect.sameTest.1.transid)
  by_cases hbasic : s.test.testClass = .basicBindingTest
  · cases heffect with
    | @binding reader addrMapped _ hreplies =>
      have hindex := (hinv.basic_iff hs).mp hbasic
      intro hhas
      unfold CBasicBindingTest.recordBinding CBasicBindingTest.recordOther at hhas ⊢
      cases hother : reader.getOtherAddress with
      | error hr =>
        rw [hother] at hhas
        cases hhas
      | ok addrOther =>
        refine ⟨addrOther, ⟨_, List.mem_cons_self, hindex, spMsg, addrRemote, addrLocal, reader, rfl, hrun, hreplies.1,
          hother⟩, rfl, ?_⟩
        rw [← hserver]
        rfl
    | behavior hclass => rw [hbasic] at hclass; cases hclass
    | filtering hclass => rw [hbasic] at hclass; cases hclass
  · have hothers : OthersNamed config _ s.results := hresults ▸ hmono.others
    exact hothers.same (sameOthers_effect heffect hbasic)

theorem ProbeInv.call (h : ProbeInv config history l) (hinv : LogicInv config l) (call : ClientCall) :
    ProbeInv config (⟨l, call, call.run l⟩ :: history) (call.run l) := by
  cases call with
  | getNextMessage source spMsg time =>
    have hkept : ProbeInv config history (ClientCall.run (.getNextMessage source spMsg time) l) := by
      rcases getNextMessage_cases source spMsg time hinv.initialized with ⟨-, hrun⟩ | ⟨-, outcome, after, hturns, hrun⟩
      · rw [ClientCall.run, hrun]
        exact h
      · obtain ⟨hafter, -⟩ := turns_invariant (I := ProbeInv config history) (fun _ hl => hl.turn source spMsg time)
          l.turnBound h
        rw [hturns] at hafter
        rw [ClientCall.run, hrun]
        exact hafter
    exact ⟨hkept.cookies, hkept.others.mono _⟩
  | processResponse spMsg addrRemote addrLocal =>
    rcases processResponse_cases spMsg addrRemote addrLocal l with ⟨hr, hrun⟩ | ⟨s, t, hs, -, heffect, hrun⟩
    · have hsame : ClientCall.run (.processResponse spMsg addrRemote addrLocal) l = l := by rw [ClientCall.run, hrun]
      rw [hsame]
      exact ⟨h.cookies, h.others.mono _⟩
    · have hafter : ClientCall.run (.processResponse spMsg addrRemote addrLocal) l = l.put t := by
        rw [ClientCall.run, hrun]
      rw [hafter]
      exact h.effect hinv hs heffect (by rw [hrun])

theorem Initialized.probeInv (h : Initialized config l) : ProbeInv config [] l := by
  obtain ⟨-, -, rfl⟩ := h.eq
  constructor
  · intro i transid hid
    obtain ⟨hvalid, test, htest, rfl⟩ := hid
    obtain ⟨testClass, -, rfl⟩ := List.mem_map.mp (List.mem_of_getElem? htest)
    exact absurd hvalid (show ¬ StunTransactionId.zero.isValid = true by decide)
  · intro hhas
    cases hhas

theorem run_probeInv (h : (client config).Run history l) : ProbeInv config history l := by
  induction h with
  | start init => exact init.probeInv
  | @step history l after call run step ih =>
    obtain rfl : after = call.run l := step
    exact ih.call (run_sentInv run).1 call

end Invariant

end NatTester.Client
