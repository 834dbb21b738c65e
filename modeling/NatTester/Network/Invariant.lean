import NatTester.Client.History
import NatTester.Network.System

/-!
# The invariant of the network

Every request that was sent, and every reply to one, belongs to the test whose
transaction id it carries; so a reply the client accepts tells of the mapping
for the address that test is about. The results record just these mappings.
-/
namespace NatTester.Network
open NatTester.Lib NatTester.Source NatTester.Wire NatTester.Handler NatTester.Client IStunClientTest CStunClientLogic
  CStunMessageReader CStunRequestHandler

/-- What the results say of the network. -/
structure NatFacts (server : StunServer) (nat : CSocketAddress → CSocketAddress) (addrLocal : CSocketAddress)
    (r : StunClientResults) : Prop where
  mapped : r.fBindingTestSuccess = true → r.addrMapped = nat (server.address .rolePP) ∧ r.addrLocal = addrLocal
  other : r.fHasOtherAddress = true → r.addrAP = server.address .roleAP ∧ r.addrAA = server.address .roleAA
  mappingAP : r.addrMappingAP.isIPAddressZero = false → r.addrMappingAP = nat (server.address .roleAP)
  behavior : r.behavior = .unknownBehavior ∨ r.behavior = server.natBehavior nat addrLocal

section Ids
variable {l t : CStunClientLogic} {s u : TestState}

theorem DistinctIds.position (h : DistinctIds l) {i j : Nat} {transid : StunTransactionId} (hi : HasId l i transid)
    (hj : HasId l j transid) : i = j := by
  obtain ⟨hvalid, a, ha, rfl⟩ := hi
  obtain ⟨-, b, hb, hsame⟩ := hj
  obtain ⟨hilt, rfl⟩ := List.getElem?_eq_some_iff.mp ha
  obtain ⟨hjlt, rfl⟩ := List.getElem?_eq_some_iff.mp hb
  have hdistinct := List.pairwise_iff_getElem.mp h
  rcases Nat.lt_trichotomy i j with hlt | heq | hgt
  · exact absurd hsame.symm (hdistinct i j hilt hjlt hlt hvalid)
  · exact heq
  · exact absurd hsame (hdistinct j i hjlt hilt hgt (hsame ▸ hvalid))

/-- Only the transaction ids matter. -/
theorem distinctIds_iff :
    DistinctIds l ↔ (l.testlist.map (·.transid)).Pairwise fun a b => a.isValid = true → a ≠ b := by
  rw [List.pairwise_map]
  rfl

theorem DistinctIds.put (h : DistinctIds l) (hs : l.current = some s) (hsame : u.test.transid = s.test.transid) :
    DistinctIds (l.put u) := by
  obtain ⟨-, -, htest⟩ := current_eq_some.mp hs
  have hids : (l.put u).testlist.map (·.transid) = l.testlist.map (·.transid) := by
    refine List.ext_getElem? fun i => ?_
    rw [CStunClientLogic.put, List.map_set, hsame, List.getElem?_set, List.length_map, List.getElem?_map]
    split
    · subst i
      rw [htest, if_pos (current_lt hs)]
      rfl
    · rfl
  rw [distinctIds_iff] at h ⊢
  rwa [hids]

end Ids

/-! ## A test and the mappings -/

section Facts
variable {server : StunServer} {nat : CSocketAddress → CSocketAddress} {addrLocal : CSocketAddress} {s t : TestState}

theorem natFacts_init : NatFacts server nat addrLocal StunClientResults.init := by
  refine ⟨fun h => Bool.noConfusion h, fun h => Bool.noConfusion h, fun hnonzero => ?_, .inl rfl⟩
  cases hnonzero

/-- The connection is direct exactly if the NAT maps the primary address to the local one. -/
theorem NatFacts.isDirect_iff (h : NatFacts server nat addrLocal s.results) (hinv : ResultsInv s.config s.results)
    (hbinding : s.results.fBindingTestSuccess = true) :
    s.results.fIsDirect = true ↔ nat (server.address .rolePP) = addrLocal := by
  obtain ⟨hmapped, hlocal⟩ := h.mapped hbinding
  rw [hinv.consistent.isDirect hbinding, CSocketAddress.isSameIP_and_Port_iff, hmapped, hlocal]
  exact eq_comm

theorem natFacts_preRunCheck (h : NatFacts server nat addrLocal s.results) (hinv : ResultsInv s.config s.results) :
    NatFacts server nat addrLocal (preRunCheck s).results := by
  unfold preRunCheck
  split
  · exact h
  · unfold CBehaviorTest.preRunCheck
    split
    · split
      case isTrue hdirect =>
        have hlocal := (h.isDirect_iff hinv hdirect.1).mp hdirect.2
        exact ⟨h.mapped, h.other, h.mappingAP, .inr (by rw [StunServer.natBehavior, if_pos hlocal]; rfl)⟩
      case isFalse => exact h
    · exact h
  · unfold CFilteringTest.preRunCheck
    split
    · split
      · exact ⟨h.mapped, h.other, h.mappingAP, h.behavior⟩
      · exact h
    · exact h

theorem natFacts_notifyTimeout (h : NatFacts server nat addrLocal s.results) :
    NatFacts server nat addrLocal (notifyTimeout s).results := by
  unfold notifyTimeout
  split
  · exact ⟨fun hfalse => Bool.noConfusion hfalse, h.other, h.mappingAP, h.behavior⟩
  · exact ⟨h.mapped, h.other, h.mappingAP, h.behavior⟩
  · unfold CFilteringTest.notifyTimeout
    split
    · exact ⟨h.mapped, h.other, h.mappingAP, h.behavior⟩
    · exact h

/-- What a test learns from a reply to its own request. -/
structure Learns (server : StunServer) (nat : CSocketAddress → CSocketAddress) (testClass : TestClass)
    (reader : CStunMessageReader) : Prop where
  mapped : mappedOf reader = .ok (nat (server.target testClass))
  other : testClass = .basicBindingTest → reader.getOtherAddress = .ok (server.address .roleAA)

theorem natFacts_binding (h : NatFacts server nat addrLocal s.results) (haddress : s.config.addrServer = server.addrPrimary)
    {reader : CStunMessageReader} {addrMapped : CSocketAddress} (hmapped : mappedOf reader = .ok addrMapped)
    (hlearns : Learns server nat .basicBindingTest reader) :
    NatFacts server nat addrLocal
      (CBasicBindingTest.recordBinding addrLocal addrMapped reader.getOtherAddress s).results := by
  obtain rfl : addrMapped = nat (server.address .rolePP) := Except.ok.inj (hmapped.symm.trans hlearns.mapped)
  rw [hlearns.other rfl]
  refine ⟨fun _ => ⟨rfl, rfl⟩, fun _ => ⟨?_, rfl⟩, h.mappingAP, h.behavior⟩
  change (server.address .roleAA).setPort s.config.addrServer.getPort = _
  rw [haddress]
  rfl

/-- The two mappings behavior test 2 compares, and those behavior test 3 compares, decide the verdict. -/
theorem natFacts_behavior (h : NatFacts server nat addrLocal s.results) (hinv : ResultsInv s.config s.results)
    {fIsTest3 : Bool} (hclass : s.test.testClass = .behaviorTest fIsTest3) (hready : isReadyToRun s = true)
    (hdirect : s.results.fIsDirect = false) :
    NatFacts server nat addrLocal
      (CBehaviorTest.recordMapping fIsTest3 (nat (server.target (.behaviorTest fIsTest3))) s).results := by
  have hflags : s.results.fBindingTestSuccess = true ∧ s.results.fBehaviorTestSuccess = false := by
    simp only [isReadyToRun, hclass, CBehaviorTest.isReadyToRun] at hready
    cases fIsTest3 <;> simp_all
  obtain ⟨hbinding, hundecided⟩ := hflags
  obtain ⟨hmapped, -⟩ := h.mapped hbinding
  have hindirect : nat (server.address .rolePP) ≠ addrLocal := fun hlocal => by
    rw [(h.isDirect_iff hinv hbinding).mpr hlocal] at hdirect
    cases hdirect
  cases fIsTest3 with
  | true =>
    have hnonzero : s.results.addrMappingAP.isIPAddressZero = false := by
      simp only [isReadyToRun, hclass, CBehaviorTest.isReadyToRun, if_true, Bool.and_eq_true, Bool.not_eq_true'] at hready
      exact hready.2
    have hAP := h.mappingAP hnonzero
    have hdiffers := hinv.mapping hundecided hnonzero
    rw [← Bool.not_eq_true, CSocketAddress.isSameIP_and_Port_iff, hAP, hmapped] at hdiffers
    change NatFacts server nat addrLocal (CBehaviorTest.recordMapping true (nat (server.address .roleAA)) s).results
    rw [CBehaviorTest.recordMapping, if_pos rfl]
    refine ⟨h.mapped, h.other, h.mappingAP, .inr ?_⟩
    change (if (nat (server.address .roleAA)).isSameIP_and_Port s.results.addrMappingAP = true then _ else _) = _
    rw [StunServer.natBehavior, if_neg hindirect, if_neg hdiffers, hAP]
    simp only [CSocketAddress.isSameIP_and_Port_iff]
  | false =>
    change NatFacts server nat addrLocal (CBehaviorTest.recordMapping false (nat (server.address .roleAP)) s).results
    rw [CBehaviorTest.recordMapping, if_neg Bool.false_ne_true]
    by_cases hsame : (nat (server.address .roleAP)).isSameIP_and_Port s.results.addrMapped = true
    · rw [if_pos hsame]
      rw [CSocketAddress.isSameIP_and_Port_iff, hmapped] at hsame
      refine ⟨h.mapped, h.other, fun _ => rfl, .inr ?_⟩
      rw [StunServer.natBehavior, if_neg hindirect, if_pos hsame]
      rfl
    · rw [if_neg hsame]
      exact ⟨h.mapped, h.other, fun _ => rfl, h.behavior⟩

/-- A reply to the test's own request keeps the facts. -/
theorem natFacts_effect [Platform] {spMsg : CBuffer} (h : NatFacts server nat addrLocal s.results)
    (hinv : ResultsInv s.config s.results) (haddress : s.config.addrServer = server.addrPrimary)
    (heffect : Effect spMsg addrLocal s t)
    (hlearns : ∀ reader, RepliesTo s.test spMsg reader → Learns server nat s.test.testClass reader)
    (hready : ∀ fIsTest3, s.test.testClass = .behaviorTest fIsTest3 →
      isReadyToRun s = true ∧ s.results.fIsDirect = false) : NatFacts server nat addrLocal t.results := by
  cases heffect with
  | binding hclass hreplies hmapped =>
    have hlearned := hlearns _ hreplies
    rw [hclass] at hlearned
    exact natFacts_binding h haddress hmapped hlearned
  | behavior hclass hreplies hmapped =>
    have hlearned := hlearns _ hreplies
    rw [hclass] at hlearned
    obtain rfl := Except.ok.inj (hlearned.mapped.symm.trans hmapped)
    exact natFacts_behavior h hinv hclass (hready _ hclass).1 (hready _ hclass).2
  | filtering =>
    unfold CFilteringTest.recordReply
    split <;> exact ⟨h.mapped, h.other, h.mappingAP, h.behavior⟩

/-- A test that is ready sends to the address it is about. -/
theorem destination_eq (h : NatFacts server nat addrLocal s.results) (haddress : s.config.addrServer = server.addrPrimary)
    (hready : isReadyToRun s = true) : destination s = server.target s.test.testClass := by
  unfold destination StunServer.target
  cases hclass : s.test.testClass with
  | basicBindingTest => exact haddress
  | behaviorTest fIsTest3 =>
    have hother : s.results.fHasOtherAddress = true := by
      simp only [isReadyToRun, hclass, CBehaviorTest.isReadyToRun] at hready
      cases fIsTest3 <;> simp_all
    obtain ⟨hAP, hAA⟩ := h.other hother
    cases fIsTest3 with
    | true => exact hAA
    | false => exact hAP
  | filteringTest fIsTest3 => exact haddress

end Facts

/-! ## The client between two messages -/

section Turns
variable {server : StunServer} {nat : CSocketAddress → CSocketAddress} {addrLocal : CSocketAddress}
  {config : StunClientLogicConfig} {l : CStunClientLogic} {s : TestState}

theorem natFacts_checked (h : NatFacts server nat addrLocal l.results) (hinv : LogicInv config l)
    (hs : l.current = some s) : NatFacts server nat addrLocal (l.preCheck s).results := by
  obtain ⟨hconfig, hresults, -⟩ := current_eq_some.mp hs
  rw [← hresults] at h
  unfold preCheck
  split
  · exact natFacts_preRunCheck h (by rw [hconfig, hresults]; exact hinv.results)
  · exact h

/-- The turns of the loop change neither the facts nor a transaction id. -/
theorem turn_keeps [Platform] (source : RandomSource) (spMsg : CBuffer) (time : UInt32)
    (h : NatFacts server nat addrLocal l.results) (hinv : LogicInv config l) :
    NatFacts server nat addrLocal (l.turn source spMsg time).2.results ∧
      KeepsIds l (l.turn source spMsg time).2 := by
  refine ⟨?_, turn_keepsIds source spMsg time l⟩
  have htaken := turn_taken source spMsg time l
  generalize l.turn source spMsg time = result at htaken
  cases htaken with
  | finished => exact h
  | skipped hs _ => exact natFacts_checked h hinv hs
  | waited hs _ => exact natFacts_checked h hinv hs
  | timedOut hs _ => exact natFacts_notifyTimeout (natFacts_checked h hinv hs)
  | sent hs _ => exact natFacts_checked h hinv hs

end Turns

/-! ## Messages in flight -/

/-- The request is one a test has sent. -/
def SentBy (server : StunServer) (config : StunClientLogicConfig) (l : CStunClientLogic) (request : Datagram) : Prop :=
  ∃ i testClass transid, (testClasses config)[i]? = some testClass ∧ HasId l i transid ∧
    request = ⟨requestBytes transid (requestedChange testClass), server.target testClass⟩

section Messages
variable [Platform] {server : StunServer} {nat : CSocketAddress → CSocketAddress} {config : StunClientLogicConfig}
  {l t : CStunClientLogic} {request : Datagram} {reply : Bytes}

/-- The reply answers a request of a test. -/
def AnswersTo (server : StunServer) (nat : CSocketAddress → CSocketAddress) (config : StunClientLogicConfig)
    (l : CStunClientLogic) (reply : Bytes) : Prop :=
  ∃ i testClass transid, (testClasses config)[i]? = some testClass ∧ HasId l i transid ∧
    (addBytes reply CStunMessageReader.new).2.getTransactionId = transid ∧
    Learns server nat testClass (addBytes reply CStunMessageReader.new).2

omit [Platform] in
theorem SentBy.keeps (h : SentBy server config l request) (hkeeps : KeepsIds l t) : SentBy server config t request := by
  obtain ⟨i, testClass, transid, hclass, hid, hrequest⟩ := h
  exact ⟨i, testClass, transid, hclass, hkeeps i transid hid, hrequest⟩

theorem AnswersTo.keeps (h : AnswersTo server nat config l reply) (hkeeps : KeepsIds l t) :
    AnswersTo server nat config t reply := by
  obtain ⟨i, testClass, transid, hclass, hid, hreply⟩ := h
  exact ⟨i, testClass, transid, hclass, hkeeps i transid hid, hreply⟩

/-- The message that leaves with a turn of the loop is sent by the current test. -/
theorem sentBy_turn {addrLocal : CSocketAddress} {source : RandomSource} {spMsg : CBuffer} {time : UInt32}
    {outgoing : Outgoing} {last after : CStunClientLogic} (h : NatFacts server nat addrLocal last.results)
    (hinv : LogicInv config last) (haddress : config.addrServer = server.addrPrimary)
    (hroom : MAX_STUN_MESSAGE_SIZE ≤ spMsg.allocatedSize)
    (hturn : last.turn source spMsg time = (.leave (.ok outgoing), after)) :
    SentBy server config after ⟨outgoing.spMsg.contents, outgoing.addrDest⟩ := by
  have htaken := turn_taken source spMsg time last
  rw [hturn] at htaken
  cases htaken with
  | @sent s hs hready =>
    obtain ⟨hconfig, -, -⟩ := current_eq_some.mp (current_checked hs)
    have hserver : (last.preCheck s).config.addrServer = server.addrPrimary := by
      rw [hconfig, (hinv.checked hs).config_eq]
      exact haddress
    have hat := current_afterSend source time hs
    obtain ⟨-, -, htest⟩ := current_eq_some.mp hat
    refine ⟨_, (last.preCheck s).test.testClass, requestTransid source (last.preCheck s).test.transid,
      (hinv.checked hs).class_at (current_checked hs), ⟨requestTransid_isValid .., _, htest, rfl⟩, ?_⟩
    rw [writtenTo_contents source hroom, destination_eq (natFacts_checked h hinv hs) hserver hready]

variable [Digests]

/-- What the server makes of a request of a test answers it. -/
theorem answersTo_serve (h : SentBy server config l request) {msgIn : StunMessageIn} {msgOut out : StunMessageOut}
    (hreceives : Receives server nat request msgIn)
    (hrun : Proc.exec (processRequest msgIn server.addressSet none) msgOut = (.ok (), out)) :
    AnswersTo server nat config l out.spBufferOut.contents := by
  obtain ⟨i, testClass, transid, hclass, hid, rfl⟩ := h
  obtain ⟨hrole, hsource, hudp, cap, r₀, h₀, hallow, hreader⟩ := hreceives
  obtain ⟨-, hread⟩ := read_requestBytes transid (requestedChange testClass) h₀ (.inr hallow)
  rw [← hreader] at hread
  have hplain : PlainRequest msgIn server.addressSet :=
    ⟨hread.state, hread.type, hread.msgClass, hread.responsePort, hudp, fun role => ⟨rfl, server.address_nonzero role⟩⟩
  obtain ⟨-, -, integrity, hanswer⟩ := processRequest_plain hplain hrun
  refine ⟨i, testClass, transid, hclass, hid, hanswer.transid.trans hread.transid_eq, ?_, fun hbasic => ?_⟩
  · rw [mappedOf, hanswer.xorMapped, hsource]
  · subst hbasic
    rw [hanswer.other _ rfl]
    exact congrArg Except.ok (StunServer.address_other hrole)

end Messages

/-! ## The runs of the network -/

structure NetworkInv [Platform] (server : StunServer) (nat : CSocketAddress → CSocketAddress)
    (addrLocal : CSocketAddress) (config : StunClientLogicConfig) (s : NetworkState) : Prop where
  logic : LogicInv config s.client
  settled : Settled s.client
  facts : NatFacts server nat addrLocal s.client.results
  distinct : DistinctIds s.client
  requests : ∀ request ∈ s.requests, SentBy server config s.client request
  replies : ∀ reply ∈ s.replies, AnswersTo server nat config s.client reply

section Runs
variable [Platform] {server : StunServer} {nat : CSocketAddress → CSocketAddress} {addrLocal : CSocketAddress}
  {config : StunClientLogicConfig} {s : NetworkState}

/-- A call of `GetNextMessage`. -/
theorem NetworkInv.next (h : NetworkInv server nat addrLocal config s) (haddress : config.addrServer = server.addrPrimary)
    {source : RandomSource} {spMsg : CBuffer} {time : UInt32} {outcome : Except HRESULT Outgoing}
    {after : CStunClientLogic}
    (hrun : Proc.exec (CStunClientLogic.getNextMessage source spMsg time) s.client = (outcome, after))
    (hdistinct : DistinctIds after) :
    NetworkInv server nat addrLocal config ⟨after, departing outcome ++ s.requests, s.replies⟩ := by
  obtain ⟨hlogic, hsettled⟩ := call_inv h.logic h.settled (.getNextMessage source spMsg time)
  rw [ClientCall.run, hrun] at hlogic hsettled
  have hkept : (NatFacts server nat addrLocal after.results ∧ KeepsIds s.client after) ∧
      ∀ request ∈ departing outcome, SentBy server config after request := by
    rcases getNextMessage_cases source spMsg time h.logic.initialized with
      ⟨-, hfail⟩ | ⟨hroom, result, last, hturns, hdone⟩
    · rw [hrun] at hfail
      cases hfail
      exact ⟨⟨h.facts, .refl _⟩, List.forall_mem_nil _⟩
    · rw [hrun] at hdone
      cases hdone
      obtain ⟨⟨-, hfacts, hkeeps⟩, hleft⟩ := turns_invariant
        (I := fun l => LogicInv config l ∧ NatFacts server nat addrLocal l.results ∧ KeepsIds s.client l)
        (fun l hl => ⟨hl.1.turn source spMsg time, (turn_keeps source spMsg time hl.2.1 hl.1).1,
          hl.2.2.trans (turn_keeps source spMsg time hl.2.1 hl.1).2⟩)
        s.client.turnBound ⟨h.logic, h.facts, .refl _⟩
      rw [hturns] at hfacts hkeeps hleft
      refine ⟨⟨hfacts, hkeeps⟩, fun request hrequest => ?_⟩
      obtain ⟨before, ⟨hinv, hbefore, -⟩, hleave⟩ := hleft _ rfl
      cases outcome with
      | error hr => cases hrequest
      | ok outgoing =>
        rw [List.mem_singleton.mp hrequest]
        exact sentBy_turn hbefore hinv haddress hroom hleave
  refine ⟨hlogic, hsettled, hkept.1.1, hdistinct, fun request hrequest => ?_, fun reply hreply => ?_⟩
  · rcases List.mem_append.mp hrequest with hnew | hold
    · exact hkept.2 request hnew
    · exact (h.requests request hold).keeps hkept.1.2
  · exact (h.replies reply hreply).keeps hkept.1.2

/-- The current test takes a reply only to its own request. -/
theorem NetworkInv.learns (h : NetworkInv server nat addrLocal config s) {reply : Bytes} (hreply : reply ∈ s.replies)
    {spMsg : CBuffer} (hcontents : spMsg.contents = reply) {u : TestState} (hu : s.client.current = some u)
    {reader : CStunMessageReader} (hreplies : RepliesTo u.test spMsg reader) :
    Learns server nat u.test.testClass reader := by
  obtain ⟨i, testClass, transid, hclass, hid, htransid, hlearns⟩ := h.replies reply hreply
  obtain ⟨hread, hown⟩ := hreplies
  rw [← hcontents, hread] at htransid hlearns
  obtain ⟨-, -, htest⟩ := current_eq_some.mp hu
  have hsame : u.test.transid = transid := hown.symm.trans htransid
  have hposition := h.distinct.position ⟨hid.1, _, htest, hsame⟩ hid
  have hat := h.logic.class_at hu
  rw [hposition, hclass] at hat
  rw [← Option.some.inj hat]
  exact hlearns

/-- A call of `ProcessResponse` with a reply of the server. -/
theorem NetworkInv.deliver (h : NetworkInv server nat addrLocal config s)
    (haddress : config.addrServer = server.addrPrimary) {reply : Bytes} (hreply : reply ∈ s.replies) {spMsg : CBuffer}
    (hcontents : spMsg.contents = reply) (addrRemote : CSocketAddress) :
    NetworkInv server nat addrLocal config
      ⟨(Proc.exec (CStunClientLogic.processResponse spMsg addrRemote addrLocal) s.client).2, s.requests, s.replies⟩ := by
  obtain ⟨hlogic, hsettled⟩ := call_inv h.logic h.settled (.processResponse spMsg addrRemote addrLocal)
  rw [ClientCall.run] at hlogic hsettled
  rcases processResponse_cases spMsg addrRemote addrLocal s.client with
    ⟨hr, hrun⟩ | ⟨u, t, hu, hopen, heffect, hrun⟩
  · rw [hrun]
    exact h
  · rw [hrun] at hlogic hsettled ⊢
    obtain ⟨hconfig, hresults, -⟩ := current_eq_some.mp hu
    have hserver : u.config.addrServer = server.addrPrimary := by
      rw [hconfig, h.logic.config_eq]
      exact haddress
    have hready : ∀ fIsTest3, u.test.testClass = .behaviorTest fIsTest3 →
        isReadyToRun u = true ∧ u.results.fIsDirect = false := by
      intro fIsTest3 hclass
      have hlater : s.client.nTestIndex ≠ 0 := fun hzero => by
        rw [(h.logic.basic_iff hu).mpr hzero] at hclass
        cases hclass
      obtain ⟨hcheck, hready⟩ := ((h.settled u hu).resolve_left hlater).resolve_left (by simp [hopen])
      exact ⟨hready, h.logic.not_direct hu hclass hcheck hready⟩
    have hfacts := natFacts_effect (by rw [hresults]; exact h.facts) (by rw [hconfig, hresults]; exact h.logic.results)
      hserver heffect (fun reader hreplies => h.learns hreply hcontents hu hreplies) hready
    have hkeeps := keepsIds_put hu (u := t) fun _ => heffect.sameTest.1.transid
    exact ⟨hlogic, hsettled, hfacts, h.distinct.put hu heffect.sameTest.1.transid,
      fun request hrequest => (h.requests request hrequest).keeps hkeeps,
      fun reply hreply => (h.replies reply hreply).keeps hkeeps⟩

theorem network_init (hinit : Initialized config s.client) (hrequests : s.requests = []) (hreplies : s.replies = []) :
    NetworkInv server nat addrLocal config s := by
  obtain ⟨hlogic, hsettled⟩ := hinit.inv
  obtain ⟨-, -, heq⟩ := hinit.eq
  refine ⟨hlogic, hsettled, ?_, ?_, by simp [hrequests], by simp [hreplies]⟩
  · rw [heq]
    exact natFacts_init
  · rw [heq]
    refine List.pairwise_map.mpr (List.pairwise_of_forall fun _ _ hvalid => ?_)
    cases hvalid

variable [Digests]

theorem network_inv (haddress : config.addrServer = server.addrPrimary)
    (h : (network server nat addrLocal config).Reachable s) : NetworkInv server nat addrLocal config s := by
  refine h.invariant (I := NetworkInv server nat addrLocal config)
    (fun _ hinit => network_init hinit.1 hinit.2.1 hinit.2.2) ?_
  rintro s event t hinv hstep
  cases hstep with
  | next hrun hdistinct => exact hinv.next haddress hrun hdistinct
  | serve hsent hreceives hrun =>
    refine ⟨hinv.logic, hinv.settled, hinv.facts, hinv.distinct, hinv.requests, fun reply hreply => ?_⟩
    rcases List.mem_cons.mp hreply with rfl | hold
    · exact answersTo_serve (hinv.requests _ hsent) hreceives hrun
    · exact hinv.replies reply hold
  | deliver hsent hcontents => exact hinv.deliver haddress hsent hcontents _

end Runs

end NatTester.Network
