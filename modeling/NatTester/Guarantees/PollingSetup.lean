import NatTester.Source.PollingFactory

/-!
# The set-up of a polling instance

The object factory hands out what `Initialize` succeeds with, and releases what it fails
with. `CEpoll::Initialize` closes its descriptor where something fails, and returns
`S_OK` all the same; `CPoll::Initialize` does not look at the result of `InitTable`. So
the factory hands out instances that are not usable.
-/
namespace NatTester.Guarantees
open NatTester.Lib NatTester.Source

/-- An open descriptor with room for events, or a table that takes sockets; and one reference, the caller's. -/
def Usable : PollingInstance → Prop
  | .epoll p =>
    p.nRefs = 1 ∧ (∃ fd, p.object.epollfd = some fd ∧ .opened fd ∈ p.effects ∧ .closed fd ∉ p.effects) ∧
      p.object.events = some p.object.sizeEvents ∧ 0 < p.object.sizeEvents
  | .poll p =>
    p.nRefs = 1 ∧ p.object.fInitialized = true ∧ p.object.hashtable.Stores [] ∧ 0 < p.object.hashtable.fsize ∧
      0 < p.object.hashtable.tsize

/-- A failure leaves nothing behind. -/
structure CleanedUp (made : Created PollingInstance) : Prop where
  failed : SUCCEEDED made.hr = false
  unset : made.ppI = none
  closed : ∀ fd, .opened fd ∈ made.effects → made.effects.count (.closed fd) = 1
  released : made.effects.count .released = 1

section Setup

variable (hasEpoll : Bool) (answers : SetupAnswers) (type : UInt32) (maxSockets : Nat)

/-- There is an instance, and a step of its set-up fails. -/
def SetupFails : Prop :=
  answers.allocated = true ∧
    (pollingType hasEpoll type = IPOLLING_TYPE_EPOLL ∧ hasEpoll = true ∧
        ((∃ errno, answers.epollCreate = .error errno) ∨ answers.eventsAllocated = false) ∨
      pollingType hasEpoll type = IPOLLING_TYPE_POLL ∧ (maxSockets = 0 ∨ answers.arrays = none))

/-- Success is that of a usable instance, and a failed set-up is reported and cleaned up. -/
structure ReportsSetup (made : Created PollingInstance) : Prop where
  usable : SUCCEEDED made.hr = true → ∃ polling, made.ppI = some polling ∧ Usable polling
  reported : SetupFails hasEpoll answers type maxSockets → CleanedUp made

/-- If there is an instance, everything it needs is there. -/
def SetupSucceeds : Prop :=
  answers.allocated = true →
    (pollingType hasEpoll type = IPOLLING_TYPE_EPOLL → hasEpoll = true →
        (∃ fd, answers.epollCreate = .ok fd) ∧ answers.eventsAllocated = true ∧ 0 < maxSockets) ∧
      (pollingType hasEpoll type = IPOLLING_TYPE_POLL → 0 < maxSockets ∧ answers.arrays.isSome = true)

end Setup

/-- The factory cleans up after an `Initialize` that closes what it opened and reports its failure. -/
theorem createInstance_cleanedUp {T : Type} {cls : RefCountedClass T} {hr : HRESULT} {p : Instance T}
    (wrap : Instance T → PollingInstance) (hinit : cls.initializeInstance ⟨cls.new, 1, []⟩ = (hr, p))
    (hfailed : SUCCEEDED hr = false) (hrefs : p.nRefs = 1)
    (hclosed : ∀ fd, .opened fd ∈ p.effects → p.effects.count (.closed fd) = 1) (hreleased : .released ∉ p.effects)
    (hdestroy : ∀ q : Instance T, q.object = p.object → (cls.destroy q).effects = q.effects) :
    CleanedUp ((cls.createInstance true).map wrap) := by
  have heffects : ((cls.createInstance true).map wrap).effects = p.effects ++ [.released, .deleted] := by
    rw [createInstance_failed hinit hfailed hrefs]
    simp only [Created.map, Instance.record]
    rw [hdestroy ⟨p.object, 0, p.effects ++ [Effect.released]⟩ rfl, List.append_assoc]
    rfl
  refine ⟨?_, ?_, fun fd hopened => ?_, ?_⟩
  · rw [createInstance_failed hinit hfailed hrefs]
    exact hfailed
  · rw [createInstance_failed hinit hfailed hrefs]
    rfl
  · rw [heffects] at hopened ⊢
    have hbefore : .opened fd ∈ p.effects := by simpa using hopened
    rw [List.count_append, hclosed fd hbefore]
    simp
  · rw [heffects, List.count_append, List.count_eq_zero.mpr hreleased]
    decide

/-! ## What the classes make -/

/-- The bits that `ERRNO_TO_HRESULT` sets make the code negative. -/
theorem ERRNOHR_failed (errno : Int) : FAILED (ERRNOHR errno) = true := by
  have hconvert : ∀ err : Int, ERRNO_TO_HRESULT err < 0 := by
    intro err
    have hlow : 0x88000000 ≤ 0x88000000 ||| (err % 0x100000000).toNat := Nat.left_le_or
    have hhigh : 0x88000000 ||| (err % 0x100000000).toNat < 2 ^ 32 := Nat.or_lt_two_pow (by decide) (by omega)
    unfold ERRNO_TO_HRESULT hresult
    rw [if_neg (by omega)]
    exact Int.sub_neg_of_lt (by exact_mod_cast hhigh)
  exact decide_eq_true (hconvert _)

section Epoll

variable {answers : SetupAnswers} {maxSockets : Nat}

theorem initializeEpoll_error (answers : SetupAnswers) (maxSockets : Nat) {errno : Int} (h : answers.epollCreate = .error errno) :
    CEpoll.initializeEpoll answers maxSockets ⟨CEpoll.new, 1, []⟩ = (S_OK, ⟨CEpoll.new, 1, []⟩) := by
  have hopen : Proc.exec (CEpoll.openEvents answers maxSockets) ⟨CEpoll.new, 1, []⟩ =
      (.error (ERRNOHR errno), ⟨CEpoll.new, 1, []⟩) := by
    rw [CEpoll.openEvents, h]
    rfl
  rw [CEpoll.initializeEpoll, hopen]
  simp only [hrOf, ERRNOHR_failed, if_true]
  rfl

theorem initializeEpoll_noEvents {fd : Nat} (h : answers.epollCreate = .ok fd) (hevents : answers.eventsAllocated = false) :
    CEpoll.initializeEpoll answers maxSockets ⟨CEpoll.new, 1, []⟩ =
      (S_OK, ⟨CEpoll.new, 1, [.opened fd, .closed fd]⟩) := by
  rw [CEpoll.initializeEpoll, CEpoll.openEvents, h, hevents]
  rfl

theorem initializeEpoll_ok {fd : Nat} (h : answers.epollCreate = .ok fd) (hevents : answers.eventsAllocated = true) :
    CEpoll.initializeEpoll answers maxSockets ⟨CEpoll.new, 1, []⟩ =
      (S_OK, ⟨⟨some fd, some maxSockets, maxSockets, 0, 0⟩, 1, [.opened fd]⟩) := by
  rw [CEpoll.initializeEpoll, CEpoll.openEvents, h, hevents]
  rfl

end Epoll

section Made

variable {hasEpoll : Bool} {answers : SetupAnswers} {type : UInt32} {maxSockets : Nat}

theorem made_epoll (htype : pollingType hasEpoll type = IPOLLING_TYPE_EPOLL) (hepoll : hasEpoll = true) :
    createPollingInstance hasEpoll answers type maxSockets =
      ((CEpoll.cls answers maxSockets).createInstance answers.allocated).map .epoll := by
  rw [createPollingInstance, htype, hepoll]
  rfl

theorem made_poll (htype : pollingType hasEpoll type = IPOLLING_TYPE_POLL) :
    createPollingInstance hasEpoll answers type maxSockets =
      ((CPoll.cls answers maxSockets).createInstance answers.allocated).map .poll := by
  rw [createPollingInstance, htype]
  rfl

/-- Any other type is a failure. -/
theorem made_none (hepoll : ¬(pollingType hasEpoll type = IPOLLING_TYPE_EPOLL ∧ hasEpoll = true))
    (hpoll : pollingType hasEpoll type ≠ IPOLLING_TYPE_POLL) :
    createPollingInstance hasEpoll answers type maxSockets = ⟨E_FAIL, none, []⟩ := by
  rw [createPollingInstance]
  by_cases htype : pollingType hasEpoll type = IPOLLING_TYPE_EPOLL
  · have hmissing : hasEpoll = false := by simpa using fun h => hepoll ⟨htype, h⟩
    rw [htype, hmissing]
    rfl
  · simp only [htype, hpoll, if_false]

/-- What is handed out as a success is usable. -/
theorem ReportsSetup.usable_of_ok {hr : HRESULT} {polling : PollingInstance} {effects : List Effect}
    (hreports : ReportsSetup hasEpoll answers type maxSockets ⟨hr, some polling, effects⟩) (hok : SUCCEEDED hr = true) :
    Usable polling := by
  obtain ⟨polling', hpolling, husable⟩ := hreports.usable hok
  obtain rfl := Option.some.inj hpolling
  exact husable

theorem not_usable_of_closed {p : Instance CEpoll} (h : p.object.epollfd = none) : ¬Usable (.epoll p) := by
  rintro ⟨-, ⟨fd, hfd, -⟩, -⟩
  rw [h] at hfd
  cases hfd

theorem reportsSetup_epoll (htype : pollingType hasEpoll type = IPOLLING_TYPE_EPOLL) (hepoll : hasEpoll = true)
    (hallocated : answers.allocated = true) :
    ReportsSetup hasEpoll answers type maxSockets (createPollingInstance hasEpoll answers type maxSockets) ↔
      (∃ fd, answers.epollCreate = .ok fd) ∧ answers.eventsAllocated = true ∧ 0 < maxSockets := by
  rw [made_epoll htype hepoll, hallocated]
  cases hcreate : answers.epollCreate with
  | error errno =>
    rw [createInstance_ok (initializeEpoll_error _ _ hcreate) rfl]
    constructor
    · exact fun hreports => absurd (hreports.usable_of_ok rfl) (not_usable_of_closed rfl)
    · rintro ⟨⟨fd, hfd⟩, -⟩
      cases hfd
  | ok fd =>
    cases hevents : answers.eventsAllocated with
    | false =>
      rw [createInstance_ok (initializeEpoll_noEvents hcreate hevents) rfl]
      constructor
      · exact fun hreports => absurd (hreports.usable_of_ok rfl) (not_usable_of_closed rfl)
      · rintro ⟨-, hfalse, -⟩
        cases hfalse
    | true =>
      rw [createInstance_ok (initializeEpoll_ok hcreate hevents) rfl]
      constructor
      · intro hreports
        have husable := hreports.usable_of_ok rfl
        exact ⟨⟨fd, rfl⟩, rfl, husable.2.2.2⟩
      · rintro ⟨-, -, hpos⟩
        refine ⟨fun _ => ⟨_, rfl, rfl, ⟨fd, rfl, List.mem_singleton.mpr rfl, ?_⟩, rfl, hpos⟩, ?_⟩
        · simp
        · rintro ⟨-, ⟨-, -, ⟨errno, herrno⟩ | hfalse⟩ | ⟨hpoll, -⟩⟩
          · rw [hcreate] at herrno
            cases herrno
          · rw [hevents] at hfalse
            cases hfalse
          · rw [htype] at hpoll
            exact absurd hpoll (by decide)

/-- The table takes sockets exactly if it has a capacity and memory. -/
theorem initHashtable_usable (arrays : Option (FastHashArrays Int32 Nat)) (maxSockets : Nat) :
    (CPoll.initHashtable arrays maxSockets FastHashBase.empty).2.Stores [] ∧
          0 < (CPoll.initHashtable arrays maxSockets FastHashBase.empty).2.fsize ∧
        0 < (CPoll.initHashtable arrays maxSockets FastHashBase.empty).2.tsize ↔
      0 < maxSockets ∧ arrays.isSome = true := by
  constructor
  · intro h
    have hwidth := (CPoll.initHashtable_width arrays maxSockets FastHashBase.empty).mp h.2.2
    exact hwidth.resolve_right fun hzero => Nat.lt_irrefl 0 hzero.2
  · intro h
    obtain ⟨found, rfl⟩ := Option.isSome_iff_exists.mp h.2
    obtain ⟨hstores, hfsize, htsize⟩ := FastHashBase.initTable_stores (FastHashBase.empty (K := Int32) (V := Nat)) found h.1
    exact ⟨hstores, by rw [CPoll.initHashtable, hfsize]; exact h.1, htsize⟩

theorem reportsSetup_poll (htype : pollingType hasEpoll type = IPOLLING_TYPE_POLL) (hallocated : answers.allocated = true) :
    ReportsSetup hasEpoll answers type maxSockets (createPollingInstance hasEpoll answers type maxSockets) ↔
      0 < maxSockets ∧ answers.arrays.isSome = true := by
  have hinit : (CPoll.cls answers maxSockets).initializeInstance ⟨CPoll.new, 1, []⟩ = (S_OK, _) := rfl
  rw [made_poll htype, hallocated, createInstance_ok hinit rfl, ← initHashtable_usable]
  constructor
  · intro hreports
    have husable := hreports.usable_of_ok rfl
    exact husable.2.2
  · intro husable
    refine ⟨fun _ => ⟨_, rfl, rfl, rfl, husable⟩, ?_⟩
    rintro ⟨-, ⟨hepoll, -⟩ | ⟨-, hmissing⟩⟩
    · rw [htype] at hepoll
      exact absurd hepoll (by decide)
    · obtain ⟨hpos, harrays⟩ := (initHashtable_usable answers.arrays maxSockets).mp husable
      rcases hmissing with hzero | hnone
      · omega
      · rw [hnone] at harrays
        cases harrays

end Made

/-- A failure in front of the set-up hands out nothing. -/
theorem reportsSetup_refused {hasEpoll : Bool} {answers : SetupAnswers} {type : UInt32} {maxSockets : Nat} {hr : HRESULT}
    (hfailed : SUCCEEDED hr = false) (hnone : ¬SetupFails hasEpoll answers type maxSockets) :
    ReportsSetup hasEpoll answers type maxSockets ⟨hr, none, []⟩ :=
  ⟨fun hok => absurd (hfailed.symm.trans hok) (by decide), fun hfails => absurd hfails hnone⟩

/-- **A set-up is reported as it went exactly if nothing an instance needs is missing.** -/
theorem reports_setup_iff (hasEpoll : Bool) (answers : SetupAnswers) (type : UInt32) (maxSockets : Nat) :
    ReportsSetup hasEpoll answers type maxSockets (createPollingInstance hasEpoll answers type maxSockets) ↔
      SetupSucceeds hasEpoll answers type maxSockets := by
  have hdistinct : IPOLLING_TYPE_EPOLL ≠ IPOLLING_TYPE_POLL := by decide
  have hnull : answers.allocated = false →
      (ReportsSetup hasEpoll answers type maxSockets ⟨E_OUTOFMEMORY, none, []⟩ ↔
        SetupSucceeds hasEpoll answers type maxSockets) := by
    intro hallocated
    refine iff_of_true (reportsSetup_refused rfl fun hfails => ?_) fun hsome => ?_
    · exact absurd (hallocated.symm.trans hfails.1) (by decide)
    · exact absurd (hallocated.symm.trans hsome) (by decide)
  by_cases hepoll : pollingType hasEpoll type = IPOLLING_TYPE_EPOLL ∧ hasEpoll = true
  · cases hallocated : answers.allocated with
    | false =>
      rw [made_epoll hepoll.1 hepoll.2, hallocated]
      exact hnull hallocated
    | true =>
      rw [reportsSetup_epoll hepoll.1 hepoll.2 hallocated]
      constructor
      · exact fun hneeds _ => ⟨fun _ _ => hneeds, fun hpoll => absurd (hepoll.1.symm.trans hpoll) hdistinct⟩
      · exact fun hneeds => (hneeds hallocated).1 hepoll.1 hepoll.2
  · by_cases hpoll : pollingType hasEpoll type = IPOLLING_TYPE_POLL
    · cases hallocated : answers.allocated with
      | false =>
        rw [made_poll hpoll, hallocated]
        exact hnull hallocated
      | true =>
        rw [reportsSetup_poll hpoll hallocated]
        constructor
        · exact fun hneeds _ => ⟨fun htype => absurd (htype.symm.trans hpoll) hdistinct, fun _ => hneeds⟩
        · exact fun hneeds => (hneeds hallocated).2 hpoll
    · rw [made_none hepoll hpoll]
      refine iff_of_true (reportsSetup_refused rfl ?_) fun _ => ⟨fun htype hhas => ?_, fun htype => absurd htype hpoll⟩
      · rintro ⟨-, ⟨htype, hhas, -⟩ | ⟨htype, -⟩⟩
        · exact hepoll ⟨htype, hhas⟩
        · exact hpoll htype
      · exact absurd ⟨htype, hhas⟩ hepoll

/-- `epoll_create` fails with `EMFILE`. -/
def noDescriptor : SetupAnswers := ⟨true, .error 24, true, none⟩

/-- An instance without a descriptor is a success. -/
theorem epoll_failure_lost :
    (createPollingInstance true noDescriptor IPOLLING_TYPE_BEST 1).hr = S_OK ∧
      ¬ReportsSetup true noDescriptor IPOLLING_TYPE_BEST 1
        (createPollingInstance true noDescriptor IPOLLING_TYPE_BEST 1) := by
  have hinit : (CEpoll.cls noDescriptor 1).initializeInstance ⟨CEpoll.new, 1, []⟩ = (S_OK, ⟨CEpoll.new, 1, []⟩) :=
    initializeEpoll_error noDescriptor 1 rfl
  constructor
  · rw [made_epoll (by decide) rfl]
    exact congrArg Created.hr (createInstance_ok hinit rfl)
  · rw [reportsSetup_epoll (by decide) rfl rfl]
    rintro ⟨⟨fd, hfd⟩, -⟩
    cases hfd

end NatTester.Guarantees
