import NatTester.Source.PollingInvariant

/-!
# The registered sockets of CPoll

Two views of the registered sockets are kept, a vector and a hash table of
bounded size. They agree as long as no call adds a socket to a full table; the
first one that does separates them.
-/
namespace NatTester.Guarantees
open NatTester.Lib NatTester.Source CPoll

variable [PollFlags]

inductive PollCall where
  | add (fd : Int32) (eventflags : UInt32)
  | remove (fd : Int32)
  | changeEventSet (fd : Int32) (eventflags : UInt32)
  | waitForNextEvent (event : PollEvent) (answer : PollAnswer)

def PollCall.run : PollCall → CPoll → Except PollStop Unit × CPoll
  | .add fd eventflags, p => Proc.exec (CPoll.add fd eventflags) p
  | .remove fd, p => Proc.exec (CPoll.remove fd) p
  | .changeEventSet fd eventflags, p => Proc.exec (CPoll.changeEventSet fd eventflags) p
  | .waitForNextEvent event answer, p =>
    let done := Proc.exec (CPoll.waitForNextEvent answer) (p, event)
    (done.1, done.2.1)

/-- `CPoll` after `Initialize(maxSockets)` and then `calls`. -/
def pollAfter (arrays : FastHashArrays Int32 Nat) (maxSockets : Nat) (calls : List PollCall) : CPoll :=
  calls.foldl (fun p call => (call.run p).2) (Proc.exec (initializePoll arrays maxSockets) CPoll.new).2

omit [PollFlags] in
/-- What a call does to the descriptors that were added and not yet removed. -/
def PollCall.register (fds : List Int32) : PollCall → List Int32
  | .add fd _ => if fd ∈ fds then fds else fds ++ [fd]
  | .remove fd => fds.erase fd
  | .changeEventSet _ _ => fds
  | .waitForNextEvent _ _ => fds

def registered (calls : List PollCall) : List Int32 := calls.foldl PollCall.register []

/-- A socket is added only while fewer than `maxSockets` are registered, and fewer than an `int` can number. -/
def PollCall.HasRoom (maxSockets : Nat) (fds : List Int32) : PollCall → Prop
  | .add fd _ => fd ∈ fds ∨ fds.length < maxSockets ∧ fds.length < INT_ELEMENTS
  | .remove _ => True
  | .changeEventSet _ _ => True
  | .waitForNextEvent _ _ => True

def WithinCapacity (maxSockets : Nat) : List Int32 → List PollCall → Prop
  | _, [] => True
  | fds, call :: calls => call.HasRoom maxSockets fds ∧ WithinCapacity maxSockets (call.register fds) calls

section Descriptors
omit [PollFlags]

/-- The descriptors that a process has are not negative. -/
def PollCall.AddsDescriptor : PollCall → Prop
  | .add fd _ => 0 ≤ fd
  | .remove _ => True
  | .changeEventSet _ _ => True
  | .waitForNextEvent _ _ => True

theorem length_le_of_descriptors {fds : List Int32} (hdistinct : fds.Nodup) (hfds : ∀ fd ∈ fds, 0 ≤ fd) :
    fds.length ≤ INT_ELEMENTS := by
  have hinj : ∀ fd ∈ fds, ∀ fd' ∈ fds, fd.toInt.toNat = fd'.toInt.toNat → fd = fd' := by
    intro fd hfd fd' hfd' heq
    have hpos := Int32.le_iff_toInt_le.mp (hfds fd hfd)
    have hpos' := Int32.le_iff_toInt_le.mp (hfds fd' hfd')
    rw [Int32.toInt_zero] at hpos hpos'
    exact Int32.toInt_inj.mp (by omega)
  have hsubset : fds.map (fun fd => fd.toInt.toNat) ⊆ List.range INT_ELEMENTS := by
    intro n hn
    obtain ⟨fd, -, rfl⟩ := List.mem_map.mp hn
    have hlt := fd.toInt_lt
    rw [List.mem_range, INT_ELEMENTS]
    omega
  have hle := (List.subperm_of_subset (hdistinct.map_on hinj) hsubset).length_le
  rwa [List.length_map, List.length_range] at hle

theorem PollCall.register_nodup {fds : List Int32} (hdistinct : fds.Nodup) (call : PollCall) :
    (call.register fds).Nodup := by
  cases call with
  | add fd eventflags =>
    rw [PollCall.register]
    split
    next => exact hdistinct
    next hfd => exact (List.nodup_cons.mpr ⟨hfd, hdistinct⟩).perm (List.perm_append_singleton fd fds).symm
  | remove fd => exact hdistinct.erase fd
  | changeEventSet fd eventflags => exact hdistinct
  | waitForNextEvent event answer => exact hdistinct

theorem PollCall.register_descriptors {fds : List Int32} (hfds : ∀ fd ∈ fds, 0 ≤ fd) (call : PollCall)
    (hcall : call.AddsDescriptor) : ∀ fd ∈ call.register fds, 0 ≤ fd := by
  cases call with
  | add fd eventflags =>
    rw [PollCall.register]
    split
    · exact hfds
    · intro fd' hfd'
      rcases List.mem_append.mp hfd' with hold | hnew
      · exact hfds fd' hold
      · rw [List.mem_singleton.mp hnew]
        exact hcall
  | remove fd => exact fun fd' hfd' => hfds fd' (List.mem_of_mem_erase hfd')
  | changeEventSet fd eventflags => exact hfds
  | waitForNextEvent event answer => exact hfds

theorem withinCapacity_from {maxSockets : Nat} {fds : List Int32} (hdistinct : fds.Nodup) (hfds : ∀ fd ∈ fds, 0 ≤ fd)
    (calls : List PollCall) (hcalls : ∀ call ∈ calls, call.AddsDescriptor)
    (hholds : ∀ done, done <+: calls → (done.foldl PollCall.register fds).length ≤ maxSockets) :
    WithinCapacity maxSockets fds calls := by
  induction calls generalizing fds with
  | nil => trivial
  | cons call calls ih =>
    have hcall := hcalls call List.mem_cons_self
    have hdistinct' := PollCall.register_nodup hdistinct call
    have hfds' := PollCall.register_descriptors hfds call hcall
    refine ⟨?_, ih hdistinct' hfds' (fun other hother => hcalls other (List.mem_cons_of_mem _ hother)) ?_⟩
    · cases call with
      | add fd eventflags =>
        by_cases hfd : fd ∈ fds
        · exact .inl hfd
        · have hmore := hholds [.add fd eventflags] (by simp)
          have hnumbers := length_le_of_descriptors hdistinct' hfds'
          simp only [List.foldl_cons, List.foldl_nil, PollCall.register, if_neg hfd, List.length_append,
            List.length_singleton] at hmore hnumbers
          exact .inr ⟨hmore, hnumbers⟩
      | remove fd => trivial
      | changeEventSet fd eventflags => trivial
      | waitForNextEvent event answer => trivial
    · exact fun done hdone => hholds (call :: done) (List.cons_prefix_cons.mpr ⟨rfl, hdone⟩)

/-- Calls that never hold more than `maxSockets` descriptors have room: of descriptors there are no more than an `int`
can number. -/
theorem withinCapacity_of_descriptors {maxSockets : Nat} (calls : List PollCall)
    (hcalls : ∀ call ∈ calls, call.AddsDescriptor)
    (hholds : ∀ done, done <+: calls → (registered done).length ≤ maxSockets) : WithinCapacity maxSockets [] calls :=
  withinCapacity_from List.nodup_nil (by simp) calls hcalls hholds

end Descriptors

/-- The two views are the same, they list the descriptors `fds`, and the calls answer accordingly. -/
structure ViewsAgree (p : CPoll) (fds : List Int32) : Prop where
  one_entry : ∃ entries, p.hashtable.Stores entries ∧ entries.Perm (p.fds.mapIdx fun i pfd => ⟨pfd.fd, i⟩)
  position : ∀ i pfd, p.fds[i]? = some pfd → p.hashtable.lookup pfd.fd = some i
  distinct : (p.fds.map Pollfd.fd).Nodup
  vector : ∀ fd, fd ∈ p.fds.map Pollfd.fd ↔ fd ∈ fds
  table : ∀ fd, (p.hashtable.lookup fd).isSome = true ↔ fd ∈ fds
  add : ∀ fd eventflags, (Proc.exec (CPoll.add fd eventflags) p).1 = .ok () ↔ fd ∉ fds
  remove : ∀ fd, (Proc.exec (CPoll.remove fd) p).1 = .ok () ↔ fd ∈ fds
  pointer : ∀ fd, (Proc.exec (CPoll.remove fd) p).1 ≠ .error .nullPointer
  changeEventSet : ∀ fd eventflags, (Proc.exec (CPoll.changeEventSet fd eventflags) p).1 = .ok () ↔ fd ∈ fds

theorem registers_viewsAgree {p : CPoll} {maxSockets : Nat} {listed fds : List Int32}
    (r : p.Registers maxSockets listed) (hperm : listed.Perm fds) : ViewsAgree p fds where
  one_entry := r.entries_perm
  position := by
    intro i pfd hi
    rw [r.lookup_eq_some, ← r.fds_eq, fdsOf, List.getElem?_map, hi, Option.map_some]
  distinct := by
    have hdistinct := r.distinct
    rwa [← r.fds_eq] at hdistinct
  vector := by
    intro fd
    rw [← hperm.mem_iff, ← r.fds_eq, fdsOf]
  table := by
    intro fd
    rw [r.lookup_isSome, hperm.mem_iff]
  add := by
    intro fd eventflags
    rw [exec_add fd eventflags r.initialized, ← hperm.mem_iff, ← r.lookup_isSome]
    split <;> simp [*]
  remove := by
    intro fd
    rw [← hperm.mem_iff]
    by_cases hfd : fd ∈ listed
    · obtain ⟨q, fds', hq, -⟩ := r.remove_registered hfd
      simp [hq, hfd]
    · simp [r.remove_unregistered hfd, hfd]
  pointer := by
    intro fd
    by_cases hfd : fd ∈ listed
    · obtain ⟨q, fds', hq, -⟩ := r.remove_registered hfd
      simp [hq]
    · simp [r.remove_unregistered hfd]
  changeEventSet := by
    intro fd eventflags
    rw [← hperm.mem_iff]
    by_cases hfd : fd ∈ listed
    · obtain ⟨q, hq, -⟩ := r.changeEventSet_registered hfd eventflags
      simp [hq, hfd]
    · simp [r.changeEventSet_unregistered hfd, hfd]

/-- A call with room keeps the two views together. -/
theorem run_registers {p : CPoll} {maxSockets : Nat} {listed fds : List Int32} (r : p.Registers maxSockets listed)
    (hperm : listed.Perm fds) (call : PollCall) (hroom : call.HasRoom maxSockets fds) :
    ∃ listed', (call.run p).2.Registers maxSockets listed' ∧ listed'.Perm (call.register fds) := by
  cases call with
  | add fd eventflags =>
    by_cases hfd : fd ∈ fds
    · refine ⟨listed, ?_, by simpa [PollCall.register, hfd] using hperm⟩
      rw [PollCall.run, r.add_registered (hperm.mem_iff.mpr hfd)]
      exact r
    · have hlt : listed.length < maxSockets ∧ listed.length < INT_ELEMENTS := by
        rw [hperm.length_eq]
        exact hroom.resolve_left hfd
      obtain ⟨q, hq, r'⟩ := r.add_new (fun h => hfd (hperm.mem_iff.mp h)) hlt.1 hlt.2 eventflags
      refine ⟨listed ++ [fd], ?_, by simpa [PollCall.register, hfd] using hperm.append_right [fd]⟩
      rw [PollCall.run, hq]
      exact r'
  | remove fd =>
    by_cases hfd : fd ∈ fds
    · obtain ⟨q, listed', hq, r', hperm'⟩ := r.remove_registered (hperm.mem_iff.mpr hfd)
      refine ⟨listed', ?_, hperm'.trans (hperm.erase fd)⟩
      rw [PollCall.run, hq]
      exact r'
    · refine ⟨listed, ?_, by rwa [PollCall.register, List.erase_of_not_mem hfd]⟩
      rw [PollCall.run, r.remove_unregistered (fun h => hfd (hperm.mem_iff.mp h))]
      exact r
  | changeEventSet fd eventflags =>
    refine ⟨listed, ?_, hperm⟩
    by_cases hfd : fd ∈ fds
    · obtain ⟨q, hq, r'⟩ := r.changeEventSet_registered (hperm.mem_iff.mpr hfd) eventflags
      rw [PollCall.run, hq]
      exact r'
    · rw [PollCall.run, r.changeEventSet_unregistered (fun h => hfd (hperm.mem_iff.mp h))]
      exact r
  | waitForNextEvent event answer => exact ⟨listed, r.waitForNextEvent answer event, hperm⟩

/-- A call without room separates them. -/
theorem run_full {p : CPoll} {maxSockets : Nat} {listed fds : List Int32} (r : p.Registers maxSockets listed)
    (hperm : listed.Perm fds) (call : PollCall) (hroom : ¬ call.HasRoom maxSockets fds) :
    ¬ ViewsAgree (call.run p).2 (call.register fds) := by
  intro hagree
  cases call with
  | add fd eventflags =>
    have hroom' : fd ∉ fds ∧ ¬ (fds.length < maxSockets ∧ fds.length < INT_ELEMENTS) := not_or.mp hroom
    have hnew : fd ∉ listed := fun h => hroom'.1 (hperm.mem_iff.mp h)
    have hlength := hperm.length_eq
    have hwithin := r.length_le
    have hnumbers := r.length_le_int
    by_cases hfull : listed.length = maxSockets
    · -- the table is full
      obtain ⟨q, hq, htable, hlonger⟩ := r.add_full hnew hfull eventflags
      rw [PollCall.run, hq] at hagree
      obtain ⟨entries', hstores', hperm'⟩ := hagree.one_entry
      have hcount := hperm'.length_eq
      rw [List.length_mapIdx, ← hstores'.size_eq, htable, hlonger, r.length_eq, r.size_eq] at hcount
      omega
    · -- the table has room, but no number for its node
      obtain ⟨q, hq, hlookup⟩ := r.add_wrapped hnew (by omega) (by omega) eventflags
      rw [PollCall.run, hq] at hagree
      have hlisted : fd ∈ (PollCall.add fd eventflags).register fds := by simp [PollCall.register, hroom'.1]
      have htable := (hagree.table fd).mpr hlisted
      rw [hlookup] at htable
      cases htable
  | remove fd => exact hroom trivial
  | changeEventSet fd eventflags => exact hroom trivial
  | waitForNextEvent event answer => exact hroom trivial

theorem run_within {p : CPoll} {maxSockets : Nat} {listed fds : List Int32} (r : p.Registers maxSockets listed)
    (hperm : listed.Perm fds) (calls : List PollCall) :
    WithinCapacity maxSockets fds calls ↔
      ∀ done, done <+: calls →
        ViewsAgree (done.foldl (fun p call => (call.run p).2) p) (done.foldl PollCall.register fds) := by
  induction calls generalizing p listed fds with
  | nil =>
    simp only [WithinCapacity, List.prefix_nil, true_iff]
    intro done hdone
    subst hdone
    exact registers_viewsAgree r hperm
  | cons call calls ih =>
    constructor
    · intro h done hdone
      obtain ⟨hroom, hrest⟩ := h
      cases done with
      | nil => exact registers_viewsAgree r hperm
      | cons first done =>
        obtain ⟨rfl, hrestDone⟩ := List.cons_prefix_cons.mp hdone
        obtain ⟨listed', r', hperm'⟩ := run_registers r hperm first hroom
        exact (ih r' hperm').mp hrest done hrestDone
    · intro h
      have hroom : call.HasRoom maxSockets fds := by
        by_contra hroom
        exact run_full r hperm call hroom (h [call] (by simp))
      obtain ⟨listed', r', hperm'⟩ := run_registers r hperm call hroom
      refine ⟨hroom, (ih r' hperm').mpr ?_⟩
      intro done hdone
      exact h (call :: done) (List.cons_prefix_cons.mpr ⟨rfl, hdone⟩)

omit [PollFlags] in
theorem fresh_registers {maxSockets : Nat} (hmaxSockets : 1 ≤ maxSockets) (arrays : FastHashArrays Int32 Nat) :
    (Proc.exec (initializePoll arrays maxSockets) CPoll.new).2.Registers maxSockets [] := by
  obtain ⟨hstores, hfsize, htsize⟩ := FastHashBase.initTable_stores FastHashBase.empty arrays hmaxSockets
  refine ⟨rfl, hfsize, htsize, rfl, List.nodup_nil, [], hstores, List.nodup_nil, ?_⟩
  intro item
  simp [Listed]

/-- The two views agree after every call of a sequence exactly when every new socket finds room. -/
theorem poll_views_agree_iff {maxSockets : Nat} (hmaxSockets : 1 ≤ maxSockets) (arrays : FastHashArrays Int32 Nat)
    (calls : List PollCall) :
    (∀ done, done <+: calls → ViewsAgree (pollAfter arrays maxSockets done) (registered done)) ↔
      WithinCapacity maxSockets [] calls := by
  exact (run_within (fresh_registers hmaxSockets arrays) (List.Perm.refl []) calls).symm

omit [PollFlags] in
/-- Arrays that nothing was written to. -/
def unwritten : FastHashArrays Int32 Nat := ⟨fun _ => none, fun _ => ⟨0, none⟩, fun _ => none, fun _ => 0⟩

omit [PollFlags] in
/-- Two sockets in a table for two, and one of them removed. -/
theorem poll_views_agree_iff_pair :
    let _ := PollFlags.linux
    1 ≤ 2 ∧ ViewsAgree (pollAfter unwritten 2 [.add 3 IPOLLING_READ, .add 4 IPOLLING_READ, .remove 3]) [4] := by
  intro _
  have hroom : WithinCapacity 2 [] [.add 3 IPOLLING_READ, .add 4 IPOLLING_READ, .remove 3] := by
    simp [WithinCapacity, PollCall.HasRoom, PollCall.register, INT_ELEMENTS]
  have hfds : registered [.add 3 IPOLLING_READ, .add 4 IPOLLING_READ, .remove 3] = [4] := by decide
  have hagree := (poll_views_agree_iff (by decide) unwritten _).mpr hroom _ List.prefix_rfl
  rw [hfds] at hagree
  exact ⟨by decide, hagree⟩

omit [PollFlags] in
/-- Two sockets in a table for one: both calls succeed, the table misses the second socket, and removing the first one
follows a NULL pointer. -/
theorem poll_full_table :
    let _ := PollFlags.linux
    let p := pollAfter unwritten 1 [.add 3 IPOLLING_READ, .add 4 IPOLLING_READ]
    p.fds.length = 2 ∧ p.hashtable.size = 1 ∧ p.hashtable.lookup 4 = none ∧
      (Proc.exec (CPoll.remove 3) p).1 = .error .nullPointer ∧
      ¬ ViewsAgree p (registered [.add 3 IPOLLING_READ, .add 4 IPOLLING_READ]) := by
  have hfds : (@pollAfter PollFlags.linux unwritten 1
    [.add 3 IPOLLING_READ, .add 4 IPOLLING_READ]).fds.length = 2 := by decide
  have hsize : (@pollAfter PollFlags.linux unwritten 1
    [.add 3 IPOLLING_READ, .add 4 IPOLLING_READ]).hashtable.size = 1 := by decide
  have hlookup : (@pollAfter PollFlags.linux unwritten 1
    [.add 3 IPOLLING_READ, .add 4 IPOLLING_READ]).hashtable.lookup 4 = none := by decide
  have hremove : (Proc.exec (CPoll.remove 3) (@pollAfter PollFlags.linux unwritten 1
    [.add 3 IPOLLING_READ, .add 4 IPOLLING_READ])).1 = .error .nullPointer := by decide
  intro flags
  generalize @pollAfter PollFlags.linux unwritten 1 [.add 3 IPOLLING_READ, .add 4 IPOLLING_READ] = p
    at hfds hsize hlookup hremove ⊢
  refine ⟨hfds, hsize, hlookup, hremove, ?_⟩
  intro hagree
  have htable := (hagree.table 4).mpr (by decide)
  rw [hlookup] at htable
  cases htable

end NatTester.Guarantees
