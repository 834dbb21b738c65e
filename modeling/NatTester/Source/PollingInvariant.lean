import NatTester.Source.Polling
import NatTester.Lib.SwapRemove

/-!
# The two views of CPoll

`Registers p capacity fds` says that the vector lists the descriptors `fds`,
which are distinct, and that the table holds one entry for each, its position.
Every call keeps it, `Add` only while the table has room.
-/
namespace NatTester.Source
open NatTester.Lib

namespace CPoll

/-- The descriptors in the vector. -/
def fdsOf (p : CPoll) : List Int32 := p.fds.map Pollfd.fd

/-- Entry `item` of the table is a descriptor of the vector, at the position that the table has for it. -/
def Listed (fds : List Int32) (item : Item Int32 Nat) : Prop := fds[item.value]? = some item.key

structure Registers (p : CPoll) (capacity : Nat) (fds : List Int32) : Prop where
  initialized : p.fInitialized = true
  capacity_eq : p.hashtable.fsize = capacity
  width_pos : 0 < p.hashtable.tsize
  fds_eq : p.fdsOf = fds
  distinct : fds.Nodup
  entries : ∃ entries, p.hashtable.Stores entries ∧ (entries.map Item.key).Nodup ∧ ∀ item, item ∈ entries ↔ Listed fds item

variable {p : CPoll} {capacity : Nat} {fds : List Int32}

theorem Registers.length_eq (r : p.Registers capacity fds) : p.fds.length = fds.length := by
  rw [← r.fds_eq, fdsOf, List.length_map]

theorem Registers.size_eq (r : p.Registers capacity fds) : p.hashtable.size = fds.length := by
  obtain ⟨entries, hstores, hkeys, hlisted⟩ := r.entries
  have hperm : (entries.map Item.key).Perm fds := by
    rw [List.perm_ext_iff_of_nodup hkeys r.distinct]
    intro fd
    rw [List.mem_map, List.mem_iff_getElem?]
    constructor
    · intro h
      obtain ⟨item, hitem, rfl⟩ := h
      exact ⟨item.value, (hlisted item).mp hitem⟩
    · intro h
      obtain ⟨i, hi⟩ := h
      exact ⟨⟨fd, i⟩, (hlisted ⟨fd, i⟩).mpr hi, rfl⟩
  rw [hstores.size_eq, ← hperm.length_eq, List.length_map]

theorem Registers.length_le (r : p.Registers capacity fds) : fds.length ≤ capacity := by
  obtain ⟨entries, hstores, -, -⟩ := r.entries
  rw [← r.size_eq, hstores.size_eq, ← r.capacity_eq]
  exact hstores.length_le

/-- There are no more descriptors than an `int` can number. -/
theorem Registers.length_le_int (r : p.Registers capacity fds) : fds.length ≤ INT_ELEMENTS := by
  obtain ⟨entries, hstores, -, -⟩ := r.entries
  rw [← r.size_eq, hstores.size_eq]
  exact hstores.length_le_int

theorem Registers.lookup_eq_some (r : p.Registers capacity fds) {fd : Int32} {i : Nat} :
    p.hashtable.lookup fd = some i ↔ fds[i]? = some fd := by
  obtain ⟨entries, hstores, hkeys, hlisted⟩ := r.entries
  rw [hstores.lookup_eq r.width_pos, Option.map_eq_some_iff]
  constructor
  · intro h
    obtain ⟨item, hfind, rfl⟩ := h
    obtain ⟨hitem, rfl⟩ := (Multimap.find_eq_some_iff hkeys).mp hfind
    exact (hlisted item).mp hitem
  · intro h
    exact ⟨⟨fd, i⟩, (Multimap.find_eq_some_iff hkeys).mpr ⟨(hlisted ⟨fd, i⟩).mpr h, rfl⟩, rfl⟩

theorem Registers.lookup_isSome (r : p.Registers capacity fds) {fd : Int32} :
    (p.hashtable.lookup fd).isSome = true ↔ fd ∈ fds := by
  rw [Option.isSome_iff_exists, List.mem_iff_getElem?]
  exact exists_congr fun i => r.lookup_eq_some

/-- The table has one entry for each position of the vector. -/
theorem Registers.entries_perm (r : p.Registers capacity fds) :
    ∃ entries, p.hashtable.Stores entries ∧ entries.Perm (p.fds.mapIdx fun i pfd => ⟨pfd.fd, i⟩) := by
  obtain ⟨entries, hstores, hkeys, hlisted⟩ := r.entries
  refine ⟨entries, hstores, ?_⟩
  have hpositions : (p.fds.mapIdx fun i pfd => (⟨pfd.fd, i⟩ : Item Int32 Nat)).map Item.key = fds := by
    rw [← r.fds_eq, fdsOf]
    apply List.ext_getElem?
    intro i
    simp only [List.getElem?_map, List.getElem?_mapIdx, Option.map_map]
    rfl
  have hdistinct : (p.fds.mapIdx fun i pfd => (⟨pfd.fd, i⟩ : Item Int32 Nat)).Nodup :=
    List.Nodup.of_map Item.key (hpositions ▸ r.distinct)
  rw [List.perm_ext_iff_of_nodup (List.Nodup.of_map Item.key hkeys) hdistinct]
  intro item
  simp only [hlisted item, Listed, ← r.fds_eq, fdsOf, List.getElem?_map, List.mem_iff_getElem?, List.getElem?_mapIdx,
    Option.map_eq_some_iff]
  constructor
  · intro h
    obtain ⟨pfd, hpfd, hkey⟩ := h
    exact ⟨item.value, pfd, hpfd, by rw [hkey]⟩
  · intro h
    obtain ⟨i, pfd, hpfd, rfl⟩ := h
    exact ⟨pfd, hpfd, rfl⟩

/-- What the calls do to the rest of the state does not matter. -/
theorem Registers.congr {q : CPoll} (r : p.Registers capacity fds) (hinit : q.fInitialized = p.fInitialized)
    (htable : q.hashtable = p.hashtable) (hfds : q.fdsOf = p.fdsOf) : q.Registers capacity fds where
  initialized := by rw [hinit, r.initialized]
  capacity_eq := by rw [htable, r.capacity_eq]
  width_pos := by rw [htable]; exact r.width_pos
  fds_eq := by rw [hfds, r.fds_eq]
  distinct := r.distinct
  entries := by rw [htable]; exact r.entries

/-- Writing the flags of an element leaves its descriptor. -/
theorem map_set_fd (xs : List Pollfd) (i : Nat) (pfd : Pollfd) (hfd : pfd.fd = (xs.getD i default).fd) :
    (xs.set i pfd).map Pollfd.fd = xs.map Pollfd.fd := by
  apply List.ext_getElem?
  intro j
  rw [List.map_set, List.getElem?_set]
  split
  next heq =>
    subst heq
    split
    next hlt =>
      rw [List.length_map] at hlt
      have hget := List.getElem?_eq_getElem hlt
      rw [hfd, List.getElem?_map, hget, List.getD_eq_getElem?_getD, hget, Option.getD_some, Option.map_some]
    next hge => rw [List.getElem?_eq_none (Nat.le_of_not_lt hge)]
  next => rfl

theorem exec_check_true {σ : Type} {cond : Prop} [Decidable cond] (h : cond) (hr : HRESULT) (s : σ) :
    Proc.exec (check cond hr) s = (.error (.code hr), s) := by
  rw [check, if_pos h]
  rfl

theorem exec_check_false {σ : Type} {cond : Prop} [Decidable cond] (h : ¬ cond) (hr : HRESULT) (s : σ) :
    Proc.exec (check cond hr) s = (.ok (), s) := by
  rw [check, if_neg h]
  rfl

theorem exec_check_state {σ : Type} (cond : Prop) [Decidable cond] (hr : HRESULT) (s : σ) :
    (Proc.exec (check cond hr) s).2 = s := by
  unfold check
  split <;> rfl

/-! ## Add -/

section Add
variable [PollFlags] {fd : Int32}

theorem exec_add (fd : Int32) (eventflags : UInt32) (hinit : p.fInitialized = true) :
    Proc.exec (add fd eventflags) p =
      if (p.hashtable.lookup fd).isSome = true then (.error (.code E_UNEXPECTED), p)
      else
        (.ok (),
          { p with
            fds := p.fds ++ [(⟨fd, toShort (toNativeFlags eventflags), 0⟩ : Pollfd)]
            hashtable := (p.hashtable.insert fd p.fds.length).2 }) := by
  unfold add
  rw [Proc.exec_bind_ok (Proc.exec_get p), Proc.exec_bind_ok (exec_check_false (by simp [hinit]) _ _)]
  by_cases hfound : (p.hashtable.lookup fd).isSome = true
  · rw [Proc.exec_bind_error (exec_check_true hfound _ _), if_pos hfound]
  · rw [Proc.exec_bind_ok (exec_check_false hfound _ _), if_neg hfound, Proc.exec_set]

theorem Registers.add_registered (r : p.Registers capacity fds) (hfd : fd ∈ fds) (eventflags : UInt32) :
    Proc.exec (add fd eventflags) p = (.error (.code E_UNEXPECTED), p) := by
  rw [exec_add fd eventflags r.initialized, if_pos (r.lookup_isSome.mpr hfd)]

/-- A new descriptor enters both views while the table has room and a number for it. -/
theorem Registers.add_new (r : p.Registers capacity fds) (hfd : fd ∉ fds) (hroom : fds.length < capacity)
    (hint : fds.length < INT_ELEMENTS) (eventflags : UInt32) :
    ∃ q, Proc.exec (add fd eventflags) p = (.ok (), q) ∧ q.Registers capacity (fds ++ [fd]) := by
  have hlength := r.length_eq
  refine ⟨_, by rw [exec_add fd eventflags r.initialized, if_neg (fun h => hfd (r.lookup_isSome.mp h))], ?_⟩
  obtain ⟨entries, hstores, hkeys, hlisted⟩ := r.entries
  have hsize := r.size_eq
  have hcount : entries.length = fds.length := by rw [← hstores.size_eq, hsize]
  have hnew := (hstores.insert (by rw [hcount, r.capacity_eq]; exact hroom) (by rwa [hcount]) fd p.fds.length).2
  refine ⟨r.initialized, by simpa using r.capacity_eq, by simpa using r.width_pos, ?_, ?_, _, hnew, ?_, ?_⟩
  · simp [fdsOf, ← r.fds_eq]
  · exact List.nodup_append.mpr ⟨r.distinct, List.nodup_singleton fd, by
      intro a ha b hb heq
      rw [heq, List.mem_singleton.mp hb] at ha
      exact hfd ha⟩
  · rw [List.map_cons, List.nodup_cons]
    refine ⟨?_, hkeys⟩
    intro hmem
    obtain ⟨item, hitem, hkey⟩ := List.mem_map.mp hmem
    have hplace : fds[item.value]? = some fd := ((hlisted item).mp hitem).trans (congrArg some hkey)
    exact hfd (List.mem_of_getElem? hplace)
  · intro item
    rw [List.mem_cons, hlisted item, hlength, Listed, Listed]
    rcases Nat.lt_trichotomy item.value fds.length with hlt | heq | hgt
    · rw [List.getElem?_append_left hlt]
      refine or_iff_right ?_
      intro hitem
      rw [hitem] at hlt
      exact Nat.lt_irrefl _ hlt
    · rw [List.getElem?_eq_none (Nat.le_of_eq heq.symm), heq, List.getElem?_concat_length]
      constructor
      · intro h
        rcases h with rfl | h
        · rfl
        · cases h
      · intro h
        left
        obtain ⟨key, value⟩ := item
        simp only [Option.some.injEq] at h heq
        rw [h, heq]
    · rw [List.getElem?_eq_none (Nat.le_of_lt hgt), List.getElem?_eq_none (by simp; omega)]
      refine or_iff_right ?_
      intro hitem
      rw [hitem] at hgt
      exact Nat.lt_irrefl _ hgt

/-- A full table misses the new descriptor, and `Add` succeeds all the same. -/
theorem Registers.add_full (r : p.Registers capacity fds) (hfd : fd ∉ fds) (hfull : fds.length = capacity)
    (eventflags : UInt32) :
    ∃ q, Proc.exec (add fd eventflags) p = (.ok (), q) ∧ q.hashtable = p.hashtable ∧ q.fds.length = p.fds.length + 1 := by
  refine ⟨_, by rw [exec_add fd eventflags r.initialized, if_neg (fun h => hfd (r.lookup_isSome.mp h))], ?_, by simp⟩
  obtain ⟨entries, hstores, -, -⟩ := r.entries
  have hlen : entries.length = p.hashtable.fsize := by rw [← hstores.size_eq, r.size_eq, hfull, r.capacity_eq]
  rw [hstores.insert_full hlen]

/-- With a number of an `int` given to every node, `Add` succeeds and the new descriptor is not found. -/
theorem Registers.add_wrapped (r : p.Registers capacity fds) (hfd : fd ∉ fds) (hroom : fds.length < capacity)
    (hint : fds.length = INT_ELEMENTS) (eventflags : UInt32) :
    ∃ q, Proc.exec (add fd eventflags) p = (.ok (), q) ∧ q.hashtable.lookup fd = none := by
  refine ⟨_, by rw [exec_add fd eventflags r.initialized, if_neg (fun h => hfd (r.lookup_isSome.mp h))], ?_⟩
  obtain ⟨entries, hstores, -, -⟩ := r.entries
  have hcount : entries.length = fds.length := by rw [← hstores.size_eq, r.size_eq]
  obtain ⟨-, -, hlookup⟩ := hstores.insert_wrapped (by rw [hcount, r.capacity_eq]; exact hroom) (hcount.trans hint)
    r.width_pos fd p.fds.length
  refine (hlookup fd).trans ?_
  rw [← Option.not_isSome_iff_eq_none]
  exact fun h => hfd (r.lookup_isSome.mp h)

end Add

/-! ## Remove and ChangeEventSet -/

variable {fd : Int32}

theorem Registers.fd_getD (r : p.Registers capacity fds) {i : Nat} (hi : fds[i]? = some fd) :
    (p.fds.getD i default).fd = fd := by
  have hmap : (p.fds.map Pollfd.fd)[i]? = some fd := by
    rw [← fdsOf, r.fds_eq, hi]
  rw [List.getElem?_map, Option.map_eq_some_iff] at hmap
  obtain ⟨pfd, hpfd, hfd⟩ := hmap
  rw [List.getD_eq_getElem?_getD, hpfd, Option.getD_some, hfd]

theorem Registers.position_registered (r : p.Registers capacity fds) {pos : Nat} (hpos : fds[pos]? = some fd) :
    Proc.exec (position fd) p = (.ok pos, p) := by
  have hlookup := r.lookup_eq_some.mpr hpos
  have hlength := r.length_eq
  obtain ⟨hlt, -⟩ := List.getElem?_eq_some_iff.mp hpos
  have hplace := r.fd_getD hpos
  unfold position
  rw [Proc.exec_bind_ok (Proc.exec_get p), Proc.exec_bind_ok (exec_check_false (by simp [r.initialized]) _ _),
    Proc.exec_bind_ok (exec_check_false (by omega) _ _), Proc.exec_bind_ok (exec_check_false (by simp [hlookup]) _ _),
    hlookup, Option.getD_some, Proc.exec_bind_ok (exec_check_false (by omega) _ _),
    Proc.exec_bind_ok (exec_check_false (by simpa using hplace) _ _), Proc.exec_pure]

theorem Registers.position_unregistered (r : p.Registers capacity fds) (hfd : fd ∉ fds) :
    Proc.exec (position fd) p = (.error (.code E_FAIL), p) := by
  have hnone : (p.hashtable.lookup fd).isNone = true := by
    rw [Option.isNone_iff_eq_none, ← Option.not_isSome_iff_eq_none]
    exact fun h => hfd (r.lookup_isSome.mp h)
  unfold position
  rw [Proc.exec_bind_ok (Proc.exec_get p), Proc.exec_bind_ok (exec_check_false (by simp [r.initialized]) _ _)]
  by_cases hempty : p.fds.length = 0
  · rw [Proc.exec_bind_error (exec_check_true hempty _ _)]
  · rw [Proc.exec_bind_ok (exec_check_false hempty _ _), Proc.exec_bind_error (exec_check_true hnone _ _)]

/-- The table once the last descriptor has moved: its entry now says `pos`. -/
theorem Registers.moveLast (r : p.Registers capacity fds) {last : Int32} (hlast : fds.getLast? = some last) (pos : Nat) :
    ∃ q entries, Proc.exec (moveLast pos) p = (.ok (), q) ∧ q.fdsOf = fds.set pos last ∧
      q.fInitialized = true ∧ q.hashtable.fsize = capacity ∧ 0 < q.hashtable.tsize ∧ q.hashtable.Stores entries ∧
      (entries.map Item.key).Nodup ∧
      ∀ item, item ∈ entries ↔ item.key ≠ last ∧ Listed fds item ∨ item = ⟨last, pos⟩ := by
  have hlength := r.length_eq
  have hend : fds[fds.length - 1]? = some last := by rwa [← List.getLast?_eq_getElem?]
  have hmoved : (p.fds.getD (p.fds.length - 1) default).fd = last := by
    rw [hlength]
    exact r.fd_getD hend
  obtain ⟨entries, hstores, hkeys, hlisted⟩ := r.entries
  obtain ⟨newer, older, rfl⟩ := List.append_of_mem ((hlisted ⟨last, fds.length - 1⟩).mpr hend)
  rw [List.map_append, List.map_cons] at hkeys
  have hcross := (List.nodup_append.mp hkeys).2.2
  have holder := (List.nodup_cons.mp (List.nodup_append.mp hkeys).2.1).1
  have hnewer : ∀ other ∈ newer, other.key ≠ last := fun other hother =>
    hcross other.key (List.mem_map_of_mem hother) last (by simp)
  obtain ⟨table, hassign, htable, hfsize, htsize⟩ := hstores.assign r.width_pos hnewer pos
  refine ⟨{ p with fds := p.fds.set pos (p.fds.getD (p.fds.length - 1) default), hashtable := table },
    newer ++ ⟨last, pos⟩ :: older, ?_, ?_, r.initialized, ?_, ?_, htable, ?_, ?_⟩
  · unfold CPoll.moveLast
    rw [Proc.exec_bind_ok (Proc.exec_get p)]
    simp only [hmoved, hassign, Proc.exec_set]
  · rw [fdsOf, List.map_set, hmoved, ← fdsOf, r.fds_eq]
  · rw [hfsize, r.capacity_eq]
  · rw [htsize]
    exact r.width_pos
  · rw [List.map_append, List.map_cons]
    exact hkeys
  · intro item
    have hold : item ∈ newer ++ older ↔ item.key ≠ last ∧ Listed fds item := by
      rw [← hlisted item]
      constructor
      · intro hitem
        refine ⟨?_, by simp only [List.mem_append, List.mem_cons] at hitem ⊢; tauto⟩
        rcases List.mem_append.mp hitem with hitem | hitem
        · exact hnewer item hitem
        · intro hkey
          exact holder (List.mem_map.mpr ⟨item, hitem, hkey⟩)
      · intro hitem
        obtain ⟨hkey, hitem⟩ := hitem
        have hne : item ≠ ⟨last, fds.length - 1⟩ := fun heq => hkey (congrArg Item.key heq)
        simpa [hne] using hitem
    rw [← hold]
    simp only [List.mem_append, List.mem_cons]
    tauto

/-- The two last statements of `Remove`. -/
theorem removed_registers {q : CPoll} {pos : Nat} {last : Int32} {entries : List (Item Int32 Nat)}
    (r : p.Registers capacity fds) (hpos : fds[pos]? = some fd) (hlast : fds.getLast? = some last)
    (hinit : q.fInitialized = true) (hcapacity : q.hashtable.fsize = capacity) (hwidth : 0 < q.hashtable.tsize)
    (hfds : q.fdsOf = fds.set pos last) (hstores : q.hashtable.Stores entries) (hkeys : (entries.map Item.key).Nodup)
    (hentries : ∀ item, item.key ≠ fd →
      (item ∈ entries ↔ item.key ≠ last ∧ Listed fds item ∨ item = ⟨last, pos⟩)) :
    Registers { q with hashtable := (q.hashtable.remove fd).2, fds := q.fds.dropLast } capacity (swapRemove pos fds) := by
  have hremoved : (q.hashtable.remove fd).2.Stores (Multimap.without Item.key fd entries) :=
    hstores.without hwidth fd
  refine ⟨hinit, by simpa using hcapacity, by simpa using hwidth, ?_, ?_, _, hremoved,
    Multimap.without_distinct hkeys, ?_⟩
  · rw [swapRemove_eq hlast, ← hfds, fdsOf, fdsOf, List.map_dropLast]
  · exact (swapRemove_perm hpos).nodup_iff.mpr (r.distinct.erase fd)
  · intro item
    have hitem : item = ⟨last, pos⟩ ↔ item.key = last ∧ item.value = pos := by
      cases item
      simp
    rw [Multimap.mem_without hkeys, Listed, getElem?_swapRemove r.distinct hpos hlast, and_comm]
    apply and_congr_right
    intro hkey
    rw [hentries item hkey, hitem, Listed]

/-- A registered descriptor leaves both views; the write through the looked-up pointer never meets NULL. -/
theorem Registers.remove_registered (r : p.Registers capacity fds) (hfd : fd ∈ fds) :
    ∃ q fds', Proc.exec (remove fd) p = (.ok (), q) ∧ q.Registers capacity fds' ∧ fds'.Perm (fds.erase fd) := by
  obtain ⟨pos, hpos⟩ := List.mem_iff_getElem?.mp hfd
  have hlength := r.length_eq
  obtain ⟨last, hlast⟩ : ∃ last, fds.getLast? = some last :=
    ⟨_, List.getLast?_eq_some_getLast (List.ne_nil_of_mem hfd)⟩
  unfold remove
  rw [Proc.exec_bind_ok (r.position_registered hpos), Proc.exec_bind_ok (Proc.exec_get p)]
  by_cases hmove : pos ≠ p.fds.length - 1
  · obtain ⟨q, entries, hq, hfds, hinit, hcapacity, hwidth, hstores, hkeys, hmem⟩ := r.moveLast hlast pos
    rw [if_pos hmove, Proc.exec_bind_ok hq, Proc.exec_modify]
    exact ⟨_, _, rfl, removed_registers r hpos hlast hinit hcapacity hwidth hfds hstores hkeys fun item _ => hmem item,
      swapRemove_perm hpos⟩
  · -- the descriptor is the last one
    have hsame : last = fd := by
      have hend : fds[fds.length - 1]? = some last := by rwa [← List.getLast?_eq_getElem?]
      rw [show pos = fds.length - 1 by omega, hend] at hpos
      exact Option.some.inj hpos
    subst hsame
    obtain ⟨entries, hstores, hkeys, hlisted⟩ := r.entries
    have hset : p.fdsOf = fds.set pos last := by
      obtain ⟨hlt, hget⟩ := List.getElem?_eq_some_iff.mp hpos
      rw [r.fds_eq, ← hget, List.set_getElem_self]
    rw [if_neg hmove]
    refine ⟨_, _, rfl, removed_registers r hpos hlast r.initialized r.capacity_eq r.width_pos hset hstores hkeys ?_,
      swapRemove_perm hpos⟩
    intro item hkey
    have hne : item ≠ ⟨last, pos⟩ := fun heq => hkey (congrArg Item.key heq)
    simp [hlisted item, hkey, hne]

theorem Registers.remove_unregistered (r : p.Registers capacity fds) (hfd : fd ∉ fds) :
    Proc.exec (remove fd) p = (.error (.code E_FAIL), p) := by
  unfold remove
  rw [Proc.exec_bind_error (r.position_unregistered hfd)]

theorem Registers.changeEventSet_registered [PollFlags] (r : p.Registers capacity fds) (hfd : fd ∈ fds)
    (eventflags : UInt32) :
    ∃ q, Proc.exec (changeEventSet fd eventflags) p = (.ok (), q) ∧ q.Registers capacity fds := by
  obtain ⟨pos, hpos⟩ := List.mem_iff_getElem?.mp hfd
  unfold changeEventSet
  rw [Proc.exec_bind_ok (r.position_registered hpos), Proc.exec_modify]
  exact ⟨_, rfl, r.congr rfl rfl (map_set_fd p.fds pos _ rfl)⟩

theorem Registers.changeEventSet_unregistered [PollFlags] (r : p.Registers capacity fds) (hfd : fd ∉ fds)
    (eventflags : UInt32) : Proc.exec (changeEventSet fd eventflags) p = (.error (.code E_FAIL), p) := by
  unfold changeEventSet
  rw [Proc.exec_bind_error (r.position_unregistered hfd)]

/-! ## WaitForNextEvent -/

theorem polled_fds (answer : PollAnswer) (xs : List Pollfd) : (polled answer xs).map Pollfd.fd = xs.map Pollfd.fd := by
  apply List.ext_getElem?
  intro i
  simp only [polled, List.getElem?_map, List.getElem?_mapIdx, Option.map_map]
  rfl

/-- What waiting leaves as it was. -/
structure Untouched (p q : CPoll) : Prop where
  initialized : q.fInitialized = p.fInitialized
  table : q.hashtable = p.hashtable
  fds : q.fdsOf = p.fdsOf

theorem Untouched.refl (p : CPoll) : Untouched p p := ⟨rfl, rfl, rfl⟩

theorem Untouched.trans {q q' : CPoll} (h : Untouched p q) (h' : Untouched q q') : Untouched p q' :=
  ⟨h'.initialized.trans h.initialized, h'.table.trans h.table, h'.fds.trans h.fds⟩

theorem findNextEvent_untouched [PollFlags] (p : CPoll) (event : PollEvent) :
    Untouched p (findNextEvent p event).2.1 := by
  unfold CPoll.findNextEvent
  dsimp only
  split
  · exact .refl p
  split
  · exact ⟨rfl, rfl, rfl⟩
  · exact ⟨rfl, rfl, map_set_fd _ _ _ rfl⟩

/-- Waiting changes neither the descriptors nor the table, whatever `poll` answers. -/
theorem waitForNextEvent_untouched [PollFlags] (p : CPoll) (answer : PollAnswer) (event : PollEvent) :
    Untouched p (Proc.exec (waitForNextEvent answer) (p, event)).2.1 := by
  have hpending := findNextEvent_untouched p { event with eventflags := 0 }
  unfold CPoll.waitForNextEvent
  rw [Proc.exec_bind_ok (Proc.exec_get _)]
  by_cases hinit : p.fInitialized = false
  · rw [Proc.exec_bind_error (exec_check_true hinit _ _)]
    exact .refl p
  rw [Proc.exec_bind_ok (exec_check_false hinit _ _), Proc.exec_bind_ok (Proc.exec_set _ _)]
  by_cases hempty : p.fds.length = 0
  · rw [Proc.exec_bind_error (exec_check_true hempty _ _)]
    exact .refl p
  rw [Proc.exec_bind_ok (exec_check_false hempty _ _), Proc.exec_bind_ok (Proc.exec_set _ _)]
  generalize CPoll.findNextEvent p { event with eventflags := 0 } = pending at hpending ⊢
  split
  · exact hpending
  -- nothing was left from the last call of `poll`
  have hpolled : Untouched p { pending.2.1 with unreadcount := 0, fds := polled answer pending.2.1.fds } :=
    hpending.trans ⟨rfl, rfl, polled_fds answer _⟩
  rw [Proc.exec_bind_ok (Proc.exec_set _ _)]
  by_cases herror : answer.ret < 0
  · rw [Proc.exec_bind_error (exec_check_true herror _ _)]
    exact hpolled
  rw [Proc.exec_bind_ok (exec_check_false herror _ _)]
  by_cases htimeout : answer.ret = 0
  · rw [Proc.exec_bind_error (exec_check_true htimeout _ _)]
    exact hpolled
  rw [Proc.exec_bind_ok (exec_check_false htimeout _ _), Proc.exec_bind_ok (Proc.exec_set _ _), exec_check_state]
  refine Untouched.trans ?_ (findNextEvent_untouched _ _)
  exact hpolled.trans ⟨rfl, rfl, rfl⟩

theorem Registers.waitForNextEvent [PollFlags] (r : p.Registers capacity fds) (answer : PollAnswer) (event : PollEvent) :
    (Proc.exec (waitForNextEvent answer) (p, event)).2.1.Registers capacity fds := by
  obtain ⟨hinit, htable, hfds⟩ := waitForNextEvent_untouched p answer event
  exact r.congr hinit htable hfds

end CPoll

end NatTester.Source
