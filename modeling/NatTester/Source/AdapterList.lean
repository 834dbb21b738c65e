import NatTester.Source.IfAddrs

/-!
# The memory of the list of the interfaces

A list of `getifaddrs` is the chain of its nodes in memory, and a node keeps what of
its parts could be allocated. Making the list adds a chain to the heap, whichever
call of `malloc` fails, and `freeifaddrs` takes just this chain away.
-/
namespace NatTester.Source
open NatTester.Lib

namespace IfMemory

/-- No call of `malloc` will fail. -/
def Plenty (s : IfMemory) : Prop := ∀ found ∈ s.mallocs, found ≠ none

variable {s : IfMemory} {own : List (Nat × IfBlock)} {base : Heap IfBlock}

theorem malloc_spec (content : UInt16 → IfBlock) (h : Heap.Owns own base s.heap) :
    (∃ s', s.malloc content = (none, s') ∧ Heap.Owns own base s'.heap ∧ ¬ s.Plenty) ∨
    (∃ p left s', s.malloc content = (some p, s') ∧ Heap.Owns ((p, content left) :: own) base s'.heap ∧
      (s.Plenty → s'.Plenty)) := by
  obtain ⟨heap, mallocs⟩ := s
  match mallocs with
  | none :: mallocs => exact .inl ⟨_, rfl, h, fun hplenty => hplenty none List.mem_cons_self rfl⟩
  | some left :: mallocs =>
    exact .inr ⟨_, left, _, rfl, h.alloc _, fun hplenty found hfound => hplenty found (List.mem_cons_of_mem _ hfound)⟩
  | [] => exact .inr ⟨_, 0, _, rfl, h.alloc _, id⟩

theorem set_spec {ifa : Nat} {a : IfAddrs} (f : IfAddrs → IfAddrs)
    (h : Heap.Owns ((ifa, .ifaddrs a) :: own) base s.heap) :
    Heap.Owns ((ifa, .ifaddrs (f a)) :: own) base (s.set ifa f).heap := h.modify (.set f)

end IfMemory

/-! ## Chains -/

def SockAddr.address : SockAddr → Option CSocketAddress
  | .inet s_addr sin_port => some (CSocketAddress.ofIp4 s_addr sin_port)
  | .packet _ => none

/-- An entry of the list: the address of the struct, and its parts with theirs. -/
structure IfNode where
  ifa : Nat
  ifa_name : Nat × String
  ifa_flags : UInt32
  ifa_addr : Option (Nat × SockAddr)
  ifa_netmask : Option (Nat × SockAddr)

namespace IfNode

def sockBlocks (addr : Option (Nat × SockAddr)) : List (Nat × IfBlock) := addr.toList.map fun addr => (addr.1, .sockaddr addr.2)

def parts (n : IfNode) : List (Nat × IfBlock) :=
  (n.ifa_name.1, .name n.ifa_name.2) :: (sockBlocks n.ifa_addr ++ sockBlocks n.ifa_netmask)

def struct (next : Option Nat) (n : IfNode) : IfAddrs :=
  ⟨next, some n.ifa_name.1, n.ifa_flags, n.ifa_addr.map Prod.fst, n.ifa_netmask.map Prod.fst⟩

def head (nodes : List IfNode) : Option Nat := nodes.head?.map IfNode.ifa

/-- The blocks of a list. -/
def chain : List IfNode → List (Nat × IfBlock)
  | [] => []
  | n :: nodes => (n.ifa, .ifaddrs (n.struct (head nodes))) :: (n.parts ++ chain nodes)

def adapter (n : IfNode) : Adapter := ⟨n.ifa_name.2, n.ifa_addr.bind fun addr => addr.2.address⟩

end IfNode

/-- The port nobody set does not count. -/
def Adapter.unported (a : Adapter) : Adapter := ⟨a.ifa_name, a.ifa_addr.map fun addr => addr.setPort 0⟩

/-- The entry for an interface, if there is memory for it. -/
def interfaceAdapter (name : String) (family : IfFamily) (answers : InterfaceAnswers) : Option Adapter :=
  match family with
  | .inet => if answers.addr.getD 0 = 0 then none else some ⟨name, some (CSocketAddress.ofIp4 (answers.addr.getD 0) 0)⟩
  | .packet => some ⟨name, none⟩

/-- What is left of the entries of a list for want of memory: some are missing, some have no address. -/
inductive Thins : List Adapter → List Adapter → Prop
  | nil : Thins [] []
  | kept {left adapters : List Adapter} (a : Adapter) (h : Thins left adapters) : Thins (a :: left) (a :: adapters)
  | bare {left adapters : List Adapter} (a : Adapter) (h : Thins left adapters) :
      Thins (⟨a.ifa_name, none⟩ :: left) (a :: adapters)
  | missing {left adapters : List Adapter} (a : Adapter) (h : Thins left adapters) : Thins left (a :: adapters)

namespace Thins

theorem refl (adapters : List Adapter) : Thins adapters adapters := by
  induction adapters with
  | nil => exact .nil
  | cons a adapters ih => exact .kept a ih

theorem none_left (adapters : List Adapter) : Thins [] adapters := by
  induction adapters with
  | nil => exact .nil
  | cons a adapters ih => exact .missing a ih

theorem append {left left' adapters adapters' : List Adapter} (h : Thins left adapters) (h' : Thins left' adapters') :
    Thins (left ++ left') (adapters ++ adapters') := by
  induction h with
  | nil => exact h'
  | kept a _ ih => exact .kept a ih
  | bare a _ ih => exact .bare a ih
  | missing a _ ih => exact .missing a ih

end Thins

/-- From `s` to `s'` the entries `left` have been made of the interfaces of `adapters`. -/
structure Makes (s s' : IfMemory) (left adapters : List Adapter) : Prop where
  thins : Thins left adapters
  plenty : s.Plenty → s'.Plenty ∧ left = adapters

theorem Makes.trans {s s' s'' : IfMemory} {left left' adapters adapters' : List Adapter} (h : Makes s s' left adapters)
    (h' : Makes s' s'' left' adapters') : Makes s s'' (left' ++ left) (adapters' ++ adapters) := by
  refine ⟨h'.thins.append h.thins, fun hplenty => ?_⟩
  obtain ⟨hplenty, rfl⟩ := h.plenty hplenty
  obtain ⟨hplenty, rfl⟩ := h'.plenty hplenty
  exact ⟨hplenty, rfl⟩

open IfNode

variable {s : IfMemory} {own : List (Nat × IfBlock)} {base : Heap IfBlock}

theorem length_le_chain (nodes : List IfNode) : nodes.length ≤ (chain nodes).length := by
  induction nodes with
  | nil => exact le_refl _
  | cons n nodes ih =>
    rw [chain, List.length_cons, List.length_cons, List.length_append]
    omega

theorem free_sockBlocks {addr : Option (Nat × SockAddr)} (h : Heap.Owns (sockBlocks addr ++ own) base s.heap) :
    Heap.Owns own base (s.free (addr.map Prod.fst)).heap := by
  cases addr with
  | none => exact h
  | some addr => exact h.free

theorem mallocs_free (p : Option Nat) (s : IfMemory) : (s.free p).mallocs = s.mallocs := by
  cases p <;> rfl

theorem mallocIf_spec (condition : Bool) (content : UInt16 → SockAddr) (h : Heap.Owns own base s.heap) :
    ∃ addr s', mallocIf condition (fun left => .sockaddr (content left)) s = (addr.map Prod.fst, s') ∧
      Heap.Owns (sockBlocks addr ++ own) base s'.heap ∧ (∀ a ∈ addr, ∃ left, a.2 = content left) ∧
      (s.Plenty → s'.Plenty ∧ addr.isSome = condition) := by
  unfold mallocIf
  split
  next hcondition =>
    obtain ⟨s', heq, howns, hplenty⟩ | ⟨p, left, s', heq, howns, hplenty⟩ :=
      IfMemory.malloc_spec (fun left => .sockaddr (content left)) h
    · exact ⟨none, s', heq, howns, by simp, fun h => absurd h hplenty⟩
    · exact ⟨some (p, content left), s', heq, howns, by simp, fun h => ⟨hplenty h, hcondition.symm⟩⟩
  next hcondition => exact ⟨none, s, rfl, h, by simp, fun h => ⟨h, by simpa using hcondition⟩⟩

theorem parts_perm (name : Nat × String) (addr mask : Option (Nat × SockAddr)) (own : List (Nat × IfBlock)) :
    (sockBlocks mask ++ (sockBlocks addr ++ (name.1, .name name.2) :: own)).Perm
      ((name.1, .name name.2) :: (sockBlocks addr ++ sockBlocks mask) ++ own) := by
  refine (List.perm_middle.append_left _).trans (List.perm_middle.trans (.cons _ ?_))
  rw [← List.append_assoc]
  exact List.perm_append_comm.append_right own

theorem setInetAddrs_spec {ifa : Nat} {a : IfAddrs} (addr mask : UInt32)
    (h : Heap.Owns ((ifa, .ifaddrs a) :: own) base s.heap) :
    ∃ saddr smask, Heap.Owns ((ifa, .ifaddrs { a with ifa_addr := saddr.map Prod.fst, ifa_netmask := smask.map Prod.fst }) ::
        (sockBlocks smask ++ (sockBlocks saddr ++ own))) base (setInetAddrs ifa addr mask s).heap ∧
      (∀ block ∈ saddr, ∃ sin_port, block.2 = .inet addr sin_port) ∧
      (s.Plenty → (setInetAddrs ifa addr mask s).Plenty ∧ saddr.isSome) := by
  obtain ⟨saddr, s₁, heq₁, howns₁, haddr, hplenty₁⟩ := mallocIf_spec true (.inet addr) h
  have hset₁ := IfMemory.set_spec (fun a => { a with ifa_addr := saddr.map Prod.fst }) (howns₁.perm List.perm_middle)
  obtain ⟨smask, s₂, heq₂, howns₂, -, hplenty₂⟩ := mallocIf_spec (mask ≠ 0) (.inet mask) hset₁
  have hset₂ := IfMemory.set_spec (fun a => { a with ifa_netmask := smask.map Prod.fst }) (howns₂.perm List.perm_middle)
  rw [mallocIf, if_pos rfl] at heq₁
  simp only [setInetAddrs, heq₁, heq₂]
  exact ⟨saddr, smask, hset₂, haddr, fun hplenty => ⟨(hplenty₂ (hplenty₁ hplenty).1).1, (hplenty₁ hplenty).2⟩⟩

theorem setPacketAddr_spec {ifa : Nat} {a : IfAddrs} (hwbuf : Option Bytes)
    (h : Heap.Owns ((ifa, .ifaddrs a) :: own) base s.heap) :
    ∃ hwaddr, Heap.Owns ((ifa, .ifaddrs { a with ifa_addr := hwaddr.map Prod.fst, ifa_netmask := none }) ::
        (sockBlocks hwaddr ++ own)) base (setPacketAddr ifa hwbuf s).heap ∧
      hwaddr.bind (fun block => block.2.address) = none ∧ (s.Plenty → (setPacketAddr ifa hwbuf s).Plenty) := by
  obtain ⟨hwaddr, s₁, heq₁, howns₁, haddr, hplenty₁⟩ := mallocIf_spec hwbuf.isSome (fun _ => .packet (hwbuf.getD [])) h
  have hset₁ := IfMemory.set_spec (fun a => { a with ifa_addr := hwaddr.map Prod.fst, ifa_netmask := none })
    (howns₁.perm List.perm_middle)
  simp only [setPacketAddr, heq₁]
  refine ⟨hwaddr, hset₁, ?_, fun hplenty => (hplenty₁ hplenty).1⟩
  cases hwaddr with
  | none => rfl
  | some block =>
    obtain ⟨-, hpacket⟩ := haddr block rfl
    rw [Option.bind_some, hpacket]
    rfl

/-- What `get_interface` brings: nothing that it leaves behind, or an entry with its parts. -/
theorem getInterface_spec (name : String) (family : IfFamily) (answers : InterfaceAnswers)
    (h : Heap.Owns own base s.heap) :
    (∃ s', getInterface name family answers s = (none, s') ∧ Heap.Owns own base s'.heap ∧
      Makes s s' [] (interfaceAdapter name family answers).toList) ∨
    (∃ (n : IfNode) (s' : IfMemory), getInterface name family answers s = (some n.ifa, s') ∧
      Heap.Owns ((n.ifa, .ifaddrs (n.struct none)) :: (n.parts ++ own)) base s'.heap ∧
      Makes s s' [n.adapter.unported] (interfaceAdapter name family answers).toList) := by
  unfold getInterface
  by_cases hno : family = .inet ∧ answers.addr.getD 0 = 0
  · left
    rw [if_pos hno]
    obtain ⟨rfl, hzero⟩ := hno
    have htold : interfaceAdapter name .inet answers = none := if_pos hzero
    rw [htold]
    exact ⟨s, rfl, h, .nil, fun hplenty => ⟨hplenty, rfl⟩⟩
  rw [if_neg hno]
  obtain ⟨s₁, heq₁, howns₁, hplenty₁⟩ | ⟨ifa, -, s₁, heq₁, howns₁, hplenty₁⟩ :=
    IfMemory.malloc_spec (fun _ => .ifaddrs ⟨none, none, 0, none, none⟩) h
  · exact .inl ⟨s₁, by rw [heq₁], howns₁, .none_left _, fun hplenty => absurd hplenty hplenty₁⟩
  obtain ⟨s₂, heq₂, howns₂, hplenty₂⟩ | ⟨ifa_name, -, s₂, heq₂, howns₂, hplenty₂⟩ :=
    IfMemory.malloc_spec (fun _ => .name name) howns₁
  · exact .inl ⟨s₂.free ifa, by simp only [heq₁, heq₂], howns₂.free, .none_left _,
      fun hplenty => absurd (hplenty₁ hplenty) hplenty₂⟩
  right
  simp only [heq₁, heq₂]
  have hset := IfMemory.set_spec
    (fun a => { a with ifa_name := some ifa_name, ifa_flags := answers.flags.getD 0 }) (howns₂.perm (.swap _ _ _))
  cases family with
  | inet =>
    have htold : interfaceAdapter name .inet answers = some ⟨name, some (CSocketAddress.ofIp4 (answers.addr.getD 0) 0)⟩ :=
      if_neg fun hzero => hno ⟨rfl, hzero⟩
    obtain ⟨saddr, smask, howns, haddr, hplenty⟩ := setInetAddrs_spec (answers.addr.getD 0) (answers.mask.getD 0) hset
    refine ⟨⟨ifa, (ifa_name, name), answers.flags.getD 0, saddr, smask⟩, _, rfl,
      howns.perm (.cons _ (parts_perm (ifa_name, name) saddr smask own)), ?_⟩
    rw [htold]
    cases saddr with
    | none =>
      refine ⟨.bare ⟨name, some (CSocketAddress.ofIp4 (answers.addr.getD 0) 0)⟩ .nil, fun h => ?_⟩
      exact absurd (hplenty (hplenty₂ (hplenty₁ h))).2 (by simp)
    | some block =>
      obtain ⟨p, a⟩ := block
      obtain ⟨sin_port, rfl⟩ := haddr _ rfl
      exact ⟨.kept _ .nil, fun h => ⟨(hplenty (hplenty₂ (hplenty₁ h))).1, rfl⟩⟩
  | packet =>
    obtain ⟨hwaddr, howns, hbare, hplenty⟩ := setPacketAddr_spec answers.hwaddr hset
    refine ⟨⟨ifa, (ifa_name, name), answers.flags.getD 0, hwaddr, none⟩, _, rfl,
      howns.perm (.cons _ (parts_perm (ifa_name, name) hwaddr none own)), ?_⟩
    simp only [adapter, Adapter.unported, hbare]
    exact ⟨.kept _ .nil, fun h => ⟨hplenty (hplenty₂ (hplenty₁ h)), rfl⟩⟩

/-! ## The list is made, read and freed -/

/-- The entries of one interface, in the order of the list. -/
def NetEntry.adapters (de : NetEntry) : List Adapter :=
  if de.d_name.toList.head? = some '.' then []
  else (interfaceAdapter de.d_name .packet de.packet).toList ++ (interfaceAdapter de.d_name .inet de.inet).toList

/-- The list made of a directory: the last interface first. -/
def listedAdapters (entries : List NetEntry) : List Adapter := entries.reverse.flatMap NetEntry.adapters

def unportedAdapters (nodes : List IfNode) : List Adapter := nodes.map fun n => n.adapter.unported

/-- The list at `list.1` is that of `nodes`, and all that has been added to the heap `base`. -/
structure ListOf (base : Heap IfBlock) (nodes : List IfNode) (list : Option Nat × IfMemory) : Prop where
  pointer : list.1 = head nodes
  owns : Heap.Owns (chain nodes) base list.2.heap

variable {nodes : List IfNode} {list : Option Nat × IfMemory}

theorem prepend_spec (name : String) (family : IfFamily) (answers : InterfaceAnswers) (h : ListOf base nodes list) :
    ∃ new, ListOf base (new ++ nodes) (prepend list.1 (getInterface name family answers list.2)) ∧
      Makes list.2 (prepend list.1 (getInterface name family answers list.2)).2 (unportedAdapters new)
        (interfaceAdapter name family answers).toList := by
  obtain ⟨s', heq, howns, hmakes⟩ | ⟨n, s', heq, howns, hmakes⟩ := getInterface_spec name family answers h.owns
  · rw [heq]
    exact ⟨[], ⟨h.pointer, howns⟩, hmakes⟩
  · rw [heq, h.pointer]
    exact ⟨[n], ⟨rfl, IfMemory.set_spec (fun a => { a with ifa_next := head nodes }) howns⟩, hmakes.thins, hmakes.plenty⟩

theorem unportedAdapters_append (new nodes : List IfNode) :
    unportedAdapters (new ++ nodes) = unportedAdapters new ++ unportedAdapters nodes := List.map_append

theorem listEntry_spec (de : NetEntry) (h : ListOf base nodes list) :
    ∃ new, ListOf base (new ++ nodes) (listEntry list de) ∧
      Makes list.2 (listEntry list de).2 (unportedAdapters new) de.adapters := by
  unfold listEntry NetEntry.adapters
  split
  · exact ⟨[], h, .nil, fun hplenty => ⟨hplenty, rfl⟩⟩
  · obtain ⟨new₁, h₁, hmakes₁⟩ := prepend_spec de.d_name .inet de.inet h
    obtain ⟨new₂, h₂, hmakes₂⟩ := prepend_spec de.d_name .packet de.packet h₁
    refine ⟨new₂ ++ new₁, by rwa [List.append_assoc], ?_⟩
    rw [unportedAdapters_append]
    exact hmakes₁.trans hmakes₂

theorem listEntries_spec (entries : List NetEntry) (h : ListOf base nodes list) :
    ∃ new, ListOf base (new ++ nodes) (entries.foldl listEntry list) ∧
      Makes list.2 (entries.foldl listEntry list).2 (unportedAdapters new) (listedAdapters entries) := by
  induction entries generalizing nodes list with
  | nil => exact ⟨[], h, .nil, fun hplenty => ⟨hplenty, rfl⟩⟩
  | cons de entries ih =>
    obtain ⟨new₁, h₁, hmakes₁⟩ := listEntry_spec de h
    obtain ⟨new₂, h₂, hmakes₂⟩ := ih h₁
    have hlisted : listedAdapters (de :: entries) = listedAdapters entries ++ de.adapters := by simp [listedAdapters]
    refine ⟨new₂ ++ new₁, by rwa [List.append_assoc], ?_⟩
    rw [unportedAdapters_append, hlisted]
    exact hmakes₁.trans hmakes₂

/-- The order in which the blocks of an entry are freed: the parts first, and then the struct. -/
theorem chain_perm (node : IfNode) (nodes : List IfNode) :
    (chain (node :: nodes)).Perm ((node.ifa_name.1, .name node.ifa_name.2) :: (sockBlocks node.ifa_addr ++
      (sockBlocks node.ifa_netmask ++ (node.ifa, .ifaddrs (node.struct (head nodes))) :: chain nodes))) := by
  refine (List.Perm.swap _ _ _).trans (.cons _ ?_)
  change (_ :: (sockBlocks node.ifa_addr ++ sockBlocks node.ifa_netmask ++ chain nodes)).Perm _
  rw [← List.append_assoc]
  exact List.perm_middle.symm

theorem freeifaddrs_spec {n : Nat} (hn : nodes.length ≤ n)
    (h : Heap.Owns (chain nodes) base s.heap) :
    Heap.Owns [] base (freeifaddrs n (head nodes) s).heap ∧ (freeifaddrs n (head nodes) s).mallocs = s.mallocs := by
  induction nodes generalizing n s with
  | nil => cases n <;> exact ⟨h, rfl⟩
  | cons node nodes ih =>
    obtain ⟨n, rfl⟩ := Nat.exists_eq_add_of_le' (Nat.lt_of_lt_of_le (Nat.succ_pos nodes.length) hn)
    have hread : s.heap.read node.ifa = some (.ifaddrs (node.struct (head nodes))) :=
      Heap.read_of_mem (h.mem List.mem_cons_self)
    have hparts : Heap.Owns (chain nodes) base ((((s.free node.ifa_name.1).free (node.ifa_addr.map Prod.fst)).free
        (node.ifa_netmask.map Prod.fst)).free node.ifa).heap :=
      (free_sockBlocks (free_sockBlocks (h.perm (chain_perm node nodes)).free)).free
    have hstep : freeifaddrs (n + 1) (head (node :: nodes)) s =
        freeifaddrs n (head nodes) ((((s.free node.ifa_name.1).free (node.ifa_addr.map Prod.fst)).free
          (node.ifa_netmask.map Prod.fst)).free node.ifa) := by
      change freeifaddrs (n + 1) (some node.ifa) s = _
      rw [freeifaddrs, hread]
      rfl
    rw [hstep]
    obtain ⟨howns, hmallocs⟩ := ih (Nat.le_of_succ_le_succ hn) hparts
    exact ⟨howns, by rw [hmallocs, mallocs_free, mallocs_free, mallocs_free, mallocs_free]⟩

theorem plenty_of_mallocs {s' : IfMemory} {s : IfMemory} (h : s'.mallocs = s.mallocs) : s'.Plenty = s.Plenty := by
  unfold IfMemory.Plenty
  rw [h]

theorem nameAt_of_mem {heap : Heap IfBlock} {name : Nat × String} (h : (name.1, .name name.2) ∈ heap.blocks) :
    nameAt heap (some name.1) = name.2 := by
  rw [nameAt, Option.bind_some, Heap.read_of_mem h]

theorem addressAt_of_mem {heap : Heap IfBlock} {addr : Option (Nat × SockAddr)}
    (h : ∀ block ∈ sockBlocks addr, block ∈ heap.blocks) :
    addressAt heap (addr.map Prod.fst) = addr.bind fun block => block.2.address := by
  cases addr with
  | none => rfl
  | some block =>
    obtain ⟨p, a⟩ := block
    rw [addressAt, Option.map_some, Option.bind_some, Heap.read_of_mem (h _ List.mem_cons_self)]
    cases a <;> rfl

theorem readAdapters_spec {heap : Heap IfBlock} {n : Nat} (hn : nodes.length ≤ n)
    (h : ∀ block ∈ chain nodes, block ∈ heap.blocks) :
    readAdapters heap n (head nodes) = nodes.map IfNode.adapter := by
  induction nodes generalizing n with
  | nil => cases n <;> rfl
  | cons node nodes ih =>
    obtain ⟨n, rfl⟩ := Nat.exists_eq_add_of_le' (Nat.lt_of_lt_of_le (Nat.succ_pos nodes.length) hn)
    have hparts : ∀ block ∈ node.parts, block ∈ heap.blocks :=
      fun block hblock => h block (List.mem_cons_of_mem _ (List.mem_append_left _ hblock))
    have hname := nameAt_of_mem (hparts _ List.mem_cons_self)
    have haddr := addressAt_of_mem fun block hblock =>
      hparts block (List.mem_cons_of_mem _ (List.mem_append_left _ hblock))
    change readAdapters heap (n + 1) (some node.ifa) = _
    rw [readAdapters, Heap.read_of_mem (h _ List.mem_cons_self)]
    simp only [struct, hname, haddr, List.map_cons]
    rw [ih (Nat.le_of_succ_le_succ hn) fun block hblock =>
      h block (List.mem_cons_of_mem _ (List.mem_append_right _ hblock))]
    rfl

/-! ## The port nobody set -/

theorem findAdapter_unported (family : AddressFamily) {accept : String → CSocketAddress → Bool}
    (haccept : ∀ ifa_name addr, accept ifa_name (addr.setPort 0) = accept ifa_name addr) (pList : List Adapter) :
    findAdapter family accept (pList.map Adapter.unported) =
      (findAdapter family accept pList).map fun addr => addr.setPort 0 := by
  unfold findAdapter
  induction pList with
  | nil => rfl
  | cons pAdapter pList ih =>
    have hfilter : (pAdapter.unported.ifa_addr.filter fun addr =>
        decide (addr.family = family) && accept pAdapter.unported.ifa_name addr) =
        (pAdapter.ifa_addr.filter fun addr => decide (addr.family = family) && accept pAdapter.ifa_name addr).map
          fun addr => addr.setPort 0 := by
      obtain ⟨ifa_name, _ | addr⟩ := pAdapter
      · rfl
      · simp only [Adapter.unported, Option.map_some, Option.filter_some, haccept]
        change (if (decide (addr.family = family) && accept ifa_name addr) = true then some (addr.setPort 0) else none) = _
        split <;> rfl
    rw [List.map_cons, List.findSome?_cons, List.findSome?_cons, hfilter]
    cases pAdapter.ifa_addr.filter fun addr => decide (addr.family = family) && accept pAdapter.ifa_name addr with
    | none => exact ih
    | some addr => rfl

theorem getSocketAddressForAdapter_unported (host : Host) (family : AddressFamily) (pszAdapterName : String) (port : UInt16)
    (pList : List Adapter) :
    getSocketAddressForAdapter { host with getifaddrs := .ok (pList.map Adapter.unported) } family pszAdapterName port =
      getSocketAddressForAdapter { host with getifaddrs := .ok pList } family pszAdapterName port := by
  unfold getSocketAddressForAdapter
  split
  · rfl
  · have hname : findAdapter family (fun ifa_name _ => ifa_name = pszAdapterName) (pList.map Adapter.unported) =
        (findAdapter family (fun ifa_name _ => ifa_name = pszAdapterName) pList).map fun addr => addr.setPort 0 :=
      findAdapter_unported family (fun _ _ => rfl) pList
    have haddress : ∀ addrbytes, findAdapter family (fun _ addr => addr.ip = addrbytes) (pList.map Adapter.unported) =
        (findAdapter family (fun _ addr => addr.ip = addrbytes) pList).map fun addr => addr.setPort 0 :=
      fun addrbytes => findAdapter_unported family (fun _ _ => rfl) pList
    simp only [hname, haddress]
    cases findAdapter family (fun ifa_name _ => ifa_name = pszAdapterName) pList with
    | some addr => rfl
    | none =>
      cases host.inet_pton family pszAdapterName with
      | none => rfl
      | some addrbytes =>
        simp only [Option.map_none, Option.bind_some, Option.orElse_none]
        cases findAdapter family (fun _ addr => addr.ip = addrbytes) pList <;> rfl

/-! ## `getifaddrs` in a process -/

/-- What `getifaddrs` answers where there is memory. A control socket that is open is used again. -/
def NetAnswers.adapters (ifc_ctl_sock : Option Nat) (answers : NetAnswers) : Except Int (List Adapter) :=
  match if ifc_ctl_sock.isSome then none else answers.socket, answers.opendir with
  | some errno, _ => .error errno
  | none, some errno => .error errno
  | none, none => .ok (listedAdapters answers.entries)

/-- An answer of `getifaddrs`, and one where there is memory. -/
inductive Finds : Except Int (List Adapter) → Except Int (List Adapter) → Prop
  | error (errno : Int) : Finds (.error errno) (.error errno)
  | ok {left adapters : List Adapter} (h : Thins left adapters) : Finds (.ok left) (.ok adapters)

theorem Finds.refl (result : Except Int (List Adapter)) : Finds result result := by
  cases result with
  | error errno => exact .error errno
  | ok adapters => exact .ok (.refl adapters)

namespace IfProcess

def start (memory : IfMemory) (descriptors : Descriptors) : IfProcess := ⟨memory, none, descriptors⟩

/-- Since `start`, the blocks `own` have been added to the heap, and the control socket to the descriptors. -/
structure Holds (memory : IfMemory) (descriptors : Descriptors) (own : List (Nat × IfBlock)) (s : IfProcess) : Prop where
  owns : Heap.Owns own memory.heap s.memory.heap
  conserves : Descriptors.Conserves none s.ifc_ctl_sock descriptors s.descriptors
  plenty : memory.Plenty → s.memory.Plenty

end IfProcess

/-- Whether the control socket is left open: `getifaddrs` does not close it where `opendir` fails. -/
def NetAnswers.leavesSocket (left : Bool) (answers : NetAnswers) : Bool :=
  (left || answers.socket.isNone) && answers.opendir.isSome

variable {memory : IfMemory} {descriptors : Descriptors} {s : IfProcess} {own : List (Nat × IfBlock)}

theorem ifcClose_spec (h : s.Holds memory descriptors own) :
    (ifcClose s).Holds memory descriptors own ∧ (ifcClose s).ifc_ctl_sock = none := by
  obtain ⟨memory', ctl, descriptors'⟩ := s
  cases ctl with
  | none => exact ⟨h, rfl⟩
  | some fd =>
    exact ⟨⟨h.owns, h.conserves.trans (Descriptors.conserves_closed h.conserves.mem), h.plenty⟩, rfl⟩

theorem ifcInit_spec (socket : Option Int) (h : s.Holds memory descriptors own) :
    (ifcInit socket s).2.Holds memory descriptors own := by
  obtain ⟨memory', ctl, descriptors'⟩ := s
  cases ctl with
  | some fd => exact h
  | none =>
    cases socket with
    | some errno => exact h
    | none => exact ⟨h.owns, h.conserves.trans (Descriptors.conserves_opened _), h.plenty⟩

theorem ifcInit_result (socket : Option Int) (s : IfProcess) :
    (∃ errno, (if s.ifc_ctl_sock.isSome then none else socket) = some errno ∧ ifcInit socket s = (.error errno, s) ∧
      s.ifc_ctl_sock = none ∧ socket = some errno) ∨
    (∃ s' fd, (if s.ifc_ctl_sock.isSome then none else socket) = none ∧ ifcInit socket s = (.ok (), s') ∧
      s'.ifc_ctl_sock = some fd ∧ (s.ifc_ctl_sock.isSome || socket.isNone) = true) := by
  obtain ⟨memory, ctl, descriptors⟩ := s
  match ctl, socket with
  | some fd, _ => exact .inr ⟨_, fd, rfl, rfl, rfl, rfl⟩
  | none, some errno => exact .inl ⟨errno, rfl, rfl, rfl, rfl⟩
  | none, none => exact .inr ⟨_, _, rfl, rfl, rfl, rfl⟩

/-- What `getifaddrs` brings: its error, and nothing, or the list with the rest as it was. -/
theorem getifaddrs_spec (answers : NetAnswers) (h : s.Holds memory descriptors []) :
    ∃ result s', getifaddrs answers s = (result, s') ∧ s'.ifc_ctl_sock.isSome = answers.leavesSocket s.ifc_ctl_sock.isSome ∧
      match result with
      | .error errno => s'.Holds memory descriptors [] ∧ answers.adapters s.ifc_ctl_sock = .error errno
      | .ok pList => ∃ nodes, pList = head nodes ∧ s'.Holds memory descriptors (chain nodes) ∧
        Finds (.ok (unportedAdapters nodes)) (answers.adapters s.ifc_ctl_sock) ∧
        (memory.Plenty → .ok (unportedAdapters nodes) = answers.adapters s.ifc_ctl_sock) := by
  have hinit := ifcInit_spec answers.socket h
  unfold getifaddrs NetAnswers.adapters NetAnswers.leavesSocket
  obtain ⟨errno, hblocked, heq, hctl, hsocket⟩ | ⟨s₁, fd, hopen, heq, hctl, hleft⟩ := ifcInit_result answers.socket s
  · rw [heq] at hinit
    simp only [heq, hblocked]
    refine ⟨_, _, rfl, ?_, hinit, rfl⟩
    simp [hctl, hsocket]
  · rw [heq] at hinit
    simp only [heq, hopen, hleft, Bool.true_and]
    cases answers.opendir with
    | some errno => exact ⟨_, _, rfl, by rw [hctl]; rfl, hinit, rfl⟩
    | none =>
      -- the directory has a descriptor of its own, closed before the control socket
      have hdir := Descriptors.conserves_opened s₁.descriptors
      have hclosed := (hdir.trans (Descriptors.conserves_closed hdir.mem)).frame s₁.ifc_ctl_sock
      have hempty : ListOf memory.heap [] (none, s₁.memory) := ⟨rfl, hinit.owns⟩
      obtain ⟨nodes, hlist, hmakes⟩ := listEntries_spec answers.entries hempty
      rw [List.append_nil] at hlist
      have hholds : IfProcess.Holds memory descriptors (chain nodes)
          ⟨(answers.entries.foldl listEntry (none, s₁.memory)).2, s₁.ifc_ctl_sock,
            s₁.descriptors.opened.2.closed s₁.descriptors.opened.1⟩ :=
        ⟨hlist.owns, hinit.conserves.trans hclosed, fun hplenty => (hmakes.plenty (hinit.plenty hplenty)).1⟩
      obtain ⟨hkept, hclose⟩ := ifcClose_spec hholds
      refine ⟨_, _, rfl, by rw [hclose]; rfl, nodes, hlist.pointer, hkept, .ok hmakes.thins, fun hplenty => ?_⟩
      rw [(hmakes.plenty (hinit.plenty hplenty)).2]

end NatTester.Source
