import NatTester.Source.AdapterList

/-!
# Calls of `GetSocketAddressForAdapter`

A process calls it any number of times, each with its own failures. What it held
before it holds afterwards.
-/
namespace NatTester.Guarantees
open NatTester.Lib NatTester.Source IfNode

/-- Whether a call leaves the control socket open. -/
def leavesSocket (left : Bool) (call : AdapterCall) : Bool :=
  if call.pszAdapterName = "" then left else call.answers.leavesSocket left

def adapterCalls (host : Host) (calls : List AdapterCall) (s : IfProcess) : IfProcess :=
  calls.foldl (fun s call => (getSocketAddressForAdapterOn host call s).2) s

variable {memory : IfMemory} {descriptors : Descriptors} {s : IfProcess}

theorem adapterCall_spec (host : Host) (call : AdapterCall) (h : s.Holds memory descriptors []) :
    ((getSocketAddressForAdapterOn host call s).2.Holds memory descriptors [] ∧
      (getSocketAddressForAdapterOn host call s).2.ifc_ctl_sock.isSome = leavesSocket s.ifc_ctl_sock.isSome call) ∧
    ∃ found, Finds found (call.answers.adapters s.ifc_ctl_sock) ∧
      (memory.Plenty → found = call.answers.adapters s.ifc_ctl_sock) ∧
      (getSocketAddressForAdapterOn host call s).1 =
        getSocketAddressForAdapter { host with getifaddrs := found } call.family call.pszAdapterName call.port := by
  unfold getSocketAddressForAdapterOn leavesSocket
  by_cases hempty : call.pszAdapterName = ""
  · rw [if_pos hempty, if_pos hempty]
    refine ⟨⟨h, rfl⟩, _, .refl _, fun _ => rfl, ?_⟩
    rw [getSocketAddressForAdapter, if_pos hempty]
  obtain ⟨result, s', heq, hleaves, hresult⟩ := getifaddrs_spec call.answers h
  rw [if_neg hempty, if_neg hempty, heq]
  cases result with
  | error errno =>
    refine ⟨⟨hresult.1, hleaves⟩, _, .refl _, fun _ => rfl, ?_⟩
    rw [hresult.2, getSocketAddressForAdapter, if_neg hempty]
  | ok pList =>
    obtain ⟨nodes, rfl, hholds, hfinds, htold⟩ := hresult
    have hn : nodes.length ≤ s'.memory.heap.blocks.length := by
      have hlength := hholds.owns.blocks.length_eq
      rw [List.length_append] at hlength
      have hchain := length_le_chain nodes
      omega
    obtain ⟨howns, hmallocs⟩ := freeifaddrs_spec hn hholds.owns
    refine ⟨⟨⟨howns, hholds.conserves, fun hplenty => ?_⟩, hleaves⟩, _, hfinds, htold, ?_⟩
    · rw [plenty_of_mallocs hmallocs]
      exact hholds.plenty hplenty
    · have hread := readAdapters_spec hn fun block hblock => hholds.owns.mem hblock
      simp only [hread]
      rw [← getSocketAddressForAdapter_unported, List.map_map]
      rfl

theorem adapterCalls_spec (host : Host) (calls : List AdapterCall) (h : s.Holds memory descriptors []) :
    (adapterCalls host calls s).Holds memory descriptors [] ∧
      (adapterCalls host calls s).ifc_ctl_sock.isSome =
        calls.foldl leavesSocket s.ifc_ctl_sock.isSome := by
  induction calls generalizing s with
  | nil => exact ⟨h, rfl⟩
  | cons call calls ih =>
    obtain ⟨⟨hholds, hleaves⟩, -⟩ := adapterCall_spec host call h
    obtain ⟨hend, hleft⟩ := ih hholds
    refine ⟨hend, hleft.trans ?_⟩
    rw [hleaves]
    rfl

/-- Whatever calls of `malloc`, `socket` and `opendir` fail, and whatever the directory and the interfaces
are: after any number of calls the heap has the blocks it had, no block has been freed twice, and of the
descriptors only the control socket may have stayed open. The next call finds what it would find in the
directory, or with too little memory in what is left of its entries. -/
theorem adapter_calls_return_memory (host : Host) (memory : IfMemory) (descriptors : Descriptors) (calls : List AdapterCall)
    (call : AdapterCall) :
    let s := adapterCalls host calls (.start memory descriptors)
    (s.memory.heap.blocks.Perm memory.heap.blocks ∧ s.memory.heap.misused = memory.heap.misused) ∧
    (s.descriptors.table.Perm (s.ifc_ctl_sock.toList ++ descriptors.table) ∧
      s.descriptors.misused = descriptors.misused) ∧
    s.ifc_ctl_sock.isSome = calls.foldl leavesSocket false ∧
    ∃ found, Finds found (call.answers.adapters s.ifc_ctl_sock) ∧
      (memory.Plenty → found = call.answers.adapters s.ifc_ctl_sock) ∧
      (getSocketAddressForAdapterOn host call s).1 =
        getSocketAddressForAdapter { host with getifaddrs := found } call.family call.pszAdapterName call.port := by
  have hstart : (IfProcess.start memory descriptors).Holds memory descriptors [] :=
    ⟨.refl _, .refl _ _, id⟩
  obtain ⟨hholds, hleft⟩ := adapterCalls_spec host calls hstart
  exact ⟨⟨hholds.owns.blocks, hholds.owns.misused⟩, ⟨hholds.conserves.perm_holds, hholds.conserves.misused⟩, hleft,
    (adapterCall_spec host call hholds).2⟩

example (host : Host) (memory : IfMemory) :
    (adapterCalls host [⟨.inet, "eth0", 0, ⟨none, some 2, []⟩⟩]
      (.start memory ⟨[0, 1, 2], by decide, false⟩)).descriptors.table = [3, 0, 1, 2] := rfl

end NatTester.Guarantees
