import Vyoma.NodeLookup

/-!
# Resolving a host again

The command line resolves the target of a teleport to a host, and the daemon resolves this
host once more unless it is an IP address. A node can be called what the host of a later one
is, since names and addresses are stored as they come.
-/
namespace Vyoma.Swarm
open OrderedMaps Runs SwarmRaft

/-- Resolving what was resolved changes nothing. -/
def ResolvesTwice (r : SwarmRaft) : Prop :=
  ∀ target host : String, r.resolveNode target = some host → r.resolveNode host = some host

/-! ## Hosts as targets -/

theorem hostPart_hostPart (addr : String) : hostPart (hostPart addr) = hostPart addr := by
  refine hostPart_eq_self fun hmem => ?_
  rw [hostPart, String.toList_ofList] at hmem
  simpa using List.mem_takeWhile_imp hmem

/-- The node's name, alias or id is the text. -/
def NodeInfo.IsCalled (node : NodeInfo) (text : String) : Prop :=
  node.name = some text ∨ node.nodeAlias = text ∨ toString node.id = text

instance (node : NodeInfo) (text : String) : Decidable (node.IsCalled text) :=
  inferInstanceAs (Decidable (_ ∨ _ ∨ _))

theorem matchesTarget_hostPart (n : NodeInfo) : n.matchesTarget (hostPart n.addr) = true := by
  simp [NodeInfo.matchesTarget]

/-- A node that is found by a host has it or is called so. -/
theorem isCalled_of_matchesTarget {m : NodeInfo} {addr : String}
    (h : m.matchesTarget (hostPart addr) = true) (hne : hostPart m.addr ≠ hostPart addr) :
    m.IsCalled (hostPart addr) := by
  have haddr : m.addr ≠ hostPart addr := by
    intro he
    rw [he, hostPart_hostPart] at hne
    exact hne rfl
  simpa [NodeInfo.matchesTarget, NodeInfo.IsCalled, haddr, hne, or_assoc] using h

/-! ## Nodes that stand before another one's host -/

/-- The first node comes before the second, is called what its host is and has another one. -/
def TakesHost (m n : NodeInfo) : Prop :=
  m.id < n.id ∧ m.IsCalled (hostPart n.addr) ∧ hostPart m.addr ≠ hostPart n.addr

instance : DecidableRel TakesHost := fun _ _ => inferInstanceAs (Decidable (_ ∧ _ ∧ _))

theorem not_takesHost_self (n : NodeInfo) : ¬ TakesHost n n := fun h => UInt64.lt_irrefl _ h.1

theorem resolvesTwice_of_apart {r : SwarmRaft} (hinv : RepInv r) (h : Apart TakesHost r) :
    ResolvesTwice r := by
  intro target host hres
  obtain ⟨n, hfound, rfl⟩ := Option.map_eq_some_iff.mp hres
  obtain ⟨j, hn⟩ := mem_values_iff.mp (List.mem_of_find?_eq_some hfound)
  obtain ⟨i, m, hm, hmatch, hresolve, hi⟩ :=
    resolveNode_of_matchesTarget hinv hn (matchesTarget_hostPart n)
  rw [hresolve, Option.some.injEq]
  obtain rfl | hlt := hi
  · rfl
  · by_contra hhost
    exact h i j m n hm hn ⟨hlt, isCalled_of_matchesTarget hmatch hhost, hhost⟩

/-- What the call writes, if anything, is not called what another host is before a node with
that host, nor has it a host that a node before it is called. -/
def KeepsHostsApart (r : SwarmRaft) (a : Action) : Prop := ∀ n ∈ record r a, FitsBy TakesHost r n

instance (r : SwarmRaft) (a : Action) : Decidable (KeepsHostsApart r a) :=
  inferInstanceAs (Decidable (∀ n ∈ record r a, _))

/-- As long as every record that is written fits, a host resolves to itself. -/
theorem resolvesTwice_throughout (localId : UInt64) (run : List Action)
    (h : Along step KeepsHostsApart (SwarmRaft.new localId) run) :
    Throughout step ResolvesTwice (SwarmRaft.new localId) run := by
  intro pre hpre
  have hinv : RepInv (exec step (SwarmRaft.new localId) pre) :=
    exec_of_invariant (repInv_new localId) repInv_step pre
  have hapart := (apart_throughout_iff not_takesHost_self localId run).mpr h
  exact resolvesTwice_of_apart hinv (hapart pre hpre)

/-- The second node is called what the host of the first is, and a third what its own is. -/
theorem resolvesTwice_throughout_named : Throughout step ResolvesTwice (SwarmRaft.new 1)
    [.bootstrap "db.internal:7946" "leader_key" none none,
      .addNode 2 "10.0.0.2:7946" "key2" none none, .setNodeName 2 "db.internal",
      .addNode 3 "cache:7946" "key3" none none, .setNodeName 3 "cache"] :=
  resolvesTwice_throughout 1 _ (by decide)

/-- Each of the two nodes has the alias of the other one as its host. -/
theorem hosts_resolve_to_each_other : ¬ Throughout step ResolvesTwice (SwarmRaft.new 1)
    [.bootstrap "node-2:7946" "leader_key" none none,
      .addNode 2 "node-1:7946" "key2" none none] := by
  intro h
  have htwice := h.exec "2" "node-1" (by decide)
  exact absurd htwice (by decide)

end Vyoma.Swarm
