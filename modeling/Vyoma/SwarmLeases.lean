import Vyoma.SwarmInvariant

/-!
# Uniqueness of subnet leases

A lease is the node id modulo 254, plus one, and no table of leases in use is
consulted. Two members therefore hold different leases exactly when their ids are in
different classes modulo 254, and a run keeps all leases different exactly when every
node that joins comes from a class no member is in.
-/
namespace Vyoma.Swarm
open OrderedMaps Runs SwarmRaft

theorem computeSubnetId_eq_iff (i j : UInt64) :
    computeSubnetId i = computeSubnetId j ↔ i.toNat % 254 = j.toNat % 254 := by
  rw [← UInt8.toNat_inj, computeSubnetId_toNat, computeSubnetId_toNat]
  omega

/-- Any two distinct members have different overlay subnets. -/
def LeasesUnique (r : SwarmRaft) : Prop :=
  ∀ (i j : UInt64) (m n : NodeInfo), r.nodes[i]? = some m → r.nodes[j]? = some n → i ≠ j →
    m.subnetId ≠ n.subnetId

/-- Whether `add_node` accepts a node id in this state. -/
def acceptsNode (r : SwarmRaft) (nodeId : UInt64) : Bool :=
  r.isInitialized && !r.nodes.contains nodeId

/-- The node id a command asks to add. -/
def SwarmCommand.addedNode : SwarmCommand → Option UInt64
  | .addNode nodeId .. => some nodeId
  | .registerNode nodeId .. => some nodeId
  | _ => none

/-- The node a call adds beside the existing members. -/
def joining (r : SwarmRaft) : Action → Option UInt64
  | .addNode nodeId .. => if acceptsNode r nodeId then some nodeId else none
  | .submitCommand cmd commandIndex =>
    if r.appliedCommands.contains commandIndex then none
    else cmd.addedNode.filter (acceptsNode r)
  | _ => none

/-- A joining node is in another class modulo 254 than every member. -/
def JoinsFreeClass (r : SwarmRaft) (a : Action) : Prop :=
  ∀ id, joining r a = some id → ∀ i : UInt64, i ∈ r.nodes → i.toNat % 254 ≠ id.toNat % 254

theorem leasesUnique_iff {r : SwarmRaft} (h : RepInv r) :
    LeasesUnique r ↔ ∀ i j : UInt64, i ∈ r.nodes → j ∈ r.nodes → i ≠ j →
      i.toNat % 254 ≠ j.toNat % 254 := by
  constructor
  · intro hu i j hi hj hne hmod
    obtain ⟨m, hm⟩ := mem_iff_lookup.mp hi
    obtain ⟨n, hn⟩ := mem_iff_lookup.mp hj
    apply hu i j m n hm hn hne
    rw [h.node_subnet i m hm, h.node_subnet j n hn, (computeSubnetId_eq_iff i j).mpr hmod]
  · intro hu i j m n hm hn hne he
    rw [h.node_subnet i m hm, h.node_subnet j n hn, Option.some.injEq, computeSubnetId_eq_iff] at he
    exact hu i j (mem_iff_lookup.mpr ⟨m, hm⟩) (mem_iff_lookup.mpr ⟨n, hn⟩) hne he

section Members

variable {r : SwarmRaft}

theorem acceptsNode_iff {id : UInt64} :
    acceptsNode r id = true ↔ r.isInitialized = true ∧ id ∉ r.nodes := by
  rw [acceptsNode, Bool.and_eq_true, Bool.not_eq_true', ← Bool.not_eq_true,
    Std.ExtTreeMap.contains_iff_mem]

theorem mem_addNode_accepted {id : UInt64} (haccept : acceptsNode r id = true)
    (addr publicKey : String) (key : Option String) (port : Option UInt16) (i : UInt64) :
    i ∈ (r.addNode id addr publicKey key port).raft.nodes ↔ i = id ∨ i ∈ r.nodes := by
  obtain ⟨hinit, hnew⟩ := acceptsNode_iff.mp haccept
  unfold SwarmRaft.addNode SwarmRaft.allocateSubnet
  rw [if_neg (by simp [hinit]), if_neg (by simpa using hnew)]
  cases r.subnetMap[id]? <;> rw [mem_insert_iff, eq_comm]

theorem addNode_rejected {id : UInt64} (hreject : acceptsNode r id = false)
    (addr publicKey : String) (key : Option String) (port : Option UInt16) :
    (r.addNode id addr publicKey key port).raft = r := by
  unfold SwarmRaft.addNode
  split_ifs with hinit hknown
  · rfl
  · rfl
  · have haccept : acceptsNode r id = true := by
      rw [acceptsNode_iff]
      exact ⟨by simpa using hinit, by simpa using hknown⟩
    rw [haccept] at hreject
    cases hreject

theorem mem_removeNode {id i : UInt64} (hi : i ∈ (r.removeNode id).raft.nodes) : i ∈ r.nodes := by
  unfold SwarmRaft.removeNode at hi
  split_ifs at hi
  · exact hi
  · exact hi
  · exact Std.ExtTreeMap.mem_of_mem_erase hi

/-- Rewriting the record of a known node keeps the set of members. -/
theorem mem_insert_known {id i : UInt64} {old node : NodeInfo} (hold : r.nodes[id]? = some old)
    (hi : i ∈ r.nodes.insert id node) : i ∈ r.nodes := by
  rw [mem_insert_iff] at hi
  obtain he | hi := hi
  · exact he ▸ mem_iff_lookup.mpr ⟨old, hold⟩
  · exact hi

theorem mem_updateNodeEndpoint {id i : UInt64} {addr key : Option String} {port : Option UInt16}
    (hi : i ∈ (r.updateNodeEndpoint id addr key port).raft.nodes) : i ∈ r.nodes := by
  unfold SwarmRaft.updateNodeEndpoint at hi
  split at hi
  · exact hi
  · rename_i old hold
    exact mem_insert_known hold hi

theorem mem_setNodeName {id i : UInt64} {name : String}
    (hi : i ∈ (r.setNodeName id name).raft.nodes) : i ∈ r.nodes := by
  unfold SwarmRaft.setNodeName at hi
  split at hi
  · exact hi
  · rename_i old hold
    exact mem_insert_known hold hi

theorem mem_applyCommand {cmd : SwarmCommand} (hnone : cmd.addedNode.filter (acceptsNode r) = none)
    {i : UInt64} (hi : i ∈ (r.applyCommand cmd).raft.nodes) : i ∈ r.nodes := by
  have hadd : ∀ id addr publicKey key port, acceptsNode r id = false →
      i ∈ (r.addNode id addr publicKey key port).raft.nodes → i ∈ r.nodes := by
    intro id addr publicKey key port hreject hi
    rwa [addNode_rejected hreject] at hi
  cases cmd with
  | addNode nodeId addr publicKey key port =>
    exact hadd nodeId addr publicKey key port (by simpa [SwarmCommand.addedNode] using hnone) hi
  | removeNode nodeId => exact mem_removeNode hi
  | updateNodeEndpoint nodeId addr key port => exact mem_updateNodeEndpoint hi
  | registerNode nodeId addr publicKey =>
    exact hadd nodeId addr publicKey none none (by simpa [SwarmCommand.addedNode] using hnone) hi
  | deregisterNode nodeId => exact mem_removeNode hi
  | _ => exact hi

/-- Without a joining node the set of members can only shrink, once there is one. -/
theorem mem_step_of_joining_none {a : Action} (h : RepInv r) (hnone : joining r a = none)
    {i : UInt64} (hi : i ∈ (step r a).nodes) : i ∈ r.nodes ∨ i = r.nodeId := by
  cases a with
  | bootstrap addr publicKey key port =>
    change i ∈ (r.bootstrap addr publicKey key port).raft.nodes at hi
    unfold SwarmRaft.bootstrap at hi
    split_ifs at hi
    · exact .inl hi
    · obtain ⟨leases, halloc, _⟩ := h.allocateSubnet r.nodeId
      rw [halloc] at hi
      exact (mem_insert_iff.mp hi).symm.imp id Eq.symm
  | addNode nodeId addr publicKey key port =>
    have hreject : acceptsNode r nodeId = false := by simpa [joining] using hnone
    change i ∈ (r.addNode nodeId addr publicKey key port).raft.nodes at hi
    rw [addNode_rejected hreject] at hi
    exact .inl hi
  | removeNode nodeId => exact .inl (mem_removeNode hi)
  | updateNodeEndpoint nodeId addr key port => exact .inl (mem_updateNodeEndpoint hi)
  | setNodeName nodeId name => exact .inl (mem_setNodeName hi)
  | setSideEffectCallback => exact .inl hi
  | setLastAppliedIndex index => exact .inl hi
  | submitCommand cmd commandIndex =>
    change i ∈ (r.submitCommand cmd commandIndex).raft.nodes at hi
    obtain he | ⟨hfresh, log, he⟩ := submitCommand_raft r cmd commandIndex
    · rw [he] at hi
      exact .inl hi
    · rw [he] at hi
      exact .inl (mem_applyCommand (by simpa [joining, hfresh] using hnone) hi)

theorem mem_applyCommand_joining {cmd : SwarmCommand} {id : UInt64}
    (hsome : cmd.addedNode.filter (acceptsNode r) = some id) (i : UInt64) :
    i ∈ (r.applyCommand cmd).raft.nodes ↔ i = id ∨ i ∈ r.nodes := by
  rw [Option.filter_eq_some_iff] at hsome
  obtain ⟨hid, haccept⟩ := hsome
  cases cmd with
  | addNode nodeId addr publicKey key port =>
    cases hid
    exact mem_addNode_accepted haccept addr publicKey key port i
  | registerNode nodeId addr publicKey =>
    cases hid
    exact mem_addNode_accepted haccept addr publicKey none none i
  | _ => cases hid

theorem mem_step_of_joining_some {a : Action} {id : UInt64} (hsome : joining r a = some id) :
    id ∉ r.nodes ∧ ∀ i : UInt64, i ∈ (step r a).nodes ↔ i = id ∨ i ∈ r.nodes := by
  cases a with
  | addNode nodeId addr publicKey key port =>
    obtain ⟨haccept, rfl⟩ : acceptsNode r nodeId = true ∧ nodeId = id := by
      simpa [joining] using hsome
    exact ⟨(acceptsNode_iff.mp haccept).2, mem_addNode_accepted haccept addr publicKey key port⟩
  | submitCommand cmd commandIndex =>
    obtain ⟨hfresh, hadded⟩ : commandIndex ∉ r.appliedCommands ∧
        cmd.addedNode.filter (acceptsNode r) = some id := by
      simpa [joining] using hsome
    have haccept := acceptsNode_iff.mp (Option.filter_eq_some_iff.mp hadded).2
    refine ⟨haccept.2, fun i => ?_⟩
    show i ∈ (r.submitCommand cmd commandIndex).raft.nodes ↔ _
    rw [← mem_applyCommand_joining hadded i]
    obtain ⟨hinit, _⟩ | ⟨_, hold, _⟩ | ⟨_, _, _, he⟩ | ⟨_, _, _, he⟩ :=
      submitCommand_cases r cmd commandIndex
    · rw [haccept.1] at hinit
      cases hinit
    · exact absurd hold hfresh
    · rw [he]
    · rw [he]
  | _ => cases hsome

end Members

/-- One call keeps the leases different exactly when no node joins into a taken class. -/
theorem leasesUnique_step_iff {r : SwarmRaft} {a : Action} (h : RepInv r)
    (hunique : LeasesUnique r) : LeasesUnique (step r a) ↔ JoinsFreeClass r a := by
  rw [leasesUnique_iff (repInv_step r a h)]
  rw [leasesUnique_iff h] at hunique
  cases hjoin : joining r a with
  | none =>
    refine iff_of_true (fun i j hi hj hne => ?_) (fun id hid => by rw [hjoin] at hid; cases hid)
    have hself : ∀ k : UInt64, k ∈ r.nodes → r.nodeId ∈ r.nodes := by
      intro k hk
      obtain ⟨n, hn⟩ := mem_iff_lookup.mp hk
      obtain ⟨m, hm, _⟩ := h.leader (h.initialized_of_node hn)
      exact mem_iff_lookup.mpr ⟨m, hm⟩
    obtain hi | hi := mem_step_of_joining_none h hjoin hi
    · obtain hj | hj := mem_step_of_joining_none h hjoin hj
      · exact hunique i j hi hj hne
      · exact hunique i j hi (hj ▸ hself i hi) hne
    · obtain hj | hj := mem_step_of_joining_none h hjoin hj
      · exact hunique i j (hi ▸ hself j hj) hj hne
      · exact absurd (hi.trans hj.symm) hne
  | some id =>
    obtain ⟨hnew, hmem⟩ := mem_step_of_joining_some hjoin
    constructor
    · intro hafter id' hid' i hi
      rw [hjoin] at hid'
      cases hid'
      have hne : i ≠ id := fun he => hnew (he ▸ hi)
      exact hafter i id ((hmem i).mpr (.inr hi)) ((hmem id).mpr (.inl rfl)) hne
    · intro hfree i j hi hj hne
      have hother : ∀ k : UInt64, k ∈ r.nodes → k.toNat % 254 ≠ id.toNat % 254 := hfree id hjoin
      obtain rfl | hi := (hmem i).mp hi
      · obtain rfl | hj := (hmem j).mp hj
        · exact absurd rfl hne
        · exact (hother j hj).symm
      · obtain rfl | hj := (hmem j).mp hj
        · exact hother i hi
        · exact hunique i j hi hj hne

/-- Over every run from a fresh instance, all leases stay different exactly when every
node that joins is in another class modulo 254 than the members it joins. -/
theorem leasesUnique_throughout_iff (localId : UInt64)
    (run : List Action) :
    Throughout step LeasesUnique (SwarmRaft.new localId) run ↔
      Along step JoinsFreeClass (SwarmRaft.new localId) run := by
  refine throughout_iff_along_of_invariant (repInv_new localId) repInv_step ?_
    (fun r a hinv hunique => leasesUnique_step_iff hinv hunique) run
  intro i j m n hm
  have hnone := (repInv_new localId).uninitialized rfl i
  rw [hm] at hnone
  cases hnone

/-- Nodes 1 and 255 both lease subnet 2. -/
theorem leases_collide_one_and_255 :
    ¬ Throughout step LeasesUnique (SwarmRaft.new 1)
      [.bootstrap "10.0.0.1:7946" "leader_key" none none,
        .addNode 255 "10.0.0.255:7946" "key255" none none] := by
  intro h
  have hlast := h.exec
  simp only [exec_cons, exec_nil] at hlast
  generalize hend : step _ _ = r at hlast
  have hone : (r.nodes[(1 : UInt64)]?).map NodeInfo.subnetId = some (some 2) := by
    rw [← hend]
    decide
  have hother : (r.nodes[(255 : UInt64)]?).map NodeInfo.subnetId = some (some 2) := by
    rw [← hend]
    decide
  obtain ⟨m, hm, hsm⟩ := Option.map_eq_some_iff.mp hone
  obtain ⟨n, hn, hsn⟩ := Option.map_eq_some_iff.mp hother
  exact hlast 1 255 m n hm hn (by decide) (hsm.trans hsn.symm)

end Vyoma.Swarm
