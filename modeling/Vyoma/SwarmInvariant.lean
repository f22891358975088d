import Vyoma.OrderedMaps
import Vyoma.Runs
import Vyoma.SwarmRaft

/-!
# The representation invariant of the swarm

The four maps are updated separately, by direct calls and by commands. The
invariant ties them together: nodes and subnet leases have the same keys, each
lease is the one computed from the node id, placements are stored under their own
VM id, and once the swarm is initialised its own node is the only leader.
-/
namespace Vyoma.Swarm
open OrderedMaps Runs SwarmRaft

/-- The calls that change a `SwarmRaft`. -/
inductive Action where
  | bootstrap (addr publicKey : String) (wireguardKey : Option String)
      (wireguardPort : Option UInt16)
  | addNode (nodeId : UInt64) (addr publicKey : String) (wireguardKey : Option String)
      (wireguardPort : Option UInt16)
  | removeNode (nodeId : UInt64)
  | updateNodeEndpoint (nodeId : UInt64) (addr wireguardKey : Option String)
      (wireguardPort : Option UInt16)
  | setNodeName (nodeId : UInt64) (name : String)
  | submitCommand (cmd : SwarmCommand) (commandIndex : UInt64)
  | setSideEffectCallback
  | setLastAppliedIndex (index : UInt64)

def call (r : SwarmRaft) : Action → Outcome Unit
  | .bootstrap addr publicKey key port => r.bootstrap addr publicKey key port
  | .addNode nodeId addr publicKey key port => (r.addNode nodeId addr publicKey key port).void
  | .removeNode nodeId => r.removeNode nodeId
  | .updateNodeEndpoint nodeId addr key port => r.updateNodeEndpoint nodeId addr key port
  | .setNodeName nodeId name => r.setNodeName nodeId name
  | .submitCommand cmd commandIndex => r.submitCommand cmd commandIndex
  | .setSideEffectCallback => ⟨.ok (), r.setSideEffectCallback, []⟩
  | .setLastAppliedIndex index => ⟨.ok (), r.setLastAppliedIndex index, []⟩

def step (r : SwarmRaft) (a : Action) : SwarmRaft := (call r a).raft

theorem computeSubnetId_toNat (i : UInt64) : (computeSubnetId i).toNat = i.toNat % 254 + 1 := by
  unfold computeSubnetId
  split_ifs with h
  · rw [h]
    rfl
  · have hlt : i.toNat % 254 < 254 := Nat.mod_lt _ (by omega)
    simp only [UInt64.toNat_toUInt8, UInt64.toNat_add, UInt64.toNat_mod, UInt64.reduceToNat]
    omega

/-- The invariant as an induction hypothesis; its last three clauses say which node leads. -/
structure RepInv (r : SwarmRaft) : Prop where
  same_keys : ∀ i : UInt64, (r.nodes[i]?).isSome = (r.subnetMap[i]?).isSome
  node_key : ∀ (i : UInt64) n, r.nodes[i]? = some n → n.id = i
  node_subnet : ∀ (i : UInt64) n, r.nodes[i]? = some n → n.subnetId = some (computeSubnetId i)
  lease : ∀ (i : UInt64) u, r.subnetMap[i]? = some u → u = computeSubnetId i
  placement_key : ∀ (v : String) p, r.vmPlacements[v]? = some p → p.vmId = v
  uninitialized : r.isInitialized = false → ∀ i : UInt64, r.nodes[i]? = none
  leader : r.isInitialized = true → ∃ n, r.nodes[r.nodeId]? = some n ∧ n.isLeader = true
  sole_leader : ∀ (i : UInt64) n, r.nodes[i]? = some n → n.isLeader = true → i = r.nodeId

theorem repInv_new (localId : UInt64) : RepInv (SwarmRaft.new localId) := by
  constructor <;> simp [SwarmRaft.new]

section Steps

variable {r : SwarmRaft}

theorem RepInv.initialized_of_node (h : RepInv r) {i : UInt64} {n : NodeInfo}
    (hn : r.nodes[i]? = some n) : r.isInitialized = true := by
  by_contra hinit
  have hnone := h.uninitialized (by simpa using hinit) i
  rw [hn] at hnone
  cases hnone

theorem RepInv.leased (h : RepInv r) {i : UInt64} {n : NodeInfo}
    (hn : r.nodes[i]? = some n) : r.subnetMap[i]? = some (computeSubnetId i) := by
  have hsome := h.same_keys i
  rw [hn, Option.isSome_some, eq_comm, Option.isSome_iff_exists] at hsome
  obtain ⟨u, hu⟩ := hsome
  rw [hu, h.lease i u hu]

/-- Writing one node together with its lease, whether the node is new or known. -/
theorem RepInv.insertNode (h : RepInv r) {id : UInt64} {node : NodeInfo}
    {leases : Std.ExtTreeMap UInt64 UInt8} {initialized : Bool} (hset : initialized = true)
    (hinit : id = r.nodeId ∨ r.isInitialized = true)
    (hid : node.id = id) (hsubnet : node.subnetId = some (computeSubnetId id))
    (hlead : node.isLeader = true ↔ id = r.nodeId)
    (hleases : ∀ i : UInt64, leases[i]? =
      if id = i then some (computeSubnetId id) else r.subnetMap[i]?) :
    RepInv { r with
      nodes := r.nodes.insert id node, subnetMap := leases, isInitialized := initialized } where
  same_keys i := by
    simp only [lookup_insert, hleases]
    split_ifs
    · rfl
    · exact h.same_keys i
  node_key i n hn := by
    obtain ⟨rfl, rfl⟩ | ⟨_, hn⟩ := lookup_insert_eq_some_iff.mp hn
    · exact hid
    · exact h.node_key i n hn
  node_subnet i n hn := by
    obtain ⟨rfl, rfl⟩ | ⟨_, hn⟩ := lookup_insert_eq_some_iff.mp hn
    · exact hsubnet
    · exact h.node_subnet i n hn
  lease i u hu := by
    rw [hleases] at hu
    split_ifs at hu with hi
    · cases hu
      rw [hi]
    · exact h.lease i u hu
  placement_key := h.placement_key
  uninitialized hfalse := by rw [hset] at hfalse; cases hfalse
  leader _ := by
    rw [lookup_insert]
    split_ifs with hi
    · exact ⟨node, rfl, hlead.mpr hi⟩
    · exact h.leader (hinit.resolve_left hi)
  sole_leader i n hn hl := by
    obtain ⟨rfl, rfl⟩ | ⟨_, hn⟩ := lookup_insert_eq_some_iff.mp hn
    · exact hlead.mp hl
    · exact h.sole_leader i n hn hl

/-- `allocate_subnet` hands out the computed lease, stored before or stored now. -/
theorem RepInv.allocateSubnet (h : RepInv r) (id : UInt64) :
    ∃ leases : Std.ExtTreeMap UInt64 UInt8,
      r.allocateSubnet id = ({ r with subnetMap := leases }, computeSubnetId id) ∧
      ∀ i : UInt64, leases[i]? = if id = i then some (computeSubnetId id) else r.subnetMap[i]? := by
  unfold SwarmRaft.allocateSubnet
  cases hold : r.subnetMap[id]? with
  | some existing =>
    obtain rfl := h.lease id existing hold
    refine ⟨r.subnetMap, rfl, fun i => ?_⟩
    split_ifs with hi
    · rw [← hi, hold]
    · rfl
  | none =>
    exact ⟨r.subnetMap.insert id (computeSubnetId id), rfl, fun i => lookup_insert _ _ _ _⟩

@[simp] theorem withWireguardIfBoth_id (node : NodeInfo) (key : Option String)
    (port : Option UInt16) : (node.withWireguardIfBoth key port).id = node.id := by
  cases key <;> cases port <;> rfl

@[simp] theorem withWireguardIfBoth_subnetId (node : NodeInfo) (key : Option String)
    (port : Option UInt16) : (node.withWireguardIfBoth key port).subnetId = node.subnetId := by
  cases key <;> cases port <;> rfl

@[simp] theorem withWireguardIfBoth_isLeader (node : NodeInfo) (key : Option String)
    (port : Option UInt16) : (node.withWireguardIfBoth key port).isLeader = node.isLeader := by
  cases key <;> cases port <;> rfl

theorem repInv_bootstrap (h : RepInv r) (addr publicKey : String) (key : Option String)
    (port : Option UInt16) : RepInv (r.bootstrap addr publicKey key port).raft := by
  unfold SwarmRaft.bootstrap
  split_ifs with hinit
  · exact h
  · obtain ⟨leases, halloc, hleases⟩ := h.allocateSubnet r.nodeId
    rw [halloc]
    exact h.insertNode rfl (.inl rfl) (by simp [NodeInfo.new]) (by simp) (by simp) hleases

theorem repInv_addNode (h : RepInv r) (nodeId : UInt64) (addr publicKey : String)
    (key : Option String) (port : Option UInt16) :
    RepInv (r.addNode nodeId addr publicKey key port).raft := by
  unfold SwarmRaft.addNode
  split_ifs with hinit hknown
  · exact h
  · exact h
  · have hinit : r.isInitialized = true := by simpa using hinit
    have hother : nodeId ≠ r.nodeId := by
      intro he
      obtain ⟨n, hn, _⟩ := h.leader hinit
      apply hknown
      rw [he, Std.ExtTreeMap.contains_eq_isSome_getElem?, hn]
      rfl
    obtain ⟨leases, halloc, hleases⟩ := h.allocateSubnet nodeId
    rw [halloc]
    exact h.insertNode hinit (.inr hinit) (by simp [NodeInfo.new]) (by simp)
      (by simp [NodeInfo.new, hother]) hleases

/-- Rewriting fields of a known node that the invariant does not mention. -/
theorem RepInv.touchNode (h : RepInv r) {id : UInt64} {old node : NodeInfo}
    (hold : r.nodes[id]? = some old) (hid : node.id = old.id)
    (hsubnet : node.subnetId = old.subnetId) (hlead : node.isLeader = old.isLeader) :
    RepInv { r with nodes := r.nodes.insert id node } := by
  have hinit := h.initialized_of_node hold
  have hself : old.isLeader = true ↔ id = r.nodeId := by
    constructor
    · exact h.sole_leader id old hold
    · intro he
      obtain ⟨n, hn, hl⟩ := h.leader hinit
      rw [← he, hold] at hn
      cases hn
      exact hl
  have hleases : ∀ i : UInt64, r.subnetMap[i]? =
      if id = i then some (computeSubnetId id) else r.subnetMap[i]? := by
    intro i
    split_ifs with hi
    · rw [← hi, h.leased hold]
    · rfl
  exact h.insertNode hinit (.inr hinit) (hid.trans (h.node_key id old hold))
    (hsubnet.trans (h.node_subnet id old hold)) (by rw [hlead, hself]) hleases

theorem repInv_updateNodeEndpoint (h : RepInv r) (nodeId : UInt64) (addr key : Option String)
    (port : Option UInt16) : RepInv (r.updateNodeEndpoint nodeId addr key port).raft := by
  unfold SwarmRaft.updateNodeEndpoint
  split
  · exact h
  · rename_i node hnode
    exact h.touchNode hnode rfl rfl rfl

theorem repInv_setNodeName (h : RepInv r) (nodeId : UInt64) (name : String) :
    RepInv (r.setNodeName nodeId name).raft := by
  unfold SwarmRaft.setNodeName
  split
  · exact h
  · rename_i node hnode
    exact h.touchNode hnode rfl rfl rfl

theorem repInv_removeNode (h : RepInv r) (nodeId : UInt64) :
    RepInv (r.removeNode nodeId).raft := by
  unfold SwarmRaft.removeNode
  split_ifs with hself hknown
  · exact h
  · exact h
  · refine ⟨fun i => ?_, fun i n hn => ?_, fun i n hn => ?_, fun i u hu => ?_, fun v p hp => ?_,
      fun hinit i => ?_, fun hinit => ?_, fun i n hn hl => ?_⟩
    · simp only [lookup_erase]
      split_ifs
      · rfl
      · exact h.same_keys i
    · exact h.node_key i n (lookup_erase_eq_some_iff.mp hn).2
    · exact h.node_subnet i n (lookup_erase_eq_some_iff.mp hn).2
    · exact h.lease i u (lookup_erase_eq_some_iff.mp hu).2
    · rw [lookup_filter, Option.filter_eq_some_iff] at hp
      exact h.placement_key v p hp.1
    · rw [lookup_erase, h.uninitialized hinit i, ite_self]
    · obtain ⟨n, hn, hl⟩ := h.leader hinit
      exact ⟨n, by rw [lookup_erase, if_neg hself, hn], hl⟩
    · exact h.sole_leader i n (lookup_erase_eq_some_iff.mp hn).2 hl

/-- Placements may change freely as long as each keeps its own key. -/
theorem RepInv.setPlacements (h : RepInv r) {placements : Std.ExtTreeMap String VmPlacement}
    (hkey : ∀ (v : String) (p : VmPlacement), placements[v]? = some p → p.vmId = v) :
    RepInv { r with vmPlacements := placements } :=
  { h with placement_key := hkey }

theorem repInv_applyCommand (h : RepInv r) (cmd : SwarmCommand) :
    RepInv (r.applyCommand cmd).raft := by
  cases cmd with
  | addNode nodeId addr publicKey key port => exact repInv_addNode h nodeId addr publicKey key port
  | removeNode nodeId => exact repInv_removeNode h nodeId
  | updateNodeEndpoint nodeId addr key port =>
    exact repInv_updateNodeEndpoint h nodeId addr key port
  | registerNode nodeId addr publicKey => exact repInv_addNode h nodeId addr publicKey none none
  | deregisterNode nodeId => exact repInv_removeNode h nodeId
  | updateVmPlacement vmId nodeId =>
    apply h.setPlacements
    intro v p hp
    obtain ⟨rfl, rfl⟩ | ⟨_, hp⟩ := lookup_insert_eq_some_iff.mp hp
    · rfl
    · exact h.placement_key v p hp
  | removeVmPlacement vmId =>
    apply h.setPlacements
    intro v p hp
    exact h.placement_key v p (lookup_erase_eq_some_iff.mp hp).2
  | createService name spec => exact { h with }
  | updateService name spec => exact { h with }
  | deleteService name => exact { h with }

theorem repInv_submitCommand (h : RepInv r) (cmd : SwarmCommand) (commandIndex : UInt64) :
    RepInv (r.submitCommand cmd commandIndex).raft := by
  have happly := repInv_applyCommand h cmd
  obtain he | ⟨_, log, he⟩ := submitCommand_raft r cmd commandIndex
  · rw [he]
    exact h
  · rw [he]
    exact { happly with }

theorem repInv_step (r : SwarmRaft) (a : Action) (h : RepInv r) : RepInv (step r a) := by
  cases a with
  | bootstrap addr publicKey key port => exact repInv_bootstrap h addr publicKey key port
  | addNode nodeId addr publicKey key port => exact repInv_addNode h nodeId addr publicKey key port
  | removeNode nodeId => exact repInv_removeNode h nodeId
  | updateNodeEndpoint nodeId addr key port =>
    exact repInv_updateNodeEndpoint h nodeId addr key port
  | setNodeName nodeId name => exact repInv_setNodeName h nodeId name
  | submitCommand cmd commandIndex => exact repInv_submitCommand h cmd commandIndex
  | setSideEffectCallback => exact { h with }
  | setLastAppliedIndex index => exact { h with }

/-- What applying a command leaves alone: the local identity and the log of applied
indices. Initialisation is never taken back. -/
structure Frame (r r' : SwarmRaft) : Prop where
  node_id : r'.nodeId = r.nodeId
  log : r'.appliedCommands = r.appliedCommands
  initialized : r.isInitialized = true → r'.isInitialized = true

theorem Frame.refl (r : SwarmRaft) : Frame r r := ⟨rfl, rfl, id⟩

theorem frame_bootstrap (addr publicKey : String) (key : Option String) (port : Option UInt16) :
    Frame r (r.bootstrap addr publicKey key port).raft := by
  unfold SwarmRaft.bootstrap SwarmRaft.allocateSubnet
  split_ifs
  · exact Frame.refl r
  · cases r.subnetMap[r.nodeId]? <;> exact ⟨rfl, rfl, fun _ => rfl⟩

theorem frame_addNode (nodeId : UInt64) (addr publicKey : String) (key : Option String)
    (port : Option UInt16) : Frame r (r.addNode nodeId addr publicKey key port).raft := by
  unfold SwarmRaft.addNode SwarmRaft.allocateSubnet
  split_ifs
  · exact Frame.refl r
  · exact Frame.refl r
  · cases r.subnetMap[nodeId]? <;> exact ⟨rfl, rfl, id⟩

theorem frame_removeNode (nodeId : UInt64) : Frame r (r.removeNode nodeId).raft := by
  unfold SwarmRaft.removeNode
  split_ifs <;> exact ⟨rfl, rfl, id⟩

theorem frame_updateNodeEndpoint (nodeId : UInt64) (addr key : Option String)
    (port : Option UInt16) : Frame r (r.updateNodeEndpoint nodeId addr key port).raft := by
  unfold SwarmRaft.updateNodeEndpoint
  split <;> exact ⟨rfl, rfl, id⟩

theorem frame_setNodeName (nodeId : UInt64) (name : String) :
    Frame r (r.setNodeName nodeId name).raft := by
  unfold SwarmRaft.setNodeName
  split <;> exact ⟨rfl, rfl, id⟩

theorem frame_applyCommand (cmd : SwarmCommand) : Frame r (r.applyCommand cmd).raft := by
  cases cmd with
  | addNode nodeId addr publicKey key port => exact frame_addNode nodeId addr publicKey key port
  | removeNode nodeId => exact frame_removeNode nodeId
  | updateNodeEndpoint nodeId addr key port => exact frame_updateNodeEndpoint nodeId addr key port
  | registerNode nodeId addr publicKey => exact frame_addNode nodeId addr publicKey none none
  | deregisterNode nodeId => exact frame_removeNode nodeId
  | _ => exact ⟨rfl, rfl, id⟩

theorem step_local (r : SwarmRaft) (a : Action) : (step r a).nodeId = r.nodeId ∧
    (r.isInitialized = true → (step r a).isInitialized = true) := by
  have hlocal : ∀ {r' : SwarmRaft}, Frame r r' → r'.nodeId = r.nodeId ∧
      (r.isInitialized = true → r'.isInitialized = true) := fun h => ⟨h.node_id, h.initialized⟩
  cases a with
  | bootstrap addr publicKey key port => exact hlocal (frame_bootstrap addr publicKey key port)
  | addNode nodeId addr publicKey key port =>
    exact hlocal (frame_addNode nodeId addr publicKey key port)
  | removeNode nodeId => exact hlocal (frame_removeNode nodeId)
  | updateNodeEndpoint nodeId addr key port =>
    exact hlocal (frame_updateNodeEndpoint nodeId addr key port)
  | setNodeName nodeId name => exact hlocal (frame_setNodeName nodeId name)
  | submitCommand cmd commandIndex =>
    have happly := frame_applyCommand (r := r) cmd
    show (r.submitCommand cmd commandIndex).raft.nodeId = r.nodeId ∧
      (r.isInitialized = true → (r.submitCommand cmd commandIndex).raft.isInitialized = true)
    obtain he | ⟨_, log, he⟩ := submitCommand_raft r cmd commandIndex
    · rw [he]
      exact hlocal (Frame.refl r)
    · rw [he]
      exact ⟨happly.node_id, happly.initialized⟩
  | setSideEffectCallback => exact ⟨rfl, id⟩
  | setLastAppliedIndex index => exact ⟨rfl, id⟩

end Steps

theorem exec_local (r : SwarmRaft) (run : List Action) : (exec step r run).nodeId = r.nodeId ∧
    (r.isInitialized = true → (exec step r run).isInitialized = true) := by
  refine exec_of_invariant (Q := fun s : SwarmRaft => s.nodeId = r.nodeId ∧
    (r.isInitialized = true → s.isInitialized = true)) ⟨rfl, id⟩ (fun s a hs => ?_) run
  have hstep := step_local s a
  exact ⟨hstep.1.trans hs.1, fun hinit => hstep.2 (hs.2 hinit)⟩

/-- The correspondence of the four maps in a swarm run by node `localId`. -/
structure Consistent (localId : UInt64) (r : SwarmRaft) : Prop where
  local_id : r.nodeId = localId
  same_domain : ∀ i : UInt64, i ∈ r.nodes ↔ i ∈ r.subnetMap
  node_key : ∀ (i : UInt64) (n : NodeInfo), r.nodes[i]? = some n → n.id = i
  lease : ∀ (i : UInt64) (n : NodeInfo), r.nodes[i]? = some n → ∃ u : UInt8,
    n.subnetId = some u ∧ r.subnetMap[i]? = some u ∧ u = computeSubnetId i ∧
      1 ≤ u.toNat ∧ u.toNat ≤ 254
  placement_key : ∀ (v : String) (p : VmPlacement), r.vmPlacements[v]? = some p → p.vmId = v
  leads : r.isInitialized = true → ∃ n : NodeInfo, r.nodes[localId]? = some n ∧ n.isLeader = true
  leads_alone : r.isInitialized = true → ∀ (i : UInt64) (n : NodeInfo),
    r.nodes[i]? = some n → n.isLeader = true → i = localId

theorem RepInv.consistent {r : SwarmRaft} {localId : UInt64} (h : RepInv r)
    (hid : r.nodeId = localId) : Consistent localId r where
  local_id := hid
  same_domain i := by
    have hsame := h.same_keys i
    rw [← Std.ExtTreeMap.contains_iff_mem, ← Std.ExtTreeMap.contains_iff_mem,
      Std.ExtTreeMap.contains_eq_isSome_getElem?, Std.ExtTreeMap.contains_eq_isSome_getElem?, hsame]
  node_key := h.node_key
  lease i n hn := by
    have hlt : i.toNat % 254 < 254 := Nat.mod_lt _ (by omega)
    have hval := computeSubnetId_toNat i
    exact ⟨computeSubnetId i, h.node_subnet i n hn, h.leased hn, rfl, by omega, by omega⟩
  placement_key := h.placement_key
  leads := hid ▸ h.leader
  leads_alone _ := hid ▸ h.sole_leader

/-- In every state of every run the maps correspond, and from the state in which the
swarm is initialised on, its own node stays a member and the leader. -/
theorem swarm_consistent (localId : UInt64) (run : List Action) :
    Throughout step (Consistent localId) (SwarmRaft.new localId) run ∧
    ∀ pre post, run = pre ++ post →
      (exec step (SwarmRaft.new localId) pre).isInitialized = true →
      Throughout step (fun r => ∃ n : NodeInfo, r.nodes[localId]? = some n ∧ n.isLeader = true)
        (exec step (SwarmRaft.new localId) pre) post := by
  have hall : ∀ run, Consistent localId (exec step (SwarmRaft.new localId) run) := by
    intro run
    have hinv : RepInv (exec step (SwarmRaft.new localId) run) :=
      exec_of_invariant (repInv_new localId) repInv_step run
    have hid := (exec_local (SwarmRaft.new localId) run).1
    exact hinv.consistent hid
  refine ⟨fun pre _ => hall pre, fun pre post _ hinit mid _ => ?_⟩
  have hlater := (exec_local (exec step (SwarmRaft.new localId) pre) mid).2 hinit
  have hmid := hall (pre ++ mid)
  rw [exec_append] at hmid
  exact hmid.leads hlater

end Vyoma.Swarm
