import Vyoma.SwarmLeases

/-!
# What the side effects tell about the members

The callback sees effects only. Folding them gives a view of the remote members: a node
is inserted when it is added, deleted when it is removed, and its fields overwritten when
it is updated. `add_node` stores a WireGuard endpoint only when key and port are both
given, but reports whatever was given, so the view is that of the nodes exactly along
runs in which each joining node brings both or neither.
-/
namespace Vyoma.Swarm
open OrderedMaps Runs SwarmRaft

/-- The record `bootstrap` stores. -/
def bootstrapNode (nodeId : UInt64) (addr publicKey : String) (key : Option String)
    (port : Option UInt16) : NodeInfo :=
  { NodeInfo.new nodeId addr publicKey with
    isLeader := true
    subnetId := some (computeSubnetId nodeId) }.withWireguardIfBoth key port

/-- The record `add_node` stores. -/
def joinedNode (nodeId : UInt64) (addr publicKey : String) (key : Option String)
    (port : Option UInt16) : NodeInfo :=
  { NodeInfo.new nodeId addr publicKey with
    subnetId := some (computeSubnetId nodeId) }.withWireguardIfBoth key port

/-- The record `update_node_endpoint` stores. -/
def updatedNode (node : NodeInfo) (addr key : Option String) (port : Option UInt16) : NodeInfo :=
  { node with
    addr := addr.getD node.addr
    wireguardKey := key.or node.wireguardKey
    wireguardPort := port.or node.wireguardPort }

section Outcomes

variable {r : SwarmRaft}

theorem addNode_eq (h : RepInv r) {nodeId : UInt64} (haccept : acceptsNode r nodeId = true)
    (addr publicKey : String) (key : Option String) (port : Option UInt16) :
    ∃ leases, ∃ r' : SwarmRaft, r' = { r with
        nodes := r.nodes.insert nodeId (joinedNode nodeId addr publicKey key port)
        subnetMap := leases } ∧
      r.addNode nodeId addr publicKey key port =
        ⟨.ok (computeSubnetId nodeId), r', r'.triggerSideEffects
          [.nodeAdded nodeId addr key port (computeSubnetId nodeId), r'.localNodeConfigured]⟩ := by
  obtain ⟨hinit, hnew⟩ := acceptsNode_iff.mp haccept
  obtain ⟨leases, halloc, _⟩ := h.allocateSubnet nodeId
  refine ⟨leases, _, rfl, ?_⟩
  unfold SwarmRaft.addNode
  rw [if_neg (by simp [hinit]), if_neg (by simpa using hnew), halloc]
  rfl

theorem addNode_fails {nodeId : UInt64} (hreject : acceptsNode r nodeId = false)
    (addr publicKey : String) (key : Option String) (port : Option UInt16) :
    ∃ e, r.addNode nodeId addr publicKey key port = r.fail e := by
  unfold SwarmRaft.addNode
  split_ifs with hinit hknown
  · exact ⟨_, rfl⟩
  · exact ⟨_, rfl⟩
  · have haccept : acceptsNode r nodeId = true :=
      acceptsNode_iff.mpr ⟨by simpa using hinit, by simpa using hknown⟩
    rw [haccept] at hreject
    cases hreject

/-- Whether `remove_node` accepts a node id in this state. -/
def removesNode (r : SwarmRaft) (nodeId : UInt64) : Bool :=
  nodeId ≠ r.nodeId && r.nodes.contains nodeId

theorem removeNode_fails {nodeId : UInt64} (hreject : removesNode r nodeId = false) :
    ∃ e, r.removeNode nodeId = r.fail e := by
  unfold SwarmRaft.removeNode
  split_ifs with hself hknown
  · exact ⟨_, rfl⟩
  · exact ⟨_, rfl⟩
  · simp [removesNode, hself] at hreject
    simp [hreject] at hknown

theorem removeNode_eq {nodeId : UInt64} (haccept : removesNode r nodeId = true) :
    ∃ r' : SwarmRaft, r' = { r with
        nodes := r.nodes.erase nodeId
        subnetMap := r.subnetMap.erase nodeId
        vmPlacements := r.vmPlacements.filter (fun _ p => p.nodeId ≠ nodeId) } ∧
      r.removeNode nodeId = ⟨.ok (), r', r'.triggerSideEffects
        [.nodeRemoved nodeId ((r.subnetMap[nodeId]?).getD 0), r'.localNodeConfigured]⟩ := by
  rw [removesNode, Bool.and_eq_true, decide_eq_true_iff] at haccept
  refine ⟨_, rfl, ?_⟩
  unfold SwarmRaft.removeNode
  rw [if_neg haccept.1, if_neg (by simp [haccept.2])]

theorem updateNodeEndpoint_fails {nodeId : UInt64} (hnone : r.nodes[nodeId]? = none)
    (addr key : Option String) (port : Option UInt16) :
    ∃ e, r.updateNodeEndpoint nodeId addr key port = r.fail e := by
  unfold SwarmRaft.updateNodeEndpoint
  rw [hnone]
  exact ⟨_, rfl⟩

theorem updateNodeEndpoint_eq {nodeId : UInt64} {node : NodeInfo}
    (hnode : r.nodes[nodeId]? = some node) (addr key : Option String) (port : Option UInt16) :
    ∃ r' : SwarmRaft,
      r' = { r with nodes := r.nodes.insert nodeId (updatedNode node addr key port) } ∧
      r.updateNodeEndpoint nodeId addr key port = ⟨.ok (), r', r'.triggerSideEffects
        [.nodeUpdated nodeId (node.subnetId.getD 0) addr key port]⟩ := by
  refine ⟨_, rfl, ?_⟩
  unfold SwarmRaft.updateNodeEndpoint
  rw [hnode]
  rfl

end Outcomes

/-! ## The view folded from the effects -/

/-- What an observer of the effects keeps of a node. -/
structure Member where
  addr : String
  wireguardKey : Option String
  wireguardPort : Option UInt16
  subnetId : Option UInt8
  deriving DecidableEq, Repr

def NodeInfo.member (node : NodeInfo) : Member :=
  ⟨node.addr, node.wireguardKey, node.wireguardPort, node.subnetId⟩

def Member.update (m : Member) (addr key : Option String) (port : Option UInt16) : Member :=
  { m with
    addr := addr.getD m.addr
    wireguardKey := key.or m.wireguardKey
    wireguardPort := port.or m.wireguardPort }

/-- One effect, as an observer on node `localId` records it. -/
def applyEffect (localId : UInt64) (view : Std.ExtTreeMap UInt64 Member) :
    SwarmSideEffect → Std.ExtTreeMap UInt64 Member
  | .nodeAdded nodeId addr key port subnetId => view.insert nodeId ⟨addr, key, port, some subnetId⟩
  | .nodeRemoved nodeId _ => view.erase nodeId
  | .nodeUpdated nodeId _ addr key port =>
    if nodeId = localId then view
    else
      match view[nodeId]? with
      | some m => view.insert nodeId (m.update addr key port)
      | none => view
  | .localNodeConfigured .. => view

def foldEffects (localId : UInt64) (effects : List SwarmSideEffect) :
    Std.ExtTreeMap UInt64 Member := effects.foldl (applyEffect localId) ∅

/-- The view holds the remote members, each as it is stored, and nothing else. -/
def Agrees (view : Std.ExtTreeMap UInt64 Member) (r : SwarmRaft) : Prop :=
  ∀ i : UInt64, view[i]? = if i = r.nodeId then none else (r.nodes[i]?).map NodeInfo.member

theorem member_joinedNode (nodeId : UInt64) (addr publicKey : String) (key : Option String)
    (port : Option UInt16) :
    (joinedNode nodeId addr publicKey key port).member =
        ⟨addr, key, port, some (computeSubnetId nodeId)⟩ ↔ key.isSome = port.isSome := by
  cases key <;> cases port <;>
    simp [joinedNode, NodeInfo.member, NodeInfo.withWireguardIfBoth, NodeInfo.withWireguard,
      NodeInfo.new]

theorem member_updatedNode (node : NodeInfo) (addr key : Option String) (port : Option UInt16) :
    (updatedNode node addr key port).member = node.member.update addr key port := rfl

section Views

variable {r : SwarmRaft} {view : Std.ExtTreeMap UInt64 Member}

/-- The view that the effects of one call leave, on the node itself. -/
def observed {α : Type} (r : SwarmRaft) (view : Std.ExtTreeMap UInt64 Member) (o : Outcome α) :
    Std.ExtTreeMap UInt64 Member := o.effects.foldl (applyEffect r.nodeId) view

/-- A node that joins is not the local one. -/
theorem ne_of_acceptsNode (hinv : RepInv r) {nodeId : UInt64} (h : acceptsNode r nodeId = true) :
    nodeId ≠ r.nodeId := by
  intro hself
  obtain ⟨hinit, hnew⟩ := acceptsNode_iff.mp h
  obtain ⟨n, hn, _⟩ := hinv.leader hinit
  exact hnew (hself ▸ mem_iff_lookup.mpr ⟨n, hn⟩)

theorem agrees_addNode_iff (hinv : RepInv r) (hcallback : r.hasCallback = true)
    (h : Agrees view r) (nodeId : UInt64) (addr publicKey : String) (key : Option String)
    (port : Option UInt16) :
    Agrees (observed r view (r.addNode nodeId addr publicKey key port))
        (r.addNode nodeId addr publicKey key port).raft ↔
      (acceptsNode r nodeId = true → key.isSome = port.isSome) := by
  cases haccept : acceptsNode r nodeId with
  | false =>
    obtain ⟨e, he⟩ := addNode_fails haccept addr publicKey key port
    rw [he]
    exact iff_of_true h (by simp)
  | true =>
    obtain ⟨leases, r', hr', he⟩ := addNode_eq hinv haccept addr publicKey key port
    have hremote : nodeId ≠ r.nodeId := ne_of_acceptsNode hinv haccept
    have hview : observed r view (r.addNode nodeId addr publicKey key port) =
        view.insert nodeId ⟨addr, key, port, some (computeSubnetId nodeId)⟩ := by
      rw [he, hr']
      simp [observed, triggerSideEffects, hcallback, applyEffect, localNodeConfigured]
    rw [hview, he, ← member_joinedNode nodeId addr publicKey]
    subst hr'
    constructor
    · intro hafter _
      have hself := hafter nodeId
      simp only [lookup_insert, if_true, if_neg hremote, Option.map_some, Option.some.injEq] at hself
      exact hself.symm
    · intro hmember i
      by_cases hi : nodeId = i
      · subst hi
        simp [hremote, hmember rfl]
      · simp only [lookup_insert, if_neg hi]
        exact h i

theorem agrees_removeNode (hcallback : r.hasCallback = true) (h : Agrees view r)
    (nodeId : UInt64) :
    Agrees (observed r view (r.removeNode nodeId)) (r.removeNode nodeId).raft := by
  cases haccept : removesNode r nodeId with
  | false =>
    obtain ⟨e, he⟩ := removeNode_fails haccept
    rw [he]
    exact h
  | true =>
    obtain ⟨r', hr', he⟩ := removeNode_eq haccept
    have hview : observed r view (r.removeNode nodeId) = view.erase nodeId := by
      rw [he, hr']
      simp [observed, triggerSideEffects, hcallback, applyEffect, localNodeConfigured]
    rw [hview, he, hr']
    intro i
    by_cases hi : nodeId = i
    · simp [hi]
    · simp only [lookup_erase, if_neg hi]
      exact h i

theorem agrees_updateNodeEndpoint (hcallback : r.hasCallback = true) (h : Agrees view r)
    (nodeId : UInt64) (addr key : Option String) (port : Option UInt16) :
    Agrees (observed r view (r.updateNodeEndpoint nodeId addr key port))
      (r.updateNodeEndpoint nodeId addr key port).raft := by
  cases hnode : r.nodes[nodeId]? with
  | none =>
    obtain ⟨e, he⟩ := updateNodeEndpoint_fails hnode addr key port
    rw [he]
    exact h
  | some node =>
    obtain ⟨r', hr', he⟩ := updateNodeEndpoint_eq hnode addr key port
    have hview : observed r view (r.updateNodeEndpoint nodeId addr key port) =
        applyEffect r.nodeId view (.nodeUpdated nodeId (node.subnetId.getD 0) addr key port) := by
      rw [he, hr']
      simp [observed, triggerSideEffects, hcallback]
    rw [hview, he, hr']
    intro i
    by_cases hself : nodeId = r.nodeId
    · have hold := h i
      by_cases hi : i = r.nodeId
      · simpa [applyEffect, hself, hi] using hold
      · have hne : r.nodeId ≠ i := fun heq => hi heq.symm
        simpa [applyEffect, hself, hi, lookup_insert, hne] using hold
    · have hmember : view[nodeId]? = some node.member := by
        rw [h nodeId, if_neg hself, hnode, Option.map_some]
      simp only [applyEffect, if_neg hself, hmember, lookup_insert]
      by_cases hi : nodeId = i
      · subst hi
        simp [hself, member_updatedNode]
      · rw [if_neg hi, if_neg hi]
        exact h i

/-- A node that joins by a command brings key and port both or neither. -/
def SwarmCommand.wholeEndpoint (r : SwarmRaft) : SwarmCommand → Prop
  | .addNode nodeId _ _ key port => acceptsNode r nodeId = true → key.isSome = port.isSome
  | _ => True

theorem agrees_applyCommand_iff (hinv : RepInv r) (hcallback : r.hasCallback = true)
    (h : Agrees view r) (cmd : SwarmCommand) :
    Agrees (observed r view (r.applyCommand cmd)) (r.applyCommand cmd).raft ↔
      cmd.wholeEndpoint r := by
  cases cmd with
  | addNode nodeId addr publicKey key port =>
    exact agrees_addNode_iff hinv hcallback h nodeId addr publicKey key port
  | removeNode nodeId => exact iff_of_true (agrees_removeNode hcallback h nodeId) trivial
  | updateNodeEndpoint nodeId addr key port =>
    exact iff_of_true (agrees_updateNodeEndpoint hcallback h nodeId addr key port) trivial
  | registerNode nodeId addr publicKey =>
    refine iff_of_true ?_ trivial
    exact (agrees_addNode_iff hinv hcallback h nodeId addr publicKey none none).mpr fun _ => rfl
  | deregisterNode nodeId => exact iff_of_true (agrees_removeNode hcallback h nodeId) trivial
  | _ => exact iff_of_true h trivial

/-- A node that joins brings its WireGuard key and port both or neither. -/
def WholeEndpoint (r : SwarmRaft) : Action → Prop
  | .addNode nodeId _ _ key port => acceptsNode r nodeId = true → key.isSome = port.isSome
  | .submitCommand cmd commandIndex => r.isInitialized = true → commandIndex ∉ r.appliedCommands →
      cmd.wholeEndpoint r
  | _ => True

theorem agrees_submitCommand_iff (hinv : RepInv r) (hcallback : r.hasCallback = true)
    (h : Agrees view r) (cmd : SwarmCommand) (commandIndex : UInt64) :
    Agrees (observed r view (r.submitCommand cmd commandIndex))
        (r.submitCommand cmd commandIndex).raft ↔
      WholeEndpoint r (.submitCommand cmd commandIndex) := by
  have happly := agrees_applyCommand_iff hinv hcallback h cmd
  unfold WholeEndpoint
  obtain ⟨hinit, he⟩ | ⟨_, hold, he⟩ | ⟨hinit, hfresh, _, he⟩ | ⟨hinit, hfresh, _, he⟩ :=
    submitCommand_cases r cmd commandIndex
  · rw [he]
    exact iff_of_true h (by simp [hinit])
  · rw [he]
    exact iff_of_true h fun _ hnew => absurd hold hnew
  · rw [he, happly]
    simp [hinit, hfresh]
  · rw [he]
    simp only [hinit, hfresh, not_false_eq_true, true_implies]
    exact happly

theorem agrees_bootstrap (hinv : RepInv r) (hcallback : r.hasCallback = true) (h : Agrees view r)
    (addr publicKey : String) (key : Option String) (port : Option UInt16) :
    Agrees (observed r view (r.bootstrap addr publicKey key port))
      (r.bootstrap addr publicKey key port).raft := by
  unfold SwarmRaft.bootstrap
  split_ifs
  · exact h
  · obtain ⟨leases, halloc, _⟩ := hinv.allocateSubnet r.nodeId
    rw [halloc]
    intro i
    have hold := h i
    by_cases hi : i = r.nodeId
    · simpa [observed, triggerSideEffects, hcallback, applyEffect, hi] using hold
    · have hne : r.nodeId ≠ i := fun heq => hi heq.symm
      simpa [observed, triggerSideEffects, hcallback, applyEffect, lookup_insert, hi, hne] using hold

theorem agrees_call_iff (hinv : RepInv r) (hcallback : r.hasCallback = true) (h : Agrees view r)
    (a : Action) :
    Agrees (observed r view (call r a)) (call r a).raft ↔ WholeEndpoint r a := by
  cases a with
  | bootstrap addr publicKey key port =>
    exact iff_of_true (agrees_bootstrap hinv hcallback h addr publicKey key port) trivial
  | addNode nodeId addr publicKey key port =>
    exact agrees_addNode_iff hinv hcallback h nodeId addr publicKey key port
  | removeNode nodeId => exact iff_of_true (agrees_removeNode hcallback h nodeId) trivial
  | updateNodeEndpoint nodeId addr key port =>
    exact iff_of_true (agrees_updateNodeEndpoint hcallback h nodeId addr key port) trivial
  | setNodeName nodeId name =>
    refine iff_of_true ?_ trivial
    show Agrees (observed r view (r.setNodeName nodeId name)) (r.setNodeName nodeId name).raft
    unfold SwarmRaft.setNodeName
    cases hnode : r.nodes[nodeId]? with
    | none => exact h
    | some node =>
      intro i
      have hold := h i
      by_cases hi : nodeId = i
      · subst hi
        simpa [observed, hnode, NodeInfo.member] using hold
      · simpa [observed, lookup_insert, hi] using hold
  | submitCommand cmd commandIndex => exact agrees_submitCommand_iff hinv hcallback h cmd commandIndex
  | setSideEffectCallback => exact iff_of_true h trivial
  | setLastAppliedIndex index => exact iff_of_true h trivial

end Views

section Callback

variable (r : SwarmRaft)

theorem hasCallback_addNode (nodeId : UInt64) (addr publicKey : String) (key : Option String)
    (port : Option UInt16) :
    (r.addNode nodeId addr publicKey key port).raft.hasCallback = r.hasCallback := by
  unfold SwarmRaft.addNode SwarmRaft.allocateSubnet
  split_ifs
  · rfl
  · rfl
  · cases r.subnetMap[nodeId]? <;> rfl

theorem hasCallback_removeNode (nodeId : UInt64) :
    (r.removeNode nodeId).raft.hasCallback = r.hasCallback := by
  unfold SwarmRaft.removeNode
  split_ifs <;> rfl

theorem hasCallback_updateNodeEndpoint (nodeId : UInt64) (addr key : Option String)
    (port : Option UInt16) :
    (r.updateNodeEndpoint nodeId addr key port).raft.hasCallback = r.hasCallback := by
  unfold SwarmRaft.updateNodeEndpoint
  split <;> rfl

theorem hasCallback_applyCommand (cmd : SwarmCommand) :
    (r.applyCommand cmd).raft.hasCallback = r.hasCallback := by
  cases cmd with
  | addNode nodeId addr publicKey key port =>
    exact hasCallback_addNode r nodeId addr publicKey key port
  | removeNode nodeId => exact hasCallback_removeNode r nodeId
  | updateNodeEndpoint nodeId addr key port =>
    exact hasCallback_updateNodeEndpoint r nodeId addr key port
  | registerNode nodeId addr publicKey => exact hasCallback_addNode r nodeId addr publicKey none none
  | deregisterNode nodeId => exact hasCallback_removeNode r nodeId
  | _ => rfl

/-- A callback, once installed, stays. -/
theorem hasCallback_step (a : Action) (h : r.hasCallback = true) :
    (step r a).hasCallback = true := by
  cases a with
  | bootstrap addr publicKey key port =>
    show (r.bootstrap addr publicKey key port).raft.hasCallback = true
    unfold SwarmRaft.bootstrap SwarmRaft.allocateSubnet
    split_ifs
    · exact h
    · cases r.subnetMap[r.nodeId]? <;> exact h
  | addNode nodeId addr publicKey key port =>
    exact (hasCallback_addNode r nodeId addr publicKey key port).trans h
  | removeNode nodeId => exact (hasCallback_removeNode r nodeId).trans h
  | updateNodeEndpoint nodeId addr key port =>
    exact (hasCallback_updateNodeEndpoint r nodeId addr key port).trans h
  | setNodeName nodeId name =>
    show (r.setNodeName nodeId name).raft.hasCallback = true
    unfold SwarmRaft.setNodeName
    split <;> exact h
  | submitCommand cmd commandIndex =>
    show (r.submitCommand cmd commandIndex).raft.hasCallback = true
    obtain he | ⟨_, log, he⟩ := submitCommand_raft r cmd commandIndex
    · rwa [he]
    · rw [he]
      exact (hasCallback_applyCommand r cmd).trans h
  | setSideEffectCallback => rfl
  | setLastAppliedIndex index => exact h

end Callback

/-! ## Runs with their effects -/

/-- A swarm and the effects handed to its callback so far. -/
structure Logged where
  raft : SwarmRaft
  log : List SwarmSideEffect

def loggedStep (s : Logged) (a : Action) : Logged :=
  ⟨step s.raft a, s.log ++ (call s.raft a).effects⟩

/-- A fresh swarm whose callback is installed first. -/
def Logged.start (localId : UInt64) : Logged := ⟨(SwarmRaft.new localId).setSideEffectCallback, []⟩

/-- The effects so far reconstruct the remote members. -/
def Reconstructs (localId : UInt64) (s : Logged) : Prop :=
  Agrees (foldEffects localId s.log) s.raft

/-- In every state of a run the effects reconstruct the remote members, exactly when every
node that joins brings its WireGuard key and port both or neither. -/
theorem reconstructs_throughout_iff (localId : UInt64) (run : List Action) :
    Throughout loggedStep (Reconstructs localId) (Logged.start localId) run ↔
      Along loggedStep (fun s a => WholeEndpoint s.raft a) (Logged.start localId) run := by
  refine throughout_iff_along_of_invariant
    (I := fun s => s.raft.nodeId = localId ∧ RepInv s.raft ∧ s.raft.hasCallback = true)
    ⟨rfl, { repInv_new localId with }, rfl⟩ (fun s a hI => ?_) ?_ (fun s a hI h => ?_) run
  · obtain ⟨hid, hinv, hcallback⟩ := hI
    exact ⟨(step_local s.raft a).1.trans hid, repInv_step s.raft a hinv,
      hasCallback_step s.raft a hcallback⟩
  · intro i
    simp [Logged.start, foldEffects, SwarmRaft.new, setSideEffectCallback]
  · obtain ⟨rfl, hinv, hcallback⟩ := hI
    rw [← agrees_call_iff hinv hcallback h a]
    simp only [Reconstructs, loggedStep, foldEffects, List.foldl_append]
    rfl

/-- A node added with a key and no port is stored without the key it was reported with. -/
theorem not_reconstructs_key_without_port :
    ¬ Throughout loggedStep (Reconstructs 1) (Logged.start 1)
      [.bootstrap "10.0.0.1:7946" "leader_key" none none,
        .addNode 2 "10.0.0.2:7946" "key2" (some "wgkey2") none] := by
  intro h
  have hafter := h.exec 2
  exact absurd hafter (by decide)

end Vyoma.Swarm
