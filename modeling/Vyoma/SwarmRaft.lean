import Mathlib.Data.List.Basic

/-!
# The swarm state machine

`SwarmRaft` keeps four ordered maps: the member nodes, the VM placements, the
services and the overlay subnet of each node. Members are added and removed by
direct calls or by numbered commands. Every operation returns its result, the
state it leaves and the side effects handed to the callback, in order; without a
callback no effect is handed over.
-/
namespace Vyoma.Swarm

structure PortMapping where
  hostPort : UInt16
  vmPort : UInt16
  deriving DecidableEq, Repr

structure ServiceSpec where
  image : String
  replicas : UInt32
  ports : List PortMapping
  deriving DecidableEq, Repr

inductive SwarmCommand where
  | addNode (nodeId : UInt64) (addr publicKey : String) (wireguardKey : Option String)
      (wireguardPort : Option UInt16)
  | removeNode (nodeId : UInt64)
  | updateNodeEndpoint (nodeId : UInt64) (addr wireguardKey : Option String)
      (wireguardPort : Option UInt16)
  | registerNode (nodeId : UInt64) (addr publicKey : String)
  | deregisterNode (nodeId : UInt64)
  | updateVmPlacement (vmId : String) (nodeId : UInt64)
  | removeVmPlacement (vmId : String)
  | createService (name : String) (spec : ServiceSpec)
  | updateService (name : String) (spec : ServiceSpec)
  | deleteService (name : String)
  deriving DecidableEq, Repr

/-- `addr.split(':').next()`, which is never empty-handed. -/
def hostPart (addr : String) : String := String.ofList (addr.toList.takeWhile (· ≠ ':'))

structure NodeInfo where
  id : UInt64
  name : Option String
  addr : String
  publicKey : String
  wireguardKey : Option String
  wireguardPort : Option UInt16
  subnetId : Option UInt8
  isLeader : Bool
  deriving DecidableEq, Repr

namespace NodeInfo

def new (id : UInt64) (addr publicKey : String) : NodeInfo where
  id := id
  name := some ("node-" ++ toString id)
  addr := addr
  publicKey := publicKey
  wireguardKey := none
  wireguardPort := none
  subnetId := none
  isLeader := false

def withWireguard (node : NodeInfo) (key : String) (port : UInt16) : NodeInfo :=
  { node with wireguardKey := some key, wireguardPort := some port }

/-- The `if let (Some(key), Some(port))` of `bootstrap` and `add_node`. -/
def withWireguardIfBoth (node : NodeInfo) : Option String → Option UInt16 → NodeInfo
  | some key, some port => node.withWireguard key port
  | _, _ => node

end NodeInfo

structure VmPlacement where
  vmId : String
  nodeId : UInt64
  deriving DecidableEq, Repr

inductive SwarmSideEffect where
  | nodeAdded (nodeId : UInt64) (addr : String) (wireguardKey : Option String)
      (wireguardPort : Option UInt16) (subnetId : UInt8)
  | nodeRemoved (nodeId : UInt64) (subnetId : UInt8)
  | nodeUpdated (nodeId : UInt64) (oldSubnetId : UInt8) (newAddr newWireguardKey : Option String)
      (newWireguardPort : Option UInt16)
  | localNodeConfigured (nodeId : UInt64) (subnetId : UInt8) (peers : List NodeInfo)
  deriving DecidableEq, Repr

structure SwarmRaft where
  nodeId : UInt64
  nodes : Std.ExtTreeMap UInt64 NodeInfo
  vmPlacements : Std.ExtTreeMap String VmPlacement
  services : Std.ExtTreeMap String ServiceSpec
  subnetMap : Std.ExtTreeMap UInt64 UInt8
  isInitialized : Bool
  nextSubnetId : UInt8
  lastAppliedIndex : UInt64
  appliedCommands : List UInt64
  /-- Whether `set_side_effect_callback` has installed a callback. -/
  hasCallback : Bool

/-- What one call returns, leaves and hands to the callback. -/
structure Outcome (α : Type) where
  result : Except String α
  raft : SwarmRaft
  effects : List SwarmSideEffect

namespace SwarmRaft

def new (nodeId : UInt64) : SwarmRaft where
  nodeId := nodeId
  nodes := ∅
  vmPlacements := ∅
  services := ∅
  subnetMap := ∅
  isInitialized := false
  nextSubnetId := 1
  lastAppliedIndex := 0
  appliedCommands := []
  hasCallback := false

def setSideEffectCallback (r : SwarmRaft) : SwarmRaft := { r with hasCallback := true }

def setLastAppliedIndex (r : SwarmRaft) (index : UInt64) : SwarmRaft :=
  { r with lastAppliedIndex := index }

/-- `trigger_side_effect` for the effects of one call, in the order they are raised. -/
def triggerSideEffects (r : SwarmRaft) (effects : List SwarmSideEffect) : List SwarmSideEffect :=
  if r.hasCallback then effects else []

def fail {α : Type} (r : SwarmRaft) (message : String) : Outcome α := ⟨.error message, r, []⟩

def computeSubnetId (nodeId : UInt64) : UInt8 :=
  if nodeId = 0 then 1 else (nodeId % 254 + 1).toUInt8

def allocateSubnet (r : SwarmRaft) (nodeId : UInt64) : SwarmRaft × UInt8 :=
  match r.subnetMap[nodeId]? with
  | some existing => (r, existing)
  | none =>
    let subnetId := computeSubnetId nodeId
    ({ r with subnetMap := r.subnetMap.insert nodeId subnetId }, subnetId)

def bootstrap (r : SwarmRaft) (addr publicKey : String) (wireguardKey : Option String)
    (wireguardPort : Option UInt16) : Outcome Unit :=
  if r.isInitialized then r.fail "Already initialized"
  else
    let (r₁, subnetId) := r.allocateSubnet r.nodeId
    let node := { NodeInfo.new r.nodeId addr publicKey with
      isLeader := true, subnetId := some subnetId }
    let node := node.withWireguardIfBoth wireguardKey wireguardPort
    let r₂ := { r₁ with nodes := r₁.nodes.insert r.nodeId node, isInitialized := true }
    ⟨.ok (), r₂, r₂.triggerSideEffects [.localNodeConfigured r.nodeId subnetId []]⟩

/-- The `LocalNodeConfigured` effect raised after every membership change. -/
def localNodeConfigured (r : SwarmRaft) : SwarmSideEffect :=
  .localNodeConfigured r.nodeId ((r.subnetMap[r.nodeId]?).getD 1)
    (r.nodes.values.filter (fun n => n.id ≠ r.nodeId))

def addNode (r : SwarmRaft) (nodeId : UInt64) (addr publicKey : String)
    (wireguardKey : Option String) (wireguardPort : Option UInt16) : Outcome UInt8 :=
  if !r.isInitialized then r.fail "Cluster not initialized"
  else if r.nodes.contains nodeId then r.fail ("Node " ++ toString nodeId ++ " already exists")
  else
    let (r₁, subnetId) := r.allocateSubnet nodeId
    let node := { NodeInfo.new nodeId addr publicKey with subnetId := some subnetId }
    let node := node.withWireguardIfBoth wireguardKey wireguardPort
    let r₂ := { r₁ with nodes := r₁.nodes.insert nodeId node }
    ⟨.ok subnetId, r₂, r₂.triggerSideEffects
      [.nodeAdded nodeId addr wireguardKey wireguardPort subnetId, r₂.localNodeConfigured]⟩

def removeNode (r : SwarmRaft) (nodeId : UInt64) : Outcome Unit :=
  if nodeId = r.nodeId then r.fail "Cannot remove self"
  else if !r.nodes.contains nodeId then r.fail ("Node " ++ toString nodeId ++ " not found")
  else
    let subnetId := (r.subnetMap[nodeId]?).getD 0
    let r₁ := { r with
      nodes := r.nodes.erase nodeId
      subnetMap := r.subnetMap.erase nodeId
      vmPlacements := r.vmPlacements.filter (fun _ p => p.nodeId ≠ nodeId) }
    ⟨.ok (), r₁, r₁.triggerSideEffects [.nodeRemoved nodeId subnetId, r₁.localNodeConfigured]⟩

def updateNodeEndpoint (r : SwarmRaft) (nodeId : UInt64) (addr wireguardKey : Option String)
    (wireguardPort : Option UInt16) : Outcome Unit :=
  match r.nodes[nodeId]? with
  | none => r.fail "Node not found"
  | some node =>
    let oldSubnetId := node.subnetId.getD 0
    let node := { node with
      addr := addr.getD node.addr
      wireguardKey := wireguardKey.or node.wireguardKey
      wireguardPort := wireguardPort.or node.wireguardPort }
    let r₁ := { r with nodes := r.nodes.insert nodeId node }
    ⟨.ok (), r₁, r₁.triggerSideEffects
      [.nodeUpdated nodeId oldSubnetId addr wireguardKey wireguardPort]⟩

def setNodeName (r : SwarmRaft) (nodeId : UInt64) (name : String) : Outcome Unit :=
  match r.nodes[nodeId]? with
  | none => r.fail ("Node " ++ toString nodeId ++ " not found")
  | some node =>
    ⟨.ok (), { r with nodes := r.nodes.insert nodeId { node with name := some name } }, []⟩

end SwarmRaft

/-- A call whose value the caller drops, as `self.add_node(..)?;` does. -/
def Outcome.void {α : Type} (o : Outcome α) : Outcome Unit :=
  ⟨o.result.map fun _ => (), o.raft, o.effects⟩

namespace SwarmRaft

/-- The `match cmd` of `submit_command`. -/
def applyCommand (r : SwarmRaft) : SwarmCommand → Outcome Unit
  | .addNode nodeId addr publicKey wireguardKey wireguardPort =>
    (r.addNode nodeId addr publicKey wireguardKey wireguardPort).void
  | .removeNode nodeId => r.removeNode nodeId
  | .updateNodeEndpoint nodeId addr wireguardKey wireguardPort =>
    r.updateNodeEndpoint nodeId addr wireguardKey wireguardPort
  | .registerNode nodeId addr publicKey => (r.addNode nodeId addr publicKey none none).void
  | .deregisterNode nodeId => r.removeNode nodeId
  | .updateVmPlacement vmId nodeId =>
    ⟨.ok (), { r with vmPlacements := r.vmPlacements.insert vmId ⟨vmId, nodeId⟩ }, []⟩
  | .removeVmPlacement vmId =>
    ⟨.ok (), { r with vmPlacements := r.vmPlacements.erase vmId }, []⟩
  | .createService name spec => ⟨.ok (), { r with services := r.services.insert name spec }, []⟩
  | .updateService name spec => ⟨.ok (), { r with services := r.services.insert name spec }, []⟩
  | .deleteService name => ⟨.ok (), { r with services := r.services.erase name }, []⟩

/-- The log of applied indices after one more: from 1001 entries on, the oldest
500 are dropped. -/
def pushApplied (log : List UInt64) (commandIndex : UInt64) : List UInt64 :=
  let pushed := log ++ [commandIndex]
  if pushed.length > 1000 then pushed.drop 500 else pushed

def submitCommand (r : SwarmRaft) (cmd : SwarmCommand) (commandIndex : UInt64) : Outcome Unit :=
  if !r.isInitialized then r.fail "Cluster not initialized"
  else if r.appliedCommands.contains commandIndex then ⟨.ok (), r, []⟩
  else
    match r.applyCommand cmd with
    | ⟨.error e, r₁, effects⟩ => ⟨.error e, r₁, effects⟩
    | ⟨.ok (), r₁, effects⟩ =>
      ⟨.ok (), { r₁ with appliedCommands := pushApplied r₁.appliedCommands commandIndex }, effects⟩

/-- What `submit_command` can do: refuse, skip, pass an error on, or apply and log. -/
theorem submitCommand_cases (r : SwarmRaft) (cmd : SwarmCommand) (commandIndex : UInt64) :
    (r.isInitialized = false ∧
      r.submitCommand cmd commandIndex = r.fail "Cluster not initialized") ∨
    (r.isInitialized = true ∧ commandIndex ∈ r.appliedCommands ∧
      r.submitCommand cmd commandIndex = ⟨.ok (), r, []⟩) ∨
    (r.isInitialized = true ∧ commandIndex ∉ r.appliedCommands ∧
      (∃ e, (r.applyCommand cmd).result = .error e) ∧
      r.submitCommand cmd commandIndex = r.applyCommand cmd) ∨
    (r.isInitialized = true ∧ commandIndex ∉ r.appliedCommands ∧
      (r.applyCommand cmd).result = .ok () ∧
      r.submitCommand cmd commandIndex = ⟨.ok (), { (r.applyCommand cmd).raft with
        appliedCommands := pushApplied (r.applyCommand cmd).raft.appliedCommands commandIndex },
        (r.applyCommand cmd).effects⟩) := by
  unfold submitCommand
  cases hinit : r.isInitialized with
  | false => exact .inl ⟨rfl, rfl⟩
  | true =>
    by_cases hold : commandIndex ∈ r.appliedCommands
    · exact .inr (.inl ⟨rfl, hold, by simp [hold]⟩)
    · rw [if_neg (by simp), if_neg (by simpa using hold)]
      obtain ⟨result, raft, effects⟩ := r.applyCommand cmd
      cases result with
      | error e => exact .inr (.inr (.inl ⟨rfl, hold, ⟨e, rfl⟩, rfl⟩))
      | ok u => exact .inr (.inr (.inr ⟨rfl, hold, rfl, rfl⟩))

/-- The state `submit_command` leaves: the old one, or that of the applied command up to
the log. -/
theorem submitCommand_raft (r : SwarmRaft) (cmd : SwarmCommand) (commandIndex : UInt64) :
    (r.submitCommand cmd commandIndex).raft = r ∨
    (commandIndex ∉ r.appliedCommands ∧ ∃ log, (r.submitCommand cmd commandIndex).raft =
      { (r.applyCommand cmd).raft with appliedCommands := log }) := by
  obtain ⟨_, he⟩ | ⟨_, _, he⟩ | ⟨_, hfresh, _, he⟩ | ⟨_, hfresh, _, he⟩ :=
    submitCommand_cases r cmd commandIndex
  · exact .inl (by rw [he]; rfl)
  · exact .inl (by rw [he])
  · exact .inr ⟨hfresh, (r.applyCommand cmd).raft.appliedCommands, by rw [he]⟩
  · exact .inr ⟨hfresh, _, by rw [he]⟩

end SwarmRaft

end Vyoma.Swarm
