import Mathlib.Algebra.Group.Int.Defs
import Vyoma.NodeLookup

/-!
# The target of a teleport, as the command line finds it

The command line takes an IP address as it is. Anything else it looks for in the answer to
`/swarm/nodes`, which it reads as untyped JSON, with rules of its own. The daemon that
answers is asked the same question by `resolve_node`, so the two have to agree on the node.
-/
namespace Vyoma.Agent.Json

variable {φ : Type}

def asU64 : Json φ → Option UInt64
  | .int n => if 0 ≤ n ∧ n < 2 ^ 64 then some (UInt64.ofNat n.toNat) else none
  | _ => none

end Vyoma.Agent.Json

namespace Vyoma.Swarm
open Agent (Json)
open SocketAddrs (IpAddr)

section Answer

/-- One node in the answer to `/swarm/nodes`. -/
structure SwarmNodeInfo where
  id : UInt64
  name : Option String
  addr : String
  publicKey : String
  wireguardKey : Option String
  wireguardPort : Option UInt16
  subnetId : Option UInt8
  isLeader : Bool
  deriving DecidableEq, Repr

def NodeInfo.swarmNodeInfo (n : NodeInfo) : SwarmNodeInfo where
  id := n.id
  name := n.name.or (some ("node-" ++ toString n.id))
  addr := n.addr
  publicKey := n.publicKey
  wireguardKey := n.wireguardKey
  wireguardPort := n.wireguardPort
  subnetId := n.subnetId
  isLeader := n.isLeader

def swarmNodesHandler (r : SwarmRaft) : List SwarmNodeInfo :=
  r.nodes.values.map NodeInfo.swarmNodeInfo

variable {φ : Type}

def optionJson {α : Type} (toJson : α → Json φ) (value : Option α) : Json φ :=
  value.elim .null toJson

def SwarmNodeInfo.toJson (info : SwarmNodeInfo) : Json φ :=
  .obj [("id", .int info.id.toNat), ("name", optionJson .str info.name), ("addr", .str info.addr),
    ("public_key", .str info.publicKey), ("wireguard_key", optionJson .str info.wireguardKey),
    ("wireguard_port", optionJson (fun port => .int port.toNat) info.wireguardPort),
    ("subnet_id", optionJson (fun id => .int id.toNat) info.subnetId),
    ("is_leader", .bool info.isLeader)]

end Answer

/-! ## The command line -/

section CommandLine

variable {φ : Type}

/-- What the request for the nodes comes back with: no response or one that reports a
failure, or a successful one whose body is a JSON array or is not. -/
inductive NodesAnswer (φ : Type) where
  | failed
  | success (body : Option (List (Json φ)))

/-- The error `Swarm node '..' not found in cluster`, with the nodes it lists. -/
structure NotFound where
  destination : String
  available : List String
  deriving DecidableEq, Repr

/-- One turn of the loop: the address of a node that matches. -/
def matchedIp (destination : String) (node : Json φ) : Option String :=
  let name := (node.get "name").bind Json.asStr
  let idNum := (node.get "id").bind Json.asU64
  let idStr := idNum.map toString
  let nodeAlias := idNum.map fun n => "node-" ++ toString n
  let addr := ((node.get "addr").bind Json.asStr).getD ""
  let ip := hostPart addr
  if name = some destination ∨ idStr = some destination ∨ nodeAlias = some destination ∨
      addr = destination ∨ ip = destination then some ip
  else none

/-- What a node that is not the target is listed as. -/
def availableName (node : Json φ) : Option String :=
  ((node.get "name").bind Json.asStr).or
    (((node.get "id").bind Json.asU64).map fun n => "node-" ++ toString n)

/-- The address `Commands::Teleport` talks to. -/
def resolveTarget (destination : String) (answer : NodesAnswer φ) : Except NotFound String :=
  if (IpAddr.parse destination).isSome then .ok destination
  else
    match answer with
    | .failed => .ok destination
    | .success body =>
      let nodes := body.getD []
      match nodes.findSome? (matchedIp destination) with
      | some ip => .ok ip
      | none => .error ⟨destination, nodes.filterMap availableName⟩

end CommandLine

/-! ## Both find the same node -/

section Agreement

variable {φ : Type}

@[simp] theorem get_name_toJson (info : SwarmNodeInfo) :
    ((info.toJson : Json φ).get "name").bind Json.asStr = info.name := by
  have hget : (info.toJson : Json φ).get "name" = some (optionJson .str info.name) := by
    simp [SwarmNodeInfo.toJson, Json.get]
  rw [hget]
  cases info.name <;> rfl

@[simp] theorem get_id_toJson (info : SwarmNodeInfo) :
    ((info.toJson : Json φ).get "id").bind Json.asU64 = some info.id := by
  have hlt := info.id.toNat_lt
  have hrange : (0 : ℤ) ≤ info.id.toNat ∧ (info.id.toNat : ℤ) < 2 ^ 64 := by omega
  have hget : (info.toJson : Json φ).get "id" = some (.int info.id.toNat) := by
    simp [SwarmNodeInfo.toJson, Json.get]
  rw [hget, Option.bind_some, Json.asU64, if_pos hrange, Int.toNat_natCast, UInt64.ofNat_toNat]

@[simp] theorem get_addr_toJson (info : SwarmNodeInfo) :
    ((info.toJson : Json φ).get "addr").bind Json.asStr = some info.addr := by
  simp [SwarmNodeInfo.toJson, Json.get, Json.asStr]

/-- The alias that stands in for a missing name is matched by a rule of its own. -/
theorem matchedIp_toJson (destination : String) (n : NodeInfo) :
    matchedIp destination (n.swarmNodeInfo.toJson : Json φ) =
      if n.matchesTarget destination = true then some (hostPart n.addr) else none := by
  have hname : n.swarmNodeInfo.name = some destination ↔ n.name = some destination ∨
      (n.name = none ∧ n.nodeAlias = destination) := by
    cases hn : n.name <;> simp [NodeInfo.swarmNodeInfo, NodeInfo.nodeAlias, hn]
  have hrules : n.swarmNodeInfo.name = some destination ∨ toString n.id = destination ∨
      n.nodeAlias = destination ∨ n.addr = destination ∨ hostPart n.addr = destination ↔
      n.matchesTarget destination = true := by
    simp only [NodeInfo.matchesTarget, Bool.or_eq_true, decide_eq_true_eq, hname]
    constructor
    · rintro ((h | h) | h | h | h | h) <;> simp [h]
    · rintro ((((h | h) | h) | h) | h) <;> simp [h]
  simp only [matchedIp, get_name_toJson, get_id_toJson, get_addr_toJson, Option.map_some,
    Option.getD_some, Option.some.injEq]
  exact if_congr hrules rfl rfl

/-- The loop over the answer is the daemon's own search. -/
theorem findSome?_swarmNodes (r : SwarmRaft) (destination : String) :
    ((swarmNodesHandler r).map SwarmNodeInfo.toJson : List (Json φ)).findSome?
      (matchedIp destination) = r.resolveNode destination := by
  unfold swarmNodesHandler SwarmRaft.resolveNode
  induction r.nodes.values with
  | nil => rfl
  | cons n nodes ih =>
    simp only [List.map_cons, List.findSome?_cons, List.find?_cons, matchedIp_toJson]
    cases n.matchesTarget destination with
    | true => rfl
    | false => simpa using ih

/-- For whatever is no IP address, the command line talks to the node that the daemon
resolves it to, and finds none exactly when the daemon finds none. -/
theorem resolveTarget_iff (φ : Type) (r : SwarmRaft) (destination : String)
    (h : IpAddr.parse destination = none) :
    let chosen := resolveTarget destination
      (.success (some ((swarmNodesHandler r).map SwarmNodeInfo.toJson : List (Json φ))))
    (∀ ip, chosen = .ok ip ↔ r.resolveNode destination = some ip) ∧
      ((∃ e, chosen = .error e) ↔ r.resolveNode destination = none) := by
  simp only [resolveTarget, h, Option.isSome_none, Bool.false_eq_true, if_false,
    Option.getD_some, findSome?_swarmNodes]
  cases r.resolveNode destination <;> simp

theorem resolveTarget_alias :
    let r := Runs.exec step (SwarmRaft.new 1) [.bootstrap "10.0.0.1:7946" "leader_key" none none,
      .addNode 2 "10.0.0.2:7946" "key2" none none]
    let chosen := resolveTarget "node-2"
      (.success (some ((swarmNodesHandler r).map SwarmNodeInfo.toJson : List (Json Empty))))
    (∀ ip, chosen = .ok ip ↔ r.resolveNode "node-2" = some ip) ∧
      ((∃ e, chosen = .error e) ↔ r.resolveNode "node-2" = none) :=
  resolveTarget_iff Empty _ "node-2" (by decide)

end Agreement

end Vyoma.Swarm
