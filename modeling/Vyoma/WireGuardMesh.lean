import Mathlib.Data.List.Perm.Basic
import Vyoma.SocketAddrs
import Vyoma.SwarmEvents

/-!
# The WireGuard mesh behind the swarm

The network callback turns each side effect into peers of the WireGuard device. Adding a
member reaches the device twice, once with the address as given and once with its host
part; every membership change configures all remote members again; a removed member is
not taken off the device. The peers only ever grow, and they mirror the members exactly
as long as no peer had to be replaced, removed or configured a second time.
-/
namespace Vyoma.Swarm
open OrderedMaps Runs SwarmRaft SocketAddrs

structure PeerConfig where
  publicKey : String
  endpoint : SocketAddr
  allowedIps : List String := ["0.0.0.0/0"]
  keepalive : Option UInt16 := some 25
  deriving DecidableEq, Repr

def PeerConfig.withAllowedIps (peer : PeerConfig) (ips : List String) : PeerConfig :=
  { peer with allowedIps := ips }

structure WireGuardNode where
  peers : List PeerConfig := []
  running : Bool := false

/-- What the device depends on: which texts decode as base64, whether the commands on its
socket succeed, and whether it can be created and started. -/
structure DeviceEnv where
  decodes : String → Bool
  socket : Bool := true
  starts : Bool := true

/-- `apply_peer` on a running device: the key is decoded and the command written. -/
def setWireguardPeer (env : DeviceEnv) (peer : PeerConfig) : Bool :=
  env.decodes peer.publicKey && env.socket

def WireGuardNode.addPeer (env : DeviceEnv) (wg : WireGuardNode) (peer : PeerConfig) :
    WireGuardNode :=
  if wg.running && !setWireguardPeer env peer then wg
  else { wg with peers := wg.peers ++ [peer] }

structure NetworkIntegration where
  wireguardNode : Option WireGuardNode

def subnetText (subnetId : UInt8) : String := "10.42." ++ toString subnetId ++ ".0/24"

def endpointText (addr : String) (port : UInt16) : String := addr ++ ":" ++ toString port

namespace NetworkIntegration

variable (env : DeviceEnv)

def ensureWireguard (net : NetworkIntegration) : NetworkIntegration :=
  if net.wireguardNode.any (·.running) then net
  else if env.starts then ⟨some { running := true }⟩
  else net

def addWireguardPeer (net : NetworkIntegration) (publicKey endpoint allowedIps : String) :
    NetworkIntegration :=
  match net.wireguardNode with
  | some wg =>
    if wg.running then
      match SocketAddr.parse endpoint with
      | some addr =>
        let peer := PeerConfig.withAllowedIps ⟨publicKey, addr, ["0.0.0.0/0"], some 25⟩ [allowedIps]
        ⟨some (wg.addPeer env peer)⟩
      | none => net
    else net
  | none => net

def setupPeer (net : NetworkIntegration) (peer : NodeInfo) : NetworkIntegration :=
  match peer.wireguardKey, peer.wireguardPort with
  | some key, some port => net.addWireguardPeer env key (endpointText (hostPart peer.addr) port)
      (subnetText (peer.subnetId.getD 0))
  | _, _ => net

def setupLocalNode (net : NetworkIntegration) (peers : List NodeInfo) : NetworkIntegration :=
  peers.foldl (setupPeer env) (net.ensureWireguard env)

def addNode (net : NetworkIntegration) (addr : String) (wireguardKey : Option String)
    (wireguardPort : Option UInt16) (subnetId : UInt8) : NetworkIntegration :=
  match wireguardKey, wireguardPort with
  | some key, some port => net.addWireguardPeer env key (endpointText addr port) (subnetText subnetId)
  | _, _ => net

def updateNode (net : NetworkIntegration) (oldSubnetId : UInt8) (newAddr newKey : Option String)
    (newPort : Option UInt16) : NetworkIntegration :=
  if newAddr.isSome || newKey.isSome then
    match newAddr, newKey, newPort with
    | some addr, some key, some port =>
      net.addWireguardPeer env key (endpointText addr port) (subnetText oldSubnetId)
    | _, _, _ => net
  else net

/-- The callback; removing a node takes its route away and leaves the device alone. -/
def callback (net : NetworkIntegration) : SwarmSideEffect → NetworkIntegration
  | .localNodeConfigured _ _ peers => net.setupLocalNode env peers
  | .nodeAdded _ addr key port subnetId => net.addNode env addr key port subnetId
  | .nodeRemoved _ _ => net
  | .nodeUpdated _ oldSubnetId newAddr newKey newPort =>
    net.updateNode env oldSubnetId newAddr newKey newPort

end NetworkIntegration

/-! ## What the callback adds to a running device -/

/-- The peer `add_wireguard_peer` builds, when its endpoint parses. -/
def peerAt (publicKey endpoint : String) (subnetId : UInt8) : Option PeerConfig :=
  (SocketAddr.parse endpoint).map fun addr => ⟨publicKey, addr, [subnetText subnetId], some 25⟩

/-- The entry that a remote node should have on the device, if it has an endpoint:
its host and WireGuard port, which may not be an address at all. -/
def meshPeer (node : NodeInfo) : Option (Option PeerConfig) :=
  match node.wireguardKey, node.wireguardPort with
  | some key, some port =>
    some (peerAt key (endpointText (hostPart node.addr) port) (node.subnetId.getD 0))
  | _, _ => none

section Device

variable (env : DeviceEnv)

/-- A peer the device accepts. -/
def accepted (peer : Option PeerConfig) : Option PeerConfig :=
  peer.filter fun peer => env.decodes peer.publicKey

/-- The peers an effect puts on a running device, in order. -/
def pushed : SwarmSideEffect → List PeerConfig
  | .localNodeConfigured _ _ peers => peers.filterMap fun node => accepted env (meshPeer node).join
  | .nodeAdded _ addr key port subnetId =>
    match key, port with
    | some key, some port => (accepted env (peerAt key (endpointText addr port) subnetId)).toList
    | _, _ => []
  | .nodeRemoved _ _ => []
  | .nodeUpdated _ oldSubnetId newAddr newKey newPort =>
    match newAddr, newKey, newPort with
    | some addr, some key, some port =>
      (accepted env (peerAt key (endpointText addr port) oldSubnetId)).toList
    | _, _, _ => []

/-- A network whose device runs with the given peers. -/
def onDevice (peers : List PeerConfig) : NetworkIntegration := ⟨some ⟨peers, true⟩⟩

variable {env} (hsocket : env.socket = true)

include hsocket in
theorem addWireguardPeer_onDevice (peers : List PeerConfig) (publicKey endpoint : String)
    (subnetId : UInt8) :
    (onDevice peers).addWireguardPeer env publicKey endpoint (subnetText subnetId) =
      onDevice (peers ++ (accepted env (peerAt publicKey endpoint subnetId)).toList) := by
  unfold NetworkIntegration.addWireguardPeer peerAt accepted onDevice
  cases SocketAddr.parse endpoint with
  | none => simp
  | some addr =>
    cases hkey : env.decodes publicKey <;>
      simp [WireGuardNode.addPeer, setWireguardPeer, PeerConfig.withAllowedIps, Option.filter, hkey,
        hsocket]

include hsocket in
theorem setupPeer_onDevice (node : NodeInfo) (peers : List PeerConfig) :
    (onDevice peers).setupPeer env node =
      onDevice (peers ++ (accepted env (meshPeer node).join).toList) := by
  unfold NetworkIntegration.setupPeer meshPeer
  cases node.wireguardKey with
  | none => simp [accepted]
  | some key => cases node.wireguardPort with
    | none => simp [accepted]
    | some port =>
      simp only [Option.join_some]
      exact addWireguardPeer_onDevice hsocket peers key (endpointText (hostPart node.addr) port)
        (node.subnetId.getD 0)

include hsocket in
theorem setupPeers_onDevice (nodes : List NodeInfo) (peers : List PeerConfig) :
    nodes.foldl (NetworkIntegration.setupPeer env) (onDevice peers) =
      onDevice (peers ++ nodes.filterMap fun node => accepted env (meshPeer node).join) := by
  induction nodes generalizing peers with
  | nil => simp
  | cons node nodes ih =>
    rw [List.foldl_cons, setupPeer_onDevice hsocket, ih, List.append_assoc]
    cases hpeer : accepted env (meshPeer node).join with
    | none => simp [hpeer]
    | some peer => simp [hpeer]

include hsocket in
theorem callback_onDevice (peers : List PeerConfig) (effect : SwarmSideEffect) :
    (onDevice peers).callback env effect = onDevice (peers ++ pushed env effect) := by
  cases effect with
  | localNodeConfigured nodeId subnetId nodes => exact setupPeers_onDevice hsocket nodes peers
  | nodeAdded nodeId addr key port subnetId =>
    cases key with
    | none => simp [NetworkIntegration.callback, NetworkIntegration.addNode, pushed]
    | some key => cases port with
      | none => simp [NetworkIntegration.callback, NetworkIntegration.addNode, pushed]
      | some port => exact addWireguardPeer_onDevice hsocket peers key _ _
  | nodeRemoved nodeId subnetId => simp [NetworkIntegration.callback, pushed]
  | nodeUpdated nodeId oldSubnetId newAddr newKey newPort =>
    cases newAddr with
    | none => simp [NetworkIntegration.callback, NetworkIntegration.updateNode, pushed]
    | some addr => cases newKey with
      | none => simp [NetworkIntegration.callback, NetworkIntegration.updateNode, pushed]
      | some key => cases newPort with
        | none => simp [NetworkIntegration.callback, NetworkIntegration.updateNode, pushed]
        | some port => exact addWireguardPeer_onDevice hsocket peers key _ _

include hsocket in
theorem callbacks_onDevice (peers : List PeerConfig) (effects : List SwarmSideEffect) :
    effects.foldl (NetworkIntegration.callback env) (onDevice peers) =
      onDevice (peers ++ effects.flatMap (pushed env)) := by
  induction effects generalizing peers with
  | nil => simp
  | cons effect effects ih =>
    rw [List.foldl_cons, callback_onDevice hsocket, ih, List.flatMap_cons, List.append_assoc]

end Device

/-! ## When the device mirrors the members -/

def remoteNodes (r : SwarmRaft) : List NodeInfo := r.nodes.values.filter fun n => n.id ≠ r.nodeId

/-- One entry for each remote node with an endpoint, as stored, and no other. -/
def Mirrors (r : SwarmRaft) (peers : List PeerConfig) : Prop :=
  (peers.map some).Perm ((remoteNodes r).filterMap meshPeer)

def NodeInfo.hasEndpoint (node : NodeInfo) : Bool :=
  node.wireguardKey.isSome && node.wireguardPort.isSome

/-- No remote node has an endpoint. -/
def NoMesh (r : SwarmRaft) : Prop := ∀ node ∈ remoteNodes r, node.hasEndpoint = false

instance (r : SwarmRaft) : Decidable (NoMesh r) :=
  inferInstanceAs (Decidable (∀ node ∈ remoteNodes r, node.hasEndpoint = false))

theorem meshPeer_eq_none_iff {node : NodeInfo} : meshPeer node = none ↔ node.hasEndpoint = false := by
  unfold meshPeer NodeInfo.hasEndpoint
  cases node.wireguardKey <;> cases node.wireguardPort <;> simp

section Mirror

variable {env : DeviceEnv} {r : SwarmRaft} {peers : List PeerConfig}

/-- On a device that mirrors the members, there are no peers exactly when no remote node
has an endpoint. -/
theorem Mirrors.nil_iff (h : Mirrors r peers) : peers = [] ↔ NoMesh r := by
  have hlength : peers.length = ((remoteNodes r).filterMap meshPeer).length := by
    simpa using h.length_eq
  rw [← List.length_eq_zero_iff, hlength, List.length_eq_zero_iff, List.filterMap_eq_nil_iff]
  simp only [meshPeer_eq_none_iff, NoMesh]

theorem accepted_eq_some_iff {peer : Option PeerConfig} {p : PeerConfig} :
    accepted env peer = some p ↔ peer = some p ∧ env.decodes p.publicKey = true := by
  simp [accepted, Option.filter_eq_some_iff]

/-- Nodes whose entries are all on a device of decodable keys are configured as they are. -/
theorem repushed_eq {nodes : List NodeInfo}
    (hentry : ∀ node ∈ nodes, ∀ entry, meshPeer node = some entry →
      ∃ p, entry = some p ∧ env.decodes p.publicKey = true) :
    (nodes.filterMap fun node => accepted env (meshPeer node).join).map some =
      nodes.filterMap meshPeer := by
  induction nodes with
  | nil => rfl
  | cons node nodes ih =>
    have hrest := ih fun n hn => hentry n (List.mem_cons_of_mem node hn)
    rw [List.filterMap_cons, List.filterMap_cons]
    cases hpeer : meshPeer node with
    | none => simpa [accepted] using hrest
    | some entry =>
      obtain ⟨p, rfl, hkey⟩ := hentry node List.mem_cons_self entry hpeer
      have haccepted : accepted env (some p) = some p := accepted_eq_some_iff.mpr ⟨rfl, hkey⟩
      simp [haccepted, hrest]

theorem Mirrors.entry (h : Mirrors r peers)
    (hkeys : ∀ p ∈ peers, env.decodes p.publicKey = true) {node : NodeInfo}
    (hnode : node ∈ remoteNodes r) {entry : Option PeerConfig} (hentry : meshPeer node = some entry) :
    ∃ p, entry = some p ∧ env.decodes p.publicKey = true := by
  have hmem : entry ∈ (remoteNodes r).filterMap meshPeer :=
    List.mem_filterMap.mpr ⟨node, hnode, hentry⟩
  obtain ⟨p, hp, rfl⟩ := List.mem_map.mp (h.mem_iff.mpr hmem)
  exact ⟨p, rfl, hkeys p hp⟩

/-- Exactly one entry is left when the host endpoint alone is accepted. -/
theorem accepted_perm_singleton_iff (hkeys : ∀ p ∈ peers, env.decodes p.publicKey = true)
    (direct entry : Option PeerConfig) :
    (((accepted env direct).toList ++ (accepted env entry).toList ++ peers).map some).Perm [entry] ↔
      peers = [] ∧ accepted env direct = none ∧ (accepted env entry).isSome = true := by
  rw [List.perm_singleton]
  constructor
  · intro h
    obtain ⟨p, rest, hlist, rfl, hrest⟩ := List.map_eq_cons_iff.mp h
    obtain rfl := List.map_eq_nil_iff.mp hrest
    have hdecodes : env.decodes p.publicKey = true := by
      have hp : p ∈ (accepted env direct).toList ++ (accepted env (some p)).toList ++ peers := by
        rw [hlist]
        exact List.mem_singleton_self p
      rw [List.mem_append, List.mem_append, Option.mem_toList, Option.mem_toList] at hp
      obtain (hp | hp) | hp := hp
      · exact (accepted_eq_some_iff.mp hp).2
      · exact (accepted_eq_some_iff.mp hp).2
      · exact hkeys p hp
    have haccepted : accepted env (some p) = some p := accepted_eq_some_iff.mpr ⟨rfl, hdecodes⟩
    have hlength := congrArg List.length hlist
    rw [haccepted] at hlength
    simp only [List.length_append, Option.toList_some, List.length_singleton] at hlength
    refine ⟨List.length_eq_zero_iff.mp (by omega), ?_, by rw [haccepted]; rfl⟩
    cases hdirect : accepted env direct with
    | none => rfl
    | some q =>
      rw [hdirect] at hlength
      simp only [Option.toList_some, List.length_singleton] at hlength
      omega
  · intro h
    obtain ⟨rfl, hdirect, hentry⟩ := h
    obtain ⟨p, hp⟩ := Option.isSome_iff_exists.mp hentry
    rw [hdirect, hp, (accepted_eq_some_iff.mp hp).1]
    rfl

/-- What is already on the device cancels out, once from the peers and once from what is
configured again. -/
theorem mirrors_again_iff {old entries again : List (Option PeerConfig)} {more : List PeerConfig}
    (h : (peers.map some).Perm old)
    (hagain : (more.map some).Perm (again ++ old)) :
    ((peers ++ more).map some).Perm (entries ++ old) ↔
      (again ++ peers.map some).Perm entries := by
  rw [List.map_append]
  have hleft : (peers.map some ++ more.map some).Perm (peers.map some ++ (again ++ peers.map some)) :=
    (hagain.trans (h.symm.append_left again)).append_left _
  have hright : (entries ++ old).Perm (peers.map some ++ entries) :=
    (h.symm.append_left entries).trans List.perm_append_comm
  rw [hleft.congr_left, hright.congr_right, List.perm_append_left_iff]

end Mirror

section Steps

variable {env : DeviceEnv} {r : SwarmRaft} {peers : List PeerConfig}

theorem remoteNodes_addNode {r' : SwarmRaft} {nodeId : UInt64} {node : NodeInfo}
    (hid : r'.nodeId = r.nodeId) (hnodes : r'.nodes = r.nodes.insert nodeId node)
    (hnew : nodeId ∉ r.nodes) (hnode : node.id ≠ r.nodeId) :
    (remoteNodes r').Perm (node :: remoteNodes r) := by
  have hperm := values_insert_perm r.nodes nodeId node
  rw [erase_of_notMem hnew] at hperm
  unfold remoteNodes
  rw [hid, hnodes]
  simpa [hnode] using hperm.filter (fun n => n.id ≠ r.nodeId)

theorem remoteNodes_removeNode {r' : SwarmRaft} {nodeId : UInt64} {node : NodeInfo}
    (hid : r'.nodeId = r.nodeId) (hnodes : r'.nodes = r.nodes.erase nodeId)
    (hold : r.nodes[nodeId]? = some node) (hnode : node.id ≠ r.nodeId) :
    (remoteNodes r).Perm (node :: remoteNodes r') := by
  have hperm := values_perm hold
  unfold remoteNodes
  rw [hid, hnodes]
  simpa [hnode] using hperm.filter (fun n => n.id ≠ r.nodeId)

/-- A new node is mirrored when no other one is configured again with it, and its
endpoint is refused as given and accepted with the host alone. -/
def AddMirrors (env : DeviceEnv) (r : SwarmRaft) (addr : String) (key : Option String)
    (port : Option UInt16) : Prop :=
  NoMesh r ∧ ∀ k ∈ key, ∀ p ∈ port, env.decodes k = true ∧
    (SocketAddr.parse (endpointText (hostPart addr) p)).isSome = true ∧
    SocketAddr.parse (endpointText addr p) = none

/-- What the addition of a node pushes for the node itself is its entry. -/
theorem joinedEntry_iff (hkeys : ∀ p ∈ peers, env.decodes p.publicKey = true) (nodeId : UInt64)
    (addr publicKey : String) (key : Option String) (port : Option UInt16) :
    ((pushed env (.nodeAdded nodeId addr key port (computeSubnetId nodeId)) ++
      (accepted env (meshPeer (joinedNode nodeId addr publicKey key port)).join).toList ++
        peers).map some).Perm (meshPeer (joinedNode nodeId addr publicKey key port)).toList ↔
      peers = [] ∧ ∀ k ∈ key, ∀ p ∈ port, env.decodes k = true ∧
        (SocketAddr.parse (endpointText (hostPart addr) p)).isSome = true ∧
        SocketAddr.parse (endpointText addr p) = none := by
  cases key with
  | none => simp [joinedNode, NodeInfo.withWireguardIfBoth, NodeInfo.new, meshPeer, pushed, accepted]
  | some key => cases port with
    | none => simp [joinedNode, NodeInfo.withWireguardIfBoth, NodeInfo.new, meshPeer, pushed, accepted]
    | some port =>
      have hpeer : meshPeer (joinedNode nodeId addr publicKey (some key) (some port)) =
          some (peerAt key (endpointText (hostPart addr) port) (computeSubnetId nodeId)) := rfl
      rw [hpeer]
      simp only [pushed, Option.join_some, Option.toList_some]
      rw [accepted_perm_singleton_iff hkeys]
      refine and_congr_right fun _ => ?_
      cases hdecodes : env.decodes key <;>
        cases hdirect : SocketAddr.parse (endpointText addr port) <;>
        cases hhost : SocketAddr.parse (endpointText (hostPart addr) port) <;>
        simp [accepted, peerAt, Option.filter, hdecodes, hdirect, hhost]

theorem mirrors_addNode_iff (hinv : RepInv r) (hcallback : r.hasCallback = true)
    (h : Mirrors r peers) (hkeys : ∀ p ∈ peers, env.decodes p.publicKey = true)
    {nodeId : UInt64} (haccept : acceptsNode r nodeId = true) (addr publicKey : String)
    (key : Option String) (port : Option UInt16) :
    Mirrors (r.addNode nodeId addr publicKey key port).raft
        (peers ++ (r.addNode nodeId addr publicKey key port).effects.flatMap (pushed env)) ↔
      AddMirrors env r addr key port := by
  obtain ⟨leases, r', hr', he⟩ := addNode_eq hinv haccept addr publicKey key port
  have hremote : (joinedNode nodeId addr publicKey key port).id ≠ r.nodeId := by
    simpa [joinedNode, NodeInfo.new] using ne_of_acceptsNode hinv haccept
  have hnodes : (remoteNodes r').Perm
      (joinedNode nodeId addr publicKey key port :: remoteNodes r) :=
    remoteNodes_addNode (by rw [hr']) (by rw [hr']) (acceptsNode_iff.mp haccept).2 hremote
  generalize hnode : joinedNode nodeId addr publicKey key port = node at hnodes
  have heffects : (r.addNode nodeId addr publicKey key port).effects.flatMap (pushed env) =
      pushed env (.nodeAdded nodeId addr key port (computeSubnetId nodeId)) ++
        (remoteNodes r').filterMap fun n => accepted env (meshPeer n).join := by
    rw [he]
    simp [triggerSideEffects, hr', hcallback, localNodeConfigured, pushed, remoteNodes]
  -- the remote nodes of before are configured as they already are
  have hold : ((remoteNodes r).filterMap fun n => accepted env (meshPeer n).join).map some =
      (remoteNodes r).filterMap meshPeer :=
    repushed_eq fun n hn entry hentry => h.entry hkeys hn hentry
  have hagain : ((pushed env (.nodeAdded nodeId addr key port (computeSubnetId nodeId)) ++
        (remoteNodes r').filterMap fun n => accepted env (meshPeer n).join).map some).Perm
      ((pushed env (.nodeAdded nodeId addr key port (computeSubnetId nodeId)) ++
        (accepted env (meshPeer node).join).toList).map some ++
          (remoteNodes r).filterMap meshPeer) := by
    rw [← hold, ← List.map_append, List.append_assoc]
    refine List.Perm.map some (List.Perm.append_left _ ?_)
    refine (hnodes.filterMap fun n => accepted env (meshPeer n).join).trans ?_
    cases hpeer : accepted env (meshPeer node).join <;> simp [hpeer]
  have hentries : ((remoteNodes r').filterMap meshPeer).Perm
      ((meshPeer node).toList ++ (remoteNodes r).filterMap meshPeer) := by
    refine (hnodes.filterMap meshPeer).trans ?_
    cases hpeer : meshPeer node <;> simp [hpeer]
  rw [heffects, he, Mirrors, hentries.congr_right, mirrors_again_iff h hagain, ← List.map_append,
    AddMirrors, ← h.nil_iff]
  rw [← hnode]
  exact joinedEntry_iff hkeys nodeId addr publicKey key port

theorem mirrors_removeNode_iff (hinv : RepInv r) (hcallback : r.hasCallback = true)
    (h : Mirrors r peers) (hkeys : ∀ p ∈ peers, env.decodes p.publicKey = true)
    {nodeId : UInt64} (haccept : removesNode r nodeId = true) :
    Mirrors (r.removeNode nodeId).raft
        (peers ++ (r.removeNode nodeId).effects.flatMap (pushed env)) ↔ NoMesh r := by
  obtain ⟨r', hr', he⟩ := removeNode_eq haccept
  have hknown : nodeId ≠ r.nodeId ∧ nodeId ∈ r.nodes := by
    simpa [removesNode] using haccept
  obtain ⟨node, hnode⟩ := mem_iff_lookup.mp hknown.2
  have hnodes : (remoteNodes r).Perm (node :: remoteNodes r') := by
    refine remoteNodes_removeNode (by rw [hr']) (by rw [hr']) hnode ?_
    rw [hinv.node_key nodeId node hnode]
    exact hknown.1
  have heffects : (r.removeNode nodeId).effects.flatMap (pushed env) =
      (remoteNodes r').filterMap fun n => accepted env (meshPeer n).join := by
    rw [he]
    simp [triggerSideEffects, hr', hcallback, localNodeConfigured, pushed, remoteNodes]
  have hagain : ((remoteNodes r').filterMap fun n => accepted env (meshPeer n).join).map some =
      (remoteNodes r').filterMap meshPeer := by
    refine repushed_eq fun n hn entry hentry => h.entry hkeys ?_ hentry
    exact hnodes.mem_iff.mpr (List.mem_cons_of_mem node hn)
  have hraft : (r.removeNode nodeId).raft = r' := by rw [he]
  rw [heffects, hraft, ← h.nil_iff, Mirrors, List.map_append, hagain]
  constructor
  · intro hafter
    have hlength := hafter.length_eq
    rw [List.length_append, List.length_map] at hlength
    exact List.length_eq_zero_iff.mp (by omega)
  · intro hnil
    rw [hnil]
    exact List.Perm.refl _

/-- Where one entry is replaced and peers are added, the others cancel out. -/
theorem mirrors_replace_iff {before after rest entries : List (Option PeerConfig)}
    (hold : (peers.map some).Perm (before ++ rest)) (hnew : entries.Perm (after ++ rest))
    (more : List PeerConfig) :
    ((peers ++ more).map some).Perm entries ↔ (before ++ more.map some).Perm after := by
  have hleft : (peers.map some ++ more.map some).Perm (before ++ more.map some ++ rest) := by
    refine (hold.append_right _).trans ?_
    rw [List.append_assoc, List.append_assoc]
    exact List.perm_append_comm.append_left _
  rw [List.map_append, hleft.congr_left, hnew.congr_right, List.perm_append_right_iff]

/-- An update reaches the device when it gives address, key and port together, and the
two texts are accepted. -/
def reachesDevice (env : DeviceEnv) (addr key : Option String) (port : Option UInt16) : Bool :=
  match addr, key, port with
  | some addr, some key, some port =>
    env.decodes key && (SocketAddr.parse (endpointText addr port)).isSome
  | _, _, _ => false

/-- An update that reaches the device is the first endpoint of a remote node, with no port
in its address; any other leaves the entry of a remote node as it is. -/
def UpdateMirrors (env : DeviceEnv) (r : SwarmRaft) (nodeId : UInt64) (node : NodeInfo)
    (addr key : Option String) (port : Option UInt16) : Prop :=
  if reachesDevice env addr key port then nodeId ≠ r.nodeId ∧ node.hasEndpoint = false ∧
    ∀ a ∈ addr, ∀ p ∈ port,
      SocketAddr.parse (endpointText (hostPart a) p) = SocketAddr.parse (endpointText a p)
  else nodeId ≠ r.nodeId → meshPeer (updatedNode node addr key port) = meshPeer node

theorem pushed_nodeUpdated_of_not_reaches {nodeId : UInt64} {subnetId : UInt8}
    {addr key : Option String} {port : Option UInt16}
    (hreach : reachesDevice env addr key port = false) :
    pushed env (.nodeUpdated nodeId subnetId addr key port) = [] := by
  cases addr with
  | none => rfl
  | some addr => cases key with
    | none => rfl
    | some key => cases port with
      | none => rfl
      | some port =>
        cases hdecodes : env.decodes key <;>
          cases hparse : SocketAddr.parse (endpointText addr port) <;>
          simp [reachesDevice, hdecodes, hparse] at hreach <;>
          simp [pushed, accepted, peerAt, Option.filter, hdecodes, hparse]

theorem pushed_nodeUpdated_of_reaches (nodeId : UInt64) (subnetId : UInt8)
    {addr key : Option String} {port : Option UInt16}
    (hreach : reachesDevice env addr key port = true) : ∃ a k p e, addr = some a ∧ key = some k ∧
      port = some p ∧ SocketAddr.parse (endpointText a p) = some e ∧
      pushed env (.nodeUpdated nodeId subnetId addr key port) =
        [⟨k, e, [subnetText subnetId], some 25⟩] := by
  cases addr with
  | none => cases hreach
  | some addr => cases key with
    | none => cases hreach
    | some key => cases port with
      | none => cases hreach
      | some port =>
        obtain ⟨hdecodes, hsome⟩ := Bool.and_eq_true_iff.mp hreach
        obtain ⟨e, he⟩ := Option.isSome_iff_exists.mp hsome
        exact ⟨addr, key, port, e, rfl, rfl, rfl, he, by
          simp [pushed, accepted, peerAt, Option.filter, hdecodes, he]⟩

/-- The remote nodes before and after an endpoint of node `nodeId` is updated. -/
theorem remoteNodes_updateNode {r' : SwarmRaft} {nodeId : UInt64} {node node' : NodeInfo}
    (hid : r'.nodeId = r.nodeId) (hnodes : r'.nodes = r.nodes.insert nodeId node')
    (hold : r.nodes[nodeId]? = some node) (hnode : node.id = nodeId) (hnode' : node'.id = nodeId) :
    ∃ rest, (remoteNodes r).Perm ((if nodeId = r.nodeId then [] else [node]) ++ rest) ∧
      (remoteNodes r').Perm ((if nodeId = r.nodeId then [] else [node']) ++ rest) := by
  have hbefore := (values_perm hold).filter fun n => decide (n.id ≠ r.nodeId)
  have hafter := (values_insert_perm r.nodes nodeId node').filter fun n => decide (n.id ≠ r.nodeId)
  unfold remoteNodes
  rw [hid, hnodes]
  refine ⟨(r.nodes.erase nodeId).values.filter fun n => decide (n.id ≠ r.nodeId), ?_⟩
  by_cases hself : nodeId = r.nodeId
  · rw [List.filter_cons_of_neg (by simp [hnode, hself])] at hbefore
    rw [List.filter_cons_of_neg (by simp [hnode', hself])] at hafter
    rw [if_pos hself, if_pos hself]
    exact ⟨hbefore, hafter⟩
  · rw [List.filter_cons_of_pos (by simp [hnode, hself])] at hbefore
    rw [List.filter_cons_of_pos (by simp [hnode', hself])] at hafter
    rw [if_neg hself, if_neg hself]
    exact ⟨hbefore, hafter⟩

theorem mirrors_updateNodeEndpoint_iff (hinv : RepInv r) (hcallback : r.hasCallback = true)
    (h : Mirrors r peers) {nodeId : UInt64} {node : NodeInfo} (hnode : r.nodes[nodeId]? = some node)
    (addr key : Option String) (port : Option UInt16) :
    Mirrors (r.updateNodeEndpoint nodeId addr key port).raft
        (peers ++ (r.updateNodeEndpoint nodeId addr key port).effects.flatMap (pushed env)) ↔
      UpdateMirrors env r nodeId node addr key port := by
  obtain ⟨r', hr', he⟩ := updateNodeEndpoint_eq hnode addr key port
  have heffects : (r.updateNodeEndpoint nodeId addr key port).effects.flatMap (pushed env) =
      pushed env (.nodeUpdated nodeId (node.subnetId.getD 0) addr key port) := by
    rw [he]
    simp [triggerSideEffects, hr', hcallback]
  have hraft : (r.updateNodeEndpoint nodeId addr key port).raft = r' := by rw [he]
  have hid : node.id = nodeId := hinv.node_key nodeId node hnode
  have hid' : (updatedNode node addr key port).id = nodeId := hid
  have hlocal : r'.nodeId = r.nodeId := by rw [hr']
  have hnodes : r'.nodes = r.nodes.insert nodeId (updatedNode node addr key port) := by rw [hr']
  obtain ⟨rest, hbefore, hafter⟩ := remoteNodes_updateNode hlocal hnodes hnode hid hid'
  have hold := h.trans (hbefore.filterMap meshPeer)
  have hnew := hafter.filterMap meshPeer
  rw [List.filterMap_append] at hold hnew
  rw [heffects, hraft, Mirrors, mirrors_replace_iff hold hnew, UpdateMirrors]
  cases hreach : reachesDevice env addr key port with
  | false =>
    rw [pushed_nodeUpdated_of_not_reaches hreach]
    by_cases hself : nodeId = r.nodeId
    · simp [hself]
    · cases hpeer : meshPeer node <;>
        cases hpeer' : meshPeer (updatedNode node addr key port) <;>
        simp [hself, hpeer, hpeer', eq_comm]
  | true =>
    obtain ⟨a, k, p, e, rfl, rfl, rfl, hparse, hpushed⟩ :=
      pushed_nodeUpdated_of_reaches nodeId (node.subnetId.getD 0) hreach
    rw [hpushed]
    by_cases hself : nodeId = r.nodeId
    · simp [hself]
    · have hpeer' : meshPeer (updatedNode node (some a) (some k) (some p)) =
          some (peerAt k (endpointText (hostPart a) p) (node.subnetId.getD 0)) := rfl
      rw [← meshPeer_eq_none_iff]
      cases hpeer : meshPeer node with
      | none =>
        cases hhost : SocketAddr.parse (endpointText (hostPart a) p) <;>
          simp [peerAt, hpeer, hpeer', hhost, hparse, hself, eq_comm]
      | some entry =>
        refine iff_of_false (fun hperm => ?_) (by simp)
        have hlength := hperm.length_eq
        simp [hself, hpeer, hpeer'] at hlength

theorem decodes_of_mem_pushed {effect : SwarmSideEffect} {p : PeerConfig}
    (hp : p ∈ pushed env effect) : env.decodes p.publicKey = true := by
  unfold pushed at hp
  split at hp
  · obtain ⟨node, _, hnode⟩ := List.mem_filterMap.mp hp
    exact (accepted_eq_some_iff.mp hnode).2
  · split at hp
    · exact (accepted_eq_some_iff.mp (Option.mem_toList.mp hp)).2
    · cases hp
  · cases hp
  · split at hp
    · exact (accepted_eq_some_iff.mp (Option.mem_toList.mp hp)).2
    · cases hp

end Steps

/-! ## Runs of membership changes -/

inductive Membership where
  | add (nodeId : UInt64) (addr publicKey : String) (wireguardKey : Option String)
      (wireguardPort : Option UInt16)
  | remove (nodeId : UInt64)
  | update (nodeId : UInt64) (addr wireguardKey : Option String) (wireguardPort : Option UInt16)

def Membership.action : Membership → Action
  | .add nodeId addr publicKey key port => .addNode nodeId addr publicKey key port
  | .remove nodeId => .removeNode nodeId
  | .update nodeId addr key port => .updateNodeEndpoint nodeId addr key port

/-- A swarm with the network its callback configures. -/
structure Meshed where
  raft : SwarmRaft
  net : NetworkIntegration

def meshStep (env : DeviceEnv) (s : Meshed) (a : Membership) : Meshed :=
  ⟨(call s.raft a.action).raft,
    (call s.raft a.action).effects.foldl (NetworkIntegration.callback env) s.net⟩

/-- A swarm just bootstrapped, whose device runs. -/
def Meshed.start (localId : UInt64) (addr publicKey : String) (key : Option String)
    (port : Option UInt16) : Meshed :=
  ⟨((SwarmRaft.new localId).setSideEffectCallback.bootstrap addr publicKey key port).raft,
    onDevice []⟩

def NetworkIntegration.peers (net : NetworkIntegration) : List PeerConfig :=
  (net.wireguardNode.map (·.peers)).getD []

def MeshMirrors (s : Meshed) : Prop := Mirrors s.raft s.net.peers

/-- What a membership change must be for the device to follow it. -/
def MirrorCall (env : DeviceEnv) (r : SwarmRaft) : Membership → Prop
  | .add nodeId addr _ key port => acceptsNode r nodeId = true → AddMirrors env r addr key port
  | .remove nodeId => removesNode r nodeId = true → NoMesh r
  | .update nodeId addr key port => ∀ node ∈ r.nodes[nodeId]?,
      UpdateMirrors env r nodeId node addr key port

/-- What holds of swarm and device whether or not they agree. -/
structure MeshInv (env : DeviceEnv) (s : Meshed) : Prop where
  repInv : RepInv s.raft
  callback : s.raft.hasCallback = true
  device : s.net = onDevice s.net.peers
  keys : ∀ p ∈ s.net.peers, env.decodes p.publicKey = true

section Runs

variable {env : DeviceEnv} {s : Meshed}

theorem MeshInv.net_step (h : MeshInv env s) (hsocket : env.socket = true) (a : Membership) :
    (meshStep env s a).net =
      onDevice (s.net.peers ++ (call s.raft a.action).effects.flatMap (pushed env)) := by
  unfold meshStep
  rw [h.device]
  exact callbacks_onDevice hsocket _ _

theorem meshInv_step (hsocket : env.socket = true) (s : Meshed) (a : Membership)
    (h : MeshInv env s) : MeshInv env (meshStep env s a) where
  repInv := repInv_step s.raft a.action h.repInv
  callback := hasCallback_step s.raft a.action h.callback
  device := by
    rw [h.net_step hsocket]
    rfl
  keys p hp := by
    rw [h.net_step hsocket] at hp
    obtain hp | hp := List.mem_append.mp hp
    · exact h.keys p hp
    · obtain ⟨effect, _, hp⟩ := List.mem_flatMap.mp hp
      exact decodes_of_mem_pushed hp

theorem meshInv_start (localId : UInt64) (addr publicKey : String) (key : Option String)
    (port : Option UInt16) : MeshInv env (Meshed.start localId addr publicKey key port) where
  repInv := by
    have hfresh : RepInv (SwarmRaft.new localId).setSideEffectCallback :=
      { repInv_new localId with }
    exact repInv_bootstrap hfresh addr publicKey key port
  callback := hasCallback_step (SwarmRaft.new localId).setSideEffectCallback
    (.bootstrap addr publicKey key port) rfl
  device := rfl
  keys p hp := by cases hp

theorem meshMirrors_start (localId : UInt64) (addr publicKey : String) (key : Option String)
    (port : Option UInt16) : MeshMirrors (Meshed.start localId addr publicKey key port) := by
  have hnone : remoteNodes (Meshed.start localId addr publicKey key port).raft = [] := by
    rw [remoteNodes, List.filter_eq_nil_iff]
    intro node hnode
    obtain ⟨i, hi⟩ := mem_values_iff.mp hnode
    obtain ⟨rfl, rfl⟩ | ⟨_, hi⟩ := lookup_insert_eq_some_iff.mp hi
    · simp [Meshed.start, SwarmRaft.bootstrap, SwarmRaft.allocateSubnet, SwarmRaft.new,
        setSideEffectCallback, NodeInfo.new]
    · simp [SwarmRaft.new, setSideEffectCallback] at hi
  rw [MeshMirrors, Mirrors, hnone]
  exact List.Perm.refl _

theorem meshMirrors_step_iff (hsocket : env.socket = true) (s : Meshed) (a : Membership)
    (hinv : MeshInv env s) (h : MeshMirrors s) :
    MeshMirrors (meshStep env s a) ↔ MirrorCall env s.raft a := by
  have hpeers : (meshStep env s a).net.peers =
      s.net.peers ++ (call s.raft a.action).effects.flatMap (pushed env) := by
    rw [hinv.net_step hsocket]
    rfl
  rw [MeshMirrors, hpeers]
  cases a with
  | add nodeId addr publicKey key port =>
    cases haccept : acceptsNode s.raft nodeId with
    | false =>
      obtain ⟨e, he⟩ := addNode_fails haccept addr publicKey key port
      refine iff_of_true ?_ (by simp [MirrorCall, haccept])
      simpa [meshStep, Membership.action, call, Outcome.void, he, fail, MeshMirrors] using h
    | true =>
      have hcall : MirrorCall env s.raft (.add nodeId addr publicKey key port) ↔
          AddMirrors env s.raft addr key port := by simp [MirrorCall, haccept]
      rw [hcall]
      exact mirrors_addNode_iff hinv.repInv hinv.callback h hinv.keys haccept addr publicKey key port
  | remove nodeId =>
    cases haccept : removesNode s.raft nodeId with
    | false =>
      obtain ⟨e, he⟩ := removeNode_fails haccept
      refine iff_of_true ?_ (by simp [MirrorCall, haccept])
      simpa [meshStep, Membership.action, call, he, fail, MeshMirrors] using h
    | true =>
      have hcall : MirrorCall env s.raft (.remove nodeId) ↔ NoMesh s.raft := by
        simp [MirrorCall, haccept]
      rw [hcall]
      exact mirrors_removeNode_iff hinv.repInv hinv.callback h hinv.keys haccept
  | update nodeId addr key port =>
    cases hnode : s.raft.nodes[nodeId]? with
    | none =>
      obtain ⟨e, he⟩ := updateNodeEndpoint_fails hnode addr key port
      refine iff_of_true ?_ (by simp [MirrorCall, hnode])
      simpa [meshStep, Membership.action, call, he, fail, MeshMirrors] using h
    | some node =>
      have hcall : MirrorCall env s.raft (.update nodeId addr key port) ↔
          UpdateMirrors env s.raft nodeId node addr key port := by simp [MirrorCall, hnode]
      rw [hcall]
      exact mirrors_updateNodeEndpoint_iff hinv.repInv hinv.callback h hnode addr key port

end Runs

/-- After every membership change of a run the device mirrors the members, exactly when
every change of the run is one it can follow. -/
theorem meshMirrors_throughout_iff (env : DeviceEnv) (hsocket : env.socket = true)
    (localId : UInt64) (addr publicKey : String) (key : Option String) (port : Option UInt16)
    (run : List Membership) :
    Throughout (meshStep env) MeshMirrors (Meshed.start localId addr publicKey key port) run ↔
      Along (meshStep env) (fun s a => MirrorCall env s.raft a)
        (Meshed.start localId addr publicKey key port) run :=
  throughout_iff_along_of_invariant (meshInv_start localId addr publicKey key port)
    (meshInv_step hsocket) (meshMirrors_start localId addr publicKey key port)
    (meshMirrors_step_iff hsocket) run

/-- A node at `10.0.0.2:7946` with a WireGuard endpoint, the first one of the mesh. -/
def firstPeer : Membership :=
  .add 2 "10.0.0.2:7946" "key2" (some "xTIBA5rboUvnH4htodjb6e697QjLERt1NAB4mZqp8Dg=") (some 51820)

theorem meshMirrors_firstPeer :
    (DeviceEnv.mk (fun _ => true) true true).socket = true ∧
      Throughout (meshStep ⟨fun _ => true, true, true⟩) MeshMirrors
        (Meshed.start 1 "10.0.0.1:7946" "leader_key" none none) [firstPeer] := by
  refine ⟨rfl, (meshMirrors_throughout_iff _ rfl 1 _ _ _ _ _).mpr ⟨fun _ => ⟨by decide, ?_⟩, trivial⟩⟩
  intro k _ p hp
  cases hp
  exact ⟨rfl, by decide, by decide⟩

/-- Once the node is removed, its peer is still on the device. -/
theorem not_meshMirrors_removed :
    ¬ Throughout (meshStep ⟨fun _ => true, true, true⟩) MeshMirrors
      (Meshed.start 1 "10.0.0.1:7946" "leader_key" none none) [firstPeer, .remove 2] := by
  intro h
  have hlength := h.exec.length_eq
  exact absurd hlength (by decide)

end Vyoma.Swarm
