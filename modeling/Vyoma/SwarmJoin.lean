import Vyoma.SwarmEvents
import Mathlib.Logic.Function.Basic

/-!
# Joining a swarm

A daemon asks the leader first and then records the join in its own `SwarmRaft`. Every
daemon is started with local id 1, and the id of the request only names the node that is
added: the subnet the daemon configures for itself is that of node 1, while the response
promises the subnet of the requested id.
-/
namespace Vyoma.Swarm
open OrderedMaps Runs SwarmRaft

inductive StatusCode where
  | badRequest | internalServerError
  deriving DecidableEq, Repr

structure JoinRequest where
  nodeId : UInt64
  addr : String
  publicKey : String
  wireguardKey : Option String
  wireguardPort : Option UInt16
  deriving DecidableEq, Repr

structure JoinResponse where
  nodeId : UInt64
  subnetId : UInt8
  peers : List NodeInfo
  deriving DecidableEq, Repr

/-- What comes of posting the request to the leader. -/
inductive LeaderAnswer where
  | unreachable (error : String)
  | rejected (text : Option String)
  | accepted
  deriving DecidableEq, Repr

/-- The instance `main` builds: the local id is a constant and the network callback is
installed. -/
def startedRaft : SwarmRaft := (SwarmRaft.new 1).setSideEffectCallback

/-- What one request answers, leaves and hands to the callback. -/
structure JoinOutcome where
  response : Except (StatusCode × String) JoinResponse
  raft : SwarmRaft
  effects : List SwarmSideEffect

/-- The `if !swarm_raft.is_initialized()` of the handler. -/
def bootstrapIfNeeded (r : SwarmRaft) (payload : JoinRequest) (outboundIp : String) :
    Outcome Unit :=
  if !r.isInitialized then
    r.bootstrap (outboundIp ++ ":7946") ("init_key_" ++ toString payload.nodeId) none none
  else ⟨.ok (), r, []⟩

def swarmJoinHandler (r : SwarmRaft) (payload : JoinRequest) (leader : LeaderAnswer)
    (outboundIp : String) : JoinOutcome :=
  match leader with
  | .unreachable e => ⟨.error (.internalServerError, "Failed to contact leader: " ++ e), r, []⟩
  | .rejected text => ⟨.error (.badRequest, "Join rejected: " ++ text.getD ""), r, []⟩
  | .accepted =>
    let subnetId := (payload.nodeId % 254 + 1).toUInt8
    match bootstrapIfNeeded r payload outboundIp with
    | ⟨.error e, r₁, effects⟩ => ⟨.error (.internalServerError, e), r₁, effects⟩
    | ⟨.ok (), r₁, effects⟩ =>
      match r₁.addNode payload.nodeId payload.addr payload.publicKey payload.wireguardKey
          payload.wireguardPort with
      | ⟨.error e, r₂, more⟩ =>
        ⟨.error (.internalServerError, "Failed to add node locally: " ++ e), r₂, effects ++ more⟩
      | ⟨.ok _, r₂, more⟩ =>
        ⟨.ok ⟨payload.nodeId, subnetId, r₂.nodes.values⟩, r₂, effects ++ more⟩

/-- The subnets a daemon configures for itself, in order. -/
def configuredSubnets (effects : List SwarmSideEffect) : List UInt8 :=
  effects.filterMap fun
    | .localNodeConfigured _ subnetId _ => some subnetId
    | _ => none

/-- Whether the handler will answer with a join: the leader accepts, and the requested id
is neither the local one nor that of a node already known here. -/
def acceptsJoin (r : SwarmRaft) (payload : JoinRequest) (leader : LeaderAnswer) : Bool :=
  leader = .accepted && payload.nodeId ≠ r.nodeId && !r.nodes.contains payload.nodeId

/-- A daemon as `main` started it, after any number of joins. -/
structure Started (r : SwarmRaft) : Prop where
  rep : RepInv r
  local_id : r.nodeId = 1
  callback : r.hasCallback = true

theorem started_startedRaft : Started startedRaft where
  rep := { repInv_new 1 with }
  local_id := rfl
  callback := rfl

section Handler

variable {r : SwarmRaft}

theorem acceptsJoin_iff {payload : JoinRequest} {leader : LeaderAnswer} :
    acceptsJoin r payload leader = true ↔
      leader = .accepted ∧ payload.nodeId ≠ r.nodeId ∧ payload.nodeId ∉ r.nodes := by
  rw [acceptsJoin, Bool.and_eq_true, Bool.and_eq_true, decide_eq_true_iff, decide_eq_true_iff,
    Bool.not_eq_true', ← Bool.not_eq_true, Std.ExtTreeMap.contains_iff_mem, and_assoc]

theorem bootstrap_eq (h : RepInv r) (hinit : r.isInitialized = false) (addr publicKey : String)
    (key : Option String) (port : Option UInt16) :
    ∃ leases, ∃ r' : SwarmRaft, r' = { r with
        nodes := r.nodes.insert r.nodeId (bootstrapNode r.nodeId addr publicKey key port)
        subnetMap := leases, isInitialized := true } ∧
      r.bootstrap addr publicKey key port = ⟨.ok (), r', r'.triggerSideEffects
        [.localNodeConfigured r.nodeId (computeSubnetId r.nodeId) []]⟩ := by
  obtain ⟨leases, halloc, _⟩ := h.allocateSubnet r.nodeId
  refine ⟨leases, _, rfl, ?_⟩
  unfold SwarmRaft.bootstrap
  rw [if_neg (by simp [hinit]), halloc]
  rfl

/-- After the first half of the handler the swarm is initialised, and nothing but the
local subnet 2 has been configured. -/
theorem bootstrapIfNeeded_spec (h : Started r) (payload : JoinRequest) (outboundIp : String) :
    ∃ r₁ effects, bootstrapIfNeeded r payload outboundIp = ⟨.ok (), r₁, effects⟩ ∧
      Started r₁ ∧ r₁.isInitialized = true ∧ (∀ u ∈ configuredSubnets effects, u = 2) ∧
      ∀ i : UInt64, i ∈ r₁.nodes ↔ i = r.nodeId ∨ i ∈ r.nodes := by
  have hinv := repInv_bootstrap h.rep (outboundIp ++ ":7946")
    ("init_key_" ++ toString payload.nodeId) none none
  unfold bootstrapIfNeeded
  cases hinit : r.isInitialized with
  | true =>
    obtain ⟨n, hn, _⟩ := h.rep.leader hinit
    refine ⟨r, [], rfl, h, hinit, nofun, fun i => ⟨.inr, fun hi => ?_⟩⟩
    obtain rfl | hi := hi
    · exact mem_iff_lookup.mpr ⟨n, hn⟩
    · exact hi
  | false =>
    obtain ⟨leases, r', hr', he⟩ := bootstrap_eq h.rep hinit (outboundIp ++ ":7946")
      ("init_key_" ++ toString payload.nodeId) none none
    rw [he] at hinv
    have hcallback : r'.hasCallback = true := by rw [hr']; exact h.callback
    refine ⟨r', _, he, ⟨hinv, by rw [hr']; exact h.local_id, hcallback⟩, by rw [hr'],
      fun u hu => ?_, fun i => ?_⟩
    · rw [triggerSideEffects, if_pos hcallback, h.local_id] at hu
      exact List.mem_singleton.mp hu
    · rw [hr', mem_insert_iff, eq_comm]

/-- An accepted node is reported with the lease of the local id as the one configured. -/
theorem addNode_configures (h : Started r) {payload : JoinRequest}
    (haccept : acceptsNode r payload.nodeId = true) :
    ∃ u r₂ more, r.addNode payload.nodeId payload.addr payload.publicKey payload.wireguardKey
        payload.wireguardPort = ⟨.ok u, r₂, more⟩ ∧ Started r₂ ∧ configuredSubnets more = [2] := by
  have hinv := repInv_addNode h.rep payload.nodeId payload.addr payload.publicKey
    payload.wireguardKey payload.wireguardPort
  obtain ⟨leases, r₂, hr₂, he⟩ := addNode_eq h.rep haccept payload.addr payload.publicKey
    payload.wireguardKey payload.wireguardPort
  rw [he] at hinv ⊢
  have hid : r₂.nodeId = 1 := by rw [hr₂]; exact h.local_id
  have hcallback : r₂.hasCallback = true := by rw [hr₂]; exact h.callback
  have hinit : r₂.isInitialized = true := by rw [hr₂]; exact (acceptsNode_iff.mp haccept).1
  obtain ⟨n, hn, _⟩ := hinv.leader hinit
  have hlease : r₂.subnetMap[r₂.nodeId]? = some (computeSubnetId 1) := by
    rw [← hid]
    exact hinv.leased hn
  refine ⟨_, r₂, _, rfl, ⟨hinv, hid, hcallback⟩, ?_⟩
  rw [triggerSideEffects, if_pos hcallback, SwarmRaft.localNodeConfigured, hlease]
  rfl

/-- A join that is accepted configures subnet 2 and promises the subnet of the requested id. -/
theorem swarmJoinHandler_accepted (h : Started r) {payload : JoinRequest} {leader : LeaderAnswer}
    (haccept : acceptsJoin r payload leader = true) (outboundIp : String) :
    ∃ peers r₂ effects, swarmJoinHandler r payload leader outboundIp =
        ⟨.ok ⟨payload.nodeId, (payload.nodeId % 254 + 1).toUInt8, peers⟩, r₂, effects⟩ ∧
      Started r₂ ∧ (configuredSubnets effects).getLast? = some 2 := by
  obtain ⟨rfl, hself, hnew⟩ := acceptsJoin_iff.mp haccept
  obtain ⟨r₁, effects, he₁, hstarted₁, hinit₁, _, hmem⟩ :=
    bootstrapIfNeeded_spec h payload outboundIp
  have hnew₁ : payload.nodeId ∉ r₁.nodes := by
    rw [hmem]
    exact fun hor => hor.elim hself hnew
  obtain ⟨u, r₂, more, he₂, hstarted₂, hmore⟩ :=
    addNode_configures hstarted₁ (acceptsNode_iff.mpr ⟨hinit₁, hnew₁⟩)
  refine ⟨r₂.nodes.values, r₂, effects ++ more, ?_, hstarted₂, ?_⟩
  · simp only [swarmJoinHandler, he₁, he₂]
  · have happend : configuredSubnets (effects ++ more) = configuredSubnets effects ++ [2] := by
      rw [← hmore]
      exact List.filterMap_append
    rw [happend, List.getLast?_concat]

/-- A join that is not accepted is answered with an error and leaves the daemon usable. -/
theorem swarmJoinHandler_refused (h : Started r) {payload : JoinRequest} {leader : LeaderAnswer}
    (hrefuse : acceptsJoin r payload leader = false) (outboundIp : String) :
    (∃ e, (swarmJoinHandler r payload leader outboundIp).response = .error e) ∧
      Started (swarmJoinHandler r payload leader outboundIp).raft := by
  cases leader with
  | unreachable e => exact ⟨⟨_, rfl⟩, h⟩
  | rejected text => exact ⟨⟨_, rfl⟩, h⟩
  | accepted =>
    obtain ⟨r₁, effects, he₁, hstarted₁, _, _, hmem⟩ := bootstrapIfNeeded_spec h payload outboundIp
    have hknown : acceptsNode r₁ payload.nodeId = false := by
      rw [← Bool.not_eq_true, acceptsNode_iff, hmem, not_or]
      intro hnew
      rw [acceptsJoin_iff.mpr ⟨rfl, hnew.2⟩] at hrefuse
      cases hrefuse
    obtain ⟨e, he₂⟩ := addNode_fails hknown payload.addr payload.publicKey payload.wireguardKey
      payload.wireguardPort
    simp only [swarmJoinHandler, he₁, he₂, SwarmRaft.fail]
    exact ⟨⟨_, rfl⟩, hstarted₁⟩

end Handler

/-! ## Joins of any number of daemons -/

section Daemons

variable {δ : Type}

/-- One request to the join handler of one daemon. -/
structure Join (δ : Type) where
  daemon : δ
  payload : JoinRequest
  leader : LeaderAnswer
  outboundIp : String

/-- A join that was answered, with the effects it handed to the callback. -/
structure Joined (δ : Type) where
  daemon : δ
  response : JoinResponse
  effects : List SwarmSideEffect

/-- The subnet the daemon is left with after the join. -/
def Joined.configured (j : Joined δ) : Option UInt8 := (configuredSubnets j.effects).getLast?

def Join.outcome (daemons : δ → SwarmRaft) (j : Join δ) : JoinOutcome :=
  swarmJoinHandler (daemons j.daemon) j.payload j.leader j.outboundIp

def joinStep [DecidableEq δ] (daemons : δ → SwarmRaft) (j : Join δ) : δ → SwarmRaft :=
  Function.update daemons j.daemon (j.outcome daemons).raft

/-- The record of a request that succeeds. -/
def joinedBy (daemons : δ → SwarmRaft) (j : Join δ) : Option (Joined δ) :=
  match (j.outcome daemons).response with
  | .ok response => some ⟨j.daemon, response, (j.outcome daemons).effects⟩
  | .error _ => none

/-- Each daemon is left with the subnet its response names, and daemons that joined with
ids of different classes are left with different subnets. -/
structure OwnSubnets (joins : List (Joined δ)) : Prop where
  promised : ∀ j ∈ joins, j.configured = some j.response.subnetId
  distinct : ∀ j ∈ joins, ∀ k ∈ joins, j.daemon ≠ k.daemon →
    j.response.nodeId.toNat % 254 ≠ k.response.nodeId.toNat % 254 → j.configured ≠ k.configured

/-- An accepted request asks for an id of the class of the local id 1. -/
def AsksForLocalClass (daemons : δ → SwarmRaft) (j : Join δ) : Prop :=
  acceptsJoin (daemons j.daemon) j.payload j.leader = true → j.payload.nodeId.toNat % 254 = 1

theorem started_joinStep [DecidableEq δ] (daemons : δ → SwarmRaft) (j : Join δ)
    (h : ∀ d, Started (daemons d)) (d : δ) : Started (joinStep daemons j d) := by
  unfold joinStep Join.outcome
  by_cases hd : d = j.daemon
  · subst hd
    rw [Function.update_self]
    cases haccept : acceptsJoin (daemons j.daemon) j.payload j.leader with
    | true =>
      obtain ⟨_, _, _, he, hstarted, _⟩ :=
        swarmJoinHandler_accepted (h j.daemon) haccept j.outboundIp
      rw [he]
      exact hstarted
    | false => exact (swarmJoinHandler_refused (h j.daemon) haccept j.outboundIp).2
  · rw [Function.update_of_ne hd]
    exact h d

/-- The daemon of a join ends up on subnet 2, whatever id it asked for. -/
theorem joinedBy_spec {daemons : δ → SwarmRaft} {j : Join δ} (h : ∀ d, Started (daemons d))
    {rec : Joined δ} (hrec : joinedBy daemons j = some rec) :
    acceptsJoin (daemons j.daemon) j.payload j.leader = true ∧
      rec.response.nodeId = j.payload.nodeId ∧
      rec.response.subnetId = (j.payload.nodeId % 254 + 1).toUInt8 ∧ rec.configured = some 2 := by
  unfold joinedBy Join.outcome at hrec
  cases haccept : acceptsJoin (daemons j.daemon) j.payload j.leader with
  | true =>
    obtain ⟨peers, r₂, effects, he, _, hconf⟩ :=
      swarmJoinHandler_accepted (h j.daemon) haccept j.outboundIp
    rw [he] at hrec
    cases hrec
    exact ⟨rfl, rfl, rfl, hconf⟩
  | false =>
    obtain ⟨⟨e, he⟩, _⟩ := swarmJoinHandler_refused (h j.daemon) haccept j.outboundIp
    rw [he] at hrec
    cases hrec

theorem joinedBy_accepted {daemons : δ → SwarmRaft} {j : Join δ} (h : ∀ d, Started (daemons d))
    (haccept : acceptsJoin (daemons j.daemon) j.payload j.leader = true) :
    ∃ rec, joinedBy daemons j = some rec := by
  obtain ⟨peers, r₂, effects, he, _⟩ :=
    swarmJoinHandler_accepted (h j.daemon) haccept j.outboundIp
  exact ⟨⟨j.daemon, _, effects⟩, by simp only [joinedBy, Join.outcome, he]; rfl⟩

theorem responseSubnet_eq_two_iff (nodeId : UInt64) :
    (nodeId % 254 + 1).toUInt8 = 2 ↔ nodeId.toNat % 254 = 1 := by
  have hlt : nodeId.toNat % 254 < 254 := Nat.mod_lt _ (by omega)
  rw [← UInt8.toNat_inj]
  simp only [UInt64.toNat_toUInt8, UInt64.toNat_add, UInt64.toNat_mod, UInt64.reduceToNat,
    UInt8.reduceToNat]
  omega

/-- Where every daemon is left on subnet 2, each has its own exactly when every id is of
the class of 1. -/
theorem ownSubnets_iff {joins : List (Joined δ)} (htwo : ∀ j ∈ joins, j.configured = some 2)
    (hresponse : ∀ j ∈ joins, j.response.subnetId = (j.response.nodeId % 254 + 1).toUInt8) :
    OwnSubnets joins ↔ ∀ j ∈ joins, j.response.nodeId.toNat % 254 = 1 := by
  constructor
  · intro h j hj
    have hsame := h.promised j hj
    rw [htwo j hj, hresponse j hj] at hsame
    exact (responseSubnet_eq_two_iff _).mp (Option.some.inj hsame).symm
  · intro h
    refine ⟨fun j hj => ?_, fun j hj k hk _ hne => ?_⟩
    · rw [htwo j hj, hresponse j hj, (responseSubnet_eq_two_iff _).mpr (h j hj)]
    · exact absurd ((h j hj).trans (h k hk).symm) hne

variable [DecidableEq δ]

/-- For every order of joins on any number of freshly started daemons, each daemon has
its own subnet exactly when every accepted id is congruent to 1 modulo 254. -/
theorem joined_own_subnets_iff (run : List (Join δ)) :
    OwnSubnets (emitted joinStep joinedBy (fun _ => startedRaft) run) ↔
      Along joinStep AsksForLocalClass (fun _ => startedRaft) run := by
  have hstarted : ∀ d : δ, Started startedRaft := fun _ => started_startedRaft
  have hrecords : ∀ j ∈ emitted joinStep joinedBy (fun _ : δ => startedRaft) run,
      j.configured = some 2 ∧ j.response.subnetId = (j.response.nodeId % 254 + 1).toUInt8 := by
    rw [forall_mem_emitted_iff, along_iff]
    intro pre j _ _ rec hrec
    have hall := exec_of_invariant (Q := fun daemons : δ → SwarmRaft => ∀ d, Started (daemons d))
      hstarted started_joinStep pre
    obtain ⟨_, hid, hsubnet, htwo⟩ := joinedBy_spec hall hrec
    exact ⟨htwo, by rw [hsubnet, hid]⟩
  rw [ownSubnets_iff (fun j hj => (hrecords j hj).1) (fun j hj => (hrecords j hj).2),
    forall_mem_emitted_iff]
  refine along_congr (Q := fun daemons : δ → SwarmRaft => ∀ d, Started (daemons d)) hstarted
    (fun daemons j h _ => started_joinStep daemons j h) (fun daemons j h => ?_) run
  constructor
  · intro hall haccept
    obtain ⟨rec, hrec⟩ := joinedBy_accepted h haccept
    rw [← (joinedBy_spec h hrec).2.1]
    exact hall rec hrec
  · intro hask rec hrec
    obtain ⟨haccept, hid, _⟩ := joinedBy_spec h hrec
    rw [hid]
    exact hask haccept

/-- The request of a daemon that asks to be node 5. -/
def joinAsFive : Join Unit where
  daemon := ()
  payload := ⟨5, "10.0.0.1:7946", "key5", none, none⟩
  leader := .accepted
  outboundIp := "10.0.0.5"

/-- Node 5 is promised subnet 6 and configures subnet 2. -/
theorem node_five_not_own_subnet :
    ¬ OwnSubnets (emitted joinStep joinedBy (fun _ => startedRaft) [joinAsFive]) := by
  intro h
  have hsame : (emitted joinStep joinedBy (fun _ => startedRaft) [joinAsFive]).map
      (fun j => (j.configured, j.response.subnetId)) = [(some 2, 6)] := by decide
  obtain ⟨j, hj, hpair⟩ := List.mem_map.mp (hsame ▸ List.mem_singleton_self _)
  have hpromised := h.promised j hj
  rw [Prod.mk.injEq] at hpair
  rw [hpair.1, hpair.2] at hpromised
  exact absurd hpromised (by decide)

end Daemons

end Vyoma.Swarm
