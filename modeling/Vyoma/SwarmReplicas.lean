import Vyoma.SwarmReplay

/-!
# Agreement of replicas

Two instances are fed the same numbered commands. Applying a command consults the
local node id in one place: a node refuses to remove itself. Replicas that start with
equal maps, equal logs and equal initialisation agree after every command exactly as
long as no command removes the node of one of them.
-/
namespace Vyoma.Swarm
open OrderedMaps Runs SwarmRaft

/-- A node record without the flag that each replica sets for itself. -/
def NodeInfo.forgetLeader (n : NodeInfo) : NodeInfo := { n with isLeader := false }

/-- The replicated maps agree, nodes up to the leader flag. -/
structure MapsAgree (r s : SwarmRaft) : Prop where
  nodes : ∀ i : UInt64, (r.nodes[i]?).map NodeInfo.forgetLeader =
    (s.nodes[i]?).map NodeInfo.forgetLeader
  placements : r.vmPlacements = s.vmPlacements
  services : r.services = s.services
  subnets : r.subnetMap = s.subnetMap

/-- Both calls succeed or both fail, and the maps agree afterwards. -/
def OutcomesAgree {α : Type} (o o' : Outcome α) : Prop :=
  o.result.isOk = o'.result.isOk ∧ MapsAgree o.raft o'.raft

section Operations

variable {r s : SwarmRaft}

theorem MapsAgree.contains (h : MapsAgree r s) (i : UInt64) :
    r.nodes.contains i = s.nodes.contains i := by
  have hi := congrArg Option.isSome (h.nodes i)
  rwa [Option.isSome_map, Option.isSome_map, ← Std.ExtTreeMap.contains_eq_isSome_getElem?,
    ← Std.ExtTreeMap.contains_eq_isSome_getElem?] at hi

theorem MapsAgree.fail {α : Type} (h : MapsAgree r s) (e e' : String) :
    OutcomesAgree (r.fail e : Outcome α) (s.fail e') := ⟨rfl, h⟩

/-- Writing records that agree under one key. -/
theorem MapsAgree.insert_nodes (h : MapsAgree r s) (id : UInt64) {n m : NodeInfo}
    (hnm : n.forgetLeader = m.forgetLeader) (i : UInt64) :
    ((r.nodes.insert id n)[i]?).map NodeInfo.forgetLeader =
      ((s.nodes.insert id m)[i]?).map NodeInfo.forgetLeader := by
  rw [lookup_insert, lookup_insert]
  split_ifs
  · simp [hnm]
  · exact h.nodes i

theorem MapsAgree.addNode (h : MapsAgree r s) (hinit : r.isInitialized = s.isInitialized)
    (id : UInt64) (addr publicKey : String) (key : Option String) (port : Option UInt16) :
    OutcomesAgree (r.addNode id addr publicKey key port)
      (s.addNode id addr publicKey key port) := by
  unfold SwarmRaft.addNode SwarmRaft.allocateSubnet
  rw [hinit, h.contains id, h.subnets]
  split_ifs
  · exact h.fail _ _
  · exact h.fail _ _
  · cases s.subnetMap[id]? with
    | none => exact ⟨rfl, h.insert_nodes id rfl, h.placements, h.services, rfl⟩
    | some existing => exact ⟨rfl, h.insert_nodes id rfl, h.placements, h.services, h.subnets⟩

theorem MapsAgree.updateNodeEndpoint (h : MapsAgree r s) (id : UInt64)
    (addr key : Option String) (port : Option UInt16) :
    OutcomesAgree (r.updateNodeEndpoint id addr key port)
      (s.updateNodeEndpoint id addr key port) := by
  have hid := h.nodes id
  unfold SwarmRaft.updateNodeEndpoint
  cases hr : r.nodes[id]? with
  | none =>
    rw [hr, Option.map_none, eq_comm, Option.map_eq_none_iff] at hid
    rw [hid]
    exact h.fail _ _
  | some n =>
    rw [hr, Option.map_some, eq_comm, Option.map_eq_some_iff] at hid
    obtain ⟨m, hm, hnm⟩ := hid
    rw [hm]
    have hsame : ∀ addr key port,
        NodeInfo.forgetLeader { n with addr := addr, wireguardKey := key, wireguardPort := port } =
        NodeInfo.forgetLeader { m with addr := addr, wireguardKey := key, wireguardPort := port } := by
      intro addr key port
      cases n
      cases m
      simp only [NodeInfo.forgetLeader, NodeInfo.mk.injEq] at hnm ⊢
      simp only [hnm, and_self]
    have haddr : n.addr = m.addr := (congrArg NodeInfo.addr hnm).symm
    have hkey : n.wireguardKey = m.wireguardKey := (congrArg NodeInfo.wireguardKey hnm).symm
    have hport : n.wireguardPort = m.wireguardPort := (congrArg NodeInfo.wireguardPort hnm).symm
    refine ⟨rfl, h.insert_nodes id ?_, h.placements, h.services, h.subnets⟩
    rw [haddr, hkey, hport]
    exact hsame _ _ _

/-- The node a command asks to remove. -/
def SwarmCommand.removedNode : SwarmCommand → Option UInt64
  | .removeNode nodeId => some nodeId
  | .deregisterNode nodeId => some nodeId
  | _ => none

theorem MapsAgree.removeNode_iff (h : MapsAgree r s) (hne : r.nodeId ≠ s.nodeId) (id : UInt64) :
    OutcomesAgree (r.removeNode id) (s.removeNode id) ↔
      (id ∈ r.nodes → id ≠ r.nodeId ∧ id ≠ s.nodeId) := by
  have hboth : id ∈ s.nodes ↔ id ∈ r.nodes := by
    rw [← Std.ExtTreeMap.contains_iff_mem, ← Std.ExtTreeMap.contains_iff_mem, h.contains id]
  unfold SwarmRaft.removeNode
  rw [h.contains id, h.subnets, h.placements]
  by_cases hmem : id ∈ r.nodes
  · have hs : (!s.nodes.contains id) = false := by
      simpa using hboth.mpr hmem
    rw [hs]
    simp only [Bool.false_eq_true, if_false]
    by_cases hr : id = r.nodeId
    · rw [if_pos hr, if_neg (hr ▸ hne)]
      refine iff_of_false (fun hagree => ?_) (fun hcond => (hcond hmem).1 hr)
      have hok := hagree.1
      cases hok
    · rw [if_neg hr]
      by_cases hs' : id = s.nodeId
      · rw [if_pos hs']
        refine iff_of_false (fun hagree => ?_) (fun hcond => (hcond hmem).2 hs')
        have hok := hagree.1
        cases hok
      · rw [if_neg hs']
        refine iff_of_true ⟨rfl, fun i => ?_, rfl, h.services, rfl⟩ (fun _ => ⟨hr, hs'⟩)
        simp only [lookup_erase]
        split_ifs
        · rfl
        · exact h.nodes i
  · have hs : (!s.nodes.contains id) = true := by
      rw [Bool.not_eq_true', ← Bool.not_eq_true, Std.ExtTreeMap.contains_iff_mem, hboth]
      exact hmem
    rw [hs]
    refine iff_of_true ?_ (absurd · hmem)
    simp only [if_true]
    split_ifs <;> exact h.fail _ _

theorem OutcomesAgree.void {o o' : Outcome UInt8} (h : OutcomesAgree o o') :
    OutcomesAgree o.void o'.void := by
  obtain ⟨hok, hmaps⟩ := h
  refine ⟨?_, hmaps⟩
  unfold Outcome.void
  cases hr : o.result <;> cases hs : o'.result <;> rw [hr, hs] at hok <;>
    first | rfl | cases hok

theorem applyCommand_agree_iff (h : MapsAgree r s) (hne : r.nodeId ≠ s.nodeId)
    (hinit : r.isInitialized = s.isInitialized) (cmd : SwarmCommand) :
    OutcomesAgree (r.applyCommand cmd) (s.applyCommand cmd) ↔
      ∀ id, cmd.removedNode = some id → id ∈ r.nodes → id ≠ r.nodeId ∧ id ≠ s.nodeId := by
  have hremove : ∀ nodeId, (OutcomesAgree (r.removeNode nodeId) (s.removeNode nodeId) ↔
      ∀ id, some nodeId = some id → id ∈ r.nodes → id ≠ r.nodeId ∧ id ≠ s.nodeId) := by
    intro nodeId
    rw [h.removeNode_iff hne nodeId]
    constructor
    · intro hcond id hid
      cases hid
      exact hcond
    · intro hcond
      exact hcond nodeId rfl
  have hother : ∀ {o o' : Outcome Unit}, cmd.removedNode = none → OutcomesAgree o o' →
      (OutcomesAgree o o' ↔
        ∀ id, cmd.removedNode = some id → id ∈ r.nodes → id ≠ r.nodeId ∧ id ≠ s.nodeId) := by
    intro o o' hnone hagree
    refine iff_of_true hagree (fun id hid => ?_)
    rw [hnone] at hid
    cases hid
  cases cmd with
  | addNode nodeId addr publicKey key port =>
    exact hother rfl (h.addNode hinit nodeId addr publicKey key port).void
  | removeNode nodeId => exact hremove nodeId
  | updateNodeEndpoint nodeId addr key port =>
    exact hother rfl (h.updateNodeEndpoint nodeId addr key port)
  | registerNode nodeId addr publicKey =>
    exact hother rfl (h.addNode hinit nodeId addr publicKey none none).void
  | deregisterNode nodeId => exact hremove nodeId
  | updateVmPlacement vmId nodeId =>
    exact hother rfl ⟨rfl, h.nodes, congrArg (·.insert vmId ⟨vmId, nodeId⟩) h.placements,
      h.services, h.subnets⟩
  | removeVmPlacement vmId =>
    exact hother rfl ⟨rfl, h.nodes, congrArg (·.erase vmId) h.placements, h.services, h.subnets⟩
  | createService name spec =>
    exact hother rfl ⟨rfl, h.nodes, h.placements, congrArg (·.insert name spec) h.services,
      h.subnets⟩
  | updateService name spec =>
    exact hother rfl ⟨rfl, h.nodes, h.placements, congrArg (·.insert name spec) h.services,
      h.subnets⟩
  | deleteService name =>
    exact hother rfl ⟨rfl, h.nodes, h.placements, congrArg (·.erase name) h.services, h.subnets⟩

end Operations

/-- Two replicas that take the same numbered command. -/
def feed (p : SwarmRaft × SwarmRaft) (c : UInt64 × SwarmCommand) : SwarmRaft × SwarmRaft :=
  ((p.1.submitCommand c.2 c.1).raft, (p.2.submitCommand c.2 c.1).raft)

/-- Ok on both or Err on both, with agreeing maps afterwards. -/
def StepAgrees (p : SwarmRaft × SwarmRaft) (c : UInt64 × SwarmCommand) : Prop :=
  OutcomesAgree (p.1.submitCommand c.2 c.1) (p.2.submitCommand c.2 c.1)

/-- A command that gets as far as being applied does not remove a member that is the
local node of one of the two replicas. -/
def RemovesNeither (p : SwarmRaft × SwarmRaft) (c : UInt64 × SwarmCommand) : Prop :=
  p.1.isInitialized = true → c.1 ∉ p.1.appliedCommands → ∀ id, c.2.removedNode = some id →
    id ∈ p.1.nodes → id ≠ p.1.nodeId ∧ id ≠ p.2.nodeId

/-- What two replicas must share besides the maps to take the same steps. -/
structure Synced (p : SwarmRaft × SwarmRaft) : Prop where
  distinct : p.1.nodeId ≠ p.2.nodeId
  maps : MapsAgree p.1 p.2
  initialized : p.1.isInitialized = p.2.isInitialized
  log : p.1.appliedCommands = p.2.appliedCommands

/-- A command with a fresh index has the outcome of applying it, up to the log. -/
theorem submitCommand_fresh {r : SwarmRaft} {commandIndex : UInt64}
    (hinit : r.isInitialized = true) (hfresh : commandIndex ∉ r.appliedCommands)
    (cmd : SwarmCommand) :
    r.submitCommand cmd commandIndex = ⟨(r.applyCommand cmd).result,
      { (r.applyCommand cmd).raft with
        appliedCommands := if (r.applyCommand cmd).result.isOk then
          pushApplied r.appliedCommands commandIndex else r.appliedCommands },
      (r.applyCommand cmd).effects⟩ := by
  have hlog := (frame_applyCommand (r := r) cmd).log
  obtain ⟨hinit', _⟩ | ⟨_, hold, _⟩ | ⟨_, _, ⟨e, herr⟩, he⟩ | ⟨_, _, hok, he⟩ :=
    submitCommand_cases r cmd commandIndex
  · rw [hinit] at hinit'
    cases hinit'
  · exact absurd hold hfresh
  · rw [he, applyCommand_error herr]
    rfl
  · rw [he, hok, ← hlog]
    rfl

theorem stepAgrees_iff {p : SwarmRaft × SwarmRaft} (h : Synced p) (c : UInt64 × SwarmCommand) :
    StepAgrees p c ↔ RemovesNeither p c := by
  obtain ⟨r, s⟩ := p
  obtain ⟨hne, hmaps, hinit, hlog⟩ := h
  simp only at hne hmaps hinit hlog
  cases hr : r.isInitialized with
  | false =>
    have hs : s.isInitialized = false := hinit ▸ hr
    have hagree : StepAgrees (r, s) c := by
      simpa [StepAgrees, SwarmRaft.submitCommand, hr, hs] using hmaps.fail _ _
    exact iff_of_true hagree (by simp [RemovesNeither, hr])
  | true =>
    have hs : s.isInitialized = true := hinit ▸ hr
    by_cases hold : c.1 ∈ r.appliedCommands
    · have hold' : c.1 ∈ s.appliedCommands := hlog ▸ hold
      have hagree : StepAgrees (r, s) c := by
        simp only [StepAgrees, SwarmRaft.submitCommand, hr, hs, List.contains_iff_mem, hold, hold']
        exact ⟨rfl, hmaps⟩
      exact iff_of_true hagree (fun _ hfresh => absurd hold hfresh)
    · have hold' : c.1 ∉ s.appliedCommands := hlog ▸ hold
      have happly := applyCommand_agree_iff hmaps hne hinit c.2
      have hremoves : RemovesNeither (r, s) c ↔ ∀ id, c.2.removedNode = some id → id ∈ r.nodes →
          id ≠ r.nodeId ∧ id ≠ s.nodeId := by
        simp [RemovesNeither, hr, hold]
      rw [hremoves, ← happly]
      unfold StepAgrees
      simp only [submitCommand_fresh hr hold, submitCommand_fresh hs hold']
      exact ⟨fun h => ⟨h.1, { h.2 with }⟩, fun h => ⟨h.1, { h.2 with }⟩⟩

/-- Replicas that took a step alike are alike in all that the next step reads. -/
theorem synced_feed {p : SwarmRaft × SwarmRaft} (h : Synced p) {c : UInt64 × SwarmCommand}
    (hagree : StepAgrees p c) : Synced (feed p c) := by
  obtain ⟨r, s⟩ := p
  obtain ⟨hne, hmaps, hinit, hlog⟩ := h
  simp only at hne hmaps hinit hlog
  have hr := step_local r (.submitCommand c.2 c.1)
  have hs := step_local s (.submitCommand c.2 c.1)
  cases hrinit : r.isInitialized with
  | false =>
    have hstay : feed (r, s) c = (r, s) := by
      have hsinit : s.isInitialized = false := hinit ▸ hrinit
      simp [feed, SwarmRaft.submitCommand, hrinit, hsinit, SwarmRaft.fail]
    rw [hstay]
    exact ⟨hne, hmaps, hinit, hlog⟩
  | true =>
    have hsinit : s.isInitialized = true := hinit ▸ hrinit
    have hdistinct : (feed (r, s) c).1.nodeId ≠ (feed (r, s) c).2.nodeId :=
      fun he => hne (hr.1.symm.trans (he.trans hs.1))
    refine ⟨hdistinct, hagree.2, (hr.2 hrinit).trans (hs.2 hsinit).symm, ?_⟩
    by_cases hold : c.1 ∈ r.appliedCommands
    · have hstay : feed (r, s) c = (r, s) := by
        have hold' : c.1 ∈ s.appliedCommands := hlog ▸ hold
        simp [feed, SwarmRaft.submitCommand, hrinit, hsinit, hold, hold']
      rw [hstay]
      exact hlog
    · have hold' : c.1 ∉ s.appliedCommands := hlog ▸ hold
      have hok := hagree.1
      simp only [submitCommand_fresh hrinit hold, submitCommand_fresh hsinit hold'] at hok
      simp only [feed, submitCommand_fresh hrinit hold, submitCommand_fresh hsinit hold', hok, hlog]

theorem initialized_eq_of_mapsAgree {r s : SwarmRaft} (hr : RepInv r) (hs : RepInv s)
    (h : MapsAgree r s) : r.isInitialized = s.isInitialized := by
  have hkey : ∀ {t u : SwarmRaft}, RepInv t → RepInv u → (∀ i, t.nodes.contains i =
      u.nodes.contains i) → t.isInitialized = true → u.isInitialized = true := by
    intro t u ht hu hsame hinit
    obtain ⟨n, hn, _⟩ := ht.leader hinit
    have hmem : u.nodes.contains t.nodeId = true := by
      rw [← hsame, Std.ExtTreeMap.contains_eq_isSome_getElem?, hn]
      rfl
    rw [Std.ExtTreeMap.contains_iff_mem, mem_iff_lookup] at hmem
    obtain ⟨m, hm⟩ := hmem
    exact hu.initialized_of_node hm
  rw [Bool.eq_iff_iff]
  exact ⟨hkey hr hs h.contains, hkey hs hr fun i => (h.contains i).symm⟩

/-- Two instances with different local nodes, equal maps and equal logs go through any
sequence of commands alike, step by step, exactly when no command that is applied
removes a member that is the local node of one of them. -/
theorem replicas_agree_iff (id₁ id₂ : UInt64) (run₁ run₂ : List Action) (hne : id₁ ≠ id₂)
    (hmaps : MapsAgree (exec step (SwarmRaft.new id₁) run₁) (exec step (SwarmRaft.new id₂) run₂))
    (hlog : (exec step (SwarmRaft.new id₁) run₁).appliedCommands =
      (exec step (SwarmRaft.new id₂) run₂).appliedCommands)
    (cmds : List (UInt64 × SwarmCommand)) :
    Along feed StepAgrees
      (exec step (SwarmRaft.new id₁) run₁, exec step (SwarmRaft.new id₂) run₂) cmds ↔
    Along feed RemovesNeither
      (exec step (SwarmRaft.new id₁) run₁, exec step (SwarmRaft.new id₂) run₂) cmds := by
  have hinv : ∀ id run, RepInv (exec step (SwarmRaft.new id) run) :=
    fun id => exec_of_invariant (repInv_new id) repInv_step
  have hids : ∀ id run, (exec step (SwarmRaft.new id) run).nodeId = id :=
    fun id run => (exec_local (SwarmRaft.new id) run).1
  have hsynced : Synced
      (exec step (SwarmRaft.new id₁) run₁, exec step (SwarmRaft.new id₂) run₂) := by
    refine ⟨?_, hmaps, initialized_eq_of_mapsAgree (hinv id₁ run₁) (hinv id₂ run₂) hmaps, hlog⟩
    rw [hids, hids]
    exact hne
  exact along_congr hsynced (fun _ _ h hagree => synced_feed h hagree)
    (fun _ c h => stepAgrees_iff h c) cmds

/-- Node 1 bootstraps and node 2 joins. -/
def firstReplica : List Action :=
  [.bootstrap "10.0.0.1:7946" "key1" none none, .addNode 2 "10.0.0.2:7946" "key2" none none]

/-- The same swarm as node 2 builds it. -/
def secondReplica : List Action :=
  [.bootstrap "10.0.0.2:7946" "key2" none none, .addNode 1 "10.0.0.1:7946" "key1" none none]

theorem mapsAgree_of_forgetLeader {r s : SwarmRaft}
    (hnodes : r.nodes.map (fun _ n => n.forgetLeader) = s.nodes.map (fun _ n => n.forgetLeader))
    (hplacements : r.vmPlacements = s.vmPlacements) (hservices : r.services = s.services)
    (hsubnets : r.subnetMap = s.subnetMap) : MapsAgree r s := by
  refine ⟨fun i => ?_, hplacements, hservices, hsubnets⟩
  have hi := congrArg (fun m : Std.ExtTreeMap UInt64 NodeInfo => m[i]?) hnodes
  simpa only [Std.ExtTreeMap.getElem?_map] using hi

theorem firstReplica_agrees : MapsAgree (exec step (SwarmRaft.new 1) firstReplica)
    (exec step (SwarmRaft.new 2) secondReplica) :=
  mapsAgree_of_forgetLeader (by decide) (by decide) (by decide) (by decide)

/-- Both replicas place a VM, admit node 3 and remove it again. -/
theorem replicas_agree_iff_third_node :
    let cmds : List (UInt64 × SwarmCommand) := [(1, .updateVmPlacement "vm-123" 3),
      (2, .registerNode 3 "10.0.0.3:7946" "key3"), (3, .removeNode 3)]
    Along feed StepAgrees
      (exec step (SwarmRaft.new 1) firstReplica, exec step (SwarmRaft.new 2) secondReplica) cmds := by
  intro cmds
  refine (replicas_agree_iff 1 2 firstReplica secondReplica (by decide) firstReplica_agrees
    (by decide) cmds).mpr ⟨?_, ?_, ?_, trivial⟩
  · intro _ _ id hid
    cases hid
  · intro _ _ id hid
    cases hid
  · intro _ _ id hid _
    cases hid
    decide

/-- Removing node 1 is refused by replica 1 and accepted by replica 2, whose maps and
logs agree; and with equal maps but different logs one replica skips what the other applies. -/
theorem replicas_split :
    let r := exec step (SwarmRaft.new 1) firstReplica
    let s := exec step (SwarmRaft.new 2) secondReplica
    let r' := exec step r [.submitCommand (.removeVmPlacement "vm-123") 1]
    (MapsAgree r s ∧ r.appliedCommands = s.appliedCommands ∧
      ¬ StepAgrees (r, s) (1, .removeNode 1)) ∧
    (MapsAgree r' s ∧ ¬ StepAgrees (r', s) (1, .updateVmPlacement "vm-123" 1)) := by
  intro r s r'
  refine ⟨⟨firstReplica_agrees, by decide, fun h => ?_⟩,
    mapsAgree_of_forgetLeader (by decide) (by decide) (by decide) (by decide), fun h => ?_⟩
  · have hok : (r.submitCommand (.removeNode 1) 1).result.isOk =
      (s.submitCommand (.removeNode 1) 1).result.isOk := h.1
    revert hok
    decide
  · have hplaced : (r'.submitCommand (.updateVmPlacement "vm-123" 1) 1).raft.vmPlacements =
      (s.submitCommand (.updateVmPlacement "vm-123" 1) 1).raft.vmPlacements := h.2.placements
    revert hplaced
    decide

end Vyoma.Swarm
