import Vyoma.SwarmLeases

/-!
# Placements and the members they name

A placement is stored for whatever node id the command carries, while removing a node
deletes the placements on it. A placement on a node that is not a member can therefore
only come from the command that stores it, and a swarm keeps all placements on members
exactly along the runs in which every placement that is stored names a member.
-/
namespace Vyoma.Swarm
open OrderedMaps Runs SwarmRaft

/-- Every placement names a node of the node map. -/
def PlacedOnMembers (r : SwarmRaft) : Prop :=
  ∀ (v : String) (p : VmPlacement), r.vmPlacements[v]? = some p → p.nodeId ∈ r.nodes

/-- One numbered command, as `submit_command` leaves the swarm. -/
def submit (r : SwarmRaft) (entry : SwarmCommand × UInt64) : SwarmRaft :=
  (r.submitCommand entry.1 entry.2).raft

/-- The node a command places a VM on. -/
def SwarmCommand.placedOn : SwarmCommand → Option UInt64
  | .updateVmPlacement _ nodeId => some nodeId
  | _ => none

/-- A placement command that is not skipped as a replay names a member. -/
def PlacesOnMember (r : SwarmRaft) (entry : SwarmCommand × UInt64) : Prop :=
  entry.2 ∉ r.appliedCommands → ∀ id, entry.1.placedOn = some id → id ∈ r.nodes

/-- A state just after `bootstrap` on a fresh instance. -/
def bootstrapped (localId : UInt64) (addr publicKey : String) (key : Option String)
    (port : Option UInt16) : SwarmRaft :=
  ((SwarmRaft.new localId).bootstrap addr publicKey key port).raft

section Commands

variable {r : SwarmRaft}

/-- Growing the members and dropping placements keeps the placements on members. -/
theorem PlacedOnMembers.mono {r' : SwarmRaft} (h : PlacedOnMembers r)
    (hplaced : ∀ (v : String) (p : VmPlacement), r'.vmPlacements[v]? = some p →
      r.vmPlacements[v]? = some p)
    (hmember : ∀ i : UInt64, i ∈ r.nodes → i ∈ r'.nodes) : PlacedOnMembers r' := by
  intro v p hp
  exact hmember p.nodeId (h v p (hplaced v p hp))

theorem addNode_vmPlacements (nodeId : UInt64) (addr publicKey : String) (key : Option String)
    (port : Option UInt16) :
    (r.addNode nodeId addr publicKey key port).raft.vmPlacements = r.vmPlacements := by
  unfold SwarmRaft.addNode SwarmRaft.allocateSubnet
  split_ifs
  · rfl
  · rfl
  · cases r.subnetMap[nodeId]? <;> rfl

theorem placedOnMembers_addNode (h : PlacedOnMembers r) (nodeId : UInt64)
    (addr publicKey : String) (key : Option String) (port : Option UInt16) :
    PlacedOnMembers (r.addNode nodeId addr publicKey key port).raft := by
  refine h.mono (fun v p hp => ?_) (fun i hi => ?_)
  · rwa [addNode_vmPlacements] at hp
  · cases haccept : acceptsNode r nodeId with
    | false => rwa [addNode_rejected haccept]
    | true => exact (mem_addNode_accepted haccept addr publicKey key port i).mpr (.inr hi)

/-- Only the placements on the removed node lose their member, and they are dropped. -/
theorem placedOnMembers_removeNode (h : PlacedOnMembers r) (nodeId : UInt64) :
    PlacedOnMembers (r.removeNode nodeId).raft := by
  unfold SwarmRaft.removeNode
  split_ifs
  · exact h
  · exact h
  · intro v p hp
    rw [lookup_filter, Option.filter_eq_some_iff] at hp
    obtain ⟨hp, hkept⟩ := hp
    have hne : p.nodeId ≠ nodeId := by simpa using hkept
    obtain ⟨n, hn⟩ := mem_iff_lookup.mp (h v p hp)
    exact mem_iff_lookup.mpr ⟨n, lookup_erase_eq_some_iff.mpr ⟨hne.symm, hn⟩⟩

theorem placedOnMembers_updateNodeEndpoint (h : PlacedOnMembers r) (nodeId : UInt64)
    (addr key : Option String) (port : Option UInt16) :
    PlacedOnMembers (r.updateNodeEndpoint nodeId addr key port).raft := by
  unfold SwarmRaft.updateNodeEndpoint
  split
  · exact h
  · exact h.mono (fun _ _ hp => hp) (fun i hi => mem_insert_iff.mpr (.inr hi))

/-- The command decides: with all placements on members before it, they are so after it
exactly when a placement it stores names a member. -/
theorem placedOnMembers_applyCommand_iff (h : PlacedOnMembers r) (cmd : SwarmCommand) :
    PlacedOnMembers (r.applyCommand cmd).raft ↔ ∀ id, cmd.placedOn = some id → id ∈ r.nodes := by
  have hother : cmd.placedOn = none → PlacedOnMembers (r.applyCommand cmd).raft →
      (PlacedOnMembers (r.applyCommand cmd).raft ↔
        ∀ id, cmd.placedOn = some id → id ∈ r.nodes) := by
    intro hnone hkept
    exact iff_of_true hkept (fun id hid => by rw [hnone] at hid; cases hid)
  cases cmd with
  | addNode nodeId addr publicKey key port =>
    exact hother rfl (placedOnMembers_addNode h nodeId addr publicKey key port)
  | removeNode nodeId => exact hother rfl (placedOnMembers_removeNode h nodeId)
  | updateNodeEndpoint nodeId addr key port =>
    exact hother rfl (placedOnMembers_updateNodeEndpoint h nodeId addr key port)
  | registerNode nodeId addr publicKey =>
    exact hother rfl (placedOnMembers_addNode h nodeId addr publicKey none none)
  | deregisterNode nodeId => exact hother rfl (placedOnMembers_removeNode h nodeId)
  | updateVmPlacement vmId nodeId =>
    constructor
    · intro hafter id hid
      cases hid
      exact hafter vmId ⟨vmId, nodeId⟩ (lookup_insert_eq_some_iff.mpr (.inl ⟨rfl, rfl⟩))
    · intro hmember v p hp
      obtain ⟨_, rfl⟩ | ⟨_, hp⟩ := lookup_insert_eq_some_iff.mp hp
      · exact hmember nodeId rfl
      · exact h v p hp
  | removeVmPlacement vmId =>
    exact hother rfl (h.mono (fun v p hp => (lookup_erase_eq_some_iff.mp hp).2) fun _ hi => hi)
  | createService name spec => exact hother rfl h
  | updateService name spec => exact hother rfl h
  | deleteService name => exact hother rfl h

theorem initialized_submit (entry : SwarmCommand × UInt64) (hinit : r.isInitialized = true) :
    (submit r entry).isInitialized = true :=
  (step_local r (.submitCommand entry.1 entry.2)).2 hinit

theorem placedOnMembers_submit_iff (entry : SwarmCommand × UInt64)
    (hinit : r.isInitialized = true) (h : PlacedOnMembers r) :
    PlacedOnMembers (submit r entry) ↔ PlacesOnMember r entry := by
  have happly := placedOnMembers_applyCommand_iff h entry.1
  unfold submit PlacesOnMember
  obtain ⟨hfalse, _⟩ | ⟨_, hold, he⟩ | ⟨_, hfresh, _, he⟩ | ⟨_, hfresh, _, he⟩ :=
    submitCommand_cases r entry.1 entry.2
  · rw [hinit] at hfalse
    cases hfalse
  · rw [he]
    exact iff_of_true h (fun hfresh => absurd hold hfresh)
  · rw [he, happly]
    exact ⟨fun hmember _ => hmember, fun hmember => hmember hfresh⟩
  · rw [he]
    exact happly.trans ⟨fun hmember _ => hmember, fun hmember => hmember hfresh⟩

end Commands

theorem placedOnMembers_bootstrapped (localId : UInt64) (addr publicKey : String)
    (key : Option String) (port : Option UInt16) :
    PlacedOnMembers (bootstrapped localId addr publicKey key port) := by
  intro v p hp
  have hnone : (∅ : Std.ExtTreeMap String VmPlacement)[v]? = none := by simp
  exact absurd (hnone.symm.trans hp) nofun

/-- Over every sequence of commands after bootstrap, all placements stay on members
exactly when every placement command that is applied names a member at that time. -/
theorem placements_on_members_iff (localId : UInt64) (addr publicKey : String)
    (key : Option String) (port : Option UInt16) (run : List (SwarmCommand × UInt64)) :
    Throughout submit PlacedOnMembers (bootstrapped localId addr publicKey key port) run ↔
      Along submit PlacesOnMember (bootstrapped localId addr publicKey key port) run := by
  have hinit : (bootstrapped localId addr publicKey key port).isInitialized = true := rfl
  exact throughout_iff_along_of_invariant (I := fun r => r.isInitialized = true) hinit
    (fun _ entry hr => initialized_submit entry hr)
    (placedOnMembers_bootstrapped localId addr publicKey key port)
    (fun _ entry hr h => placedOnMembers_submit_iff entry hr h) run

/-- A VM placed on node 7, which never joined the swarm of node 1. -/
theorem placement_on_stranger :
    ¬ Throughout submit PlacedOnMembers (bootstrapped 1 "10.0.0.1:7946" "init_key_1" none none)
      [(.updateVmPlacement "vm-a" 7, 1)] := by
  intro h
  have hlast := h.exec
  simp only [exec_cons, exec_nil] at hlast
  generalize hend : submit _ _ = r at hlast
  have hplaced : r.vmPlacements["vm-a"]? = some ⟨"vm-a", 7⟩ := by
    rw [← hend]
    decide
  have habsent : r.nodes.contains (7 : UInt64) = false := by
    rw [← hend]
    decide
  have hmember := Std.ExtTreeMap.contains_iff_mem.mpr (hlast "vm-a" _ hplaced)
  exact absurd (habsent.symm.trans hmember) nofun

end Vyoma.Swarm
