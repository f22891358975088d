import Mathlib.Algebra.Group.Nat.Defs
import Mathlib.Data.List.Nodup
import Vyoma.SwarmInvariant

/-!
# Rejected and replayed commands

A command that is refused leaves the swarm as it was. A command whose index is in the
log of applied indices is skipped. The log is trimmed to its newest 501 entries each
time it passes 1000, so what is skipped depends on how many commands were applied.
-/
namespace Vyoma.Swarm
open Runs SwarmRaft

section Rejected

variable {r : SwarmRaft} {e : String}

theorem addNode_error {nodeId : UInt64} {addr publicKey : String} {key : Option String}
    {port : Option UInt16} (h : (r.addNode nodeId addr publicKey key port).result = .error e) :
    r.addNode nodeId addr publicKey key port = r.fail e := by
  unfold SwarmRaft.addNode at h ⊢
  split_ifs at h ⊢
  · cases h
    rfl
  · cases h
    rfl

theorem removeNode_error {nodeId : UInt64} (h : (r.removeNode nodeId).result = .error e) :
    r.removeNode nodeId = r.fail e := by
  unfold SwarmRaft.removeNode at h ⊢
  split_ifs at h ⊢
  · cases h
    rfl
  · cases h
    rfl

theorem updateNodeEndpoint_error {nodeId : UInt64} {addr key : Option String}
    {port : Option UInt16} (h : (r.updateNodeEndpoint nodeId addr key port).result = .error e) :
    r.updateNodeEndpoint nodeId addr key port = r.fail e := by
  unfold SwarmRaft.updateNodeEndpoint at h ⊢
  cases hn : r.nodes[nodeId]? with
  | none =>
    rw [hn] at h
    cases h
    rfl
  | some node =>
    rw [hn] at h
    cases h

theorem void_fail_of_error {o : Outcome UInt8} (herr : o.void.result = .error e)
    (hfail : ∀ e, o.result = .error e → o = r.fail e) : o.void = r.fail e := by
  cases hres : o.result with
  | error e' =>
    rw [hfail e' hres] at herr ⊢
    cases herr
    rfl
  | ok u =>
    rw [Outcome.void, hres] at herr
    cases herr

theorem applyCommand_error {cmd : SwarmCommand} (h : (r.applyCommand cmd).result = .error e) :
    r.applyCommand cmd = r.fail e := by
  cases cmd with
  | addNode nodeId addr publicKey key port => exact void_fail_of_error h fun _ => addNode_error
  | removeNode nodeId => exact removeNode_error h
  | updateNodeEndpoint nodeId addr key port => exact updateNodeEndpoint_error h
  | registerNode nodeId addr publicKey => exact void_fail_of_error h fun _ => addNode_error
  | deregisterNode nodeId => exact removeNode_error h
  | _ => cases h

end Rejected

/-- A refused command leaves every field as it was and hands nothing to the callback. -/
theorem submitCommand_rejected (r : SwarmRaft) (cmd : SwarmCommand) (commandIndex : UInt64)
    (e : String) (h : (r.submitCommand cmd commandIndex).result = .error e) :
    (r.submitCommand cmd commandIndex).raft = r ∧
      (r.submitCommand cmd commandIndex).effects = [] := by
  obtain ⟨_, he⟩ | ⟨_, _, he⟩ | ⟨_, _, ⟨e', he'⟩, he⟩ | ⟨_, _, _, he⟩ :=
    submitCommand_cases r cmd commandIndex
  · rw [he]
    exact ⟨rfl, rfl⟩
  · rw [he]
    exact ⟨rfl, rfl⟩
  · rw [he, applyCommand_error he']
    exact ⟨rfl, rfl⟩
  · rw [he] at h
    cases h

/-- A bootstrapped node with a callback refuses to remove itself. -/
theorem submitCommand_rejected_self :
    let r := exec step (SwarmRaft.new 1) [.setSideEffectCallback,
      .bootstrap "10.0.0.1:7946" "leader_key" none none]
    (r.submitCommand (.removeNode 1) 1).result = .error "Cannot remove self" ∧
      (r.submitCommand (.removeNode 1) 1).raft = r ∧
      (r.submitCommand (.removeNode 1) 1).effects = [] :=
  ⟨by decide, submitCommand_rejected _ _ _ "Cannot remove self" (by decide)⟩

/-- The index a call applies anew: not in the log, and the command succeeds. -/
def newlyApplied (r : SwarmRaft) : Action → Option UInt64
  | .submitCommand cmd commandIndex =>
    if r.isInitialized ∧ commandIndex ∉ r.appliedCommands ∧ (r.applyCommand cmd).result = .ok ()
    then some commandIndex else none
  | _ => none

/-- The indices applied anew in a run, in order. -/
abbrev appliedIndices (r : SwarmRaft) (run : List Action) : List UInt64 :=
  emitted step newlyApplied r run

/-- What is left of a list of applied indices after trimming. -/
def trimmed (all : List UInt64) : List UInt64 := all.drop (500 * ((all.length - 501) / 500))

theorem pushApplied_trimmed (all : List UInt64) (i : UInt64) :
    pushApplied (trimmed all) i = trimmed (all ++ [i]) := by
  have hlen : (all ++ [i]).length = all.length + 1 := by simp
  have hkept : 500 * ((all.length - 501) / 500) ≤ all.length := by omega
  have hpush : trimmed all ++ [i] = (all ++ [i]).drop (500 * ((all.length - 501) / 500)) := by
    rw [trimmed, List.drop_append_of_le_length hkept]
  simp only [pushApplied]
  rw [hpush, List.length_drop, hlen, trimmed, hlen]
  split_ifs with hlong
  · have hcut : 500 * ((all.length - 501) / 500) + 500 = 500 * ((all.length + 1 - 501) / 500) := by
      omega
    rw [List.drop_drop, hcut]
  · have hcut : (all.length - 501) / 500 = (all.length + 1 - 501) / 500 := by omega
    rw [hcut]

theorem appliedCommands_step (r : SwarmRaft) (a : Action) :
    (step r a).appliedCommands =
      match newlyApplied r a with
      | some i => pushApplied r.appliedCommands i
      | none => r.appliedCommands := by
  cases a with
  | bootstrap addr publicKey key port => exact (frame_bootstrap addr publicKey key port).log
  | addNode nodeId addr publicKey key port =>
    exact (frame_addNode nodeId addr publicKey key port).log
  | removeNode nodeId => exact (frame_removeNode nodeId).log
  | updateNodeEndpoint nodeId addr key port =>
    exact (frame_updateNodeEndpoint nodeId addr key port).log
  | setNodeName nodeId name => exact (frame_setNodeName nodeId name).log
  | setSideEffectCallback => rfl
  | setLastAppliedIndex index => rfl
  | submitCommand cmd commandIndex =>
    have hlog := (frame_applyCommand (r := r) cmd).log
    show (r.submitCommand cmd commandIndex).raft.appliedCommands = _
    obtain ⟨hinit, he⟩ | ⟨_, hold, he⟩ | ⟨_, _, ⟨e, herr⟩, he⟩ | ⟨hinit, hnew, hok, he⟩ :=
      submitCommand_cases r cmd commandIndex
    · rw [he, newlyApplied, if_neg (by simp [hinit])]
      rfl
    · rw [he, newlyApplied, if_neg (by simp [hold])]
    · rw [he, newlyApplied, if_neg (by simp [herr]), hlog]
    · rw [he, newlyApplied, if_pos ⟨hinit, hnew, hok⟩, ← hlog]

/-- The log of a run is what trimming leaves of the indices applied in it. -/
theorem appliedCommands_exec {r : SwarmRaft} {all : List UInt64}
    (h : r.appliedCommands = trimmed all) (run : List Action) :
    (exec step r run).appliedCommands = trimmed (all ++ appliedIndices r run) := by
  induction run generalizing r all with
  | nil => simpa [emitted] using h
  | cons a run ih =>
    have hstep := appliedCommands_step r a
    rw [exec_cons, appliedIndices, emitted]
    cases happ : newlyApplied r a with
    | none =>
      rw [happ] at hstep
      exact ih (hstep.trans h)
    | some i =>
      simp only [happ, h, pushApplied_trimmed] at hstep
      rw [ih hstep]
      simp

theorem new_appliedCommands (localId : UInt64) :
    (SwarmRaft.new localId).appliedCommands = trimmed [] := rfl

/-- Ok, the four maps as before, and nothing handed to the callback. -/
def Skipped (r : SwarmRaft) (o : Outcome Unit) : Prop :=
  o.result = .ok () ∧ o.raft.nodes = r.nodes ∧ o.raft.vmPlacements = r.vmPlacements ∧
    o.raft.services = r.services ∧ o.raft.subnetMap = r.subnetMap ∧ o.effects = []

theorem skipped_of_mem {r : SwarmRaft} {commandIndex : UInt64} (hinit : r.isInitialized = true)
    (hmem : commandIndex ∈ r.appliedCommands) (cmd : SwarmCommand) :
    Skipped r (r.submitCommand cmd commandIndex) := by
  have hskip : r.submitCommand cmd commandIndex = ⟨.ok (), r, []⟩ := by
    simp [SwarmRaft.submitCommand, hinit, hmem]
  rw [hskip]
  exact ⟨rfl, rfl, rfl, rfl, rfl, rfl⟩

theorem newlyApplied_initialized {r : SwarmRaft} {cmd : SwarmCommand} {commandIndex i : UInt64}
    (h : newlyApplied r (.submitCommand cmd commandIndex) = some i) :
    r.isInitialized = true ∧ i = commandIndex := by
  simp only [newlyApplied] at h
  split_ifs at h with hcond
  exact ⟨hcond.1, (Option.some.inj h).symm⟩

/-- In every run, an index applied anew is skipped from then on, whatever command comes
with it, until trimming has dropped more indices than were applied before it. -/
theorem submitCommand_replay_skipped (localId : UInt64)
    (pre post : List Action) (cmd cmd' : SwarmCommand) (commandIndex : UInt64)
    (happlied : newlyApplied (exec step (SwarmRaft.new localId) pre)
      (.submitCommand cmd commandIndex) = some commandIndex)
    (hkept : 500 * (((appliedIndices (SwarmRaft.new localId)
        (pre ++ .submitCommand cmd commandIndex :: post)).length - 501) / 500) ≤
      (appliedIndices (SwarmRaft.new localId) pre).length) :
    let r := exec step (SwarmRaft.new localId)
      (pre ++ .submitCommand cmd commandIndex :: post)
    Skipped r (r.submitCommand cmd' commandIndex) := by
  have hlog := appliedCommands_exec (new_appliedCommands localId)
    (pre ++ .submitCommand cmd commandIndex :: post)
  have hall : appliedIndices (SwarmRaft.new localId)
      (pre ++ .submitCommand cmd commandIndex :: post) =
      appliedIndices (SwarmRaft.new localId) pre ++ commandIndex :: appliedIndices
        (step (exec step (SwarmRaft.new localId) pre) (.submitCommand cmd commandIndex))
        post := by
    rw [appliedIndices, emitted_append, emitted, happlied]
    rfl
  have hinit : (exec step (SwarmRaft.new localId)
      (pre ++ .submitCommand cmd commandIndex :: post)).isInitialized = true := by
    rw [exec_append]
    exact (exec_local _ _).2 (newlyApplied_initialized happlied).1
  refine skipped_of_mem hinit ?_ cmd'
  rw [hlog, List.nil_append, trimmed]
  rw [hall] at hkept ⊢
  rw [List.drop_append_of_le_length hkept]
  exact List.mem_append_right _ List.mem_cons_self

/-- A placement submitted twice under one index, with another command in between. -/
theorem submitCommand_replay_skipped_placement :
    let pre : List Action := [.bootstrap "10.0.0.1:7946" "leader_key" none none]
    let first : Action := .submitCommand (.updateVmPlacement "vm-replay" 1) 1
    let post : List Action := [.submitCommand (.removeVmPlacement "vm-replay") 2]
    newlyApplied (exec step (SwarmRaft.new 1) pre) first = some 1 ∧
      Skipped (exec step (SwarmRaft.new 1) (pre ++ first :: post))
        ((exec step (SwarmRaft.new 1) (pre ++ first :: post)).submitCommand
          (.updateVmPlacement "vm-replay" 1) 1) :=
  ⟨by decide, submitCommand_replay_skipped 1 _ _ (.updateVmPlacement "vm-replay" 1)
    (.updateVmPlacement "vm-replay" 1) 1 (by decide) (by decide)⟩

/-- Consecutive removals of one placement, numbered by `indices`. -/
def removals (vmId : String) (indices : List UInt64) : List Action :=
  indices.map (.submitCommand (.removeVmPlacement vmId))

/-- Removals under fresh indices are all applied, and leave no placement of the VM. -/
theorem removals_applied {r : SwarmRaft} {all indices : List UInt64} (vmId : String)
    (hinit : r.isInitialized = true) (hlog : r.appliedCommands = trimmed all)
    (hfresh : (all ++ indices).Nodup) (hgone : indices = [] → r.vmPlacements[vmId]? = none) :
    appliedIndices r (removals vmId indices) = indices ∧
      (exec step r (removals vmId indices)).vmPlacements[vmId]? = none := by
  induction indices generalizing r all with
  | nil => exact ⟨rfl, hgone rfl⟩
  | cons i indices ih =>
    have hnew : i ∉ r.appliedCommands := by
      intro hmem
      rw [hlog] at hmem
      exact (List.nodup_append.mp hfresh).2.2 i (List.mem_of_mem_drop hmem) i List.mem_cons_self rfl
    have happ : newlyApplied r (.submitCommand (.removeVmPlacement vmId) i) = some i :=
      if_pos ⟨hinit, hnew, rfl⟩
    have hstep : step r (.submitCommand (.removeVmPlacement vmId) i) = { r with
        vmPlacements := r.vmPlacements.erase vmId
        appliedCommands := pushApplied r.appliedCommands i } := by
      simp [step, call, SwarmRaft.submitCommand, SwarmRaft.applyCommand, hinit, hnew]
    have hinit' : (step r (.submitCommand (.removeVmPlacement vmId) i)).isInitialized = true := by
      rw [hstep]
      exact hinit
    have hlog' : (step r (.submitCommand (.removeVmPlacement vmId) i)).appliedCommands =
        trimmed (all ++ [i]) := by
      rw [hstep, ← pushApplied_trimmed, ← hlog]
    have hrest := ih hinit' hlog' (by simpa using hfresh) (fun _ => by rw [hstep]; simp)
    simp only [removals, List.map_cons, appliedIndices, emitted, happ, exec_cons]
    exact ⟨congrArg (i :: ·) hrest.1, hrest.2⟩

/-- After a thousand other indices the oldest one is out of the log. -/
theorem oldest_notMem_trimmed {i : UInt64} {rest : List UInt64} (hlen : 1000 ≤ rest.length)
    (hi : i ∉ rest) : i ∉ trimmed (i :: rest) := by
  obtain ⟨k, hk⟩ : ∃ k, 500 * ((rest.length + 1 - 501) / 500) = k + 1 :=
    Nat.exists_eq_add_one_of_ne_zero (by omega)
  rw [trimmed, List.length_cons, hk, List.drop_succ_cons]
  exact fun hmem => hi (List.mem_of_mem_drop hmem)

/-- A placement under index 0 that was removed again by a thousand further commands
comes back when index 0 is replayed. -/
theorem not_skipped_after_removals {rest : List UInt64} (hlen : 1000 ≤ rest.length)
    (hfresh : (0 :: rest).Nodup) :
    let r := exec step (SwarmRaft.new 1)
      (.bootstrap "10.0.0.1:7946" "leader_key" none none ::
        .submitCommand (.updateVmPlacement "vm-123" 1) 0 :: removals "vm-123" rest)
    ¬ Skipped r (r.submitCommand (.updateVmPlacement "vm-123" 1) 0) := by
  intro r
  obtain ⟨r₀, hr₀⟩ : ∃ r₀, r₀ = exec step (SwarmRaft.new 1)
      [.bootstrap "10.0.0.1:7946" "leader_key" none none,
        .submitCommand (.updateVmPlacement "vm-123" 1) 0] := ⟨_, rfl⟩
  have hr : r = exec step r₀ (removals "vm-123" rest) := by rw [hr₀, ← exec_append]; rfl
  have hinit₀ : r₀.isInitialized = true := by rw [hr₀]; decide
  have hlog₀ : r₀.appliedCommands = trimmed [0] := by rw [hr₀]; decide
  have hne : rest ≠ [] := by
    intro he
    rw [he, List.length_nil] at hlen
    omega
  obtain ⟨hindices, hgone⟩ := removals_applied "vm-123" hinit₀ hlog₀ hfresh (absurd · hne)
  have hlog := appliedCommands_exec hlog₀ (removals "vm-123" rest)
  rw [hindices, List.singleton_append, ← hr] at hlog
  have hnew : 0 ∉ r.appliedCommands := by
    rw [hlog]
    exact oldest_notMem_trimmed hlen (List.nodup_cons.mp hfresh).1
  have hinit : r.isInitialized = true := by
    rw [hr]
    exact (exec_local r₀ _).2 hinit₀
  have hback : (r.submitCommand (.updateVmPlacement "vm-123" 1) 0).raft.vmPlacements =
      r.vmPlacements.insert "vm-123" ⟨"vm-123", 1⟩ := by
    simp [SwarmRaft.submitCommand, SwarmRaft.applyCommand, hinit, hnew]
  intro hskip
  have hsame := hskip.2.2.1
  rw [hback] at hsame
  rw [← hr, ← hsame] at hgone
  simp at hgone

/-- The indices from 1 to `count`. -/
def indicesTo (count : ℕ) : List UInt64 := (List.range' 1 count).map UInt64.ofNat

theorem indicesTo_nodup {count : ℕ} (h : count < 2 ^ 64) : (0 :: indicesTo count).Nodup := by
  have hall : (List.range' 0 (count + 1)).map UInt64.ofNat = 0 :: indicesTo count := rfl
  rw [← hall]
  apply List.Nodup.map_on _ List.nodup_range'
  intro i hi j hj he
  rw [List.mem_range'_1] at hi hj
  have hsize : UInt64.size = 2 ^ 64 := rfl
  have hnat := congrArg UInt64.toNat he
  rwa [UInt64.toNat_ofNat_of_lt' (by omega), UInt64.toNat_ofNat_of_lt' (by omega)] at hnat

/-- Index 0 is applied anew, one thousand removals follow, and its replay is not skipped. -/
theorem replay_after_thousand_removals :
    let first : Action := .submitCommand (.updateVmPlacement "vm-123" 1) 0
    let pre : List Action := [.bootstrap "10.0.0.1:7946" "leader_key" none none]
    let r := exec step (SwarmRaft.new 1) (pre ++ first :: removals "vm-123" (indicesTo 1000))
    newlyApplied (exec step (SwarmRaft.new 1) pre) first = some 0 ∧
      ¬ Skipped r (r.submitCommand (.updateVmPlacement "vm-123" 1) 0) :=
  ⟨by decide, not_skipped_after_removals (by simp [indicesTo]) (indicesTo_nodup (by omega))⟩

end Vyoma.Swarm
