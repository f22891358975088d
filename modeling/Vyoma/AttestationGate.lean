import Vyoma.OrderedMaps
import Vyoma.Runs
import Vyoma.VmLifecycle

/-!
# The attestation gate

Under a policy that requires verification on boot, a VM should be reported as running
only after an attestation of it succeeded. The ids of attested VMs are recorded beside
the daemon, which does not read them. Several operations set the status without looking
at attestation; the gate holds along a run exactly when they are only applied to VMs
that were attested before.
-/
namespace Vyoma.VmService
open OrderedMaps Runs

/-- The operations of the daemon, each with what its environment answers. Disabling
the policy is not among them. -/
inductive Action where
  | runVmBoot (vmId : String) (stages : Except String VmInstance) (imageName : String)
      (tpmSocketPath : Option String)
  | runVmRegister (vmId : String) (save : Except String Unit)
  | attestationCompletes (vmId : String) (save : Except String Unit) (verification : Verification)
  | pause (answer : Except String Unit) (vmId : String)
  | hibernate (createDir : Except String Unit) (vmId : String)
  | resume (answer : Except String Unit) (vmId : String)
  | stop (io : Daemon.Append) (timestamp : UInt64) (vmId : String)
  | snapshot (io : TimeMachine.SledOutcomes) (uuid : String) (now : ℤ)
      (createDir : Except String Unit) (vmId : String) (label : Option String)
  | restore (payload : Daemon.RestoreRequest) (reads : Bool × Bool) (newVmId : String)
      (stages : Except (ℕ × String) VmInstance) (create start : Daemon.Append) (timestamp : UInt64)
  | branch (iteration : List String) (id : String) (payload : Daemon.BranchRequest)
      (readOk : Bool) (newVmId : String) (disk : Except (ℕ × String) String)
      (io : TimeMachine.SledOutcomes) (uuid : String) (now : ℤ) (chSocketPath ipAddress : String)
  | adopt (probe : Except (ℕ × String) Unit) (vmId chSocketPath : String)
  | requireMeasuredBoot
  | restart (io : Daemon.RecoveryOutcomes)

/-- The completion of a task, if there is one for the VM. -/
def completeAttestation (d : Daemon) (vmId : String) (save : Except String Unit)
    (verification : Verification) : Daemon :=
  match d.tasks[vmId]? with
  | none => d
  | some task =>
    ({ d with tasks := d.tasks.erase vmId }.checkPolicyAndPerformAttestation save vmId
      task.tpmSocketPath verification).1

/-- The registration of a booted VM, if `run_vm` has one in flight. -/
def completeRun (d : Daemon) (vmId : String) (save : Except String Unit) : Daemon :=
  match d.booting[vmId]? with
  | none => d
  | some vm => (d.runVmRegister vmId vm save).1

def daemonStep (d : Daemon) : Action → Daemon
  | .runVmBoot vmId stages imageName tpm => (d.runVmBoot vmId stages imageName tpm).1
  | .runVmRegister vmId save => completeRun d vmId save
  | .attestationCompletes vmId save verification => completeAttestation d vmId save verification
  | .pause answer vmId => (d.pauseVm answer vmId).1
  | .hibernate createDir vmId => (d.hibernateVm createDir vmId).1
  | .resume answer vmId => (d.resumeVm answer vmId).1
  | .stop io timestamp vmId => (d.stopVm io timestamp vmId).1
  | .snapshot io uuid now createDir vmId label =>
    (d.snapshotVm io uuid now createDir vmId label).1
  | .restore payload reads newVmId stages create start timestamp =>
    (d.restoreVm payload reads newVmId stages create start timestamp).1
  | .branch iteration id payload readOk newVmId disk io uuid now ch ip =>
    (d.branchVm iteration id payload readOk newVmId disk io uuid now ch ip).1
  | .adopt probe vmId ch => (d.adoptTeleportedVm probe vmId ch).1
  | .requireMeasuredBoot => (d.setPolicy "require-measured-boot" true).1
  | .restart io => d.restart io

/-- The VM whose attestation returns `verified = true` in this step. -/
def attestedBy (d : Daemon) : Action → Option String
  | .attestationCompletes vmId _ .verified =>
    (d.tasks[vmId]?).bind fun task =>
      if d.policy.mustVerifyOnBoot ∧ task.tpmSocketPath.isSome then some vmId else none
  | _ => none

/-- The daemon with the VMs attested so far. -/
structure Observed where
  daemon : Daemon
  attested : List String

def step (s : Observed) (a : Action) : Observed :=
  ⟨daemonStep s.daemon a, (attestedBy s.daemon a).toList ++ s.attested⟩

/-- A daemon without VMs whose policy requires verification. -/
def start (wal : State.Wal) (timemachine : TimeMachine.Store) : Observed where
  daemon :=
    { vms := ∅, wal := wal, timemachine := timemachine
      policy := PolicyConfig.setRequireMeasuredBoot {} true, booting := ∅, tasks := ∅ }
  attested := []

def IsRunning (vms : Std.ExtTreeMap String VmInstance) (vmId : String) : Prop :=
  ∃ vm, vms[vmId]? = some vm ∧ vm.status = .running

/-- Every VM whose status becomes running in this step was attested. -/
def RunsOnlyAttested (s : Observed) (a : Action) : Prop :=
  ∀ vmId, ¬ IsRunning s.daemon.vms vmId → IsRunning (step s a).daemon.vms vmId →
    vmId ∈ (step s a).attested

/-- The request starts a clone: it names files, or a snapshot of a VM that is not active. -/
def startsClone (d : Daemon) (payload : Daemon.RestoreRequest) (reads : Bool × Bool) : Bool :=
  match payload.vmId.or payload.originalVmId, payload.«from».or payload.snapshotId with
  | some vmId, some snapRef =>
    (TimeMachine.getSnapshot d.timemachine reads.1 vmId snapRef).isSome &&
      (d.vms[vmId]?).isNone && (TimeMachine.getSnapshot d.timemachine reads.2 vmId snapRef).isSome
  | _, _ => payload.snapshotPath.isSome

/-- The source VM and its snapshot of a branch are found. -/
def findsBranchPoint (d : Daemon) (iteration : List String) (id : String)
    (payload : Daemon.BranchRequest) (readOk : Bool) : Bool :=
  (d.branchSource iteration id).any fun source =>
    (TimeMachine.getSnapshot d.timemachine readOk source.1 payload.«from»).isSome

/-- What each operation must meet for the gate to hold: those that set a status to
running without a verdict are applied to attested VMs only. -/
def Gated (s : Observed) : Action → Prop
  | .runVmRegister vmId save => save = .ok () → ∀ vm, s.daemon.booting[vmId]? = some vm →
      vm.status = .running → vmId ∈ s.attested
  | .resume answer vmId => ∀ vm, s.daemon.vms[vmId]? = some vm →
      (vm.status = .paused → answer = .ok ()) → vmId ∈ s.attested
  | .restore payload reads newVmId stages _ _ _ =>
      startsClone s.daemon payload reads → stages.isOk → newVmId ∈ s.attested
  | .branch iteration id payload readOk newVmId disk _ _ _ _ _ =>
      findsBranchPoint s.daemon iteration id payload readOk → disk.isOk → newVmId ∈ s.attested
  | .adopt probe vmId _ => probe = .ok () → vmId ∈ s.attested
  | .restart io => io.vmsDirExists →
      ∀ active ∈ s.daemon.wal.getActiveVmIds io.readOk io.order,
        (io.survivor active.1).isSome → active.1 ∈ s.attested
  | _ => True

/-! ## Running VMs after an update of the map -/

section
variable {vms : Std.ExtTreeMap String VmInstance} {vmId : String} {vm : VmInstance}
  {attested : List String}

/-- Every running VM was attested. -/
def AllAttested (vms : Std.ExtTreeMap String VmInstance) (attested : List String) : Prop :=
  ∀ vmId, IsRunning vms vmId → vmId ∈ attested

theorem isRunning_insert (a : String) : IsRunning (vms.insert vmId vm) a ↔
    if vmId = a then vm.status = .running else IsRunning vms a := by
  unfold IsRunning
  rw [lookup_insert]
  split <;> simp

theorem isRunning_of_lookup (h : vms[vmId]? = some vm) :
    IsRunning vms vmId ↔ vm.status = .running := by
  simp [IsRunning, h]

theorem allAttested_insert (h : AllAttested vms attested) :
    AllAttested (vms.insert vmId vm) attested ↔ (vm.status = .running → vmId ∈ attested) := by
  constructor
  · intro hall hvm
    apply hall
    simpa [isRunning_insert] using hvm
  · intro hvm a ha
    rw [isRunning_insert] at ha
    by_cases hk : vmId = a
    · rw [if_pos hk] at ha
      exact hk ▸ hvm ha
    · rw [if_neg hk] at ha
      exact h a ha

theorem allAttested_insert_running (h : AllAttested vms attested) (hvm : vm.status = .running) :
    AllAttested (vms.insert vmId vm) attested ↔ vmId ∈ attested := by
  rw [allAttested_insert h]
  simp [hvm]

theorem allAttested_erase (h : AllAttested vms attested) :
    AllAttested (vms.erase vmId) attested := by
  intro a ha
  obtain ⟨vm, hvm, hrunning⟩ := ha
  exact h a ⟨vm, (lookup_erase_eq_some_iff.mp hvm).2, hrunning⟩

theorem AllAttested.mono {attested' : List String} (h : AllAttested vms attested)
    (hsub : attested ⊆ attested') : AllAttested vms attested' :=
  fun a ha => hsub (h a ha)

/-- The adoption loop of `main` makes every recovered VM run. -/
theorem isRunning_adopted (chSocketPath : String → String) (recovered : List (String × VmState))
    (vms : Std.ExtTreeMap String VmInstance) (a : String) :
    IsRunning (recovered.foldl (fun vms rvm =>
        vms.insert rvm.1 (Daemon.adoptRecovered (chSocketPath rvm.1) rvm.1 rvm.2)) vms) a ↔
      IsRunning vms a ∨ ∃ rvm ∈ recovered, rvm.1 = a := by
  induction recovered generalizing vms with
  | nil => simp
  | cons rvm recovered ih =>
    rw [List.foldl_cons, ih, isRunning_insert]
    by_cases hk : rvm.1 = a <;> simp [hk, Daemon.adoptRecovered]

end

/-! ## The attestation task changes nothing but the map -/

/-- The daemon differs in its map of VMs at most. -/
structure Daemon.OnlyVms (d d' : Daemon) : Prop where
  wal : d'.wal = d.wal
  timemachine : d'.timemachine = d.timemachine
  policy : d'.policy = d.policy
  booting : d'.booting = d.booting
  tasks : d'.tasks = d.tasks

theorem Daemon.OnlyVms.trans {d d' d'' : Daemon} (h : d.OnlyVms d') (h' : d'.OnlyVms d'') :
    d.OnlyVms d'' where
  wal := h'.wal.trans h.wal
  timemachine := h'.timemachine.trans h.timemachine
  policy := h'.policy.trans h.policy
  booting := h'.booting.trans h.booting
  tasks := h'.tasks.trans h.tasks

section OnlyVms

variable (d : Daemon) (save : Except String Unit) (vmId : String)

theorem onlyVms_updateVmStatus (newStatus : VmStatus) :
    d.OnlyVms (d.updateVmStatus save vmId newStatus).1 := by
  unfold Daemon.updateVmStatus
  split <;> exact ⟨rfl, rfl, rfl, rfl, rfl⟩

theorem onlyVms_setAttestationStatus (attestationStatus : String) :
    d.OnlyVms (d.setAttestationStatus vmId attestationStatus) := by
  unfold Daemon.setAttestationStatus
  split <;> exact ⟨rfl, rfl, rfl, rfl, rfl⟩

theorem onlyVms_handleAttestationFailure (reason : String) :
    d.OnlyVms (d.handleAttestationFailure save vmId reason) := by
  have hmarked := (onlyVms_updateVmStatus d save vmId (.attestationFailed reason)).trans
    (onlyVms_setAttestationStatus _ vmId "FAILED")
  simp only [Daemon.handleAttestationFailure]
  split
  · exact hmarked.trans ⟨rfl, rfl, rfl, rfl, rfl⟩
  · exact hmarked

theorem onlyVms_checkPolicyAndPerformAttestation (tpmSocketPath : Option String)
    (verification : Verification) : d.OnlyVms
      (d.checkPolicyAndPerformAttestation save vmId tpmSocketPath verification).1 := by
  unfold Daemon.checkPolicyAndPerformAttestation
  split_ifs
  · exact onlyVms_updateVmStatus d save vmId .running
  · cases tpmSocketPath with
    | none => exact onlyVms_handleAttestationFailure d save vmId _
    | some path =>
      cases verification with
      | verified =>
        have hupdate := onlyVms_updateVmStatus d save vmId .running
        dsimp only
        generalize d.updateVmStatus save vmId .running = out at hupdate ⊢
        obtain ⟨d₁, saved⟩ := out
        cases saved with
        | error e => exact hupdate
        | ok _ => exact hupdate.trans (onlyVms_setAttestationStatus d₁ vmId "VERIFIED")
      | rejected error => exact onlyVms_handleAttestationFailure d save vmId _
      | failed e => exact onlyVms_handleAttestationFailure d save vmId _
      | timedOut elapsed => exact onlyVms_handleAttestationFailure d save vmId _

end OnlyVms

/-! ## The operations -/

namespace Daemon

variable {d : Daemon} {vmId : String} {attested : List String}

theorem updateVmStatus_allAttested {save : Except String Unit} {newStatus : VmStatus}
    (h : AllAttested d.vms attested) (hnew : newStatus = .running → vmId ∈ attested) :
    AllAttested (d.updateVmStatus save vmId newStatus).1.vms attested := by
  unfold updateVmStatus
  split
  · exact h
  · exact (allAttested_insert h).mpr hnew

theorem setAttestationStatus_allAttested {attestationStatus : String}
    (h : AllAttested d.vms attested) :
    AllAttested (d.setAttestationStatus vmId attestationStatus).vms attested := by
  unfold setAttestationStatus
  split
  · exact h
  · next vm hvm =>
    refine (allAttested_insert h).mpr fun hrunning => ?_
    exact h vmId ((isRunning_of_lookup hvm).mpr hrunning)

theorem handleAttestationFailure_allAttested {save : Except String Unit} {reason : String}
    (h : AllAttested d.vms attested) :
    AllAttested (d.handleAttestationFailure save vmId reason).vms attested := by
  have hfailed : AllAttested (d.updateVmStatus save vmId (.attestationFailed reason)).1.vms
      attested := updateVmStatus_allAttested h (by simp)
  simp only [handleAttestationFailure]
  split
  · exact allAttested_erase (setAttestationStatus_allAttested hfailed)
  · exact setAttestationStatus_allAttested hfailed

/-- Under the requiring policy a task makes a VM run only with a positive verdict. -/
theorem checkPolicyAndPerformAttestation_allAttested {save : Except String Unit}
    {tpmSocketPath : Option String} {verification : Verification}
    (hpolicy : d.policy.mustVerifyOnBoot = true) (h : AllAttested d.vms attested)
    (hverdict : tpmSocketPath.isSome → verification = .verified → vmId ∈ attested) :
    AllAttested (d.checkPolicyAndPerformAttestation save vmId tpmSocketPath verification).1.vms
      attested := by
  unfold checkPolicyAndPerformAttestation
  rw [hpolicy]
  cases tpmSocketPath with
  | none => exact handleAttestationFailure_allAttested h
  | some path =>
    cases verification with
    | verified =>
      have hupdate : AllAttested (d.updateVmStatus save vmId .running).1.vms attested :=
        updateVmStatus_allAttested h fun _ => hverdict rfl rfl
      simp only [Bool.not_true, Bool.false_eq_true, if_false]
      split
      · next d' e heq =>
        rw [heq] at hupdate
        exact hupdate
      · next d' heq =>
        rw [heq] at hupdate
        exact setAttestationStatus_allAttested hupdate
    | rejected error => exact handleAttestationFailure_allAttested h
    | failed e => exact handleAttestationFailure_allAttested h
    | timedOut elapsed => exact handleAttestationFailure_allAttested h

theorem pauseVm_allAttested {answer : Except String Unit} (h : AllAttested d.vms attested) :
    AllAttested (d.pauseVm answer vmId).1.vms attested := by
  unfold pauseVm
  split
  · exact h
  · cases answer with
    | error e => exact h
    | ok _ => exact (allAttested_insert h).mpr (by simp)

theorem hibernateVm_allAttested {createDir : Except String Unit} (h : AllAttested d.vms attested) :
    AllAttested (d.hibernateVm createDir vmId).1.vms attested := by
  unfold hibernateVm
  split
  · exact h
  · split
    · exact h
    · cases createDir with
      | error e => exact h
      | ok _ => exact (allAttested_insert h).mpr (by simp)

theorem stopVm_allAttested {io : Append} {timestamp : UInt64} (h : AllAttested d.vms attested) :
    AllAttested (d.stopVm io timestamp vmId).1.vms attested := by
  unfold stopVm
  split
  · exact h
  · exact allAttested_erase h

theorem snapshotVm_vms {io : TimeMachine.SledOutcomes} {uuid : String} {now : ℤ}
    {createDir : Except String Unit} {label : Option String} :
    (d.snapshotVm io uuid now createDir vmId label).1.vms = d.vms := by
  unfold snapshotVm
  split <;> rfl

theorem runVmBoot_vms {stages : Except String VmInstance} {imageName : String}
    {tpmSocketPath : Option String} :
    (d.runVmBoot vmId stages imageName tpmSocketPath).1.vms = d.vms := by
  cases stages <;> rfl

theorem runVmRegister_allAttested_iff {vm : VmInstance} {save : Except String Unit}
    (h : AllAttested d.vms attested) :
    AllAttested (d.runVmRegister vmId vm save).1.vms attested ↔
      (save = .ok () → vm.status = .running → vmId ∈ attested) := by
  cases save with
  | error e => simpa [runVmRegister] using h
  | ok _ => simpa [runVmRegister] using allAttested_insert h

theorem resumeVm_allAttested_iff {answer : Except String Unit} (h : AllAttested d.vms attested) :
    AllAttested (d.resumeVm answer vmId).1.vms attested ↔
      ∀ vm, d.vms[vmId]? = some vm → (vm.status = .paused → answer = .ok ()) →
        vmId ∈ attested := by
  unfold resumeVm
  cases hvm : d.vms[vmId]? with
  | none => simpa [notFound] using h
  | some vm =>
    have hins : AllAttested (d.vms.insert vmId { vm with status := .running }) attested ↔
        vmId ∈ attested := allAttested_insert_running h rfl
    by_cases hpaused : vm.status = .paused
    · cases answer with
      | error e => simpa [hpaused] using h
      | ok _ => simpa [hpaused] using hins
    · by_cases hhib : vm.status = .hibernated <;> simpa [hpaused, hhib] using hins

theorem cloneVm_allAttested_iff {newVmId : String} {stages : Except (ℕ × String) VmInstance}
    {create start : Append} {timestamp : UInt64} (h : AllAttested d.vms attested) :
    AllAttested (d.cloneVm newVmId stages create start timestamp).1.vms attested ↔
      (stages.isOk → newVmId ∈ attested) := by
  cases stages with
  | error e => simpa [cloneVm, Except.isOk, Except.toBool] using h
  | ok prepared =>
    simpa [cloneVm, appendWal, Except.isOk, Except.toBool] using allAttested_insert_running h rfl

/-- A restoration either starts a clone or leaves the daemon as it is. -/
theorem restoreVm_eq (payload : RestoreRequest) (reads : Bool × Bool) (newVmId : String)
    (stages : Except (ℕ × String) VmInstance) (create start : Append) (timestamp : UInt64) :
    (d.restoreVm payload reads newVmId stages create start timestamp).1 =
      if startsClone d payload reads then (d.cloneVm newVmId stages create start timestamp).1
      else d := by
  -- without both a VM and a snapshot reference, only the raw files count
  unfold restoreVm startsClone
  cases payload.vmId.or payload.originalVmId with
  | none => cases payload.snapshotPath <;> rfl
  | some vmId =>
    cases payload.«from».or payload.snapshotId with
    | none => cases payload.snapshotPath <;> rfl
    | some snapRef =>
      cases hsnap : TimeMachine.getSnapshot d.timemachine reads.1 vmId snapRef with
      | none => simp [hsnap]
      | some _ =>
        cases hvm : d.vms[vmId]? with
        | some vm => simp [hsnap, hvm]
        | none =>
          cases hagain : TimeMachine.getSnapshot d.timemachine reads.2 vmId snapRef with
          | none => simp [hsnap, hvm, hagain]
          | some _ => simp [hsnap, hvm, hagain]

theorem restoreVm_allAttested_iff {payload : RestoreRequest} {reads : Bool × Bool}
    {newVmId : String} {stages : Except (ℕ × String) VmInstance} {create start : Append}
    {timestamp : UInt64} (h : AllAttested d.vms attested) :
    AllAttested (d.restoreVm payload reads newVmId stages create start timestamp).1.vms attested ↔
      (startsClone d payload reads → stages.isOk → newVmId ∈ attested) := by
  rw [restoreVm_eq]
  cases startsClone d payload reads with
  | false => simpa using h
  | true => simpa using cloneVm_allAttested_iff h

/-- A branch either registers one running VM or leaves the daemon as it is. -/
theorem branchVm_cases (d : Daemon) (iteration : List String) (id : String)
    (payload : BranchRequest) (readOk : Bool) (newVmId : String)
    (disk : Except (ℕ × String) String) (io : TimeMachine.SledOutcomes) (uuid : String) (now : ℤ)
    (chSocketPath ipAddress : String) :
    (¬ (findsBranchPoint d iteration id payload readOk = true ∧ disk.isOk = true) ∧
      (d.branchVm iteration id payload readOk newVmId disk io uuid now chSocketPath
        ipAddress).1 = d) ∨
    ((findsBranchPoint d iteration id payload readOk = true ∧ disk.isOk = true) ∧
      ∃ vm timemachine, (vm.status = .running ∧ vm.ipAddress = ipAddress) ∧
        (d.branchVm iteration id payload readOk newVmId disk io uuid now chSocketPath
          ipAddress).1 = { d with vms := d.vms.insert newVmId vm, timemachine := timemachine }) := by
  unfold branchVm findsBranchPoint
  cases d.branchSource iteration id with
  | none => exact .inl ⟨by simp, rfl⟩
  | some source =>
    obtain ⟨sourceVmId, source⟩ := source
    simp only [Option.any_some]
    cases TimeMachine.getSnapshot d.timemachine readOk sourceVmId payload.«from» with
    | none => exact .inl ⟨by simp, rfl⟩
    | some snapshot =>
      cases disk with
      | error e => exact .inl ⟨by simp [Except.isOk, Except.toBool], rfl⟩
      | ok overlay => exact .inr ⟨by simp [Except.isOk, Except.toBool], _, _, ⟨rfl, rfl⟩, rfl⟩

theorem branchVm_allAttested_iff {iteration : List String} {id : String} {payload : BranchRequest}
    {readOk : Bool} {newVmId : String} {disk : Except (ℕ × String) String}
    {io : TimeMachine.SledOutcomes} {uuid : String} {now : ℤ} {chSocketPath ipAddress : String}
    (h : AllAttested d.vms attested) :
    AllAttested (d.branchVm iteration id payload readOk newVmId disk io uuid now chSocketPath
        ipAddress).1.vms attested ↔
      (findsBranchPoint d iteration id payload readOk → disk.isOk → newVmId ∈ attested) := by
  obtain ⟨hnot, he⟩ | ⟨hboth, vm, timemachine, hvm, he⟩ :=
    branchVm_cases d iteration id payload readOk newVmId disk io uuid now chSocketPath ipAddress
  · rw [he]
    exact iff_of_true h fun hfinds hok => absurd ⟨hfinds, hok⟩ hnot
  · rw [he, allAttested_insert_running h hvm.1]
    simp [hboth]

theorem adoptTeleportedVm_allAttested_iff {probe : Except (ℕ × String) Unit} {ch : String}
    (h : AllAttested d.vms attested) :
    AllAttested (d.adoptTeleportedVm probe vmId ch).1.vms attested ↔
      (probe = .ok () → vmId ∈ attested) := by
  cases probe with
  | error e => simpa [adoptTeleportedVm] using h
  | ok _ => simpa [adoptTeleportedVm] using allAttested_insert_running h rfl

theorem restart_allAttested_iff {io : RecoveryOutcomes} :
    AllAttested (d.restart io).vms attested ↔ (io.vmsDirExists →
      ∀ active ∈ d.wal.getActiveVmIds io.readOk io.order,
        (io.survivor active.1).isSome → active.1 ∈ attested) := by
  have hadopted : AllAttested (d.restart io).vms attested ↔
      ∀ rvm ∈ recoverOnStartup d.wal io, rvm.1 ∈ attested := by
    simp only [AllAttested, restart, isRunning_adopted]
    simp [IsRunning]
  rw [hadopted, recoverOnStartup]
  cases hdir : io.vmsDirExists with
  | false => simp
  | true =>
    simp only [if_true, List.mem_filterMap, true_imp_iff]
    constructor
    · intro h active hactive hsome
      obtain ⟨state, hstate⟩ := Option.isSome_iff_exists.mp hsome
      exact h (active.1, state) ⟨active, hactive, by simp [hstate]⟩
    · intro h rvm hrvm
      obtain ⟨active, hactive, hmap⟩ := hrvm
      obtain ⟨state, hstate, rfl⟩ := Option.map_eq_some_iff.mp hmap
      exact h active hactive (by simp [hstate])

/-! ## Tasks exist under the requiring policy only -/

/-- The policy with the tasks it asked for. -/
def gate (d : Daemon) : PolicyConfig × Std.ExtTreeMap String AttestationTask := (d.policy, d.tasks)

theorem checkPolicyAndPerformAttestation_gate (save : Except String Unit)
    (tpmSocketPath : Option String) (verification : Verification) :
    (d.checkPolicyAndPerformAttestation save vmId tpmSocketPath verification).1.gate = d.gate := by
  have hsame := onlyVms_checkPolicyAndPerformAttestation d save vmId tpmSocketPath verification
  rw [gate, gate, hsame.policy, hsame.tasks]

@[simp] theorem runVmRegister_gate (vm : VmInstance) (save : Except String Unit) :
    (d.runVmRegister vmId vm save).1.gate = d.gate := by
  cases save <;> rfl

@[simp] theorem stopVm_gate (io : Append) (timestamp : UInt64) :
    (d.stopVm io timestamp vmId).1.gate = d.gate := by
  unfold stopVm
  split <;> rfl

@[simp] theorem pauseVm_gate (answer : Except String Unit) :
    (d.pauseVm answer vmId).1.gate = d.gate := by
  unfold pauseVm
  split
  · rfl
  · cases answer <;> rfl

@[simp] theorem hibernateVm_gate (createDir : Except String Unit) :
    (d.hibernateVm createDir vmId).1.gate = d.gate := by
  unfold hibernateVm
  split
  · rfl
  · split
    · rfl
    · cases createDir <;> rfl

@[simp] theorem resumeVm_gate (answer : Except String Unit) :
    (d.resumeVm answer vmId).1.gate = d.gate := by
  unfold resumeVm
  split
  · rfl
  · dsimp only
    split
    · cases answer <;> rfl
    · split <;> rfl

@[simp] theorem snapshotVm_gate (io : TimeMachine.SledOutcomes) (uuid : String) (now : ℤ)
    (createDir : Except String Unit) (label : Option String) :
    (d.snapshotVm io uuid now createDir vmId label).1.gate = d.gate := by
  unfold snapshotVm
  split <;> rfl

@[simp] theorem cloneVm_gate (newVmId : String) (stages : Except (ℕ × String) VmInstance)
    (create start : Append) (timestamp : UInt64) :
    (d.cloneVm newVmId stages create start timestamp).1.gate = d.gate := by
  cases stages <;> rfl

@[simp] theorem restoreVm_gate (payload : RestoreRequest) (reads : Bool × Bool) (newVmId : String)
    (stages : Except (ℕ × String) VmInstance) (create start : Append) (timestamp : UInt64) :
    (d.restoreVm payload reads newVmId stages create start timestamp).1.gate = d.gate := by
  rw [restoreVm_eq]
  split
  · simp
  · rfl

@[simp] theorem branchVm_gate (iteration : List String) (id : String) (payload : BranchRequest)
    (readOk : Bool) (newVmId : String) (disk : Except (ℕ × String) String)
    (io : TimeMachine.SledOutcomes) (uuid : String) (now : ℤ) (chSocketPath ipAddress : String) :
    (d.branchVm iteration id payload readOk newVmId disk io uuid now chSocketPath
      ipAddress).1.gate = d.gate := by
  obtain ⟨_, he⟩ | ⟨_, vm, timemachine, _, he⟩ :=
    branchVm_cases d iteration id payload readOk newVmId disk io uuid now chSocketPath ipAddress
  · rw [he]
  · rw [he]
    rfl

@[simp] theorem adoptTeleportedVm_gate (probe : Except (ℕ × String) Unit) (ch : String) :
    (d.adoptTeleportedVm probe vmId ch).1.gate = d.gate := by
  cases probe <;> rfl

end Daemon

/-- Attestation tasks are in flight only while the policy requires verification. -/
def TasksRequired (gate : PolicyConfig × Std.ExtTreeMap String AttestationTask) : Prop :=
  ∀ vmId ∈ gate.2, gate.1.mustVerifyOnBoot = true

theorem daemonStep_tasksRequired {d : Daemon} (h : TasksRequired d.gate) (a : Action) :
    TasksRequired (daemonStep d a).gate := by
  cases a with
  | runVmBoot vmId stages imageName tpm =>
    cases stages with
    | error e => exact h
    | ok prepared =>
      intro a ha
      cases hpolicy : d.policy.mustVerifyOnBoot with
      | true => exact hpolicy
      | false =>
        simp only [daemonStep, Daemon.runVmBoot, Daemon.gate, hpolicy] at ha
        exact absurd (h a ha) (by simp [Daemon.gate, hpolicy])
  | runVmRegister vmId save =>
    simp only [daemonStep, completeRun]
    split
    · exact h
    · simpa using h
  | attestationCompletes vmId save verification =>
    simp only [daemonStep, completeAttestation]
    split
    · exact h
    · intro a ha
      rw [Daemon.checkPolicyAndPerformAttestation_gate] at ha ⊢
      exact h a (Std.ExtTreeMap.mem_of_mem_erase ha)
  | requireMeasuredBoot => exact fun _ _ => rfl
  | restart io =>
    intro a ha
    exact absurd ha Std.ExtTreeMap.not_mem_empty
  | _ => simpa [daemonStep] using h

/-! ## The gate along a run -/

theorem completeAttestation_allAttested {s : Observed} {vmId : String} {save : Except String Unit}
    {verification : Verification} (h : AllAttested s.daemon.vms s.attested)
    (htasks : TasksRequired s.daemon.gate) :
    AllAttested (completeAttestation s.daemon vmId save verification).vms
      (step s (.attestationCompletes vmId save verification)).attested := by
  have hmono : AllAttested s.daemon.vms
      (step s (.attestationCompletes vmId save verification)).attested :=
    h.mono (List.subset_append_right _ _)
  unfold completeAttestation
  cases htask : s.daemon.tasks[vmId]? with
  | none => exact hmono
  | some task =>
    have hpolicy : s.daemon.policy.mustVerifyOnBoot = true :=
      htasks vmId (mem_iff_lookup.mpr ⟨task, htask⟩)
    refine Daemon.checkPolicyAndPerformAttestation_allAttested hpolicy hmono ?_
    intro htpm hverified
    simp [step, attestedBy, hverified, htask, hpolicy, htpm]

/-- One step keeps every running VM attested exactly if it meets its condition. -/
theorem step_allAttested_iff {s : Observed} (h : AllAttested s.daemon.vms s.attested)
    (htasks : TasksRequired s.daemon.gate) (a : Action) :
    AllAttested (step s a).daemon.vms (step s a).attested ↔ Gated s a := by
  cases a with
  | runVmBoot vmId stages imageName tpm =>
    refine iff_of_true ?_ trivial
    simpa [step, daemonStep, attestedBy, Daemon.runVmBoot_vms] using h
  | runVmRegister vmId save =>
    simp only [step, daemonStep, attestedBy, completeRun, Gated]
    cases s.daemon.booting[vmId]? with
    | none => simpa using h
    | some vm => simpa using Daemon.runVmRegister_allAttested_iff h
  | attestationCompletes vmId save verification =>
    exact iff_of_true (completeAttestation_allAttested h htasks) trivial
  | pause answer vmId => exact iff_of_true (Daemon.pauseVm_allAttested h) trivial
  | hibernate createDir vmId => exact iff_of_true (Daemon.hibernateVm_allAttested h) trivial
  | resume answer vmId => exact Daemon.resumeVm_allAttested_iff h
  | stop io timestamp vmId => exact iff_of_true (Daemon.stopVm_allAttested h) trivial
  | snapshot io uuid now createDir vmId label =>
    refine iff_of_true ?_ trivial
    simpa [step, daemonStep, attestedBy, Daemon.snapshotVm_vms] using h
  | restore payload reads newVmId stages create start timestamp =>
    exact Daemon.restoreVm_allAttested_iff h
  | branch iteration id payload readOk newVmId disk io uuid now ch ip =>
    exact Daemon.branchVm_allAttested_iff h
  | adopt probe vmId ch => exact Daemon.adoptTeleportedVm_allAttested_iff h
  | requireMeasuredBoot => exact iff_of_true h trivial
  | restart io => exact Daemon.restart_allAttested_iff

/-- When all running VMs are attested, the VMs that a step makes run are attested
exactly if all running VMs still are. -/
theorem runsOnlyAttested_iff {s : Observed} (h : AllAttested s.daemon.vms s.attested) (a : Action) :
    RunsOnlyAttested s a ↔ AllAttested (step s a).daemon.vms (step s a).attested := by
  constructor
  · intro hstep vmId hrunning
    by_cases hbefore : IsRunning s.daemon.vms vmId
    · exact List.mem_append_right _ (h vmId hbefore)
    · exact hstep vmId hbefore hrunning
  · intro hall vmId _ hrunning
    exact hall vmId hrunning

/-- Along every run, a VM's status becomes running only after an attestation of it
succeeded, exactly if every step meets its condition. -/
theorem runs_only_attested_iff (wal : State.Wal) (timemachine : TimeMachine.Store)
    (run : List Action) :
    Along step RunsOnlyAttested (start wal timemachine) run ↔
      Along step Gated (start wal timemachine) run := by
  have hstart : AllAttested (start wal timemachine).daemon.vms (start wal timemachine).attested ∧
      TasksRequired (start wal timemachine).daemon.gate := by
    refine ⟨fun vmId hrunning => ?_, fun _ _ => rfl⟩
    obtain ⟨vm, hvm, -⟩ := hrunning
    simp [start] at hvm
  refine along_congr (Q := fun s => AllAttested s.daemon.vms s.attested ∧
    TasksRequired s.daemon.gate) hstart ?_ ?_ run
  · intro s a hs hP
    exact ⟨(runsOnlyAttested_iff hs.1 a).mp hP, daemonStep_tasksRequired hs.2 a⟩
  · intro s a hs
    rw [runsOnlyAttested_iff hs.1, step_allAttested_iff hs.1 hs.2]

/-! ## What the completion of a task leaves -/

/-- The task of the VM ends in a failure that the policy answers by killing it. -/
def killsVm (d : Daemon) (vmId : String) (verification : Verification) : Bool :=
  (d.tasks[vmId]?).any fun task => d.policy.mustVerifyOnBoot &&
    d.policy.measuredBoot.blockOnFailure &&
      !(task.tpmSocketPath.isSome && verification = .verified)

/-- The status the task writes to its VM. -/
def verdict (policy : PolicyConfig) (vmId : String) (tpmSocketPath : Option String)
    (verification : Verification) : VmStatus :=
  if !policy.mustVerifyOnBoot then .running
  else
    match tpmSocketPath, verification with
    | none, _ => .attestationFailed
        ("vTPM socket not available for VM " ++ vmId ++ " - cannot perform attestation")
    | some _, .verified => .running
    | some _, .rejected error =>
      .attestationFailed ("Attestation failed: " ++ error.getD "Attestation failed")
    | some _, .failed e => .attestationFailed ("Attestation failed: " ++ e)
    | some _, .timedOut elapsed =>
      .attestationFailed ("Attestation timed out after " ++ elapsed ++ " for VM " ++ vmId)

theorem verdict_kind (policy : PolicyConfig) (vmId : String) (tpmSocketPath : Option String)
    (verification : Verification) :
    verdict policy vmId tpmSocketPath verification = .running ∨
      ∃ reason, verdict policy vmId tpmSocketPath verification = .attestationFailed reason := by
  unfold verdict
  split_ifs
  · exact .inl rfl
  · cases tpmSocketPath with
    | none => exact .inr ⟨_, rfl⟩
    | some path =>
      cases verification with
      | verified => exact .inl rfl
      | rejected error => exact .inr ⟨_, rfl⟩
      | failed e => exact .inr ⟨_, rfl⟩
      | timedOut elapsed => exact .inr ⟨_, rfl⟩

section Completion

variable (d : Daemon) (save : Except String Unit) (vmId : String)

theorem completeAttestation_wal (verification : Verification) :
    (completeAttestation d vmId save verification).wal = d.wal := by
  unfold completeAttestation
  cases d.tasks[vmId]? with
  | none => rfl
  | some task =>
    exact (onlyVms_checkPolicyAndPerformAttestation { d with tasks := d.tasks.erase vmId } save vmId
      task.tpmSocketPath verification).wal

theorem lookup_updateVmStatus (newStatus : VmStatus) (v : String) :
    (d.updateVmStatus save vmId newStatus).1.vms[v]? =
      if vmId = v then (d.vms[v]?).map (fun vm => { vm with status := newStatus })
      else d.vms[v]? := by
  unfold Daemon.updateVmStatus
  cases hvm : d.vms[vmId]? with
  | none => exact lookup_eq_map hvm _ v
  | some vm => exact lookup_insert_map hvm (fun vm => { vm with status := newStatus }) v

theorem lookup_setAttestationStatus (attestationStatus v : String) :
    (d.setAttestationStatus vmId attestationStatus).vms[v]? =
      if vmId = v then (d.vms[v]?).map
        (fun vm => { vm with attestationStatus := some attestationStatus })
      else d.vms[v]? := by
  unfold Daemon.setAttestationStatus
  cases hvm : d.vms[vmId]? with
  | none => exact lookup_eq_map hvm _ v
  | some vm =>
    exact lookup_insert_map hvm
      (fun vm => { vm with attestationStatus := some attestationStatus }) v

theorem lookup_handleAttestationFailure (reason v : String) :
    (d.handleAttestationFailure save vmId reason).vms[v]? =
      if vmId = v then
        if d.policy.measuredBoot.blockOnFailure then none
        else (d.vms[v]?).map (fun vm => { vm with
          status := .attestationFailed reason, attestationStatus := some "FAILED" })
      else d.vms[v]? := by
  have hmarked := (onlyVms_updateVmStatus d save vmId (.attestationFailed reason)).trans
    (onlyVms_setAttestationStatus _ vmId "FAILED")
  simp only [Daemon.handleAttestationFailure, hmarked.policy]
  by_cases hv : vmId = v
  · cases d.policy.measuredBoot.blockOnFailure with
    | true => simp [Daemon.killVm, hv]
    | false =>
      simp only [lookup_setAttestationStatus, lookup_updateVmStatus, if_pos hv, Option.map_map,
        Bool.false_eq_true, if_false]
      rfl
  · cases d.policy.measuredBoot.blockOnFailure with
    | true =>
      simp only [if_true, Daemon.killVm, lookup_erase, lookup_setAttestationStatus,
        lookup_updateVmStatus, if_neg hv]
    | false =>
      simp only [Bool.false_eq_true, if_false, lookup_setAttestationStatus, lookup_updateVmStatus,
        if_neg hv]

theorem lookup_failedAttestation {task : AttestationTask} (htask : d.tasks[vmId]? = some task)
    {verification : Verification} (hmust : d.policy.mustVerifyOnBoot = true)
    (hbad : (task.tpmSocketPath.isSome && verification = .verified) = false) (reason v : String) :
    ({ d with tasks := d.tasks.erase vmId }.handleAttestationFailure save vmId reason).vms[v]? =
      if vmId = v then
        if killsVm d vmId verification then none
        else (d.vms[v]?).map (fun vm => { vm with
          status := .attestationFailed reason, attestationStatus := some "FAILED" })
      else d.vms[v]? := by
  rw [lookup_handleAttestationFailure]
  simp only [killsVm, htask, Option.any_some, hmust, hbad, Bool.true_and, Bool.not_false,
    Bool.and_true]

/-- The task writes its verdict to its VM, or kills it; the other VMs are left alone. -/
theorem lookup_completeAttestation {task : AttestationTask} (htask : d.tasks[vmId]? = some task)
    (verification : Verification) :
    ∃ attested : VmInstance → Option String,
      ∀ v : String, (completeAttestation d vmId save verification).vms[v]? =
        if vmId = v then
          if killsVm d vmId verification then none
          else (d.vms[v]?).map (fun vm => { vm with
            status := verdict d.policy vmId task.tpmSocketPath verification
            attestationStatus := attested vm })
        else d.vms[v]? := by
  unfold completeAttestation verdict
  rw [htask]
  simp only [Daemon.checkPolicyAndPerformAttestation]
  cases hmust : d.policy.mustVerifyOnBoot with
  | false =>
    refine ⟨VmInstance.attestationStatus, fun v => ?_⟩
    simp only [Bool.not_false, if_true, lookup_updateVmStatus, killsVm, htask, hmust,
      Option.any_some, Bool.false_and, Bool.false_eq_true, if_false]
  | true =>
    simp only [Bool.not_true, Bool.false_eq_true, if_false]
    cases hsocket : task.tpmSocketPath with
    | none =>
      exact ⟨fun _ => some "FAILED", lookup_failedAttestation d save vmId htask hmust
        (by simp [hsocket]) _⟩
    | some path =>
      cases verification with
      | verified =>
        have hkeeps : killsVm d vmId .verified = false := by simp [killsVm, htask, hsocket]
        have hlook := lookup_updateVmStatus { d with tasks := d.tasks.erase vmId } save vmId .running
        dsimp only
        generalize Daemon.updateVmStatus _ _ _ _ = out at hlook ⊢
        obtain ⟨d₁, saved⟩ := out
        cases saved with
        | error e =>
          refine ⟨VmInstance.attestationStatus, fun v => ?_⟩
          rw [hkeeps]
          exact hlook v
        | ok _ =>
          refine ⟨fun _ => some "VERIFIED", fun v => ?_⟩
          rw [hkeeps, lookup_setAttestationStatus, hlook v]
          by_cases hv : vmId = v
          · simp only [if_pos hv, Option.map_map, Bool.false_eq_true, if_false]
            rfl
          · simp only [if_neg hv]
      | rejected error =>
        exact ⟨fun _ => some "FAILED", lookup_failedAttestation d save vmId htask hmust (by simp) _⟩
      | failed e =>
        exact ⟨fun _ => some "FAILED", lookup_failedAttestation d save vmId htask hmust (by simp) _⟩
      | timedOut elapsed =>
        exact ⟨fun _ => some "FAILED", lookup_failedAttestation d save vmId htask hmust (by simp) _⟩

end Completion

/-- A boot under the requiring policy, and a resumption before the verdict. -/
def resumedBeforeVerdict : List Action :=
  [.runVmBoot "vm-1" (.ok ⟨"vm-1", .running, none, "ch.sock", "tap0", "dm-1", [], "cow",
      "172.16.0.2", none, none, [], [], none, ∅, [], "rootfs.sqfs", 1, 256⟩) "alpine"
      (some "tpm.sock"),
    .runVmRegister "vm-1" (.ok ()),
    .resume (.ok ()) "vm-1"]

/-- A VM whose attestation is pending is resumed, and is reported as running. -/
theorem resumed_before_attestation :
    ¬ Along step RunsOnlyAttested (start ⟨∅⟩ ∅) resumedBeforeVerdict := by
  intro h
  obtain ⟨-, -, hresume, -⟩ := h
  have hattested := hresume "vm-1" (by
    rw [isRunning_of_lookup rfl]
    decide) ⟨_, rfl, rfl⟩
  exact absurd hattested List.not_mem_nil

end Vyoma.VmService
