import Vyoma.AttestationGate

/-!
# The state files of the VMs

`save_state` writes the persisted fields of an instance to `state.json` in the directory of
the VM, and recovery reads nothing else. `run_vm` saves the instance before it registers
it, and the attestation task saves every verdict. Pausing, hibernating and resuming change
the status in memory only, and branches and clones are registered without a file. Every
write of a file is taken to succeed.
-/
namespace Vyoma.VmService
open OrderedMaps Runs

/-- The persisted fields of an instance, as `save_state` copies them. -/
def VmInstance.toState (vm : VmInstance) : VmState where
  id := vm.id
  tapName := vm.tapName
  dmName := vm.dmName
  loopDevices := vm.loopDevices
  cowFilePath := vm.cowFilePath
  ipAddress := vm.ipAddress
  cgroupPath := vm.cgroupPath
  netnsPath := vm.netnsPath
  ports := vm.configPorts
  volumes := vm.configVolumes
  hostname := vm.hostname
  labels := vm.labels
  baseImagePath := vm.baseImagePath
  vcpu := vm.vcpu
  memSizeMib := vm.memSizeMib
  networks := vm.networks
  status := vm.status

/-- `serde_json` on `VmState`: the bytes it writes, and what it makes of the bytes of a
file that is read as text and parsed. -/
structure Serde where
  toWriterPretty : VmState → List UInt8
  fromStr : List UInt8 → Option VmState

def Serde.RoundTrips (serde : Serde) (state : VmState) : Prop :=
  serde.fromStr (serde.toWriterPretty state) = some state

/-- The content of `.vyoma/vms/<id>/state.json` for each id, where the file exists. -/
def StateFiles : Type := String → Option (List UInt8)

/-- A `save_state` that succeeds. -/
def StateFiles.saveState (files : StateFiles) (serde : Serde) (vm : VmInstance) : StateFiles :=
  fun vmId => if vm.id = vmId then some (serde.toWriterPretty vm.toState) else files vmId

/-- The state file of this id decodes to the persisted fields of the instance. -/
def Records (serde : Serde) (files : StateFiles) (vmId : String) (vm : VmInstance) : Prop :=
  ∃ content, files vmId = some content ∧ serde.fromStr content = some vm.toState

/-- The operations on VMs, with the saves they make succeeding. -/
inductive StateOp where
  | runVmBoot (vmId : String) (stages : Except String VmInstance) (imageName : String)
      (tpmSocketPath : Option String)
  | runVmRegister (vmId : String)
  | attestation (vmId : String) (verification : Verification)
  | pause (answer : Except String Unit) (vmId : String)
  | hibernate (createDir : Except String Unit) (vmId : String)
  | resume (answer : Except String Unit) (vmId : String)
  | restore (payload : Daemon.RestoreRequest) (reads : Bool × Bool) (newVmId : String)
      (stages : Except (ℕ × String) VmInstance) (create start : Daemon.Append) (timestamp : UInt64)
  | branch (iteration : List String) (id : String) (payload : Daemon.BranchRequest)
      (readOk : Bool) (newVmId : String) (disk : Except (ℕ × String) String)
      (io : TimeMachine.SledOutcomes) (uuid : String) (now : ℤ) (chSocketPath ipAddress : String)

def StateOp.action : StateOp → Action
  | .runVmBoot vmId stages imageName tpm => .runVmBoot vmId stages imageName tpm
  | .runVmRegister vmId => .runVmRegister vmId (.ok ())
  | .attestation vmId verification => .attestationCompletes vmId (.ok ()) verification
  | .pause answer vmId => .pause answer vmId
  | .hibernate createDir vmId => .hibernate createDir vmId
  | .resume answer vmId => .resume answer vmId
  | .restore payload reads newVmId stages create start timestamp =>
    .restore payload reads newVmId stages create start timestamp
  | .branch iteration id payload readOk newVmId disk io uuid now ch ip =>
    .branch iteration id payload readOk newVmId disk io uuid now ch ip

/-- The instance an operation hands to `save_state`: `run_vm` saves what it registers, and
`update_vm_status` is called once on every path of the attestation task. -/
def savedBy (d : Daemon) : StateOp → Option VmInstance
  | .runVmRegister vmId => d.booting[vmId]?
  | .attestation vmId verification =>
    (d.tasks[vmId]?).bind fun task => (d.vms[vmId]?).map fun vm =>
      { vm with status := verdict d.policy vmId task.tpmSocketPath verification }
  | _ => none

/-- The daemon with the state files under its data directory. -/
structure Stored where
  daemon : Daemon
  files : StateFiles

def storedStep (serde : Serde) (s : Stored) (op : StateOp) : Stored where
  daemon := daemonStep s.daemon op.action
  files :=
    match savedBy s.daemon op with
    | none => s.files
    | some vm => s.files.saveState serde vm

/-- Every VM of the map has a state file that decodes to what is in memory. -/
def OnDisk (serde : Serde) (vms : Std.ExtTreeMap String VmInstance) (files : StateFiles) : Prop :=
  ∀ vmId vm, vms[vmId]? = some vm → Records serde files vmId vm

/-- `serde_json` reads back what this operation saves. -/
def SavesRoundTrip (serde : Serde) (s : Stored) (op : StateOp) : Prop :=
  ∀ vm, savedBy s.daemon op = some vm → serde.RoundTrips vm.toState

/-- The instance a clone is registered with. -/
def clonedVm (newVmId : String) (prepared : VmInstance) : VmInstance :=
  { prepared with id := newVmId, status := .running, attestationStatus := none }

/-- The instance a branch is registered with, if it gets that far. -/
def branchedVm (d : Daemon) (iteration : List String) (id : String)
    (payload : Daemon.BranchRequest) (readOk : Bool) (newVmId : String)
    (disk : Except (ℕ × String) String) (chSocketPath ipAddress : String) : Option VmInstance := do
  let source ← d.branchSource iteration id
  let _ ← TimeMachine.getSnapshot d.timemachine readOk source.1 payload.«from»
  let overlay ← disk.toOption
  some {
    id := newVmId
    status := .running
    chSocketPath := chSocketPath
    dmName := "qcow2-" ++ newVmId
    cowFilePath := overlay
    ipAddress := ipAddress
    hostname := some payload.newName
    networks := ["default"]
    baseImagePath := source.2.baseImagePath
    vcpu := 1
    memSizeMib := 256 }

/-- What the operations that do not save must meet: a status that is set is the one the VM
has already, and a VM that is registered has its file beforehand. -/
def RecordKept (serde : Serde) (s : Stored) : StateOp → Prop
  | .runVmBoot .. | .runVmRegister _ | .attestation .. => True
  | .pause answer vmId => answer = .ok () →
      ∀ vm, s.daemon.vms[vmId]? = some vm → vm.status = .paused
  | .hibernate createDir vmId => createDir = .ok () →
      ∀ vm, s.daemon.vms[vmId]? = some vm → vm.status = .hibernated
  | .resume answer vmId => ∀ vm, s.daemon.vms[vmId]? = some vm →
      (vm.status = .paused → answer = .ok ()) → vm.status = .running
  | .restore payload reads newVmId stages _ _ _ => startsClone s.daemon payload reads = true →
      ∀ prepared, stages = .ok prepared → Records serde s.files newVmId (clonedVm newVmId prepared)
  | .branch iteration id payload readOk newVmId disk _ _ _ ch ip =>
      ∀ vm, branchedVm s.daemon iteration id payload readOk newVmId disk ch ip = some vm →
        Records serde s.files newVmId vm

/-! ## What each operation does to the map -/

namespace Daemon

variable (d : Daemon) (vmId : String)

theorem pauseVm_eq (answer : Except String Unit) : (d.pauseVm answer vmId).1 =
    if answer = .ok () then (d.updateVmStatus (.ok ()) vmId .paused).1 else d := by
  unfold pauseVm updateVmStatus
  cases d.vms[vmId]? with
  | none => simp [notFound]
  | some vm => cases answer <;> simp

/-- To set the status a VM has already changes nothing. -/
theorem updateVmStatus_same {vm : VmInstance} {status : VmStatus} (hvm : d.vms[vmId]? = some vm)
    (hstatus : vm.status = status) : (d.updateVmStatus (.ok ()) vmId status).1 = d := by
  have hsame : d.vms.insert vmId { vm with status := status } = d.vms := by
    apply Std.ExtTreeMap.ext_getElem?
    intro v
    rw [lookup_insert]
    split_ifs with hv
    · rw [← hv, hvm, ← hstatus]
    · rfl
  simp only [updateVmStatus, hvm, hsame]

theorem hibernateVm_eq (createDir : Except String Unit) : (d.hibernateVm createDir vmId).1 =
    if createDir = .ok () then (d.updateVmStatus (.ok ()) vmId .hibernated).1 else d := by
  cases hvm : d.vms[vmId]? with
  | none => simp [hibernateVm, updateVmStatus, notFound, hvm]
  | some vm =>
    by_cases hasleep : vm.status = .hibernated
    · rw [updateVmStatus_same d vmId hvm hasleep, ite_self]
      simp [hibernateVm, hvm, hasleep]
    · cases createDir <;> simp [hibernateVm, updateVmStatus, hvm, hasleep]

theorem resumeVm_eq (answer : Except String Unit) : (d.resumeVm answer vmId).1 =
    if ∀ vm, d.vms[vmId]? = some vm → vm.status = .paused → answer = .ok () then
      (d.updateVmStatus (.ok ()) vmId .running).1
    else d := by
  cases hvm : d.vms[vmId]? with
  | none => simp [resumeVm, updateVmStatus, notFound, hvm]
  | some vm =>
    by_cases hpaused : vm.status = .paused
    · cases answer <;> simp [resumeVm, updateVmStatus, hvm, hpaused]
    · by_cases hasleep : vm.status = .hibernated <;>
        simp [resumeVm, updateVmStatus, hvm, hpaused, hasleep]

theorem branchVm_eq (iteration : List String) (id : String) (payload : BranchRequest)
    (readOk : Bool) (newVmId : String) (disk : Except (ℕ × String) String)
    (io : TimeMachine.SledOutcomes) (uuid : String) (now : ℤ) (ch ip : String) :
    ∃ timemachine, (d.branchVm iteration id payload readOk newVmId disk io uuid now ch ip).1 =
      match branchedVm d iteration id payload readOk newVmId disk ch ip with
      | none => d
      | some vm => { d with vms := d.vms.insert newVmId vm, timemachine := timemachine } := by
  unfold branchVm branchedVm
  cases d.branchSource iteration id with
  | none => exact ⟨d.timemachine, rfl⟩
  | some source =>
    obtain ⟨sourceVmId, source⟩ := source
    simp only [Option.bind_eq_bind, Option.bind_some]
    cases TimeMachine.getSnapshot d.timemachine readOk sourceVmId payload.«from» with
    | none => exact ⟨d.timemachine, rfl⟩
    | some snapshot =>
      cases disk with
      | error e => exact ⟨d.timemachine, rfl⟩
      | ok overlay => exact ⟨_, rfl⟩

theorem branchedVm_id {iteration : List String} {id : String} {payload : BranchRequest}
    {readOk : Bool} {newVmId : String} {disk : Except (ℕ × String) String} {ch ip : String}
    {vm : VmInstance}
    (h : branchedVm d iteration id payload readOk newVmId disk ch ip = some vm) :
    vm.id = newVmId := by
  simp only [branchedVm, Option.bind_eq_bind, Option.bind_eq_some_iff, Option.some.injEq] at h
  obtain ⟨_, _, _, _, _, _, rfl⟩ := h
  rfl

end Daemon

/-! ## Instances are kept under their own id -/

def KeyedById (vms : Std.ExtTreeMap String VmInstance) : Prop :=
  ∀ (vmId : String) (vm : VmInstance), vms[vmId]? = some vm → vm.id = vmId

section Keyed

variable {vms : Std.ExtTreeMap String VmInstance} {vmId : String} {vm : VmInstance}

theorem KeyedById.insert (h : KeyedById vms) (hid : vm.id = vmId) :
    KeyedById (vms.insert vmId vm) := by
  intro v vm' hvm'
  rw [lookup_insert] at hvm'
  split_ifs at hvm' with hv
  · cases hvm'
    rw [hid, hv]
  · exact h v vm' hvm'

theorem KeyedById.erase (h : KeyedById vms) : KeyedById (vms.erase vmId) := by
  intro v vm' hvm'
  exact h v vm' (lookup_erase_eq_some_iff.mp hvm').2

theorem keyedById_updateVmStatus {d : Daemon} (h : KeyedById d.vms) (save : Except String Unit)
    (status : VmStatus) : KeyedById (d.updateVmStatus save vmId status).1.vms := by
  intro v vm hvm
  rw [lookup_updateVmStatus] at hvm
  split_ifs at hvm with hv
  · obtain ⟨old, hold, rfl⟩ := Option.map_eq_some_iff.mp hvm
    exact h v old hold
  · exact h v vm hvm

end Keyed

/-- The instances of the daemon, registered or in flight, are kept under their own id. -/
structure Daemon.Keyed (d : Daemon) : Prop where
  vms : KeyedById d.vms
  booting : KeyedById d.booting

theorem keyed_completeAttestation {d : Daemon} (h : d.Keyed) (save : Except String Unit)
    (vmId : String) (verification : Verification) :
    (completeAttestation d vmId save verification).Keyed := by
  cases htask : d.tasks[vmId]? with
  | none =>
    unfold completeAttestation
    rw [htask]
    exact h
  | some task =>
    refine ⟨?_, ?_⟩
    · obtain ⟨attested, hlook⟩ := lookup_completeAttestation d save vmId htask verification
      intro v vm hvm
      rw [hlook] at hvm
      split_ifs at hvm with hv
      · obtain ⟨old, hold, rfl⟩ := Option.map_eq_some_iff.mp hvm
        exact h.vms v old hold
      · exact h.vms v vm hvm
    · have hsame := onlyVms_checkPolicyAndPerformAttestation
        { d with tasks := d.tasks.erase vmId } save vmId task.tpmSocketPath verification
      simp only [completeAttestation, htask]
      rw [hsame.booting]
      exact h.booting

theorem keyed_updateVmStatus {d : Daemon} (h : d.Keyed) (vmId : String) (save : Except String Unit)
    (status : VmStatus) : (d.updateVmStatus save vmId status).1.Keyed where
  vms := keyedById_updateVmStatus h.vms save status
  booting := by
    rw [(onlyVms_updateVmStatus d save vmId status).booting]
    exact h.booting

theorem keyed_daemonStep {d : Daemon} (h : d.Keyed) (op : StateOp) :
    (daemonStep d op.action).Keyed := by
  cases op with
  | runVmBoot vmId stages imageName tpm =>
    cases stages with
    | error e => exact h
    | ok prepared => exact ⟨h.vms, h.booting.insert rfl⟩
  | runVmRegister vmId =>
    simp only [StateOp.action, daemonStep, completeRun]
    cases hboot : d.booting[vmId]? with
    | none => exact h
    | some vm => exact ⟨h.vms.insert (h.booting vmId vm hboot), h.booting.erase⟩
  | attestation vmId verification => exact keyed_completeAttestation h (.ok ()) vmId verification
  | pause answer vmId =>
    simp only [StateOp.action, daemonStep, Daemon.pauseVm_eq]
    split_ifs
    · exact keyed_updateVmStatus h vmId (.ok ()) .paused
    · exact h
  | hibernate createDir vmId =>
    simp only [StateOp.action, daemonStep, Daemon.hibernateVm_eq]
    split_ifs
    · exact keyed_updateVmStatus h vmId (.ok ()) .hibernated
    · exact h
  | resume answer vmId =>
    simp only [StateOp.action, daemonStep, Daemon.resumeVm_eq]
    split_ifs
    · exact keyed_updateVmStatus h vmId (.ok ()) .running
    · exact h
  | restore payload reads newVmId stages create start timestamp =>
    simp only [StateOp.action, daemonStep, Daemon.restoreVm_eq]
    split_ifs
    · cases stages with
      | error e => exact h
      | ok prepared => exact ⟨h.vms.insert rfl, h.booting⟩
    · exact h
  | branch iteration id payload readOk newVmId disk io uuid now ch ip =>
    obtain ⟨timemachine, he⟩ :=
      d.branchVm_eq iteration id payload readOk newVmId disk io uuid now ch ip
    simp only [StateOp.action, daemonStep, he]
    cases hvm : branchedVm d iteration id payload readOk newVmId disk ch ip with
    | none => exact h
    | some vm => exact ⟨h.vms.insert (d.branchedVm_id hvm), h.booting⟩

/-! ## The files after each operation -/

section Files

variable {serde : Serde} {d : Daemon} {files : StateFiles} {vmId : String} {vm : VmInstance}

theorem records_saveState (hid : vm.id = vmId) (hround : serde.RoundTrips vm.toState) :
    Records serde (files.saveState serde vm) vmId vm :=
  ⟨_, if_pos hid, hround⟩

theorem Records.saveState_other {saved : VmInstance} (h : Records serde files vmId vm)
    (hid : saved.id ≠ vmId) : Records serde (files.saveState serde saved) vmId vm := by
  obtain ⟨content, hcontent, hdecoded⟩ := h
  exact ⟨content, (if_neg hid).trans hcontent, hdecoded⟩

/-- A file records an instance with another status exactly if that is the status it has. -/
theorem records_status_iff (h : Records serde files vmId vm) {status : VmStatus} :
    Records serde files vmId { vm with status := status } ↔ vm.status = status := by
  obtain ⟨content, hcontent, hdecoded⟩ := h
  constructor
  · intro hother
    obtain ⟨content', hcontent', hdecoded'⟩ := hother
    rw [hcontent] at hcontent'
    cases hcontent'
    rw [hdecoded] at hdecoded'
    exact congrArg VmState.status (Option.some.inj hdecoded')
  · rintro rfl
    exact ⟨content, hcontent, hdecoded⟩

theorem onDisk_insert_iff {vms : Std.ExtTreeMap String VmInstance} (h : OnDisk serde vms files) :
    OnDisk serde (vms.insert vmId vm) files ↔ Records serde files vmId vm := by
  constructor
  · intro hall
    exact hall vmId vm (by simp)
  · intro hvm v vm' hvm'
    rw [lookup_insert] at hvm'
    split_ifs at hvm' with hv
    · cases hvm'
      exact hv ▸ hvm
    · exact h v vm' hvm'

theorem onDisk_updateVmStatus_iff (h : OnDisk serde d.vms files) {status : VmStatus} :
    OnDisk serde (d.updateVmStatus (.ok ()) vmId status).1.vms files ↔
      ∀ vm, d.vms[vmId]? = some vm → vm.status = status := by
  cases hvm : d.vms[vmId]? with
  | none =>
    refine iff_of_true ?_ (by simp)
    simpa [Daemon.updateVmStatus, hvm] using h
  | some vm =>
    simp only [Daemon.updateVmStatus, hvm, Option.some.injEq, forall_eq']
    rw [onDisk_insert_iff h]
    exact records_status_iff (h vmId vm hvm)

/-- The task saves its verdict before anything else happens to the VM. -/
theorem onDisk_completeAttestation (hkeyed : KeyedById d.vms) (h : OnDisk serde d.vms files)
    {verification : Verification}
    (hround : SavesRoundTrip serde ⟨d, files⟩ (.attestation vmId verification)) :
    OnDisk serde (storedStep serde ⟨d, files⟩ (.attestation vmId verification)).daemon.vms
      (storedStep serde ⟨d, files⟩ (.attestation vmId verification)).files := by
  simp only [storedStep, StateOp.action, daemonStep]
  cases htask : d.tasks[vmId]? with
  | none => simpa [savedBy, completeAttestation, htask] using h
  | some task =>
    obtain ⟨attested, hlook⟩ := lookup_completeAttestation d (.ok ()) vmId htask verification
    intro v vm hvm
    rw [hlook] at hvm
    cases hold : d.vms[vmId]? with
    | none =>
      simp only [savedBy, htask, hold, Option.bind_some, Option.map_none]
      split_ifs at hvm with hv
      · rw [← hv, hold] at hvm
        cases hvm
      · exact h v vm hvm
    | some old =>
      have hsaved : savedBy d (.attestation vmId verification) = some { old with
          status := verdict d.policy vmId task.tpmSocketPath verification } := by
        simp [savedBy, htask, hold]
      rw [hsaved]
      split_ifs at hvm with hv
      · rw [← hv, hold] at hvm
        cases hvm
        exact records_saveState ((hkeyed vmId old hold).trans hv) (hround _ hsaved)
      · exact (h v vm hvm).saveState_other fun hid => hv ((hkeyed vmId old hold).symm.trans hid)

/-- A registration saves the VM under its id before it enters the map. -/
theorem onDisk_runVmRegister (hkeyed : KeyedById d.booting) (h : OnDisk serde d.vms files)
    (hround : SavesRoundTrip serde ⟨d, files⟩ (.runVmRegister vmId)) :
    OnDisk serde (storedStep serde ⟨d, files⟩ (.runVmRegister vmId)).daemon.vms
      (storedStep serde ⟨d, files⟩ (.runVmRegister vmId)).files := by
  simp only [storedStep, savedBy, StateOp.action, daemonStep, completeRun]
  cases hboot : d.booting[vmId]? with
  | none => exact h
  | some vm =>
    have hid : vm.id = vmId := hkeyed vmId vm hboot
    intro v vm' hvm'
    simp only [Daemon.runVmRegister, lookup_insert] at hvm'
    split_ifs at hvm' with hv
    · cases hvm'
      exact records_saveState (hid.trans hv) (hround vm hboot)
    · exact (h v vm' hvm').saveState_other fun hother => hv (hid.symm.trans hother)

end Files

/-! ## Along a run -/

/-- One operation keeps the files in agreement exactly if it meets its condition. -/
theorem onDisk_storedStep_iff {serde : Serde} {s : Stored} (hkeyed : s.daemon.Keyed)
    (h : OnDisk serde s.daemon.vms s.files) (op : StateOp) (hround : SavesRoundTrip serde s op) :
    OnDisk serde (storedStep serde s op).daemon.vms (storedStep serde s op).files ↔
      RecordKept serde s op := by
  obtain ⟨d, files⟩ := s
  cases op with
  | runVmBoot vmId stages imageName tpm =>
    refine iff_of_true ?_ trivial
    simpa [storedStep, savedBy, StateOp.action, daemonStep, Daemon.runVmBoot_vms] using h
  | runVmRegister vmId =>
    exact iff_of_true (onDisk_runVmRegister hkeyed.booting h hround) trivial
  | attestation vmId verification =>
    exact iff_of_true (onDisk_completeAttestation hkeyed.vms h hround) trivial
  | pause answer vmId =>
    simp only [storedStep, savedBy, StateOp.action, daemonStep, Daemon.pauseVm_eq, RecordKept]
    split_ifs with hok
    · simpa [hok] using onDisk_updateVmStatus_iff h
    · exact iff_of_true h fun hok' => absurd hok' hok
  | hibernate createDir vmId =>
    simp only [storedStep, savedBy, StateOp.action, daemonStep, Daemon.hibernateVm_eq, RecordKept]
    split_ifs with hok
    · simpa [hok] using onDisk_updateVmStatus_iff h
    · exact iff_of_true h fun hok' => absurd hok' hok
  | resume answer vmId =>
    simp only [storedStep, savedBy, StateOp.action, daemonStep, Daemon.resumeVm_eq, RecordKept]
    split_ifs with hok
    · rw [onDisk_updateVmStatus_iff h]
      exact forall₂_congr fun vm hvm => (imp_iff_right (hok vm hvm)).symm
    · refine iff_of_true h fun vm hvm hpaused => absurd ?_ hok
      intro vm' hvm'
      rw [hvm] at hvm'
      cases hvm'
      exact hpaused
  | restore payload reads newVmId stages create start timestamp =>
    simp only [storedStep, savedBy, StateOp.action, daemonStep, Daemon.restoreVm_eq, RecordKept]
    split_ifs with hclone
    · cases stages with
      | error e => exact iff_of_true h fun _ _ hok => by cases hok
      | ok prepared =>
        simp only [hclone, true_implies, Except.ok.injEq, forall_eq']
        exact onDisk_insert_iff h
    · exact iff_of_true h fun hclone' => absurd hclone' hclone
  | branch iteration id payload readOk newVmId disk io uuid now ch ip =>
    obtain ⟨timemachine, he⟩ :=
      d.branchVm_eq iteration id payload readOk newVmId disk io uuid now ch ip
    simp only [storedStep, savedBy, StateOp.action, daemonStep, he, RecordKept]
    cases branchedVm d iteration id payload readOk newVmId disk ch ip with
    | none => exact iff_of_true h fun _ hvm => by cases hvm
    | some vm =>
      simp only [Option.some.injEq, forall_eq']
      exact onDisk_insert_iff h

/-- A daemon without VMs, over any files. -/
def started (policy : PolicyConfig) (wal : State.Wal) (timemachine : TimeMachine.Store)
    (files : StateFiles) : Stored where
  daemon := { fresh with wal := wal, timemachine := timemachine, policy := policy }
  files := files

/-- Where `serde_json` reads back what is saved, the files agree with the map in every state
of a run exactly when each operation that does not save leaves nothing to be saved. -/
theorem state_on_disk_iff {serde : Serde} (policy : PolicyConfig) (wal : State.Wal)
    (timemachine : TimeMachine.Store) (files : StateFiles) {run : List StateOp}
    (hround : Along (storedStep serde) (SavesRoundTrip serde)
      (started policy wal timemachine files) run) :
    Throughout (storedStep serde) (fun s => OnDisk serde s.daemon.vms s.files)
        (started policy wal timemachine files) run ↔
      Along (storedStep serde) (RecordKept serde) (started policy wal timemachine files) run := by
  have hkeyed : (started policy wal timemachine files).daemon.Keyed :=
    ⟨fun _ _ hvm => by simp [started, fresh] at hvm, fun _ _ hvm => by simp [started, fresh] at hvm⟩
  have hstart : OnDisk serde (started policy wal timemachine files).daemon.vms
      (started policy wal timemachine files).files := by
    intro vmId vm hvm
    simp [started, fresh] at hvm
  have hinv : Along (storedStep serde) (fun s _ => s.daemon.Keyed)
      (started policy wal timemachine files) run :=
    along_of_invariant (Q := fun s : Stored => s.daemon.Keyed) hkeyed
      (fun _ op h => keyed_daemonStep h op) run
  refine throughout_iff_along hstart ?_ (hinv.and hround)
  intro s op h hboth
  exact onDisk_storedStep_iff hboth.1 h op hboth.2

/-- The text of the booted VM's state file, up to its status. -/
@[irreducible] def bootedText (status : String) : List UInt8 :=
  ("\x7b\n  \"id\": \"5f2c\",\n  \"tap_name\": \"\",\n  \"dm_name\": \"\",\n" ++
    "  \"loop_devices\": [],\n  \"cow_file_path\": \"\",\n  \"ip_address\": \"\",\n" ++
    "  \"cgroup_path\": null,\n  \"netns_path\": null,\n  \"ports\": [],\n" ++
    "  \"volumes\": [],\n  \"hostname\": null,\n  \"labels\": \x7b\x7d,\n" ++
    "  \"base_image_path\": \"\",\n  \"vcpu\": 1,\n  \"mem_size_mib\": 512,\n" ++
    "  \"networks\": [],\n  \"status\": \"" ++ status ++ "\"\n\x7d").toUTF8.data.toList

/-- `serde_json` on the states of the booted VM, of which it reads the one with this status. -/
def bootedSerde (status : VmStatus) : Serde where
  toWriterPretty state := bootedText state.status.display
  fromStr content :=
    if content = bootedText status.display then some { bootedVm with status := status }.toState
    else none

theorem bootedSerde_roundTrips (status : VmStatus) :
    (bootedSerde status).RoundTrips { bootedVm with status := status }.toState := if_pos rfl

/-- A new daemon on a host without state files. -/
def emptyHost : Stored := started {} fresh.wal ∅ fun _ => none

/-- `run_vm` without attestation. -/
def bootedRun : List StateOp :=
  [.runVmBoot "5f2c" (.ok bootedVm) "ubuntu" none, .runVmRegister "5f2c"]

theorem bootedRun_roundTrips : Along (storedStep (bootedSerde .running))
    (SavesRoundTrip (bootedSerde .running)) emptyHost bootedRun := by
  refine ⟨fun _ hvm => (nomatch hvm), fun vm hvm => ?_, trivial⟩
  have hboot : savedBy (storedStep (bootedSerde .running) emptyHost
      (.runVmBoot "5f2c" (.ok bootedVm) "ubuntu" none)).daemon (.runVmRegister "5f2c") =
      some bootedVm := by rfl
  rw [hboot] at hvm
  cases hvm
  exact bootedSerde_roundTrips .running

theorem run_vm_on_disk :
    Along (storedStep (bootedSerde .running)) (SavesRoundTrip (bootedSerde .running)) emptyHost
      bootedRun ∧
    Throughout (storedStep (bootedSerde .running))
      (fun s => OnDisk (bootedSerde .running) s.daemon.vms s.files) emptyHost bootedRun :=
  ⟨bootedRun_roundTrips, (state_on_disk_iff {} fresh.wal ∅ (fun _ => none)
    bootedRun_roundTrips).mpr ⟨trivial, trivial, trivial⟩⟩

/-- After a pause the file still says that the VM runs. -/
theorem paused_vm_not_on_disk :
    Along (storedStep (bootedSerde .running)) (SavesRoundTrip (bootedSerde .running)) emptyHost
      (bootedRun ++ [.pause (.ok ()) "5f2c"]) ∧
    ¬ Throughout (storedStep (bootedSerde .running))
      (fun s => OnDisk (bootedSerde .running) s.daemon.vms s.files) emptyHost
      (bootedRun ++ [.pause (.ok ()) "5f2c"]) := by
  refine ⟨?_, fun h => ?_⟩
  · obtain ⟨hboot, hregister, _⟩ := bootedRun_roundTrips
    refine ⟨hboot, hregister, fun _ hvm => ?_, trivial⟩
    cases hvm
  · have hvm : (exec (storedStep (bootedSerde .running)) emptyHost
        (bootedRun ++ [.pause (.ok ()) "5f2c"])).daemon.vms["5f2c"]? =
        some { bootedVm with status := .paused } := by rfl
    have hfile : (exec (storedStep (bootedSerde .running)) emptyHost
        (bootedRun ++ [.pause (.ok ()) "5f2c"])).files "5f2c" = some (bootedText "Running") := by
      rfl
    obtain ⟨content, hcontent, hdecoded⟩ := h.exec "5f2c" _ hvm
    rw [hfile] at hcontent
    cases hcontent
    have hstates : some bootedVm.toState = some { bootedVm.toState with status := .paused } :=
      (bootedSerde_roundTrips .running).symm.trans hdecoded
    cases congrArg VmState.status (Option.some.inj hstates)

end Vyoma.VmService
