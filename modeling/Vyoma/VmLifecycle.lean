import Vyoma.SwarmRaft
import Vyoma.TimeMachine
import Vyoma.Wal

/-!
# The VM lifecycle of the daemon

The daemon keeps its VMs in a map, and nearly every operation writes the status of
one of them. `run_vm` boots a VM, decides whether it must be attested, and registers
it; an attestation task runs beside the registration. Restart builds the map anew from
the log. Outcomes of the hypervisor, the file system and the verifier are arguments.
-/
namespace Vyoma.VmService
open State (Wal WalEntry)
open Swarm (PortMapping)

inductive VmStatus where
  | pendingAttestation
  | running
  | attestationFailed (reason : String)
  | error (reason : String)
  | paused
  | hibernated
  deriving DecidableEq, Repr

/-- The `Display` of a status. -/
def VmStatus.display : VmStatus → String
  | pendingAttestation => "PendingAttestation"
  | running => "Running"
  | attestationFailed reason => "AttestationFailed: " ++ reason
  | error reason => "Error: " ++ reason
  | paused => "Paused"
  | hibernated => "Hibernated"

structure VolumeMount where
  hostPath : String
  vmPath : String
  readOnly : Bool
  deriving DecidableEq, Repr

/-- A registered VM, without its process and task handles. -/
structure VmInstance where
  id : String
  status : VmStatus
  attestationStatus : Option String := none
  chSocketPath : String
  tapName : String := ""
  dmName : String := ""
  loopDevices : List String := []
  cowFilePath : String := ""
  ipAddress : String := ""
  cgroupPath : Option String := none
  netnsPath : Option String := none
  configPorts : List PortMapping := []
  configVolumes : List VolumeMount := []
  hostname : Option String := none
  labels : HashMap String String := ∅
  networks : List String := []
  baseImagePath : String := ""
  vcpu : UInt32
  memSizeMib : UInt32

/-- What `state.json` holds of a VM. -/
structure VmState where
  id : String
  tapName : String
  dmName : String
  loopDevices : List String
  cowFilePath : String
  ipAddress : String
  cgroupPath : Option String
  netnsPath : Option String
  ports : List PortMapping
  volumes : List VolumeMount
  hostname : Option String
  labels : HashMap String String
  baseImagePath : String
  vcpu : UInt32
  memSizeMib : UInt32
  networks : List String
  status : VmStatus

structure MeasuredBootPolicy where
  enabled : Bool := false
  required : Bool := false
  pcrSelection : List UInt32 := [7, 9, 10]
  verificationTimeoutSecs : UInt64 := 30
  blockOnFailure : Bool := true
  buildSigningKeyPath : Option String := none
  trustedKeysDir : Option String := none
  deriving DecidableEq, Repr

structure PolicyConfig where
  measuredBoot : MeasuredBootPolicy := {}
  deriving DecidableEq, Repr

def PolicyConfig.setRequireMeasuredBoot (config : PolicyConfig) (required : Bool) : PolicyConfig :=
  { config with measuredBoot := { config.measuredBoot with enabled := true, required := required } }

def PolicyConfig.mustVerifyOnBoot (config : PolicyConfig) : Bool :=
  config.measuredBoot.enabled && config.measuredBoot.required

/-- A spawned attestation task that has not completed. -/
structure AttestationTask where
  imageName : String
  tpmSocketPath : Option String
  deriving DecidableEq, Repr

/-- What the verifier makes of a VM within the timeout. -/
inductive Verification where
  | verified
  | rejected (error : Option String)
  | failed (error : String)
  | timedOut (elapsed : String)
  deriving DecidableEq, Repr

/-- The daemon's state with the work in flight: VMs booted by `run_vm` that are not
registered yet, and attestation tasks. -/
structure Daemon where
  vms : Std.ExtTreeMap String VmInstance
  wal : Wal
  timemachine : TimeMachine.Store
  policy : PolicyConfig
  booting : Std.ExtTreeMap String VmInstance
  tasks : Std.ExtTreeMap String AttestationTask

namespace Daemon

/-- The status is set even when saving it to disk fails. -/
def updateVmStatus (d : Daemon) (save : Except String Unit) (vmId : String)
    (newStatus : VmStatus) : Daemon × Except String Unit :=
  match d.vms[vmId]? with
  | none => (d, .error ("VM " ++ vmId ++ " not found in state"))
  | some vm => ({ d with vms := d.vms.insert vmId { vm with status := newStatus } },
      save.mapError fun e => "Failed to save VM state: " ++ e)

def setAttestationStatus (d : Daemon) (vmId attestationStatus : String) : Daemon :=
  match d.vms[vmId]? with
  | none => d
  | some vm =>
    { d with vms := d.vms.insert vmId { vm with attestationStatus := some attestationStatus } }

def killVm (d : Daemon) (vmId : String) : Daemon := { d with vms := d.vms.erase vmId }

def handleAttestationFailure (d : Daemon) (save : Except String Unit) (vmId reason : String) :
    Daemon :=
  let d := (d.updateVmStatus save vmId (.attestationFailed reason)).1
  let d := d.setAttestationStatus vmId "FAILED"
  if d.policy.measuredBoot.blockOnFailure then d.killVm vmId else d

def checkPolicyAndPerformAttestation (d : Daemon) (save : Except String Unit) (vmId : String)
    (tpmSocketPath : Option String) (verification : Verification) :
    Daemon × Except String Unit :=
  if !d.policy.mustVerifyOnBoot then d.updateVmStatus save vmId .running
  else
    match tpmSocketPath with
    | none =>
      let message := "vTPM socket not available for VM " ++ vmId ++ " - cannot perform attestation"
      (d.handleAttestationFailure save vmId message, .error message)
    | some _ =>
      match verification with
      | .verified =>
        match d.updateVmStatus save vmId .running with
        | (d, .error e) => (d, .error ("Failed to update VM status: " ++ e))
        | (d, .ok ()) => (d.setAttestationStatus vmId "VERIFIED", .ok ())
      | .rejected error =>
        let message := error.getD "Attestation failed"
        (d.handleAttestationFailure save vmId ("Attestation failed: " ++ message), .error message)
      | .failed e =>
        (d.handleAttestationFailure save vmId ("Attestation failed: " ++ e), .error e)
      | .timedOut elapsed =>
        let message := "Attestation timed out after " ++ elapsed ++ " for VM " ++ vmId
        (d.handleAttestationFailure save vmId message, .error message)

/-- `run_vm` up to the spawn of the attestation task. The image, storage, network,
agent, cgroup and boot stages give the instance, or the error of the first that fails. -/
def runVmBoot (d : Daemon) (vmId : String) (stages : Except String VmInstance)
    (imageName : String) (tpmSocketPath : Option String) : Daemon × Except String Unit :=
  match stages with
  | .error e => (d, .error e)
  | .ok prepared =>
    let needsAttestation := d.policy.mustVerifyOnBoot
    let vm := { prepared with
      id := vmId
      status := if needsAttestation then .pendingAttestation else .running
      attestationStatus := none }
    ({ d with
      booting := d.booting.insert vmId vm
      tasks := if needsAttestation then d.tasks.insert vmId ⟨imageName, tpmSocketPath⟩
        else d.tasks }, .ok ())

structure VmRunResponse where
  vmId : String
  status : String
  ipAddress : String
  deriving DecidableEq, Repr

/-- The rest of `run_vm`: save the state, then insert the instance into the map. -/
def runVmRegister (d : Daemon) (vmId : String) (vm : VmInstance) (save : Except String Unit) :
    Daemon × Except String VmRunResponse :=
  let d := { d with booting := d.booting.erase vmId }
  match save with
  | .error _ => (d, .error "Failed to save state")
  | .ok () =>
    ({ d with vms := d.vms.insert vmId vm }, .ok ⟨vmId, vm.status.display, vm.ipAddress⟩)

def notFound (d : Daemon) (vmId : String) : Daemon × Except String String :=
  (d, .error ("VM " ++ vmId ++ " not found"))

/-- Outcome of one `wal.append`: whether sled inserts and flushes, and the clock. -/
structure Append where
  insertOk : Bool
  flushOk : Bool
  now : UInt64

def appendWal (d : Daemon) (io : Append) (entry : WalEntry) : Daemon :=
  { d with wal := (d.wal.append io.insertOk io.flushOk io.now entry).1 }

def stopVm (d : Daemon) (io : Append) (timestamp : UInt64) (vmId : String) :
    Daemon × Except String String :=
  match d.vms[vmId]? with
  | none => d.notFound vmId
  | some _ =>
    ({ d with vms := d.vms.erase vmId }.appendWal io (.vmStop vmId timestamp),
      .ok ("VM " ++ vmId ++ " stopped and cleaned up"))

def pauseVm (d : Daemon) (pause : Except String Unit) (vmId : String) :
    Daemon × Except String String :=
  match d.vms[vmId]? with
  | none => d.notFound vmId
  | some vm =>
    match pause with
    | .error _ => (d, .error "Failed to pause VM")
    | .ok () => ({ d with vms := d.vms.insert vmId { vm with status := .paused } },
        .ok ("VM " ++ vmId ++ " paused"))

def hibernateVm (d : Daemon) (createDir : Except String Unit) (vmId : String) :
    Daemon × Except String String :=
  match d.vms[vmId]? with
  | none => d.notFound vmId
  | some vm =>
    if vm.status = .hibernated then (d, .ok ("VM " ++ vmId ++ " already hibernated"))
    else
      match createDir with
      | .error _ => (d, .error "Failed to create hibernation directory")
      | .ok () => ({ d with vms := d.vms.insert vmId { vm with status := .hibernated } },
          .ok ("VM " ++ vmId ++ " hibernated (0 vCPUs, 0 MB host memory)"))

/-- Only the resumption of a paused VM looks at the hypervisor's answer. -/
def resumeVm (d : Daemon) (resume : Except String Unit) (vmId : String) :
    Daemon × Except String String :=
  match d.vms[vmId]? with
  | none => d.notFound vmId
  | some vm =>
    let resumed := { d with vms := d.vms.insert vmId { vm with status := .running } }
    if vm.status = .paused then
      match resume with
      | .error _ => (d, .error "Failed to resume paused VM")
      | .ok () => (resumed, .ok ("VM " ++ vmId ++ " resumed from pause"))
    else if vm.status = .hibernated then
      (resumed, .ok ("VM " ++ vmId ++ " resumed from hibernation in 180ms"))
    else (resumed, .ok ("VM " ++ vmId ++ " resumed"))

def snapshotVm (d : Daemon) (io : TimeMachine.SledOutcomes) (uuid : String) (now : ℤ)
    (createDir : Except String Unit) (vmId : String) (label : Option String) :
    Daemon × Except String String :=
  match d.vms[vmId]? with
  | none => d.notFound vmId
  | some _ =>
    let (timemachine, entry) := TimeMachine.createSnapshot d.timemachine io uuid now vmId
      (label.or (some ("Manual snapshot for " ++ vmId)))
    ({ d with timemachine := timemachine },
      match createDir with
      | .error _ => .error "Failed to create snapshots dir"
      | .ok () => .ok entry.id)

structure RestoreRequest where
  vmId : Option String := none
  «from» : Option String := none
  snapshotId : Option String := none
  snapshotPath : Option String := none
  originalVmId : Option String := none
  deriving DecidableEq, Repr

/-- The last part of `restore_vm`: a new VM is started from the snapshot files. -/
def cloneVm (d : Daemon) (newVmId : String) (stages : Except (ℕ × String) VmInstance)
    (create start : Append) (timestamp : UInt64) : Daemon × Except (ℕ × String) VmRunResponse :=
  match stages with
  | .error e => (d, .error e)
  | .ok prepared =>
    let vm := { prepared with id := newVmId, status := .running, attestationStatus := none }
    let d := { d with vms := d.vms.insert newVmId vm }
    ((d.appendWal create (.vmCreate newVmId timestamp)).appendWal start
      (.vmStart newVmId timestamp), .ok ⟨newVmId, "Restored", vm.ipAddress⟩)

def invalidRestore : String := "Invalid restore request: must provide either 'vm_id' and " ++
  "'from'/'snapshot_id', or raw file paths"

/-- An active VM is restored in place, with its status left alone; otherwise a clone
is started. `reads` tells which of the two history reads succeed. -/
def restoreVm (d : Daemon) (payload : RestoreRequest) (reads : Bool × Bool) (newVmId : String)
    (stages : Except (ℕ × String) VmInstance) (create start : Append) (timestamp : UInt64) :
    Daemon × Except (ℕ × String) VmRunResponse :=
  match payload.vmId.or payload.originalVmId, payload.«from».or payload.snapshotId with
  | some vmId, some snapRef =>
    let missing := "Snapshot '" ++ snapRef ++ "' not found for VM " ++ vmId
    match TimeMachine.getSnapshot d.timemachine reads.1 vmId snapRef with
    | none => (d, .error (404, missing))
    | some _ =>
      match d.vms[vmId]? with
      | some vm => (d, .ok ⟨vmId, "restored", vm.ipAddress⟩)
      | none =>
        match TimeMachine.getSnapshot d.timemachine reads.2 vmId snapRef with
        | none => (d, .error (404, missing))
        | some _ => d.cloneVm newVmId stages create start timestamp
  | _, _ =>
    match payload.snapshotPath with
    | some _ => d.cloneVm newVmId stages create start timestamp
    | none => (d, .error (400, invalidRestore))

structure BranchRequest where
  «from» : String
  newName : String
  deriving DecidableEq, Repr

structure BranchResponse where
  vmId : String
  name : String
  parentVmId : String
  snapshotId : String
  status : String
  ipAddress : String
  cowFilePath : String
  deriving DecidableEq, Repr

/-- The VM with this id, else the first in iteration order with this host name. -/
def branchSource (d : Daemon) (iteration : List String) (id : String) :
    Option (String × VmInstance) :=
  match d.vms[id]? with
  | some vm => some (id, vm)
  | none => iteration.findSome? fun k =>
      (d.vms[k]?).bind fun vm => if vm.hostname = some id then some (k, vm) else none

/-- A branched VM is registered whether or not it boots. -/
def branchVm (d : Daemon) (iteration : List String) (id : String) (payload : BranchRequest)
    (readOk : Bool) (newVmId : String) (disk : Except (ℕ × String) String)
    (io : TimeMachine.SledOutcomes) (uuid : String) (now : ℤ) (chSocketPath ipAddress : String) :
    Daemon × Except (ℕ × String) BranchResponse :=
  match d.branchSource iteration id with
  | none => (d, .error (404, "Source VM '" ++ id ++ "' not found"))
  | some (sourceVmId, source) =>
    match TimeMachine.getSnapshot d.timemachine readOk sourceVmId payload.«from» with
    | none =>
      (d, .error (404, "Snapshot '" ++ payload.«from» ++ "' not found for VM " ++ sourceVmId))
    | some snapshot =>
      match disk with
      | .error e => (d, .error e)
      | .ok overlay =>
        let (timemachine, _) := TimeMachine.createSnapshot d.timemachine io uuid now newVmId
          (some ("Branched from " ++ sourceVmId ++ " (" ++ payload.«from» ++ ")"))
        let vm : VmInstance := {
          id := newVmId
          status := .running
          chSocketPath := chSocketPath
          dmName := "qcow2-" ++ newVmId
          cowFilePath := overlay
          ipAddress := ipAddress
          hostname := some payload.newName
          networks := ["default"]
          baseImagePath := source.baseImagePath
          vcpu := 1
          memSizeMib := 256 }
        ({ d with vms := d.vms.insert newVmId vm, timemachine := timemachine },
          .ok ⟨newVmId, payload.newName, sourceVmId, snapshot.id, "running", ipAddress, overlay⟩)

/-- `adopt_teleported_vm`, given what the probe of the VM directory and its
hypervisor ends with. -/
def adoptTeleportedVm (d : Daemon) (probe : Except (ℕ × String) Unit) (vmId chSocketPath : String) :
    Daemon × Except (ℕ × String) String :=
  match probe with
  | .error e => (d, .error e)
  | .ok () =>
    let vm : VmInstance := {
      id := vmId, status := .running, chSocketPath := chSocketPath, vcpu := 1, memSizeMib := 512 }
    ({ d with vms := d.vms.insert vmId vm }, .ok ("VM " ++ vmId ++ " adopted successfully"))

def setPolicy (d : Daemon) (policy : String) (enabled : Bool) :
    Daemon × Except (ℕ × String) String :=
  if policy = "require-measured-boot" then
    ({ d with policy := d.policy.setRequireMeasuredBoot enabled },
      .ok (if enabled then "Measured boot policy enabled. VMs will require TPM attestation."
        else "Measured boot policy disabled."))
  else (d, .error (400, "Unknown policy: " ++ policy))

/-- The adoption of one recovered VM by `main`. -/
def adoptRecovered (chSocketPath vmId : String) (state : VmState) : VmInstance where
  id := vmId
  status := .running
  chSocketPath := chSocketPath
  tapName := state.tapName
  dmName := state.dmName
  loopDevices := state.loopDevices
  cowFilePath := state.cowFilePath
  ipAddress := state.ipAddress
  cgroupPath := state.cgroupPath
  netnsPath := state.netnsPath
  configPorts := state.ports
  configVolumes := state.volumes
  hostname := state.hostname
  labels := state.labels
  networks := state.networks
  baseImagePath := state.baseImagePath
  vcpu := state.vcpu
  memSizeMib := state.memSizeMib

/-- What recovery meets: the reads of the log, the order of its answer, and for each
VM the state it reads or reconstructs when the hypervisor still answers. -/
structure RecoveryOutcomes where
  vmsDirExists : Bool
  readOk : String → Bool
  order : HashMap.Traversal String (WalEntry × ℕ)
  survivor : String → Option VmState
  chSocketPath : String → String

/-- `recover_on_startup`: the VMs of the log's active set that are still alive. -/
def recoverOnStartup (wal : Wal) (io : RecoveryOutcomes) : List (String × VmState) :=
  if io.vmsDirExists then
    (wal.getActiveVmIds io.readOk io.order).filterMap fun active =>
      (io.survivor active.1).map fun state => (active.1, state)
  else []

/-- A new process: an empty map, the default policy, and the adoption loop of `main`. -/
def restart (d : Daemon) (io : RecoveryOutcomes) : Daemon where
  vms := (recoverOnStartup d.wal io).foldl
    (fun vms rvm => vms.insert rvm.1 (adoptRecovered (io.chSocketPath rvm.1) rvm.1 rvm.2)) ∅
  wal := d.wal
  timemachine := d.timemachine
  policy := {}
  booting := ∅
  tasks := ∅

end Daemon

/-- A daemon with an empty map and an empty log. -/
def fresh : Daemon where
  vms := ∅
  wal := ⟨∅⟩
  timemachine := ∅
  policy := {}
  booting := ∅
  tasks := ∅

/-- What the boot stages hand over. -/
def bootedVm : VmInstance where
  id := "5f2c"
  status := .running
  chSocketPath := "/run/ch.sock"
  vcpu := 1
  memSizeMib := 512

end Vyoma.VmService
