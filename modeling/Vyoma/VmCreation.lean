import Vyoma.VmLifecycle
import Mathlib.Data.Finset.Basic

/-!
# Creating a VM, and what a failed creation leaves

`run_vm` acquires a directory, a disk, a TAP device, a cgroup and a hypervisor process
one after the other. A stage that fails may run the cleanup of the creation context or
return at once. Each call of the host is an argument; a ledger records what has been
acquired and what is still held. Dropping a `VmmManager` kills its process.
-/
namespace Vyoma.VmService
open Swarm (PortMapping)

/-- What the creation of one VM can leave on the host. -/
inductive Resource where
  | vmDir
  | overlay
  | cowFile
  | loopDevice (path : String)
  | dmOrigin
  | dmSnapshot
  | tap
  | netns
  | cgroup
  | vmm
  deriving DecidableEq, Repr

structure Ledger where
  acquired : Finset Resource
  held : Finset Resource
  deriving DecidableEq

namespace Ledger

def empty : Ledger := ⟨∅, ∅⟩

def acquire (l : Ledger) (r : Resource) : Ledger := ⟨insert r l.acquired, insert r l.held⟩

def release (l : Ledger) (r : Resource) : Ledger := ⟨l.acquired, l.held.erase r⟩

/-- A release that the host may refuse. -/
def releaseIf (l : Ledger) (ok : Bool) (r : Resource) : Ledger := if ok then l.release r else l

end Ledger

structure VmRunRequest where
  image : String
  vcpu : UInt32
  memSizeMib : UInt32
  ports : List PortMapping
  volumes : List VolumeMount
  hostname : Option String
  networks : List String
  labels : HashMap String String

/-- The image files, and the label `vyoma.image.name` of the manifest. -/
structure PreparedImage where
  rootfsSqfsPath : String
  nameLabel : Option String

structure PreparedStorage where
  dmDevicePath : String
  loopDevices : List String
  cowFilePath : String
  dmName : String
  isQcow2 : Bool
  qcow2Path : Option String

structure NetworkInfo where
  ip : String
  tapName : String
  gateway : Option String
  interfaceName : String
  networkName : String

structure VmNetworkConfig where
  ipAddress : String
  primaryTap : String
  gateway : String
  networkInfos : List NetworkInfo
  netnsPath : Option String

/-- What comes of `qemu-img create`; a run that fails may leave a file. -/
inductive QemuImg where
  | invalidPath
  | notRun
  | failed (stderr : String) (leavesFile : Bool)
  | created

/-- What comes of `create_cow_file`: the file is created before its length is set. -/
inductive CowFile where
  | notCreated
  | notSized
  | created

/-- How far `create_snapshot` gets: the origin device is created before the snapshot. -/
inductive DmSnapshot where
  | refused
  | originOnly
  | notReady
  | created

structure StorageOutcomes where
  qemuImg : QemuImg
  cowFile : CowFile
  loopManager : Bool
  dmManager : Bool
  /-- The loop device a file gets, or none when attaching fails. -/
  baseLoop : Option String
  cowLoop : Option String
  dmSnapshot : DmSnapshot

structure NetworkOutcomes where
  isRoot : Bool
  tuntapAdd : Bool
  random : UInt8

/-- What comes of `start_daemon`: the process may run without its socket appearing. -/
inductive Spawn where
  | notSpawned
  | noSocket
  | started

structure BootOutcomes where
  kvmExists : Bool
  kernelExists : Bool
  chExists : Bool
  kernelPath : String
  chPath : String
  tpmSocketPath : Option String
  spawn : Spawn
  /-- The start of virtiofsd for the volume of each index. -/
  virtiofsd : ℕ → Except String Unit
  startInstance : Except String Unit

structure CleanupOutcomes where
  removesOverlay : Bool
  loopManager : Bool
  detaches : String → Bool
  dmManager : Bool
  removesSnapshot : Bool
  removesOrigin : Bool
  removesCowFile : Bool
  deletesNetns : Bool

/-- The answers of the host to one `run_vm`. -/
structure RunOutcomes where
  vmId : String
  imagesRoot : Except String Unit
  vmsRoot : Except String Unit
  vmDir : Except String Unit
  image : Except String PreparedImage
  storage : StorageOutcomes
  network : NetworkOutcomes
  agent : Except String Unit
  cgroup : Except String String
  boot : BootOutcomes
  save : Except String Unit
  cleanup : CleanupOutcomes

/-! ## The stages -/

def prepareQcow2Storage (l : Ledger) (o : StorageOutcomes) (rootfs vmDir vmId : String) :
    Except String PreparedStorage × Ledger :=
  let overlay := vmDir ++ "/root.qcow2"
  match o.qemuImg with
  | .invalidPath => (.error ("Invalid base image path: " ++ rootfs), l)
  | .notRun => (.error "Failed to run qemu-img for QCOW2 overlay creation", l)
  | .failed stderr leavesFile =>
    (.error ("qemu-img create failed: " ++ stderr), if leavesFile then l.acquire .overlay else l)
  | .created => (.ok ⟨overlay, [], overlay, "qcow2-" ++ vmId, true, some overlay⟩,
      l.acquire .overlay)

/-- The last call of `prepare_privileged_storage`, with both loop devices attached. -/
def createSnapshot (l : Ledger) (o : DmSnapshot) (vmDir vmId base cow : String) :
    Except String PreparedStorage × Ledger :=
  let dmName := "vyoma-" ++ vmId
  match o with
  | .refused => (.error "Failed to create DM snapshot", l)
  | .originOnly => (.error "Failed to create DM snapshot", l.acquire .dmOrigin)
  | .notReady =>
    (.error "Failed to create DM snapshot", (l.acquire .dmOrigin).acquire .dmSnapshot)
  | .created =>
    (.ok ⟨"/dev/mapper/" ++ dmName, [base, cow], vmDir ++ "/diff.cow", dmName, false, none⟩,
      (l.acquire .dmOrigin).acquire .dmSnapshot)

def preparePrivilegedStorage (l : Ledger) (o : StorageOutcomes) (vmDir vmId : String) :
    Except String PreparedStorage × Ledger :=
  match o.cowFile with
  | .notCreated => (.error "Failed to create COW file", l)
  | .notSized => (.error "Failed to create COW file", l.acquire .cowFile)
  | .created =>
    let l := l.acquire .cowFile
    if !o.loopManager then (.error "Failed to create LoopManager", l)
    else if !o.dmManager then (.error "Failed to create DmManager", l)
    else
      match o.baseLoop with
      | none => (.error "Failed to attach squashfs loop device", l)
      | some base =>
        let l := l.acquire (.loopDevice base)
        match o.cowLoop with
        | none => (.error "Failed to attach COW loop device", l)
        | some cow =>
          createSnapshot (l.acquire (.loopDevice cow)) o.dmSnapshot vmDir vmId base cow

def prepareStorage (l : Ledger) (o : StorageOutcomes) (rootfs vmDir vmId : String) :
    Except String PreparedStorage × Ledger :=
  match prepareQcow2Storage l o rootfs vmDir vmId with
  | (.ok storage, l) => (.ok storage, l)
  | (.error _, l) => preparePrivilegedStorage l o vmDir vmId

/-- Network setup never fails: without a TAP device the VM is reached over vsock. -/
def setupNetwork (l : Ledger) (o : NetworkOutcomes) (vmId : String) : VmNetworkConfig × Ledger :=
  let tapName := "tap" ++ String.ofList (vmId.toList.take 8)
  let tapCreated := o.isRoot && o.tuntapAdd
  let tap := if tapCreated then tapName else ""
  let ipAddress := "172.16.0." ++ toString (2 + o.random % 252)
  let gateway := "172.16.0.1"
  (⟨ipAddress, tap, gateway, [⟨ipAddress, tap, some gateway, "eth0", "default"⟩], none⟩,
    if tapCreated then l.acquire .tap else l)

def cleanupNetwork (l : Ledger) (o : CleanupOutcomes) (network : VmNetworkConfig) : Ledger :=
  match network.netnsPath with
  | none => l
  | some _ => l.releaseIf o.deletesNetns .netns

def cleanupStorage (l : Ledger) (o : CleanupOutcomes) (storage : PreparedStorage) : Ledger :=
  if storage.isQcow2 then
    match storage.qcow2Path with
    | some _ => l.releaseIf o.removesOverlay .overlay
    | none => l
  else if !o.loopManager then l
  else
    let l := storage.loopDevices.foldl (fun l dev => l.releaseIf (o.detaches dev)
      (.loopDevice dev)) l
    if !o.dmManager then l
    else
      -- The origin is only removed after the snapshot on it.
      let l := (l.releaseIf o.removesSnapshot .dmSnapshot).releaseIf
        (o.removesSnapshot && o.removesOrigin) .dmOrigin
      l.releaseIf o.removesCowFile .cowFile

/-- The cleanup of the creation context; the removal of the VM directory is commented out. -/
def cleanupOnFailure (l : Ledger) (o : CleanupOutcomes) (network : Option VmNetworkConfig)
    (storage : Option PreparedStorage) : Ledger :=
  let l := network.elim l (cleanupNetwork l o)
  storage.elim l (cleanupStorage l o)

/-- A cgroup that cannot be created is done without. -/
def setupCgroups (l : Ledger) (cgroup : Except String String) : Option String × Ledger :=
  match cgroup with
  | .ok path => (some path, l.acquire .cgroup)
  | .error _ => (none, l)

/-- The first volume whose virtiofsd does not start. -/
def startVolumes (o : BootOutcomes) : ℕ → List VolumeMount → Except String Unit
  | _, [] => .ok ()
  | idx, vol :: volumes =>
    match o.virtiofsd idx with
    | .error e => .error ("Failed to start virtiofsd for " ++ vol.hostPath ++ ": " ++ e)
    | .ok () => startVolumes o (idx + 1) volumes

def kvmMissing : String :=
  "KVM device /dev/kvm not found. Hardware virtualization (KVM) is required to run MicroVMs. " ++
  "If running inside VirtualBox or another hypervisor, please enable nested virtualization in " ++
  "your hypervisor settings."

/-- Every error after the spawn drops the manager, which kills the process. -/
def startVm (l : Ledger) (o : BootOutcomes) (request : VmRunRequest) :
    Except String Unit × Ledger :=
  if !o.kvmExists then (.error kvmMissing, l)
  else if !o.kernelExists then (.error ("Kernel binary not found at " ++ o.kernelPath), l)
  else if !o.chExists then (.error ("Cloud Hypervisor binary not found at " ++ o.chPath), l)
  else
    match o.spawn with
    | .notSpawned => (.error "Failed to start Cloud Hypervisor", l)
    | .noSocket => (.error "Failed to start Cloud Hypervisor", (l.acquire .vmm).release .vmm)
    | .started =>
      let l := l.acquire .vmm
      match startVolumes o 0 request.volumes with
      | .error e => (.error e, l.release .vmm)
      | .ok () =>
        match o.startInstance with
        | .error _ => (.error "Start instance", l.release .vmm)
        | .ok () => (.ok (), l)

def vmDirPath (dataDir vmId : String) : String := dataDir ++ "/.vyoma/vms/" ++ vmId

namespace RunOutcomes

/-- The three directories `run_vm` creates before its first stage. -/
def createDirs (o : RunOutcomes) : Except String Unit :=
  match o.imagesRoot with
  | .error e => .error e
  | .ok () =>
    match o.vmsRoot with
    | .error e => .error e
    | .ok () => o.vmDir.mapError fun _ => "Failed to create VM dir"

def imageName (o : RunOutcomes) : String :=
  match o.image with
  | .ok image => image.nameLabel.getD o.vmId
  | .error _ => o.vmId

end RunOutcomes

/-- The instance the stages build; its status is set when it is registered. -/
def preparedInstance (dataDir : String) (request : VmRunRequest) (vmId : String)
    (image : PreparedImage) (storage : PreparedStorage) (network : VmNetworkConfig)
    (cgroupPath : Option String) : VmInstance where
  id := vmId
  status := .running
  chSocketPath := vmDirPath dataDir vmId ++ "/ch.sock"
  tapName := network.primaryTap
  dmName := storage.dmName
  loopDevices := storage.loopDevices
  cowFilePath := storage.cowFilePath
  ipAddress := network.ipAddress
  cgroupPath := cgroupPath
  netnsPath := network.netnsPath
  configPorts := request.ports
  configVolumes := request.volumes
  hostname := request.hostname
  labels := request.labels
  networks := request.networks
  baseImagePath := image.rootfsSqfsPath
  vcpu := request.vcpu
  memSizeMib := request.memSizeMib

/-- The stages of `run_vm` up to the boot. The error of the agent stage is passed on with
`?` and skips the cleanup. -/
def runStages (dataDir : String) (request : VmRunRequest) (o : RunOutcomes) :
    Except String VmInstance × Ledger :=
  match o.createDirs with
  | .error e => (.error e, .empty)
  | .ok () =>
    let l := Ledger.empty.acquire .vmDir
    match o.image with
    | .error e => (.error e, cleanupOnFailure l o.cleanup none none)
    | .ok image =>
      match prepareStorage l o.storage image.rootfsSqfsPath (vmDirPath dataDir o.vmId) o.vmId with
      | (.error e, l) => (.error e, cleanupOnFailure l o.cleanup none none)
      | (.ok storage, l) =>
        let (network, l) := setupNetwork l o.network o.vmId
        match o.agent with
        | .error _ => (.error "Failed to create initramfs", l)
        | .ok () =>
          let (cgroupPath, l) := setupCgroups l o.cgroup
          match startVm l o.boot request with
          | (.error e, l) => (.error e, cleanupOnFailure l o.cleanup (some network) (some storage))
          | (.ok (), l) =>
            (.ok (preparedInstance dataDir request o.vmId image storage network cgroupPath), l)

/-- What one `run_vm` answers and leaves. -/
structure RunVm where
  result : Except String Daemon.VmRunResponse
  daemon : Daemon
  ledger : Ledger

/-- The instance `run_vm` registers, with the status the policy asks for. -/
def Daemon.bootedInstance (d : Daemon) (vmId : String) (prepared : VmInstance) : VmInstance :=
  { prepared with
    id := vmId
    status := if d.policy.mustVerifyOnBoot then .pendingAttestation else .running
    attestationStatus := none }

/-- A state that cannot be saved drops the instance and its process, without cleanup. -/
def Daemon.runVmOnHost (d : Daemon) (dataDir : String) (request : VmRunRequest) (o : RunOutcomes) :
    RunVm :=
  match runStages dataDir request o with
  | (.error e, l) =>
    ⟨.error e, (d.runVmBoot o.vmId (.error e) o.imageName o.boot.tpmSocketPath).1, l⟩
  | (.ok prepared, l) =>
    let d₁ := (d.runVmBoot o.vmId (.ok prepared) o.imageName o.boot.tpmSocketPath).1
    match d₁.runVmRegister o.vmId (d.bootedInstance o.vmId prepared) o.save with
    | (d₂, .error e) => ⟨.error e, d₂, l.release .vmm⟩
    | (d₂, .ok response) => ⟨.ok response, d₂, l⟩

theorem runVmBoot_booting (d : Daemon) (vmId : String) (prepared : VmInstance)
    (imageName : String) (tpmSocketPath : Option String) :
    (d.runVmBoot vmId (.ok prepared) imageName tpmSocketPath).1.booting =
      d.booting.insert vmId (d.bootedInstance vmId prepared) := rfl

/-! ## What is released -/

/-- The resources that no step of the creation gives back. -/
def Resource.unreleased : Resource → Bool
  | .vmDir | .tap | .cgroup => true
  | _ => false

/-- Nothing is held that was not acquired, and what is never released is still held. -/
structure Ledger.Sound (l : Ledger) : Prop where
  held_acquired : l.held ⊆ l.acquired
  kept : ∀ r ∈ l.acquired, r.unreleased = true → r ∈ l.held

namespace Ledger

variable {l : Ledger}

theorem sound_empty : empty.Sound :=
  ⟨Finset.Subset.refl _, fun _ hr => absurd hr (Finset.notMem_empty _)⟩

/-- What any acquisition but that of the process keeps, and any release of a resource that
is ever released. -/
structure Stable (P : Ledger → Prop) : Prop where
  acquire : ∀ (l : Ledger) (r : Resource), r ≠ .vmm → P l → P (l.acquire r)
  release : ∀ (l : Ledger) (r : Resource), r.unreleased = false → P l → P (l.release r)

theorem Stable.releaseIf {P : Ledger → Prop} (hP : Stable P) (h : P l) (ok : Bool) {r : Resource}
    (hr : r.unreleased = false) : P (l.releaseIf ok r) := by
  cases ok with
  | false => exact h
  | true => exact hP.release l r hr h

theorem Sound.acquire (h : l.Sound) (r : Resource) : (l.acquire r).Sound := by
  refine ⟨Finset.insert_subset_insert r h.held_acquired, fun r' hr' hkeep => ?_⟩
  obtain rfl | hr' := Finset.mem_insert.mp hr'
  · exact Finset.mem_insert_self _ _
  · exact Finset.mem_insert_of_mem (h.kept r' hr' hkeep)

theorem stable_sound : Stable Sound where
  acquire l r _ h := h.acquire r
  release l r hr h := by
    refine ⟨(Finset.erase_subset _ _).trans h.held_acquired, fun r' hr' hkeep => ?_⟩
    refine Finset.mem_erase.mpr ⟨?_, h.kept r' hr' hkeep⟩
    rintro rfl
    rw [hr] at hkeep
    cases hkeep

theorem stable_mem_acquired (r : Resource) : Stable (fun l => r ∈ l.acquired) where
  acquire _ _ _ h := Finset.mem_insert_of_mem h
  release _ _ _ h := h

theorem stable_vmm_notMem : Stable (fun l => .vmm ∉ l.held) where
  acquire _ _ hr h := fun hmem => (Finset.mem_insert.mp hmem).elim (fun he => hr he.symm) h
  release _ _ _ h := fun hmem => h (Finset.mem_of_mem_erase hmem)

end Ledger

section Stages

open Ledger (Stable)

variable {P : Ledger → Prop} {l : Ledger}

theorem prepareQcow2Storage_keeps (hP : Stable P) (h : P l) (o : StorageOutcomes)
    (rootfs vmDir vmId : String) : P (prepareQcow2Storage l o rootfs vmDir vmId).2 := by
  unfold prepareQcow2Storage
  cases o.qemuImg with
  | invalidPath => exact h
  | notRun => exact h
  | failed stderr leavesFile =>
    cases leavesFile with
    | false => exact h
    | true => exact hP.acquire _ _ nofun h
  | created => exact hP.acquire _ _ nofun h

theorem createSnapshot_keeps (hP : Stable P) (h : P l) (o : DmSnapshot)
    (vmDir vmId base cow : String) : P (createSnapshot l o vmDir vmId base cow).2 := by
  cases o with
  | refused => exact h
  | originOnly => exact hP.acquire _ _ nofun h
  | notReady => exact hP.acquire _ _ nofun (hP.acquire _ _ nofun h)
  | created => exact hP.acquire _ _ nofun (hP.acquire _ _ nofun h)

theorem preparePrivilegedStorage_keeps (hP : Stable P) (h : P l) (o : StorageOutcomes)
    (vmDir vmId : String) : P (preparePrivilegedStorage l o vmDir vmId).2 := by
  unfold preparePrivilegedStorage
  cases o.cowFile with
  | notCreated => exact h
  | notSized => exact hP.acquire _ _ nofun h
  | created =>
    have hcow : P (l.acquire .cowFile) := hP.acquire _ _ nofun h
    dsimp only
    split_ifs
    · exact hcow
    · exact hcow
    · cases o.baseLoop with
      | none => exact hcow
      | some base =>
        have hbase := hP.acquire _ (.loopDevice base) nofun hcow
        cases o.cowLoop with
        | none => exact hbase
        | some cow =>
          have hcowLoop := hP.acquire _ (.loopDevice cow) nofun hbase
          exact createSnapshot_keeps hP hcowLoop o.dmSnapshot vmDir vmId base cow

theorem prepareStorage_keeps (hP : Stable P) (h : P l) (o : StorageOutcomes)
    (rootfs vmDir vmId : String) : P (prepareStorage l o rootfs vmDir vmId).2 := by
  have hqcow2 := prepareQcow2Storage_keeps hP h o rootfs vmDir vmId
  unfold prepareStorage
  generalize prepareQcow2Storage l o rootfs vmDir vmId = out at hqcow2 ⊢
  obtain ⟨result, l'⟩ := out
  cases result with
  | ok storage => exact hqcow2
  | error e => exact preparePrivilegedStorage_keeps hP hqcow2 o vmDir vmId

theorem setupNetwork_keeps (hP : Stable P) (h : P l) (o : NetworkOutcomes) (vmId : String) :
    P (setupNetwork l o vmId).2 := by
  unfold setupNetwork
  dsimp only
  split_ifs
  · exact hP.acquire _ _ nofun h
  · exact h

theorem cleanupStorage_keeps (hP : Stable P) (h : P l) (o : CleanupOutcomes)
    (storage : PreparedStorage) : P (cleanupStorage l o storage) := by
  -- Detaching is a loop over the devices; each turn gives back one of them.
  have hloop : ∀ (devices : List String) {l : Ledger}, P l →
      P (devices.foldl (fun l dev => l.releaseIf (o.detaches dev) (.loopDevice dev)) l) := by
    intro devices
    induction devices with
    | nil => exact fun h => h
    | cons dev devices ih => exact fun h => ih (hP.releaseIf h (o.detaches dev) rfl)
  unfold cleanupStorage
  split_ifs
  · cases storage.qcow2Path with
    | some path => exact hP.releaseIf h _ rfl
    | none => exact h
  · exact h
  · exact hloop _ h
  · exact hP.releaseIf (hP.releaseIf (hP.releaseIf (hloop _ h) _ rfl) _ rfl) _ rfl

theorem cleanupOnFailure_keeps (hP : Stable P) (h : P l) (o : CleanupOutcomes)
    (network : Option VmNetworkConfig) (storage : Option PreparedStorage) :
    P (cleanupOnFailure l o network storage) := by
  have hnetwork : P (network.elim l (cleanupNetwork l o)) := by
    cases network with
    | none => exact h
    | some n =>
      show P (cleanupNetwork l o n)
      unfold cleanupNetwork
      cases n.netnsPath with
      | none => exact h
      | some ns => exact hP.releaseIf h _ rfl
  cases storage with
  | none => exact hnetwork
  | some s => exact cleanupStorage_keeps hP hnetwork o s

theorem setupCgroups_keeps (hP : Stable P) (h : P l) (cgroup : Except String String) :
    P (setupCgroups l cgroup).2 := by
  cases cgroup with
  | ok path => exact hP.acquire _ _ nofun h
  | error e => exact h

/-- The process runs exactly when the VM boots: every error comes before it is spawned or
kills it again. -/
theorem startVm_cases (l : Ledger) (o : BootOutcomes) (request : VmRunRequest) :
    (∃ e, startVm l o request = (.error e, l)) ∨
    (∃ e, startVm l o request = (.error e, (l.acquire .vmm).release .vmm)) ∨
    startVm l o request = (.ok (), l.acquire .vmm) := by
  unfold startVm
  split_ifs
  · exact .inl ⟨_, rfl⟩
  · exact .inl ⟨_, rfl⟩
  · exact .inl ⟨_, rfl⟩
  · cases o.spawn with
    | notSpawned => exact .inl ⟨_, rfl⟩
    | noSocket => exact .inr (.inl ⟨_, rfl⟩)
    | started =>
      cases startVolumes o 0 request.volumes with
      | error e => exact .inr (.inl ⟨_, rfl⟩)
      | ok _ =>
        cases o.startInstance with
        | error e => exact .inr (.inl ⟨_, rfl⟩)
        | ok _ => exact .inr (.inr rfl)

/-- Once the VM directory is there, the stages fail on a ledger that keeps `P` or boot the
VM from one. -/
theorem runStages_cases (hP : Stable P) (h : P (Ledger.empty.acquire .vmDir))
    (hkill : ∀ l : Ledger, P l → P ((l.acquire .vmm).release .vmm)) (dataDir : String)
    (request : VmRunRequest) (o : RunOutcomes) (hdirs : o.createDirs = .ok ()) :
    (∃ e l, runStages dataDir request o = (.error e, l) ∧ P l) ∨
    ∃ prepared l, runStages dataDir request o = (.ok prepared, l.acquire .vmm) ∧ P l := by
  unfold runStages
  rw [hdirs]
  dsimp only
  cases o.image with
  | error e => exact .inl ⟨e, _, rfl, cleanupOnFailure_keeps hP h o.cleanup none none⟩
  | ok image =>
    dsimp only
    have hstorage := prepareStorage_keeps hP h o.storage image.rootfsSqfsPath
      (vmDirPath dataDir o.vmId) o.vmId
    generalize prepareStorage _ _ _ _ _ = out at hstorage ⊢
    obtain ⟨stored, l₁⟩ := out
    cases stored with
    | error e => exact .inl ⟨e, _, rfl, cleanupOnFailure_keeps hP hstorage o.cleanup none none⟩
    | ok storage =>
      have hnetwork := setupNetwork_keeps hP hstorage o.network o.vmId
      cases o.agent with
      | error e => exact .inl ⟨_, _, rfl, hnetwork⟩
      | ok _ =>
        have hcgroup := setupCgroups_keeps hP hnetwork o.cgroup
        dsimp only
        obtain ⟨e, he⟩ | ⟨e, he⟩ | he := startVm_cases
          (setupCgroups (setupNetwork l₁ o.network o.vmId).2 o.cgroup).2 o.boot request
        · rw [he]
          exact .inl ⟨e, _, rfl, cleanupOnFailure_keeps hP hcgroup o.cleanup _ _⟩
        · rw [he]
          exact .inl ⟨e, _, rfl, cleanupOnFailure_keeps hP (hkill _ hcgroup) o.cleanup _ _⟩
        · rw [he]
          exact .inr ⟨_, _, rfl, hcgroup⟩

end Stages

/-- Before the VM directory is created nothing has been acquired. -/
theorem runStages_no_dirs (dataDir : String) (request : VmRunRequest) (o : RunOutcomes) {e : String}
    (hdirs : o.createDirs = .error e) : runStages dataDir request o = (.error e, .empty) := by
  unfold runStages
  rw [hdirs]

section Failures

variable {d : Daemon} {dataDir : String} {request : VmRunRequest} {o : RunOutcomes} {e : String}

/-- What every ledger of a failed creation keeps. -/
theorem failed_creation_keeps {P : Ledger → Prop} (hP : Ledger.Stable P)
    (h : P (Ledger.empty.acquire .vmDir))
    (hkill : ∀ l : Ledger, P l → P ((l.acquire .vmm).release .vmm))
    (hdirs : o.createDirs = .ok ()) (herr : (d.runVmOnHost dataDir request o).result = .error e) :
    P (d.runVmOnHost dataDir request o).ledger := by
  unfold Daemon.runVmOnHost at herr ⊢
  obtain ⟨e, l, he, hl⟩ | ⟨prepared, l, he, hl⟩ :=
    runStages_cases hP h hkill dataDir request o hdirs
  · rw [he]
    exact hl
  · rw [he] at herr ⊢
    cases hsave : o.save with
    | error e => exact hkill l hl
    | ok _ =>
      rw [hsave] at herr
      cases herr

/-- A failed creation does not touch the map of VMs. -/
theorem failed_creation_vms (herr : (d.runVmOnHost dataDir request o).result = .error e) :
    (d.runVmOnHost dataDir request o).daemon.vms = d.vms := by
  unfold Daemon.runVmOnHost at herr ⊢
  generalize runStages dataDir request o = out at herr ⊢
  obtain ⟨prepared, l⟩ := out
  cases prepared with
  | error e => rfl
  | ok prepared =>
    cases hsave : o.save with
    | error e => rfl
    | ok _ =>
      rw [hsave] at herr
      cases herr

/-- The process never outlives a failed creation; the directory, the TAP device and the
cgroup always do, once they have been acquired. -/
theorem failed_creation_left (hdirs : o.createDirs = .ok ())
    (herr : (d.runVmOnHost dataDir request o).result = .error e) :
    .vmm ∉ (d.runVmOnHost dataDir request o).ledger.held ∧
    .vmDir ∈ (d.runVmOnHost dataDir request o).ledger.held ∧
    ∀ r ∈ (d.runVmOnHost dataDir request o).ledger.acquired, r.unreleased = true →
      r ∈ (d.runVmOnHost dataDir request o).ledger.held := by
  have hvmm := failed_creation_keeps Ledger.stable_vmm_notMem (by decide)
    (fun _ _ => Finset.notMem_erase _ _) hdirs herr
  have hsound := failed_creation_keeps Ledger.stable_sound (Ledger.sound_empty.acquire _)
    (fun l hl => Ledger.stable_sound.release _ _ rfl (hl.acquire _)) hdirs herr
  have hdir := failed_creation_keeps (Ledger.stable_mem_acquired .vmDir)
    (Finset.mem_insert_self _ _) (fun _ hl => Finset.mem_insert_of_mem hl) hdirs herr
  exact ⟨hvmm, hsound.kept .vmDir hdir rfl, hsound.kept⟩

end Failures

/-- The VM is not in the map, and nothing acquired for it is held. -/
def RunVm.LeavesNothing (out : RunVm) (d : Daemon) : Prop :=
  out.daemon.vms = d.vms ∧ out.ledger.held = ∅

/-- A failed creation leaves nothing behind exactly when it fails before the VM directory
exists: from then on the directory stays, whatever stage fails and however cleanup goes. -/
theorem failed_creation_leaves_nothing_iff {d : Daemon} {dataDir : String} {request : VmRunRequest}
    {o : RunOutcomes} {e : String} (herr : (d.runVmOnHost dataDir request o).result = .error e) :
    (d.runVmOnHost dataDir request o).LeavesNothing d ↔ o.createDirs ≠ .ok () := by
  constructor
  · intro hnothing hdirs
    have hheld := (failed_creation_left hdirs herr).2.1
    rw [hnothing.2] at hheld
    exact absurd hheld (Finset.notMem_empty _)
  · intro hdirs
    refine ⟨failed_creation_vms herr, ?_⟩
    cases hcreate : o.createDirs with
    | ok _ => exact absurd hcreate hdirs
    | error e =>
      unfold Daemon.runVmOnHost
      rw [runStages_no_dirs dataDir request o hcreate]
      rfl

/-- A host on which everything works but the pull of the image. -/
def imageNotFound : RunOutcomes where
  vmId := "0b5e8a4c-3f4e-4c57-9d5c-2a0f1f6f3e11"
  imagesRoot := .ok ()
  vmsRoot := .ok ()
  vmDir := .ok ()
  image := .error "Pull manifest failed"
  storage := ⟨.created, .created, true, true, some "/dev/loop0", some "/dev/loop1", .created⟩
  network := ⟨true, true, 5⟩
  agent := .ok ()
  cgroup := .ok "/sys/fs/cgroup/vyoma.slice/vyoma-0b5e8a4c-3f4e-4c57-9d5c-2a0f1f6f3e11"
  boot := ⟨true, true, true, "/data/bin/vmlinux", "/usr/bin/cloud-hypervisor", none, .started,
    fun _ => .ok (), .ok ()⟩
  save := .ok ()
  cleanup := ⟨true, true, fun _ => true, true, true, true, true, true⟩

def runAlpine : VmRunRequest := ⟨"alpine", 1, 256, [], [], none, [], ∅⟩

/-- The pull fails, the cleanup runs, and the directory of the VM is still there. -/
theorem failed_pull_leaves_directory :
    (fresh.runVmOnHost "/data" runAlpine imageNotFound).result = .error "Pull manifest failed" ∧
    ¬ (fresh.runVmOnHost "/data" runAlpine imageNotFound).LeavesNothing fresh := by
  refine ⟨rfl, fun h => ?_⟩
  have hheld : (fresh.runVmOnHost "/data" runAlpine imageNotFound).ledger.held = {.vmDir} := rfl
  rw [h.2] at hheld
  exact absurd hheld (by decide)

/-- The same host without permission to create the VM directory. -/
def noVmDir : RunOutcomes := { imageNotFound with vmDir := .error "Permission denied" }

theorem failed_mkdir_leaves_nothing :
    (fresh.runVmOnHost "/data" runAlpine noVmDir).LeavesNothing fresh :=
  (failed_creation_leaves_nothing_iff (d := fresh) (o := noVmDir) (e := "Failed to create VM dir")
    rfl).mpr nofun

end Vyoma.VmService
