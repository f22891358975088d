import Vyoma.AttestationGate
import Vyoma.KernelDevices
import Vyoma.Overlays
import Vyoma.StorageVolumes
import Vyoma.VmCreation

/-!
# The disks of the VMs

`run_vm` makes an image over the root file system of the requested image, and a branch one over
the disk that it finds for its source. Snapshotting a VM stores an entry in the history and makes
a directory for it; a restoration looks in there for files. The files are kept beside the daemon
by their places, and so are the snapshots that hypervisors have been told to load.
-/
namespace Vyoma.VmService
open FileTrees Overlays Storage

/-- The content of a block of a disk. -/
abbrev Sector : Type := List UInt8

abbrev DiskImage : Type := Image (List String) ℕ Sector

/-- A QCOW2 image, or any other file, which stands for itself. -/
inductive DiskFile where
  | qcow2 (image : DiskImage)
  | raw (length : ℕ) (content : ℕ → Sector)

def DiskFile.image : DiskFile → DiskImage
  | .qcow2 image => image
  | .raw _ content => ⟨none, fun b => some (content b)⟩

def DiskFile.isEmpty : DiskFile → Bool
  | .qcow2 _ => false
  | .raw length _ => length = 0

/-- The data directory, as an absolute path, and the home directory of the daemon. -/
structure Directories where
  data : String
  home : Option String

/-- A call of `load_snapshot`: the VM, and the two files. -/
structure Load where
  vmId : String
  snapshotPath : String
  memPath : String
  deriving DecidableEq

structure Site where
  daemon : Daemon
  files : List String → Option DiskFile
  loads : List Load

/-! ## Paths -/

/-- The directory of a VM, as it is joined from its parts. -/
def vmDir (root vmId : String) : String := joinPath (joinPath (joinPath root ".vyoma") "vms") vmId

def snapshotDir (root vmId snapshotId : String) : String :=
  joinPath (joinPath (vmDir root vmId) "snapshots") snapshotId

namespace Site

/-- `Path::exists`, of a file. -/
def fileExists (s : Site) (path : String) : Bool := path ≠ "" && (s.files (place path)).isSome

def put (s : Site) (path : String) (file : DiskFile) : Site :=
  { s with files := Function.update s.files (place path) (some file) }

/-- The images that can be opened as disks. -/
def disks (s : Site) : Disks (List String) ℕ Sector := fun q => (s.files q).map DiskFile.image

/-! ## Creating a VM -/

/-- What `qemu-img` leaves of the overlay of a new VM: it is broken unless the run ended well. -/
def overlayLeft (o : RunOutcomes) : DiskFile :=
  match o.storage.qemuImg, o.image with
  | .created, .ok image => .qcow2 ⟨some (place image.rootfsSqfsPath), fun _ => none⟩
  | _, _ => .raw 0 fun _ => []

/-- `run_vm` up to the spawn of the attestation task, with the files that it holds then. -/
def boots (s : Site) (dirs : Directories) (request : VmRunRequest) (o : RunOutcomes) : Site :=
  let (prepared, ledger) := runStages dirs.data request o
  let dir := vmDirPath dirs.data o.vmId
  let s := if .overlay ∈ ledger.held then s.put (dir ++ "/root.qcow2") (overlayLeft o) else s
  let s := if .cowFile ∈ ledger.held then s.put (dir ++ "/diff.cow") (.raw 2147483648 fun _ => [])
    else s
  { s with
    daemon := (s.daemon.runVmBoot o.vmId prepared o.imageName o.boot.tpmSocketPath).1 }

/-! ## Branching -/

structure BranchOutcomes where
  createDir : Except String Unit
  createParent : Except String Unit
  qemuImg : Storage.QemuImg

/-- What a run of `qemu-img create` leaves, and what it ends with. -/
def runQemuImg (s : Site) (failed path : String) (file : DiskFile) :
    Storage.QemuImg → Site × Except Devices.StorageError Unit
  | .notRun e => (s, .error (.io e))
  | .refused stderr => (s, .error (.io (failed ++ stderr)))
  | .broken stderr => (s.put path (.raw 0 fun _ => []), .error (.io (failed ++ stderr)))
  | .done => (s.put path file, .ok ())

/-- The file below an overlay is opened as a QCOW2 image; any other one is refused. -/
def runOver : DiskFile → Storage.QemuImg → Storage.QemuImg
  | .raw _ _, .done => .refused "Could not open backing image."
  | _, run => run

/-- `Qcow2Manager::create_overlay`. -/
def createOverlay (s : Site) (path backing : String) (o : BranchOutcomes) :
    Site × Except Devices.StorageError Unit :=
  match s.files (place backing) with
  | none => (s, .error (.notFound ("Backing file does not exist: \"" ++ backing ++ "\"")))
  | some file =>
    match o.createParent with
    | .error e => (s, .error (.io e))
    | .ok () =>
      s.runQemuImg "qemu-img create overlay failed: " path
        (.qcow2 ⟨some (place backing), fun _ => none⟩) (runOver file o.qemuImg)

/-- `Qcow2Manager::create_image`. -/
def createImage (s : Site) (path : String) (o : BranchOutcomes) :
    Site × Except Devices.StorageError Unit :=
  match o.createParent with
  | .error e => (s, .error (.io e))
  | .ok () => s.runQemuImg "qemu-img create failed: " path (.qcow2 ⟨none, fun _ => none⟩) o.qemuImg

/-- The disk kept with the snapshot, the one the source has, or the one of its directory. -/
def backingDisk (s : Site) (dirs : Directories) (sourceVmId sourceDisk snapshotId : String) :
    String :=
  let kept := joinPath (snapshotDir dirs.data sourceVmId snapshotId) "root.qcow2"
  if s.fileExists kept then kept
  else if s.fileExists sourceDisk then sourceDisk
  else joinPath (vmDir dirs.data sourceVmId) "root.qcow2"

def branchDisk (s : Site) (dirs : Directories) (newVmId sourceVmId sourceDisk snapshotId : String)
    (o : BranchOutcomes) : Site × Except (ℕ × String) String :=
  match o.createDir with
  | .error e => (s, .error (500, "Failed to create branched VM dir: " ++ e))
  | .ok () =>
    let overlay := joinPath (vmDir dirs.data newVmId) "root.qcow2"
    let backing := s.backingDisk dirs sourceVmId sourceDisk snapshotId
    if s.fileExists backing then
      match s.createOverlay overlay backing o with
      | (s, .error e) => (s, .error (500, "Failed to create branched QCOW2 overlay: " ++ e.display))
      | (s, .ok ()) => (s, .ok overlay)
    else
      match s.createImage overlay o with
      | (s, .error e) => (s, .error (500, "Failed to initialize QCOW2 disk: " ++ e.display))
      | (s, .ok ()) => (s, .ok overlay)

/-- The source of a branch and the snapshot that is asked for. -/
def branchPoint (s : Site) (iteration : List String) (id : String)
    (payload : Daemon.BranchRequest) (readOk : Bool) :
    Option (String × VmInstance × TimeMachine.SnapshotEntry) :=
  (s.daemon.branchSource iteration id).bind fun source =>
    (TimeMachine.getSnapshot s.daemon.timemachine readOk source.1 payload.«from»).map fun entry =>
      (source.1, source.2, entry)

/-- The disk is only made when source and snapshot have been found. -/
def branchVm (s : Site) (dirs : Directories) (iteration : List String) (id : String)
    (payload : Daemon.BranchRequest) (readOk : Bool) (newVmId : String) (o : BranchOutcomes)
    (io : TimeMachine.SledOutcomes) (uuid : String) (now : ℤ) (random : UInt8) :
    Site × Except (ℕ × String) Daemon.BranchResponse :=
  let (s', disk) : Site × Except (ℕ × String) String :=
    match s.branchPoint iteration id payload readOk with
    | none => (s, .ok "")
    | some (sourceVmId, source, entry) =>
      s.branchDisk dirs newVmId sourceVmId source.cowFilePath entry.id o
  let (daemon, answer) := s.daemon.branchVm iteration id payload readOk newVmId disk io uuid now
    (joinPath (vmDir dirs.data newVmId) "ch.sock") ("172.16.0." ++ toString (2 + random % 252))
  ({ s' with daemon }, answer)

/-! ## Restoring -/

/-- `LoopManager::new`, and the rounds of attaching a file. -/
structure LoopOutcomes where
  manager : Except String Unit
  rounds : ℕ → Devices.AttachRound

/-- How a copy ends: before the target is there, before or after its header, or done. -/
inductive DiskCopy where
  | refused
  | broken (header : Bool)
  | done
  deriving DecidableEq

structure CloneOutcomes where
  createDir : Except String Unit
  copy : DiskCopy
  baseLoop : LoopOutcomes
  cowLoop : LoopOutcomes
  dmManager : Except String Unit
  dmSnapshot : Except Devices.StorageError Unit
  tap : Except String Unit
  random : UInt8
  startDaemon : Except String Unit
  loadSnapshot : Except String Unit
  addDrive : Except String Unit
  addNetwork : Except String Unit
  resume : Except String Unit
  cgroupPath : Option String

/-- The files that a clone is started from. -/
structure SnapshotFiles where
  snapshotPath : String
  memPath : String
  cowPath : String

/-- `StorageManager::setup_loop_device`. -/
def setupLoopDevice (s : Site) (path : String) (o : LoopOutcomes) : Except String String :=
  match o.manager with
  | .error e => .error e
  | .ok () =>
    (Devices.AttachOutcomes.device path ⟨s.fileExists path, o.rounds⟩).mapError
      Devices.StorageError.display

def DiskCopy.left (file : DiskFile) : DiskCopy → Option DiskFile
  | .refused => none
  | .broken false => some (.raw 0 fun _ => [])
  | .broken true => some file
  | .done => some file

/-- What comes of the copy is dropped. -/
def copyDisk (s : Site) (source target : String) (o : DiskCopy) : Site :=
  if source = "" then s
  else
    match (s.files (place source)).bind (DiskCopy.left · o) with
    | none => s
    | some file => s.put target file

/-- The hypervisor of a clone, from its start to the resumption of the guest. -/
def startClone (s : Site) (newVmId : String) (paths : SnapshotFiles) (o : CloneOutcomes) :
    Site × Except (ℕ × String) Unit :=
  match o.startDaemon with
  | .error e => (s, .error (500, "Failed to start Cloud Hypervisor: " ++ e))
  | .ok () =>
    let s := { s with loads := s.loads ++ [⟨newVmId, paths.snapshotPath, paths.memPath⟩] }
    match o.loadSnapshot, o.addDrive, o.addNetwork, o.resume with
    | .error e, _, _, _ => (s, .error (500, "Load snapshot: " ++ e))
    | .ok (), .error e, _, _ => (s, .error (500, "Add drive: " ++ e))
    | .ok (), .ok (), .error e, _ => (s, .error (500, "Add net: " ++ e))
    | .ok (), .ok (), .ok (), .error e => (s, .error (500, "Resume instance: " ++ e))
    | .ok (), .ok (), .ok (), .ok () => (s, .ok ())

/-- The instance of a clone. -/
def clonedInstance (newVmId dir base cow : String) (random : UInt8) (cgroupPath : Option String) :
    VmInstance where
  id := newVmId
  status := .running
  chSocketPath := joinPath dir "ch.sock"
  tapName := "tap" ++ String.ofList (newVmId.toList.take 8)
  dmName := "vyoma-" ++ newVmId
  loopDevices := [base, cow]
  cowFilePath := joinPath dir "diff.cow"
  ipAddress := "172.16.0." ++ toString (max 2 (min 254 random))
  cgroupPath := cgroupPath
  vcpu := 1
  memSizeMib := 512

/-- The file that the disk of a clone is copied to. -/
def clonedDisk (home newVmId : String) : String := joinPath (vmDir home newVmId) "diff.cow"

def cloneBase (home : String) : String :=
  joinPath (joinPath (joinPath (joinPath home ".vyoma") "images") "alpine_latest") "base.ext4"

/-- The last part of `restore_vm` up to the instance. Nothing is given back after an error. -/
def cloneStages (s : Site) (dirs : Directories) (newVmId : String) (paths : SnapshotFiles)
    (o : CloneOutcomes) : Site × Except (ℕ × String) VmInstance :=
  match dirs.home, o.createDir with
  | none, _ => (s, .error (500, "No home dir"))
  | some _, .error e => (s, .error (500, e))
  | some home, .ok () =>
    let s := s.copyDisk paths.cowPath (clonedDisk home newVmId) o.copy
    match s.setupLoopDevice (cloneBase home) o.baseLoop,
        s.setupLoopDevice (clonedDisk home newVmId) o.cowLoop, o.dmManager, o.dmSnapshot, o.tap with
    | .error e, _, _, _, _ => (s, .error (500, "Loop base: " ++ e))
    | .ok _, .error e, _, _, _ => (s, .error (500, "Loop cow: " ++ e))
    | .ok _, .ok _, .error e, _, _ => (s, .error (500, "DM init: " ++ e))
    | .ok _, .ok _, .ok (), .error e, _ => (s, .error (500, "DM create: " ++ e.display))
    | .ok _, .ok _, .ok (), .ok (), .error e => (s, .error (500, "TAP setup: " ++ e))
    | .ok base, .ok cow, .ok (), .ok (), .ok () =>
      match s.startClone newVmId paths o with
      | (s, .error e) => (s, .error e)
      | (s, .ok ()) =>
        (s, .ok (clonedInstance newVmId (vmDir home newVmId) base cow o.random o.cgroupPath))

structure RestoreRequest extends Daemon.RestoreRequest where
  memPath : Option String := none
  cowPath : Option String := none

/-- The snapshot file of an entry, under the first name if there is one. -/
def snapshotFile (s : Site) (dir : String) : String :=
  if s.fileExists (joinPath dir "snapshot.snap") then joinPath dir "snapshot.snap"
  else joinPath dir "snapshot.bin"

/-- An active VM loads the snapshot if its file is there and has content. Its hypervisor is
paused for it and resumed; what comes of the three calls is dropped. -/
def loadInPlace (s : Site) (vmId dir : String) : Site :=
  let path := s.snapshotFile dir
  match s.files (place path) with
  | none => s
  | some file =>
    if file.isEmpty then s
    else { s with loads := s.loads ++ [⟨vmId, path, joinPath dir "memory.mem"⟩] }

/-- `cloneVm` with the stages run on the site. -/
def clone (s : Site) (dirs : Directories) (newVmId : String) (paths : SnapshotFiles)
    (o : CloneOutcomes) (create start : Daemon.Append) (timestamp : UInt64) :
    Site × Except (ℕ × String) Daemon.VmRunResponse :=
  let (s, stages) := s.cloneStages dirs newVmId paths o
  let (daemon, answer) := s.daemon.cloneVm newVmId stages create start timestamp
  ({ s with daemon }, answer)

def restoreVm (s : Site) (dirs : Directories) (payload : RestoreRequest) (reads : Bool × Bool)
    (newVmId : String) (o : CloneOutcomes) (create start : Daemon.Append) (timestamp : UInt64) :
    Site × Except (ℕ × String) Daemon.VmRunResponse :=
  match payload.vmId.or payload.originalVmId, payload.«from».or payload.snapshotId with
  | some vmId, some snapRef =>
    let missing := "Snapshot '" ++ snapRef ++ "' not found for VM " ++ vmId
    match TimeMachine.getSnapshot s.daemon.timemachine reads.1 vmId snapRef with
    | none => (s, .error (404, missing))
    | some entry =>
      match s.daemon.vms[vmId]? with
      | some vm =>
        (s.loadInPlace vmId (snapshotDir dirs.data vmId entry.id),
          .ok ⟨vmId, "restored", vm.ipAddress⟩)
      | none =>
        match TimeMachine.getSnapshot s.daemon.timemachine reads.2 vmId snapRef with
        | none => (s, .error (404, missing))
        | some entry =>
          let dir := snapshotDir dirs.data vmId entry.id
          s.clone dirs newVmId
            ⟨s.snapshotFile dir, joinPath dir "memory.mem", joinPath dir "diff.cow"⟩
            o create start timestamp
  | _, _ =>
    match payload.snapshotPath with
    | some path =>
      s.clone dirs newVmId ⟨path, payload.memPath.getD "", payload.cowPath.getD ""⟩
        o create start timestamp
    | none => (s, .error (400, Daemon.invalidRestore))

/-! ## Hibernating, waking and stopping -/

def hibernatedFile (dirs : Directories) (vmId file : String) : String :=
  joinPath (joinPath (joinPath (joinPath dirs.data ".vyoma") "hibernated") vmId) file

/-- What comes of making the directory, and the size of the snapshot that is written. -/
structure SleepOutcomes where
  createDir : Except String Unit
  createSnapshot : Except String ℕ

def writeSnapshot (s : Site) (dirs : Directories) (vmId : String) (o : SleepOutcomes) : Site :=
  match o.createDir, o.createSnapshot with
  | .ok (), .ok length =>
    (s.put (hibernatedFile dirs vmId "vm.snap") (.raw length fun _ => [])).put
      (hibernatedFile dirs vmId "vm.mem") (.raw length fun _ => [])
  | _, _ => s

def hibernateVm (s : Site) (dirs : Directories) (o : SleepOutcomes) (vmId : String) : Site :=
  let (daemon, _) := s.daemon.hibernateVm o.createDir vmId
  match s.daemon.vms[vmId]? with
  | none => s
  | some vm =>
    if vm.status = .hibernated then s else { s.writeSnapshot dirs vmId o with daemon }

structure WakeOutcomes where
  resume : Except String Unit
  startDaemon : Except String Unit

/-- A hibernated VM is loaded from its snapshot if that has content, and booted otherwise. -/
def resumeVm (s : Site) (dirs : Directories) (o : WakeOutcomes) (vmId : String) : Site :=
  let (daemon, _) := s.daemon.resumeVm o.resume vmId
  let path := hibernatedFile dirs vmId "vm.snap"
  let wakes := ((s.daemon.vms[vmId]?).any fun vm => vm.status = .hibernated) && o.startDaemon.isOk
  if wakes ∧ (s.files (place path)).any fun file => !file.isEmpty then
    { s with daemon, loads := s.loads ++ [⟨vmId, path, hibernatedFile dirs vmId "vm.mem"⟩] }
  else { s with daemon }

/-- What comes of the removal of the disk, and of each file in the directory of the VM. -/
structure StopOutcomes where
  removesDisk : Bool
  removesFile : List String → Bool

/-- The files that go when a VM is cleaned up. -/
def gone (dirs : Directories) (o : StopOutcomes) (vm : VmInstance) (q : List String) : Bool :=
  (vm.cowFilePath ≠ "" && q = place vm.cowFilePath && o.removesDisk) ||
    (dirs.home.any fun home => (place (vmDir home vm.id)).isPrefixOf q) && o.removesFile q

def stopVm (s : Site) (dirs : Directories) (o : StopOutcomes) (io : Daemon.Append)
    (timestamp : UInt64) (vmId : String) : Site :=
  match s.daemon.vms[vmId]? with
  | none => s
  | some vm =>
    { s with
      daemon := (s.daemon.stopVm io timestamp vmId).1
      files := fun q => if gone dirs o vm q then none else s.files q }

/-- The guest of a VM writes to its disk. What it writes to a device-mapper disk goes to the
copy-on-write file in a format of its own. -/
def guestWrites (s : Site) (vmId : String) (b : ℕ) (d : Sector) : Site :=
  match (s.daemon.vms[vmId]?).or s.daemon.booting[vmId]? with
  | none => s
  | some vm =>
    match s.files (place vm.cowFilePath) with
    | some (.qcow2 image) =>
      let written := Function.update image.written b (some d)
      s.put vm.cowFilePath (.qcow2 { image with written })
    | _ => s

end Site

/-! ## Runs -/

/-- The operations on VMs. Those of the daemon that touch no disk are taken as they are. -/
inductive SiteAction where
  | boots (request : VmRunRequest) (o : RunOutcomes)
  | branches (iteration : List String) (id : String) (payload : Daemon.BranchRequest)
      (readOk : Bool) (newVmId : String) (o : Site.BranchOutcomes) (io : TimeMachine.SledOutcomes)
      (uuid : String) (now : ℤ) (random : UInt8)
  | restores (payload : Site.RestoreRequest) (reads : Bool × Bool) (newVmId : String)
      (o : Site.CloneOutcomes) (create start : Daemon.Append) (timestamp : UInt64)
  | hibernates (o : Site.SleepOutcomes) (vmId : String)
  | resumes (o : Site.WakeOutcomes) (vmId : String)
  | stops (o : Site.StopOutcomes) (io : Daemon.Append) (timestamp : UInt64) (vmId : String)
  | guestWrites (vmId : String) (b : ℕ) (d : Sector)
  | acts (a : Action)

/-- The operation is among those that have an action of their own here. -/
def Action.onDisks : Action → Bool
  | .runVmBoot .. | .hibernate .. | .resume .. | .stop .. | .restore .. | .branch .. => true
  | _ => false

def siteStep (dirs : Directories) (s : Site) : SiteAction → Site
  | .boots request o => s.boots dirs request o
  | .branches iteration id payload readOk newVmId o io uuid now random =>
    (s.branchVm dirs iteration id payload readOk newVmId o io uuid now random).1
  | .restores payload reads newVmId o create start timestamp =>
    (s.restoreVm dirs payload reads newVmId o create start timestamp).1
  | .hibernates o vmId => s.hibernateVm dirs o vmId
  | .resumes o vmId => s.resumeVm dirs o vmId
  | .stops o io timestamp vmId => s.stopVm dirs o io timestamp vmId
  | .guestWrites vmId b d => s.guestWrites vmId b d
  | .acts a => if a.onDisks then s else { s with daemon := daemonStep s.daemon a }

/-! ## What a step does to the files -/

/-- The operation may leave this file in the place. -/
inductive Leaves (dirs : Directories) (s : Site) : SiteAction → List String → DiskFile → Prop
  | overlay {request : VmRunRequest} {o : RunOutcomes} : Leaves dirs s (.boots request o)
      (place (vmDirPath dirs.data o.vmId ++ "/root.qcow2")) (Site.overlayLeft o)
  | cowFile {request : VmRunRequest} {o : RunOutcomes} : Leaves dirs s (.boots request o)
      (place (vmDirPath dirs.data o.vmId ++ "/diff.cow")) (.raw 2147483648 fun _ => [])
  | branchOver {iteration id payload readOk newVmId o io uuid now random backing image}
      (hbacking : s.files (place backing) = some (.qcow2 image)) :
      Leaves dirs s (.branches iteration id payload readOk newVmId o io uuid now random)
        (place (joinPath (vmDir dirs.data newVmId) "root.qcow2"))
        (.qcow2 ⟨some (place backing), fun _ => none⟩)
  | branchBlank {iteration id payload readOk newVmId o io uuid now random} :
      Leaves dirs s (.branches iteration id payload readOk newVmId o io uuid now random)
        (place (joinPath (vmDir dirs.data newVmId) "root.qcow2")) (.qcow2 ⟨none, fun _ => none⟩)
  | branchBroken {iteration id payload readOk newVmId o io uuid now random} :
      Leaves dirs s (.branches iteration id payload readOk newVmId o io uuid now random)
        (place (joinPath (vmDir dirs.data newVmId) "root.qcow2")) (.raw 0 fun _ => [])
  | copied {payload reads newVmId o create start timestamp home source file}
      (hhome : dirs.home = some home) (hsource : s.files (place source) = some file) :
      Leaves dirs s (.restores payload reads newVmId o create start timestamp)
        (place (Site.clonedDisk home newVmId)) file
  | copyBroken {payload reads newVmId o create start timestamp home}
      (hhome : dirs.home = some home) :
      Leaves dirs s (.restores payload reads newVmId o create start timestamp)
        (place (Site.clonedDisk home newVmId)) (.raw 0 fun _ => [])
  | hibernated {o vmId file length} (hfile : file = "vm.snap" ∨ file = "vm.mem") :
      Leaves dirs s (.hibernates o vmId) (place (Site.hibernatedFile dirs vmId file))
        (.raw length fun _ => [])
  | written {vmId b d q image} (hq : s.files q = some (.qcow2 image)) :
      Leaves dirs s (.guestWrites vmId b d) q
        (.qcow2 { image with written := Function.update image.written b (some d) })

/-- The file goes when the VM is stopped. -/
def Removes (dirs : Directories) (s : Site) : SiteAction → List String → Bool
  | .stops o _ _ vmId, q => (s.daemon.vms[vmId]?).any fun vm => Site.gone dirs o vm q
  | _, _ => false

/-- The files are those of the site, but for some that the operation may leave. -/
def Touches (dirs : Directories) (s : Site) (a : SiteAction)
    (files : List String → Option DiskFile) : Prop :=
  ∀ q, files q = s.files q ∨ ∃ file, files q = some file ∧ Leaves dirs s a q file

section Touches

variable {dirs : Directories} {s : Site} {a : SiteAction}

theorem touches_self : Touches dirs s a s.files := fun _ => .inl rfl

theorem Touches.put {s' : Site} (h : Touches dirs s a s'.files) {path : String} {file : DiskFile}
    (hleaves : Leaves dirs s a (place path) file) : Touches dirs s a (s'.put path file).files := by
  intro q
  unfold Site.put
  dsimp only
  rw [Function.update_apply]
  split_ifs with hq
  · exact .inr ⟨file, rfl, hq ▸ hleaves⟩
  · exact h q

namespace Site

theorem touches_boots (request : VmRunRequest) (o : RunOutcomes) :
    Touches dirs s (.boots request o) (s.boots dirs request o).files := by
  unfold boots
  generalize runStages dirs.data request o = stages
  dsimp only
  have hoverlay : Touches dirs s (.boots request o)
      (if .overlay ∈ stages.2.held then
        s.put (vmDirPath dirs.data o.vmId ++ "/root.qcow2") (overlayLeft o)
      else s).files := by
    split_ifs
    · exact touches_self.put .overlay
    · exact touches_self
  generalize (if .overlay ∈ stages.2.held then
      s.put (vmDirPath dirs.data o.vmId ++ "/root.qcow2") (overlayLeft o)
    else s) = s₁ at hoverlay ⊢
  split_ifs
  · exact hoverlay.put .cowFile
  · exact hoverlay

theorem touches_runQemuImg {failed path : String} {file : DiskFile}
    (hfile : Leaves dirs s a (place path) file)
    (hbroken : Leaves dirs s a (place path) (.raw 0 fun _ => [])) (run : Storage.QemuImg) :
    Touches dirs s a (s.runQemuImg failed path file run).1.files := by
  cases run with
  | notRun e => exact touches_self
  | refused stderr => exact touches_self
  | broken stderr => exact touches_self.put hbroken
  | done => exact touches_self.put hfile

theorem touches_createOverlay {path backing : String} (o : BranchOutcomes)
    (hover : ∀ image, s.files (place backing) = some (.qcow2 image) →
      Leaves dirs s a (place path) (.qcow2 ⟨some (place backing), fun _ => none⟩))
    (hbroken : Leaves dirs s a (place path) (.raw 0 fun _ => [])) :
    Touches dirs s a (s.createOverlay path backing o).1.files := by
  unfold createOverlay
  cases hbacking : s.files (place backing) with
  | none => exact touches_self
  | some file =>
    cases o.createParent with
    | error e => exact touches_self
    | ok =>
      cases file with
      | qcow2 image => exact touches_runQemuImg (hover image hbacking) hbroken _
      | raw length content =>
        cases o.qemuImg with
        | broken stderr => exact touches_self.put hbroken
        | _ => exact touches_self

theorem touches_createImage {path : String} (o : BranchOutcomes)
    (hblank : Leaves dirs s a (place path) (.qcow2 ⟨none, fun _ => none⟩))
    (hbroken : Leaves dirs s a (place path) (.raw 0 fun _ => [])) :
    Touches dirs s a (s.createImage path o).1.files := by
  unfold createImage
  cases o.createParent with
  | error e => exact touches_self
  | ok => exact touches_runQemuImg hblank hbroken _

theorem touches_branchDisk {newVmId : String} (o : BranchOutcomes)
    (sourceVmId sourceDisk snapshotId : String)
    (hover : ∀ backing image, s.files (place backing) = some (.qcow2 image) →
      Leaves dirs s a (place (joinPath (vmDir dirs.data newVmId) "root.qcow2"))
        (.qcow2 ⟨some (place backing), fun _ => none⟩))
    (hblank : Leaves dirs s a (place (joinPath (vmDir dirs.data newVmId) "root.qcow2"))
      (.qcow2 ⟨none, fun _ => none⟩))
    (hbroken : Leaves dirs s a (place (joinPath (vmDir dirs.data newVmId) "root.qcow2"))
      (.raw 0 fun _ => [])) :
    Touches dirs s a (s.branchDisk dirs newVmId sourceVmId sourceDisk snapshotId o).1.files := by
  unfold branchDisk
  cases o.createDir with
  | error e => exact touches_self
  | ok =>
    dsimp only
    split_ifs
    · have hcreated := touches_createOverlay o
        (hover (s.backingDisk dirs sourceVmId sourceDisk snapshotId)) hbroken
      split
      · next hrun => rwa [hrun] at hcreated
      · next hrun => rwa [hrun] at hcreated
    · have hcreated := touches_createImage o hblank hbroken
      split
      · next hrun => rwa [hrun] at hcreated
      · next hrun => rwa [hrun] at hcreated

theorem touches_branchVm (iteration : List String) (id : String) (payload : Daemon.BranchRequest)
    (readOk : Bool) (newVmId : String) (o : BranchOutcomes) (io : TimeMachine.SledOutcomes)
    (uuid : String) (now : ℤ) (random : UInt8) :
    Touches dirs s (.branches iteration id payload readOk newVmId o io uuid now random)
      (s.branchVm dirs iteration id payload readOk newVmId o io uuid now random).1.files := by
  unfold branchVm
  cases s.branchPoint iteration id payload readOk with
  | none => exact touches_self
  | some point =>
    exact touches_branchDisk o _ _ _ (fun _ _ => .branchOver) .branchBlank .branchBroken

theorem touches_copyDisk {home newVmId : String} (hhome : dirs.home = some home) (source : String)
    (o : DiskCopy) {payload : RestoreRequest} {reads : Bool × Bool} {c : CloneOutcomes}
    {create start : Daemon.Append} {timestamp : UInt64} :
    Touches dirs s (.restores payload reads newVmId c create start timestamp)
      (s.copyDisk source (clonedDisk home newVmId) o).files := by
  unfold copyDisk
  split_ifs
  · exact touches_self
  · cases hsource : s.files (place source) with
    | none => exact touches_self
    | some file =>
      cases o with
      | refused => exact touches_self
      | broken header =>
        cases header with
        | true => exact touches_self.put (.copied hhome hsource)
        | false => exact touches_self.put (.copyBroken hhome)
      | done => exact touches_self.put (.copied hhome hsource)

/-- A clone that is started changes nothing but what has been loaded. -/
theorem startClone_site (s : Site) (newVmId : String) (paths : SnapshotFiles)
    (o : CloneOutcomes) : ∃ loads, (s.startClone newVmId paths o).1 = { s with loads } := by
  unfold startClone
  cases o.startDaemon with
  | error e => exact ⟨s.loads, rfl⟩
  | ok =>
    dsimp only
    split <;> exact ⟨_, rfl⟩

theorem cloneStages_site (s : Site) (dirs : Directories) (newVmId : String)
    (paths : SnapshotFiles) (o : CloneOutcomes) :
    (s.cloneStages dirs newVmId paths o).1 = s ∨ ∃ home loads, dirs.home = some home ∧
      (s.cloneStages dirs newVmId paths o).1 =
        { s.copyDisk paths.cowPath (clonedDisk home newVmId) o.copy with loads } := by
  unfold cloneStages
  cases dirs.home with
  | none => exact .inl rfl
  | some home =>
    cases o.createDir with
    | error e => exact .inl rfl
    | ok =>
      refine .inr ?_
      dsimp only
      generalize hcopy : s.copyDisk paths.cowPath (clonedDisk home newVmId) o.copy = copied
      split
      · exact ⟨home, copied.loads, rfl, by rw [hcopy]⟩
      · exact ⟨home, copied.loads, rfl, by rw [hcopy]⟩
      · exact ⟨home, copied.loads, rfl, by rw [hcopy]⟩
      · exact ⟨home, copied.loads, rfl, by rw [hcopy]⟩
      · exact ⟨home, copied.loads, rfl, by rw [hcopy]⟩
      · obtain ⟨loads, hstarted⟩ := copied.startClone_site newVmId paths o
        refine ⟨home, loads, rfl, ?_⟩
        rw [hcopy]
        split
        · next hrun => rwa [hrun] at hstarted
        · next hrun => rwa [hrun] at hstarted

theorem touches_clone {payload : RestoreRequest} {reads : Bool × Bool} (newVmId : String)
    (paths : SnapshotFiles) (o : CloneOutcomes) (create start : Daemon.Append)
    (timestamp : UInt64) :
    Touches dirs s (.restores payload reads newVmId o create start timestamp)
      (s.clone dirs newVmId paths o create start timestamp).1.files := by
  have hfiles : (s.clone dirs newVmId paths o create start timestamp).1.files =
      (s.cloneStages dirs newVmId paths o).1.files := rfl
  rw [hfiles]
  obtain hsame | ⟨home, loads, hhome, hcopied⟩ := s.cloneStages_site dirs newVmId paths o
  · rw [hsame]
    exact touches_self
  · rw [hcopied]
    exact touches_copyDisk hhome _ _

theorem loadInPlace_site (s : Site) (vmId dir : String) :
    ∃ loads, s.loadInPlace vmId dir = { s with loads } := by
  unfold loadInPlace
  dsimp only
  split
  · exact ⟨s.loads, rfl⟩
  · split_ifs
    · exact ⟨s.loads, rfl⟩
    · exact ⟨_, rfl⟩

theorem touches_restoreVm (payload : RestoreRequest) (reads : Bool × Bool) (newVmId : String)
    (o : CloneOutcomes) (create start : Daemon.Append) (timestamp : UInt64) :
    Touches dirs s (.restores payload reads newVmId o create start timestamp)
      (s.restoreVm dirs payload reads newVmId o create start timestamp).1.files := by
  unfold restoreVm
  split
  · dsimp only
    split
    · exact touches_self
    · split
      · next entry _ _ _ _ =>
        obtain ⟨loads, hloaded⟩ := s.loadInPlace_site _ (snapshotDir dirs.data _ entry.id)
        rw [hloaded]
        exact touches_self
      · split
        · exact touches_self
        · exact touches_clone _ _ _ _ _ _
  · split
    · exact touches_clone _ _ _ _ _ _
    · exact touches_self

theorem touches_hibernateVm (o : SleepOutcomes) (vmId : String) :
    Touches dirs s (.hibernates o vmId) (s.hibernateVm dirs o vmId).files := by
  have hwritten : Touches dirs s (.hibernates o vmId) (s.writeSnapshot dirs vmId o).files := by
    unfold writeSnapshot
    split
    · exact (touches_self.put (.hibernated (.inl rfl))).put (.hibernated (.inr rfl))
    · exact touches_self
  unfold hibernateVm
  dsimp only
  split
  · exact touches_self
  · split_ifs
    · exact touches_self
    · exact hwritten

theorem files_resumeVm (o : WakeOutcomes) (vmId : String) :
    (s.resumeVm dirs o vmId).files = s.files := by
  unfold resumeVm
  dsimp only
  split_ifs <;> rfl

theorem touches_guestWrites (vmId : String) (b : ℕ) (d : Sector) :
    Touches dirs s (.guestWrites vmId b d) (s.guestWrites vmId b d).files := by
  unfold guestWrites
  split
  · exact touches_self
  · split
    · next hfile => exact touches_self.put (.written hfile)
    · exact touches_self

theorem files_stopVm (o : StopOutcomes) (io : Daemon.Append) (timestamp : UInt64) (vmId : String)
    (q : List String) :
    (s.stopVm dirs o io timestamp vmId).files q =
      if Removes dirs s (.stops o io timestamp vmId) q then none else s.files q := by
  have hremoves : Removes dirs s (.stops o io timestamp vmId) q =
      (s.daemon.vms[vmId]?).any fun vm => gone dirs o vm q := rfl
  rw [hremoves]
  unfold stopVm
  cases s.daemon.vms[vmId]? with
  | none => rfl
  | some vm => rfl

end Site

/-- After a step each file is as it was, is one that the step may leave, or is gone. -/
theorem files_siteStep (dirs : Directories) (s : Site) (a : SiteAction) (q : List String) :
    (Removes dirs s a q = true ∧ (siteStep dirs s a).files q = none) ∨
    (Removes dirs s a q = false ∧ ((siteStep dirs s a).files q = s.files q ∨
      ∃ file, (siteStep dirs s a).files q = some file ∧ Leaves dirs s a q file)) := by
  cases a with
  | boots request o => exact .inr ⟨rfl, Site.touches_boots request o q⟩
  | branches iteration id payload readOk newVmId o io uuid now random =>
    have htouches : Touches dirs s _ _ :=
      Site.touches_branchVm iteration id payload readOk newVmId o io uuid now random
    exact .inr ⟨rfl, htouches q⟩
  | restores payload reads newVmId o create start timestamp =>
    exact .inr ⟨rfl, Site.touches_restoreVm payload reads newVmId o create start timestamp q⟩
  | hibernates o vmId => exact .inr ⟨rfl, Site.touches_hibernateVm o vmId q⟩
  | resumes o vmId => exact .inr ⟨rfl, .inl (congrFun (Site.files_resumeVm o vmId) q)⟩
  | stops o io timestamp vmId =>
    have hfiles : (siteStep dirs s (.stops o io timestamp vmId)).files q = _ :=
      Site.files_stopVm o io timestamp vmId q
    rw [hfiles]
    cases Removes dirs s (.stops o io timestamp vmId) q with
    | true => exact .inl ⟨rfl, rfl⟩
    | false => exact .inr ⟨rfl, .inl rfl⟩
  | guestWrites vmId b d => exact .inr ⟨rfl, Site.touches_guestWrites vmId b d q⟩
  | acts a =>
    refine .inr ⟨rfl, .inl ?_⟩
    dsimp only [siteStep]
    split_ifs <;> rfl

end Touches

end Vyoma.VmService
