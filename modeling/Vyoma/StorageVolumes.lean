import Vyoma.FileTrees
import Vyoma.KernelDevices
import Vyoma.SnapshotTree

/-!
# Volumes of the storage crate

The storage manager keeps the disk of every snapshot in a directory of its VM and records
where in the snapshot tree. A QCOW2 image names the file that it is written over; a raw image
stands for itself. The manager asks nobody whether a directory is in use already.
-/
namespace Vyoma.Storage
open FileTrees OrderedMaps

/-- A file of the volumes: an image over another file, or anything that stands for itself. -/
inductive VolumeFile where
  | plain
  | overlay (backing : String)
  deriving DecidableEq

/-- The file that an image needs. -/
def VolumeFile.backing : VolumeFile → Option String
  | .plain => none
  | .overlay backing => some backing

/-- `Path::join` on the texts of paths. -/
def joinPath (path s : String) : String :=
  if s.toList.head? = some '/' then s
  else if path = "" ∨ path.toList.getLast? = some '/' then path ++ s
  else path ++ "/" ++ s

/-- The place that a path leads to. -/
def place (path : String) : List String := resolve (components path)

/-- Paths are read from the root, as they are when the base path is absolute. -/
structure StorageManager where
  basePath : String
  tree : SnapshotTree
  files : List String → Option VolumeFile

inductive ManagerError where
  | io (message : String)
  | notFound (message : String)
  | path (message : String)
  | tree (e : StorageError)
  deriving DecidableEq, Repr

/-! ## What the calls meet -/

/-- How `qemu-img` ends: it may not run, refuse, leave a file that is no image, or succeed. -/
inductive QemuImg where
  | notRun (e : String)
  | refused (stderr : String)
  | broken (stderr : String)
  | done
  deriving DecidableEq

/-- What the run leaves in place of the file that it is to write, if it writes at all. -/
def QemuImg.left (file : VolumeFile) : QemuImg → Option VolumeFile
  | .notRun _ => none
  | .refused _ => none
  | .broken _ => some .plain
  | .done => some file

/-- How `std::io::copy` ends: broken off before or after the header, or done. -/
inductive Copying where
  | broken (e : String) (header : Bool)
  | done
  deriving DecidableEq

/-- The id and the clock reading of a new node. -/
structure Draw where
  uuid : String
  now : UInt64

structure ImageOutcomes where
  createDir : Except String Unit
  createParent : Except String Unit
  qemuImg : QemuImg
  draw : Draw
  sled : SledOutcomes

structure OverlayOutcomes where
  lookup : SledOutcomes
  createDir : Except String Unit
  createParent : Except String Unit
  qemuImg : QemuImg
  draw : Draw
  branch : SledOutcomes
  update : SledOutcomes

structure RawOutcomes where
  createDir : Except String Unit
  cowFile : Devices.CowFileOutcomes
  format : Except String Unit
  draw : Draw
  sled : SledOutcomes

structure CommitOutcomes where
  lookup : SledOutcomes
  createDir : Except String Unit
  openSource : Except String Unit
  createTarget : Except String Unit
  copy : Copying
  draw : Draw
  sled : SledOutcomes

namespace StorageManager

def new (basePath : String) : StorageManager := ⟨basePath, .empty, fun _ => none⟩

/-- `Path::exists`. -/
def fileExists (m : StorageManager) (path : String) : Bool :=
  path ≠ "" && (m.files (place path)).isSome

def write (m : StorageManager) (path : String) (file : VolumeFile) : StorageManager :=
  { m with files := Function.update m.files (place path) (some file) }

/-- The file of a VM's volume. -/
def volume (m : StorageManager) (vmId file : String) : String :=
  joinPath (joinPath m.basePath vmId) file

/-- A run of `qemu-img create` for a path, given what it is to write there. -/
def runQemuImg (m : StorageManager) (failed path : String) (file : VolumeFile) :
    QemuImg → StorageManager × Except ManagerError Unit
  | .notRun e => (m, .error (.io e))
  | .refused stderr => (m, .error (.io (failed ++ stderr)))
  | .broken stderr => (m.write path .plain, .error (.io (failed ++ stderr)))
  | .done => (m.write path file, .ok ())

/-- `Qcow2Manager::create_image`. -/
def createImage (m : StorageManager) (path : String) (createParent : Except String Unit)
    (q : QemuImg) : StorageManager × Except ManagerError Unit :=
  match createParent with
  | .error e => (m, .error (.io e))
  | .ok () => m.runQemuImg "qemu-img create failed: " path .plain q

/-- `Qcow2Manager::create_overlay`. -/
def createOverlay (m : StorageManager) (overlayPath backingFile : String)
    (createParent : Except String Unit) (q : QemuImg) : StorageManager × Except ManagerError Unit :=
  if !m.fileExists backingFile then
    (m, .error (.notFound ("Backing file does not exist: \"" ++ backingFile ++ "\"")))
  else
    match createParent with
    | .error e => (m, .error (.io e))
    | .ok () =>
      m.runQemuImg "qemu-img create overlay failed: " overlayPath (.overlay backingFile) q

/-- The node of a new volume is stored with the path of its disk. -/
def record (m : StorageManager) (sled : SledOutcomes) (node : SnapshotNode) :
    StorageManager × Except ManagerError SnapshotNode :=
  let (tree, result) := m.tree.create sled node
  ({ m with tree },
    match result with
    | .error e => .error (.tree e)
    | .ok () => .ok node)

def rootNode (draw : Draw) (vmId path : String) : SnapshotNode :=
  { SnapshotNode.new draw.uuid draw.now vmId none with snapshotPath := path }

def createQcow2Volume (m : StorageManager) (o : ImageOutcomes) (vmId : String) :
    StorageManager × Except ManagerError SnapshotNode :=
  match o.createDir with
  | .error e => (m, .error (.io e))
  | .ok () =>
    let baseFile := m.volume vmId "root.qcow2"
    match m.createImage baseFile o.createParent o.qemuImg with
    | (m, .error e) => (m, .error e)
    | (m, .ok ()) => m.record o.sled (rootNode o.draw vmId baseFile)

/-- The branch is stored without a path first; its path is written after it. -/
def recordBranch (m : StorageManager) (o : OverlayOutcomes) (snapId newVmId path : String) :
    StorageManager × Except ManagerError SnapshotNode :=
  match m.tree.branch o.branch o.draw.uuid o.draw.now snapId newVmId with
  | (tree, .error e) => ({ m with tree }, .error (.tree e))
  | (tree, .ok child) =>
    let child := { child with snapshotPath := path }
    match tree.update o.update child with
    | (tree, .error e) => ({ m with tree }, .error (.tree e))
    | (tree, .ok ()) => ({ m with tree }, .ok child)

def branchQcow2Snapshot (m : StorageManager) (o : OverlayOutcomes) (snapId newVmId : String) :
    StorageManager × Except ManagerError SnapshotNode :=
  match m.tree.get o.lookup snapId with
  | .error e => (m, .error (.tree e))
  | .ok parent =>
    match o.createDir with
    | .error e => (m, .error (.io e))
    | .ok () =>
      let overlayFile := m.volume newVmId "root.qcow2"
      match m.createOverlay overlayFile parent.snapshotPath o.createParent o.qemuImg with
      | (m, .error e) => (m, .error e)
      | (m, .ok ()) => m.recordBranch o snapId newVmId overlayFile

/-- `LoopManager::create_cow_file` with the file that it leaves. -/
def createCowFile (m : StorageManager) (path : String) (o : Devices.CowFileOutcomes) :
    StorageManager × Except ManagerError Unit :=
  match o.createParent with
  | .error e => (m, .error (.io e))
  | .ok () =>
    match o.createFile with
    | .error e => (m, .error (.io e))
    | .ok () => (m.write path .plain, o.setLen.mapError .io)

def createVmVolume (m : StorageManager) (o : RawOutcomes) (vmId : String) :
    StorageManager × Except ManagerError SnapshotNode :=
  match o.createDir with
  | .error e => (m, .error (.io e))
  | .ok () =>
    let baseFile := m.volume vmId "root.ext4"
    match m.createCowFile baseFile o.cowFile with
    | (m, .error e) => (m, .error e)
    | (m, .ok ()) =>
      match o.format with
      | .error e => (m, .error (.io e))
      | .ok () => m.record o.sled (rootNode o.draw vmId baseFile)

/-- What a copy finds in the source once the target has been emptied. -/
def sourceOf (m : StorageManager) (source target : String) : VolumeFile :=
  ((m.write target .plain).files (place source)).getD .plain

/-- A copy to the source's own place leaves nothing of it. -/
def copyFile (m : StorageManager) (source target : String) :
    Copying → StorageManager × Except ManagerError Unit
  | .broken e false => (m.write target .plain, .error (.io e))
  | .broken e true => (m.write target (m.sourceOf source target), .error (.io e))
  | .done => (m.write target (m.sourceOf source target), .ok ())

def commitSnapshot (m : StorageManager) (o : CommitOutcomes) (snapId newBaseName : String) :
    StorageManager × Except ManagerError SnapshotNode :=
  match m.tree.get o.lookup snapId with
  | .error e => (m, .error (.tree e))
  | .ok node =>
    if !m.fileExists node.snapshotPath then
      (m, .error (.path ("Source device does not exist: \"" ++ node.snapshotPath ++ "\"")))
    else
      match o.createDir with
      | .error e => (m, .error (.io e))
      | .ok () =>
        let newBaseFile := m.volume newBaseName "root.ext4"
        match o.openSource with
        | .error e => (m, .error (.io e))
        | .ok () =>
          match o.createTarget with
          | .error e => (m, .error (.io e))
          | .ok () =>
            match m.copyFile node.snapshotPath newBaseFile o.copy with
            | (m, .error e) => (m, .error e)
            | (m, .ok ()) => m.record o.sled (rootNode o.draw newBaseName newBaseFile)

end StorageManager

/-! ## Runs -/

/-- The calls on QCOW2 and raw volumes, and those of the tree that its users make. -/
inductive VolumeAction where
  | createQcow2 (o : ImageOutcomes) (vmId : String)
  | branchQcow2 (o : OverlayOutcomes) (snapId newVmId : String)
  | createVm (o : RawOutcomes) (vmId : String)
  | commit (o : CommitOutcomes) (snapId newBaseName : String)
  | tagSnapshot (io : SledOutcomes) (snapId vmId tag : String)
  | delete (io : SledOutcomes) (id : String)

/-- The id that a call draws for its node. -/
def VolumeAction.drawn : VolumeAction → Option String
  | .createQcow2 o _ => some o.draw.uuid
  | .branchQcow2 o _ _ => some o.draw.uuid
  | .createVm o _ => some o.draw.uuid
  | .commit o _ _ => some o.draw.uuid
  | .tagSnapshot .. => none
  | .delete .. => none

def VolumeAction.IsCommit : VolumeAction → Prop
  | .commit .. => True
  | _ => False

instance : ∀ a : VolumeAction, Decidable a.IsCommit
  | .createQcow2 .. => isFalse id
  | .branchQcow2 .. => isFalse id
  | .createVm .. => isFalse id
  | .commit .. => isTrue trivial
  | .tagSnapshot .. => isFalse id
  | .delete .. => isFalse id

def volumeStep (m : StorageManager) : VolumeAction → StorageManager
  | .createQcow2 o vmId => (m.createQcow2Volume o vmId).1
  | .branchQcow2 o snapId newVmId => (m.branchQcow2Snapshot o snapId newVmId).1
  | .createVm o vmId => (m.createVmVolume o vmId).1
  | .commit o snapId newBaseName => (m.commitSnapshot o snapId newBaseName).1
  | .tagSnapshot io snapId vmId tag => { m with tree := (m.tree.tagSnapshot io snapId vmId tag).1 }
  | .delete io id => { m with tree := (m.tree.delete io id).1 }

/-! ## What a call does -/

namespace StorageManager

variable (m : StorageManager)

/-! The file that each call writes, if it comes to that, and what is in it then. -/

def qcow2Writes (o : ImageOutcomes) (vmId : String) : Option (String × VolumeFile) :=
  if o.createDir.isOk ∧ o.createParent.isOk then
    (o.qemuImg.left .plain).map (Prod.mk (m.volume vmId "root.qcow2"))
  else none

def branchWrites (o : OverlayOutcomes) (snapId newVmId : String) :
    Option (String × VolumeFile) :=
  match m.tree.get o.lookup snapId with
  | .error _ => none
  | .ok parent =>
    if o.createDir.isOk ∧ m.fileExists parent.snapshotPath ∧ o.createParent.isOk then
      (o.qemuImg.left (.overlay parent.snapshotPath)).map
        (Prod.mk (m.volume newVmId "root.qcow2"))
    else none

def rawWrites (o : RawOutcomes) (vmId : String) : Option (String × VolumeFile) :=
  if o.createDir.isOk ∧ o.cowFile.createsFile then some (m.volume vmId "root.ext4", .plain)
  else none

def commitWrites (o : CommitOutcomes) (snapId newBaseName : String) :
    Option (String × VolumeFile) :=
  match m.tree.get o.lookup snapId with
  | .error _ => none
  | .ok node =>
    if m.fileExists node.snapshotPath ∧ o.createDir.isOk ∧ o.openSource.isOk ∧
        o.createTarget.isOk then
      let target := m.volume newBaseName "root.ext4"
      match o.copy with
      | .broken _ false => some (target, .plain)
      | _ => some (target, m.sourceOf node.snapshotPath target)
    else none

def writes : VolumeAction → Option (String × VolumeFile)
  | .createQcow2 o vmId => m.qcow2Writes o vmId
  | .branchQcow2 o snapId newVmId => m.branchWrites o snapId newVmId
  | .createVm o vmId => m.rawWrites o vmId
  | .commit o snapId newBaseName => m.commitWrites o snapId newBaseName
  | .tagSnapshot .. => none
  | .delete .. => none

/-- The files after a write. -/
def after (files : List String → Option VolumeFile) :
    Option (String × VolumeFile) → List String → Option VolumeFile
  | none => files
  | some (path, file) => Function.update files (place path) (some file)

theorem files_write (path : String) (file : VolumeFile) :
    (m.write path file).files = Function.update m.files (place path) (some file) := rfl

theorem files_record (sled : SledOutcomes) (node : SnapshotNode) :
    (m.record sled node).1.files = m.files := rfl

theorem files_recordBranch (o : OverlayOutcomes) (snapId newVmId path : String) :
    (m.recordBranch o snapId newVmId path).1.files = m.files := by
  unfold recordBranch
  split
  · rfl
  · dsimp only
    split <;> rfl

/-- A step that follows a run of `qemu-img` and writes no file. -/
theorem files_runQemuImg_then (failed path : String) (file : VolumeFile) (q : QemuImg)
    {next : StorageManager → StorageManager × Except ManagerError SnapshotNode}
    (hnext : ∀ m, (next m).1.files = m.files) :
    (match m.runQemuImg failed path file q with
      | (m, .error e) => (m, Except.error e)
      | (m, .ok ()) => next m).1.files = after m.files ((q.left file).map (Prod.mk path)) := by
  cases q with
  | done => exact hnext _
  | notRun e => rfl
  | refused stderr => rfl
  | broken stderr => rfl

theorem files_createQcow2Volume (o : ImageOutcomes) (vmId : String) :
    (m.createQcow2Volume o vmId).1.files = after m.files (m.qcow2Writes o vmId) := by
  unfold createQcow2Volume qcow2Writes createImage
  cases hdir : o.createDir with
  | error e => rfl
  | ok =>
    cases hparent : o.createParent with
    | error e => rfl
    | ok => exact m.files_runQemuImg_then _ _ _ _ fun m => m.files_record _ _

theorem files_branchQcow2Snapshot (o : OverlayOutcomes) (snapId newVmId : String) :
    (m.branchQcow2Snapshot o snapId newVmId).1.files =
      after m.files (m.branchWrites o snapId newVmId) := by
  unfold branchQcow2Snapshot branchWrites createOverlay
  cases hget : m.tree.get o.lookup snapId with
  | error e => rfl
  | ok parent =>
    dsimp only
    cases hdir : o.createDir with
    | error e => rfl
    | ok =>
      cases hthere : m.fileExists parent.snapshotPath with
      | false => rfl
      | true =>
        cases hparent : o.createParent with
        | error e => rfl
        | ok => exact m.files_runQemuImg_then _ _ _ _ fun m => m.files_recordBranch _ _ _ _

theorem files_createVmVolume (o : RawOutcomes) (vmId : String) :
    (m.createVmVolume o vmId).1.files = after m.files (m.rawWrites o vmId) := by
  unfold createVmVolume rawWrites createCowFile Devices.CowFileOutcomes.createsFile
  cases hdir : o.createDir with
  | error e => rfl
  | ok =>
    cases hparent : o.cowFile.createParent with
    | error e => rfl
    | ok =>
      cases hfile : o.cowFile.createFile with
      | error e => rfl
      | ok =>
        cases hlen : o.cowFile.setLen with
        | error e => rfl
        | ok =>
          cases hformat : o.format with
          | error e => rfl
          | ok => rfl

theorem files_commitSnapshot (o : CommitOutcomes) (snapId newBaseName : String) :
    (m.commitSnapshot o snapId newBaseName).1.files =
      after m.files (m.commitWrites o snapId newBaseName) := by
  unfold commitSnapshot commitWrites
  cases hget : m.tree.get o.lookup snapId with
  | error e => rfl
  | ok node =>
    dsimp only
    cases hthere : m.fileExists node.snapshotPath with
    | false => rfl
    | true =>
      cases hdir : o.createDir with
      | error e => rfl
      | ok =>
        cases hopen : o.openSource with
        | error e => rfl
        | ok =>
          cases htarget : o.createTarget with
          | error e => rfl
          | ok =>
            cases hcopy : o.copy with
            | done => rfl
            | broken e header => cases header <;> rfl

/-- One file at most is written, and the others stay as they are. -/
theorem files_volumeStep (a : VolumeAction) :
    (volumeStep m a).files = after m.files (m.writes a) := by
  cases a with
  | createQcow2 o vmId => exact m.files_createQcow2Volume o vmId
  | branchQcow2 o snapId newVmId => exact m.files_branchQcow2Snapshot o snapId newVmId
  | createVm o vmId => exact m.files_createVmVolume o vmId
  | commit o snapId newBaseName => exact m.files_commitSnapshot o snapId newBaseName
  | tagSnapshot io snapId vmId tag => rfl
  | delete io id => rfl

section Writes

variable {m} {path : String} {file : VolumeFile}

theorem left_eq_some {q : QemuImg} {image : VolumeFile} (h : q.left image = some file) :
    file = .plain ∨ q = .done ∧ file = image := by
  cases q with
  | notRun e => cases h
  | refused stderr => cases h
  | broken stderr => exact .inl (Option.some.inj h).symm
  | done => exact .inr ⟨rfl, (Option.some.inj h).symm⟩

theorem qcow2Writes_eq_some {o : ImageOutcomes} {vmId : String}
    (h : m.qcow2Writes o vmId = some (path, file)) :
    path = m.volume vmId "root.qcow2" ∧ file = .plain := by
  unfold qcow2Writes at h
  split_ifs at h
  obtain ⟨left, hleft, hpair⟩ := Option.map_eq_some_iff.mp h
  cases hpair
  obtain hplain | ⟨-, hplain⟩ := left_eq_some hleft
  · exact ⟨rfl, hplain⟩
  · exact ⟨rfl, hplain⟩

theorem branchWrites_eq_some {o : OverlayOutcomes} {snapId newVmId : String}
    (h : m.branchWrites o snapId newVmId = some (path, file)) :
    ∃ parent, m.tree.snapshots[snapId]? = some parent ∧
      m.fileExists parent.snapshotPath = true ∧ path = m.volume newVmId "root.qcow2" ∧
      (file = .plain ∨ file = .overlay parent.snapshotPath) := by
  unfold branchWrites at h
  cases hget : m.tree.get o.lookup snapId with
  | error e =>
    rw [hget] at h
    cases h
  | ok parent =>
    rw [hget] at h
    dsimp only at h
    split_ifs at h with hguard
    obtain ⟨left, hleft, hpair⟩ := Option.map_eq_some_iff.mp h
    cases hpair
    exact ⟨parent, ((m.tree.get_eq_ok_iff _).mp hget).2, hguard.2.1, rfl,
      (left_eq_some hleft).imp_right And.right⟩

theorem rawWrites_eq_some {o : RawOutcomes} {vmId : String}
    (h : m.rawWrites o vmId = some (path, file)) :
    path = m.volume vmId "root.ext4" ∧ file = .plain := by
  unfold rawWrites at h
  split_ifs at h
  cases h
  exact ⟨rfl, rfl⟩

/-- A source that is the target itself is empty by then. -/
theorem sourceOf_cases (source target : String) : m.sourceOf source target = .plain ∨
    m.files (place source) = some (m.sourceOf source target) := by
  unfold sourceOf
  rw [files_write]
  by_cases hsame : place source = place target
  · left
    rw [hsame, Function.update_self, Option.getD_some]
  · rw [Function.update_of_ne hsame]
    cases m.files (place source) with
    | none => exact .inl rfl
    | some file => exact .inr rfl

theorem commitWrites_eq_some {o : CommitOutcomes} {snapId newBaseName : String}
    (h : m.commitWrites o snapId newBaseName = some (path, file)) :
    ∃ node, m.tree.snapshots[snapId]? = some node ∧ path = m.volume newBaseName "root.ext4" ∧
      (file = .plain ∨ m.files (place node.snapshotPath) = some file) := by
  unfold commitWrites at h
  cases hget : m.tree.get o.lookup snapId with
  | error e =>
    rw [hget] at h
    cases h
  | ok node =>
    rw [hget] at h
    dsimp only at h
    split_ifs at h
    refine ⟨node, ((m.tree.get_eq_ok_iff _).mp hget).2, ?_⟩
    split at h
    · cases h
      exact ⟨rfl, .inl rfl⟩
    · cases h
      exact ⟨rfl, m.sourceOf_cases _ _⟩

/-- What an overlay is written over is there, or was the backing file of another one. -/
theorem backing_of_writes {a : VolumeAction} {backing : String}
    (h : m.writes a = some (path, .overlay backing)) :
    m.fileExists backing = true ∨ ∃ q, m.files q = some (.overlay backing) := by
  cases a with
  | createQcow2 o vmId => cases (qcow2Writes_eq_some h).2
  | branchQcow2 o snapId newVmId =>
    obtain ⟨parent, -, hthere, -, hfile⟩ := branchWrites_eq_some h
    obtain hplain | hoverlay := hfile
    · cases hplain
    · cases hoverlay
      exact .inl hthere
  | createVm o vmId => cases (rawWrites_eq_some h).2
  | commit o snapId newBaseName =>
    obtain ⟨node, -, -, hfile⟩ := commitWrites_eq_some h
    obtain hplain | hcopied := hfile
    · cases hplain
    · exact .inr ⟨_, hcopied⟩
  | tagSnapshot io snapId vmId tag => cases h
  | delete io id => cases h

end Writes

/-! ### Nodes -/

/-- Where a stored node comes from: it was there, or the call has stored it. -/
inductive NodeSource (a : VolumeAction) (id : String) (node : SnapshotNode) : Prop
  | kept (old : SnapshotNode) (hold : m.tree.snapshots[id]? = some old)
    (hpath : node.snapshotPath = old.snapshotPath) (hparent : node.parentId = old.parentId)
  | root (file : VolumeFile) (hdrawn : a.drawn = some id) (hroot : node.parentId = none)
    (hwritten : m.writes a = some (node.snapshotPath, file))
    (hplain : file = .plain ∨ a.IsCommit)
  | branch (pid : String) (parent : SnapshotNode) (hdrawn : a.drawn = some id)
    (hparent : node.parentId = some pid) (hstored : m.tree.snapshots[pid]? = some parent)
    (hpath : node.snapshotPath = "" ∨
      m.writes a = some (node.snapshotPath, .overlay parent.snapshotPath))

section Nodes

variable {m} {id : String} {node : SnapshotNode}

/-- A node that is stored is the new one, or it was there. -/
theorem record_tree {sled : SledOutcomes} {new : SnapshotNode} (htag : new.tag = none)
    (h : (m.record sled new).1.tree.snapshots[id]? = some node) :
    new.id = id ∧ new = node ∨ m.tree.snapshots[id]? = some node := by
  have htree : (m.record sled new).1.tree = (m.tree.create sled new).1 := rfl
  rw [htree] at h
  obtain hsame | hput | ⟨tag, hsome, -⟩ := m.tree.create_cases sled new
  · rw [hsame] at h
    exact .inr h
  · rw [hput] at h
    obtain hnew | hold := lookup_insert_eq_some_iff.mp h
    · exact .inl hnew
    · exact .inr hold.2
  · rw [htag] at hsome
    cases hsome

theorem branch_eq_ok {tree : SnapshotTree} {io : SledOutcomes} {uuid snapId newVmId : String}
    {now : UInt64} {child : SnapshotNode}
    (h : (tree.branch io uuid now snapId newVmId).2 = .ok child) :
    child = SnapshotTree.branched uuid now snapId newVmId := by
  unfold SnapshotTree.branch at h
  split at h
  · cases h
  · dsimp only at h
    cases hcreate : (tree.create io (SnapshotTree.branched uuid now snapId newVmId)).2 with
    | error e =>
      rw [hcreate] at h
      cases h
    | ok u =>
      rw [hcreate] at h
      exact (Except.ok.inj h).symm

/-- A branch is stored without its path, or with it. -/
theorem recordBranch_tree {o : OverlayOutcomes} {snapId newVmId path : String}
    (h : (m.recordBranch o snapId newVmId path).1.tree.snapshots[id]? = some node) :
    o.draw.uuid = id ∧ node.parentId = some snapId ∧
        (node.snapshotPath = "" ∨ node.snapshotPath = path) ∨
      m.tree.snapshots[id]? = some node := by
  have hbranch := m.tree.branch_cases o.branch o.draw.uuid o.draw.now snapId newVmId
  have hok : ∀ child, (m.tree.branch o.branch o.draw.uuid o.draw.now snapId newVmId).2 =
      .ok child → child = SnapshotTree.branched o.draw.uuid o.draw.now snapId newVmId :=
    fun child => branch_eq_ok
  unfold recordBranch at h
  generalize m.tree.branch o.branch o.draw.uuid o.draw.now snapId newVmId = out at h hbranch hok
  obtain ⟨tree, result⟩ := out
  dsimp only at hbranch hok
  -- the tree after `branch`, with the child without a path or without the child
  have hfirst : tree.snapshots[id]? = some node →
      o.draw.uuid = id ∧ node.parentId = some snapId ∧
          (node.snapshotPath = "" ∨ node.snapshotPath = path) ∨
        m.tree.snapshots[id]? = some node := by
    intro hnode
    obtain hsame | ⟨-, hput⟩ := hbranch
    · rw [hsame] at hnode
      exact .inr hnode
    · rw [hput] at hnode
      obtain ⟨hid, rfl⟩ | hold := lookup_insert_eq_some_iff.mp hnode
      · exact .inl ⟨hid, rfl, .inl rfl⟩
      · exact .inr hold.2
  cases result with
  | error e => exact hfirst h
  | ok child =>
    obtain rfl := hok child rfl
    dsimp only at h
    unfold SnapshotTree.update at h
    cases hwrite : o.update.write with
    | false =>
      simp only [hwrite] at h
      exact hfirst h
    | true =>
      have hput : (tree.put { SnapshotTree.branched o.draw.uuid o.draw.now snapId newVmId with
          snapshotPath := path }).snapshots[id]? = some node := by
        cases hflush : o.update.flush with
        | false =>
          simp only [hwrite, hflush, if_true, Bool.false_eq_true, if_false] at h
          exact h
        | true =>
          simp only [hwrite, hflush, if_true] at h
          exact h
      obtain ⟨hid, rfl⟩ | hold := lookup_insert_eq_some_iff.mp hput
      · exact .inl ⟨hid, rfl, .inr rfl⟩
      · exact hfirst hold.2

theorem createQcow2Volume_node {o : ImageOutcomes} {vmId : String}
    (h : (m.createQcow2Volume o vmId).1.tree.snapshots[id]? = some node) :
    m.NodeSource (.createQcow2 o vmId) id node := by
  have hkept : m.tree.snapshots[id]? = some node → m.NodeSource (.createQcow2 o vmId) id node :=
    fun hold => .kept node hold rfl rfl
  unfold createQcow2Volume createImage at h
  cases hdir : o.createDir with
  | error e =>
    rw [hdir] at h
    exact hkept h
  | ok =>
    cases hparent : o.createParent with
    | error e =>
      rw [hdir, hparent] at h
      exact hkept h
    | ok =>
      rw [hdir, hparent] at h
      have hwrites : m.qcow2Writes o vmId =
          (o.qemuImg.left .plain).map (Prod.mk (m.volume vmId "root.qcow2")) := by
        unfold qcow2Writes
        rw [hdir, hparent]
        exact if_pos ⟨rfl, rfl⟩
      cases hq : o.qemuImg with
      | notRun e =>
        rw [hq] at h
        exact hkept h
      | refused stderr =>
        rw [hq] at h
        exact hkept h
      | broken stderr =>
        rw [hq] at h
        exact hkept h
      | done =>
        rw [hq] at h hwrites
        obtain ⟨hid, rfl⟩ | hold := record_tree rfl h
        · exact .root .plain (congrArg some hid) rfl hwrites (.inl rfl)
        · exact hkept hold

theorem branchQcow2Snapshot_node {o : OverlayOutcomes} {snapId newVmId : String}
    (h : (m.branchQcow2Snapshot o snapId newVmId).1.tree.snapshots[id]? = some node) :
    m.NodeSource (.branchQcow2 o snapId newVmId) id node := by
  have hkept : m.tree.snapshots[id]? = some node →
      m.NodeSource (.branchQcow2 o snapId newVmId) id node := fun hold => .kept node hold rfl rfl
  unfold branchQcow2Snapshot createOverlay at h
  cases hget : m.tree.get o.lookup snapId with
  | error e =>
    rw [hget] at h
    exact hkept h
  | ok parent =>
    rw [hget] at h
    dsimp only at h
    have hstored := ((m.tree.get_eq_ok_iff _).mp hget).2
    cases hdir : o.createDir with
    | error e =>
      rw [hdir] at h
      exact hkept h
    | ok =>
      cases hthere : m.fileExists parent.snapshotPath with
      | false =>
        rw [hdir, hthere] at h
        exact hkept h
      | true =>
        cases hparent : o.createParent with
        | error e =>
          rw [hdir, hthere, hparent] at h
          exact hkept h
        | ok =>
          rw [hdir, hthere, hparent] at h
          have hwrites : m.branchWrites o snapId newVmId =
              (o.qemuImg.left (.overlay parent.snapshotPath)).map
                (Prod.mk (m.volume newVmId "root.qcow2")) := by
            unfold branchWrites
            rw [hget]
            dsimp only
            rw [hdir, hthere, hparent]
            exact if_pos ⟨rfl, rfl, rfl⟩
          cases hq : o.qemuImg with
          | notRun e =>
            rw [hq] at h
            exact hkept h
          | refused stderr =>
            rw [hq] at h
            exact hkept h
          | broken stderr =>
            rw [hq] at h
            exact hkept h
          | done =>
            rw [hq] at h hwrites
            obtain ⟨hid, hparentId, hpath⟩ | hold := recordBranch_tree h
            · refine .branch snapId parent (congrArg some hid) hparentId hstored
                (hpath.imp_right fun hpath => ?_)
              rw [hpath]
              exact hwrites
            · exact hkept hold

theorem createVmVolume_node {o : RawOutcomes} {vmId : String}
    (h : (m.createVmVolume o vmId).1.tree.snapshots[id]? = some node) :
    m.NodeSource (.createVm o vmId) id node := by
  have hkept : m.tree.snapshots[id]? = some node → m.NodeSource (.createVm o vmId) id node :=
    fun hold => .kept node hold rfl rfl
  unfold createVmVolume createCowFile at h
  cases hdir : o.createDir with
  | error e =>
    rw [hdir] at h
    exact hkept h
  | ok =>
    cases hparent : o.cowFile.createParent with
    | error e =>
      rw [hdir, hparent] at h
      exact hkept h
    | ok =>
      cases hfile : o.cowFile.createFile with
      | error e =>
        rw [hdir, hparent, hfile] at h
        exact hkept h
      | ok =>
        cases hlen : o.cowFile.setLen with
        | error e =>
          rw [hdir, hparent, hfile, hlen] at h
          exact hkept h
        | ok =>
          cases hformat : o.format with
          | error e =>
            rw [hdir, hparent, hfile, hlen, hformat] at h
            exact hkept h
          | ok =>
            rw [hdir, hparent, hfile, hlen, hformat] at h
            have hwrites : m.rawWrites o vmId = some (m.volume vmId "root.ext4", .plain) := by
              unfold rawWrites Devices.CowFileOutcomes.createsFile
              rw [hdir, hparent, hfile]
              exact if_pos ⟨rfl, rfl⟩
            obtain ⟨hid, rfl⟩ | hold := record_tree rfl h
            · exact .root .plain (congrArg some hid) rfl hwrites (.inl rfl)
            · exact hkept hold

theorem commitSnapshot_node {o : CommitOutcomes} {snapId newBaseName : String}
    (h : (m.commitSnapshot o snapId newBaseName).1.tree.snapshots[id]? = some node) :
    m.NodeSource (.commit o snapId newBaseName) id node := by
  have hkept : m.tree.snapshots[id]? = some node →
      m.NodeSource (.commit o snapId newBaseName) id node := fun hold => .kept node hold rfl rfl
  unfold commitSnapshot at h
  cases hget : m.tree.get o.lookup snapId with
  | error e =>
    rw [hget] at h
    exact hkept h
  | ok source =>
    rw [hget] at h
    dsimp only at h
    cases hthere : m.fileExists source.snapshotPath with
    | false =>
      rw [hthere] at h
      exact hkept h
    | true =>
      cases hdir : o.createDir with
      | error e =>
        rw [hthere, hdir] at h
        exact hkept h
      | ok =>
        cases hopen : o.openSource with
        | error e =>
          rw [hthere, hdir, hopen] at h
          exact hkept h
        | ok =>
          cases htarget : o.createTarget with
          | error e =>
            rw [hthere, hdir, hopen, htarget] at h
            exact hkept h
          | ok =>
            rw [hthere, hdir, hopen, htarget] at h
            cases hcopy : o.copy with
            | broken e header =>
              rw [hcopy] at h
              cases header <;> exact hkept h
            | done =>
              rw [hcopy] at h
              have hwrites : m.commitWrites o snapId newBaseName =
                  some (m.volume newBaseName "root.ext4",
                    m.sourceOf source.snapshotPath (m.volume newBaseName "root.ext4")) := by
                unfold commitWrites
                rw [hget]
                dsimp only
                rw [hthere, hdir, hopen, htarget, hcopy]
                exact if_pos ⟨rfl, rfl, rfl, rfl⟩
              obtain ⟨hid, rfl⟩ | hold := record_tree rfl h
              · exact .root _ (congrArg some hid) rfl hwrites (.inr trivial)
              · exact hkept hold

/-- Every node that is stored after a call was stored before it, or the call has stored it
with the path of the file that it has written. -/
theorem nodeSource {a : VolumeAction}
    (h : (volumeStep m a).tree.snapshots[id]? = some node) : m.NodeSource a id node := by
  cases a with
  | createQcow2 o vmId => exact createQcow2Volume_node h
  | branchQcow2 o snapId newVmId => exact branchQcow2Snapshot_node h
  | createVm o vmId => exact createVmVolume_node h
  | commit o snapId newBaseName => exact commitSnapshot_node h
  | tagSnapshot io snapId vmId tag =>
    obtain ⟨hsame, -⟩ | ⟨old, -, -, hold, hput⟩ := m.tree.tagSnapshot_cases io snapId vmId tag
    · rw [volumeStep, hsame] at h
      exact .kept node h rfl rfl
    · have hnode : (m.tree.put (old.withTag tag)).snapshots[id]? = some node := by
        obtain hput | hput := hput <;> rwa [volumeStep, hput] at h
      obtain ⟨hid, rfl⟩ | hother := lookup_insert_eq_some_iff.mp hnode
      · have hkeyed := m.tree.keyed _ _ hold
        refine .kept old ?_ rfl rfl
        rw [← hid]
        exact hkeyed.symm ▸ hold
      · exact .kept node hother.2 rfl rfl
  | delete io snapId =>
    obtain ⟨hsame, -⟩ | ⟨old, -, -, hleft⟩ := m.tree.delete_cases io snapId
    · rw [volumeStep, hsame] at h
      exact .kept node h rfl rfl
    · refine .kept node ?_ rfl rfl
      rw [volumeStep, hleft] at h
      dsimp only at h
      split at h
      · rw [SnapshotTree.remove_snapshots, SnapshotTree.untag_snapshots] at h
        exact (lookup_erase_eq_some_iff.mp h).2
      · rwa [SnapshotTree.untag_snapshots] at h

end Nodes

end StorageManager

end Vyoma.Storage
