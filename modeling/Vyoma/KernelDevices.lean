import Vyoma.HostFiles
import Mathlib.Data.Finset.Basic

/-!
# Loop devices, device-mapper snapshots and cgroups

The calls of the storage crate and of the cgroup manager that create and remove objects of
the kernel. What the kernel and the tools answer is an argument of each call; the state is
the set of objects that the calls created and that still exist. A device-mapper snapshot is
two devices, an origin on the base and the snapshot on it.
-/
namespace Vyoma.Devices
open HostFiles

inductive StorageError where
  | other (message : String)
  | io (message : String)
  | notFound (message : String)
  deriving DecidableEq, Repr

def StorageError.display : StorageError → String
  | .other message => "Other error: " ++ message
  | .io message => "IO error: " ++ message
  | .notFound message => "Not found: " ++ message

inductive KernelObject where
  | cowFile (path : String)
  | loopDevice (path : String)
  | dmDevice (name : String)
  | cgroup (path : String)
  deriving DecidableEq, Repr

/-- The objects that were created and still exist. -/
abbrev Created : Type := Finset KernelObject

abbrev StorageM : Type → Type := Prog Created StorageError

def create (obj : KernelObject) : StorageM Unit := Prog.change (insert obj)

def remove (obj : KernelObject) : StorageM Unit := Prog.change (Finset.erase · obj)

/-- An answer of the operating system, with its error as the code wraps it. -/
def outside {α : Type} (wrap : String → StorageError) (r : Except String α) : StorageM α :=
  Prog.answer (r.mapError wrap)

def require (c : Bool) (e : StorageError) : StorageM Unit := if c then pure () else throw e

/-! ## Loop devices -/

/-- What `create_cow_file` meets: its directory, the file, and its length. -/
structure CowFileOutcomes where
  createParent : Except String Unit
  createFile : Except String Unit
  setLen : Except String Unit

/-- `LoopManager::create_cow_file`; the file is there before it gets its length. -/
def createCowFile (path : String) (o : CowFileOutcomes) : StorageM Unit := do
  outside .io o.createParent
  outside .io o.createFile
  create (.cowFile path)
  outside .io o.setLen

/-- What comes of `losetup`, tried when the daemon itself may not attach. -/
inductive Losetup where
  | notRun
  | failed
  | attached (device : String)

/-- One round of attaching a file. Only a refused permission leads to `losetup`. -/
inductive AttachRound where
  | attached (device : String)
  | failed (error : String)
  | denied (error : String) (fallback : Losetup)

/-- The rounds of `attach_internal` from round `n` on, with `left` retries to go. -/
def attachRounds (rounds : ℕ → AttachRound) : ℕ → ℕ → Except StorageError String
  | left, n =>
    match rounds n with
    | .attached device => .ok device
    | .failed error => .error (.io error)
    | .denied _ (.attached device) => .ok device
    | .denied error .notRun => .error (.io error)
    | .denied error .failed =>
      match left with
      | 0 => .error (.io error)
      | left + 1 => attachRounds rounds left (n + 1)

structure AttachOutcomes where
  fileExists : Bool
  rounds : ℕ → AttachRound

/-- The device a file gets, after at most fifty retries. -/
def AttachOutcomes.device (file : String) (o : AttachOutcomes) : Except StorageError String :=
  if o.fileExists then attachRounds o.rounds 50 0
  else .error (.notFound ("File not found: \"" ++ file ++ "\""))

/-- `LoopManager::attach` and `attach_readonly`. -/
def attach (file : String) (o : AttachOutcomes) : StorageM String := do
  let device ← Prog.answer (o.device file)
  create (.loopDevice device)
  return device

/-- What comes of `detach`: a device known only by its path may be taken for detached. -/
inductive Detach where
  | failed (error : String)
  | skipped
  | detached

def detach (device : String) : Detach → StorageM Unit
  | .failed error => throw (.io error)
  | .skipped => pure ()
  | .detached => remove (.loopDevice device)

/-! ## Device-mapper snapshots -/

/-- What the making of one device meets: its name, its UUID, `device_create`, `table_load`,
and whether its node is there after the wait. -/
structure DmOutcomes where
  name : Except String Unit
  uuid : Except String Unit
  deviceCreate : Except String Unit
  tableLoad : Except String Unit
  appears : Bool

structure SnapshotOutcomes where
  baseExists : Bool
  cowExists : Bool
  size : Except String Unit
  origin : DmOutcomes
  snapshot : DmOutcomes

/-- One device of the pair; `role` and `title` are how its messages call it. -/
def createDevice (role title name : String) (o : DmOutcomes) : StorageM Unit := do
  outside (fun e => .other ("Invalid DM name " ++ name ++ ": " ++ e)) o.name
  outside (fun e => .other ("Invalid UUID for " ++ role ++ ": " ++ e)) o.uuid
  outside (fun e => .other ("Failed to create " ++ role ++ " device via dm API: " ++ e))
    o.deviceCreate
  create (.dmDevice name)
  outside (fun e => .other ("Failed to load " ++ role ++ " table via dm API: " ++ e)) o.tableLoad
  require o.appears
    (.other (title ++ " device /dev/mapper/" ++ name ++ " did not appear after waiting"))

structure DmDevice where
  name : String
  path : String

def originName (name : String) : String := name ++ "-origin"

/-- `DmManager::create_snapshot`. -/
def createSnapshot (name baseDev cowDev : String) (o : SnapshotOutcomes) : StorageM DmDevice := do
  require o.baseExists (.notFound ("Base device not found: \"" ++ baseDev ++ "\""))
  require o.cowExists (.notFound ("COW device not found: \"" ++ cowDev ++ "\""))
  outside .io o.size
  createDevice "origin" "Origin" (originName name) o.origin
  createDevice "snapshot" "Snapshot" name o.snapshot
  return ⟨name, "/dev/mapper/" ++ name⟩

structure RemovalOutcomes where
  name : Except String Unit
  removeSnapshot : Except String Unit
  originName : Except String Unit
  removeOrigin : Except String Unit

/-- `DmManager::remove_snapshot`; what comes of the removal of the origin is ignored. -/
def removeSnapshot (name : String) (o : RemovalOutcomes) : StorageM Unit := do
  outside .io o.name
  outside .io o.removeSnapshot
  remove (.dmDevice name)
  match o.originName, o.removeOrigin with
  | .ok (), .ok () => remove (.dmDevice (originName name))
  | _, _ => pure ()

/-! ## Cgroups -/

/-- The root path of a `CgroupManager`. -/
def slicePath : String := "/sys/fs/cgroup/vyoma.slice"

def cgroupPath (vmId : String) : String := slicePath ++ "/vyoma-" ++ vmId

/-- What `create_vm_cgroup` meets; a slice that is missing is created with the cgroup. -/
structure CgroupOutcomes where
  pathExists : Bool
  sliceExists : Bool
  createSlice : Except String Unit
  createDir : Except String Unit

def createSlice (o : CgroupOutcomes) : StorageM Unit :=
  if o.sliceExists then pure () else do
    outside .io o.createSlice
    create (.cgroup slicePath)

/-- `CgroupManager::create_vm_cgroup`. -/
def createVmCgroup (vmId : String) (o : CgroupOutcomes) : StorageM Unit :=
  if o.pathExists then pure () else do
    createSlice o
    outside .io o.createDir
    create (.cgroup (cgroupPath vmId))

/-- `CgroupManager::remove_vm_cgroup`; a cgroup that is not there counts as removed. -/
def removeVmCgroup (vmId : String) (r : Except String Unit) : StorageM Unit := do
  outside .io r
  remove (.cgroup (cgroupPath vmId))

/-! ## When the calls succeed -/

section Succeeds

variable {s s' : Created}

theorem outside_eq_ok_iff {α : Type} {wrap : String → StorageError} {r : Except String α} {a : α} :
    (outside wrap r).exec s = (.ok a, s') ↔ r = .ok a ∧ s' = s := by
  unfold outside
  rw [Prog.exec_answer_eq_ok_iff]
  cases r <;> simp [Except.mapError]

theorem require_eq_ok_iff {c : Bool} {e : StorageError} {u : Unit} :
    (require c e).exec s = (.ok u, s') ↔ c = true ∧ s' = s := by
  cases c <;> simp [require, eq_comm]

theorem create_eq_ok_iff {obj : KernelObject} {u : Unit} :
    (create obj).exec s = (.ok u, s') ↔ s' = insert obj s := Prog.exec_change_eq_ok_iff

/-- Every step of the making of a device succeeds. -/
structure DmOutcomes.Ready (o : DmOutcomes) : Prop where
  name : o.name = .ok ()
  uuid : o.uuid = .ok ()
  deviceCreate : o.deviceCreate = .ok ()
  tableLoad : o.tableLoad = .ok ()
  appears : o.appears = true

theorem createDevice_eq_ok_iff {role title name : String} {o : DmOutcomes} {u : Unit} :
    (createDevice role title name o).exec s = (.ok u, s') ↔
      o.Ready ∧ s' = insert (.dmDevice name) s := by
  simp only [createDevice, Prog.exec_bind_eq_ok_iff, outside_eq_ok_iff, create_eq_ok_iff,
    require_eq_ok_iff]
  constructor
  · rintro ⟨_, _, ⟨hname, rfl⟩, _, _, ⟨huuid, rfl⟩, _, _, ⟨hcreate, rfl⟩, _, _, rfl, _, _,
      ⟨hload, rfl⟩, happears, rfl⟩
    exact ⟨⟨hname, huuid, hcreate, hload, happears⟩, rfl⟩
  · rintro ⟨ho, rfl⟩
    exact ⟨(), s, ⟨ho.name, rfl⟩, (), s, ⟨ho.uuid, rfl⟩, (), s, ⟨ho.deviceCreate, rfl⟩, (), _, rfl,
      (), _, ⟨ho.tableLoad, rfl⟩, ho.appears, rfl⟩

structure SnapshotOutcomes.Ready (o : SnapshotOutcomes) : Prop where
  baseExists : o.baseExists = true
  cowExists : o.cowExists = true
  size : o.size = .ok ()
  origin : o.origin.Ready
  snapshot : o.snapshot.Ready

/-- A snapshot that is made is both its devices. -/
theorem createSnapshot_eq_ok_iff {name baseDev cowDev : String} {o : SnapshotOutcomes}
    {dev : DmDevice} :
    (createSnapshot name baseDev cowDev o).exec s = (.ok dev, s') ↔
      o.Ready ∧ dev = ⟨name, "/dev/mapper/" ++ name⟩ ∧
        s' = insert (.dmDevice name) (insert (.dmDevice (originName name)) s) := by
  simp only [createSnapshot, Prog.exec_bind_eq_ok_iff, outside_eq_ok_iff, require_eq_ok_iff,
    createDevice_eq_ok_iff, Prog.exec_pure_eq_ok_iff]
  constructor
  · rintro ⟨_, _, ⟨hbase, rfl⟩, _, _, ⟨hcow, rfl⟩, _, _, ⟨hsize, rfl⟩, _, _, ⟨horigin, rfl⟩, _, _,
      ⟨hsnapshot, rfl⟩, hdev, rfl⟩
    exact ⟨⟨hbase, hcow, hsize, horigin, hsnapshot⟩, hdev, rfl⟩
  · rintro ⟨ho, hdev, rfl⟩
    exact ⟨(), s, ⟨ho.baseExists, rfl⟩, (), s, ⟨ho.cowExists, rfl⟩, (), s, ⟨ho.size, rfl⟩, (), _,
      ⟨ho.origin, rfl⟩, (), _, ⟨ho.snapshot, rfl⟩, hdev, rfl⟩

structure CowFileOutcomes.Ready (o : CowFileOutcomes) : Prop where
  createParent : o.createParent = .ok ()
  createFile : o.createFile = .ok ()
  setLen : o.setLen = .ok ()

theorem createCowFile_eq_ok_iff {path : String} {o : CowFileOutcomes} {u : Unit} :
    (createCowFile path o).exec s = (.ok u, s') ↔ o.Ready ∧ s' = insert (.cowFile path) s := by
  simp only [createCowFile, Prog.exec_bind_eq_ok_iff, outside_eq_ok_iff, create_eq_ok_iff]
  constructor
  · rintro ⟨_, _, ⟨hparent, rfl⟩, _, _, ⟨hfile, rfl⟩, _, _, rfl, hlen, rfl⟩
    exact ⟨⟨hparent, hfile, hlen⟩, rfl⟩
  · rintro ⟨ho, rfl⟩
    exact ⟨(), s, ⟨ho.createParent, rfl⟩, (), s, ⟨ho.createFile, rfl⟩, (), _, rfl, ho.setLen, rfl⟩

theorem attach_eq_ok_iff {file device : String} {o : AttachOutcomes} :
    (attach file o).exec s = (.ok device, s') ↔
      o.device file = .ok device ∧ s' = insert (.loopDevice device) s := by
  simp only [attach, Prog.exec_bind_eq_ok_iff, Prog.exec_answer_eq_ok_iff, create_eq_ok_iff,
    Prog.exec_pure_eq_ok_iff]
  constructor
  · rintro ⟨_, _, ⟨hdevice, rfl⟩, _, _, rfl, rfl, rfl⟩
    exact ⟨hdevice, rfl⟩
  · rintro ⟨hdevice, rfl⟩
    exact ⟨device, s, ⟨hdevice, rfl⟩, (), _, rfl, rfl, rfl⟩

/-- A file gets a loop device; its name only stands in the error. -/
def AttachOutcomes.attaches (o : AttachOutcomes) : Bool :=
  o.fileExists && (attachRounds o.rounds 50 0).isOk

theorem attaches_iff {o : AttachOutcomes} (file : String) :
    o.attaches = true ↔ ∃ device, o.device file = .ok device := by
  unfold AttachOutcomes.attaches AttachOutcomes.device
  cases o.fileExists with
  | false => simp
  | true => cases attachRounds o.rounds 50 0 <;> simp [Except.isOk, Except.toBool]

theorem attach_of_error {file : String} {o : AttachOutcomes} {e : StorageError}
    (h : o.device file = .error e) (s : Created) : (attach file o).exec s = (.error e, s) := by
  have hanswer : (Prog.answer (o.device file) : StorageM String).exec s = (.error e, s) := by
    rw [Prog.exec_answer, h]
  exact Prog.exec_bind_error hanswer _

end Succeeds

/-! ## Nothing is taken back -/

/-- Whether the call succeeds or fails, all that was created still exists. -/
def Grows {ε α : Type} (x : Prog Created ε α) : Prop := ∀ obj, Prog.Keeps (obj ∈ ·) x

section Grows

variable {ε α β : Type}

theorem Grows.bind {x : Prog Created ε α} {f : α → Prog Created ε β} (hx : Grows x)
    (hf : ∀ a, Grows (f a)) : Grows (x >>= f) := fun obj => (hx obj).bind fun a => hf a obj

theorem grows_answer (r : Except ε α) : Grows (Prog.answer r) := fun _ => Prog.keeps_answer r

theorem grows_pure (a : α) : Grows (pure a : Prog Created ε α) := fun _ => Prog.keeps_pure a

theorem Grows.mapError {ε' : Type} {x : Prog Created ε α} (hx : Grows x) (f : ε → ε') :
    Grows (x.mapError f) := hx

theorem grows_outside (wrap : String → StorageError) (r : Except String α) :
    Grows (outside wrap r) := grows_answer _

theorem grows_require (c : Bool) (e : StorageError) : Grows (require c e) := by
  intro obj
  exact (Prog.keeps_pure ()).ite (Prog.keeps_throw e)

theorem grows_create (obj : KernelObject) : Grows (create obj) := by
  intro obj'
  exact Prog.keeps_change fun s h => Finset.mem_insert_of_mem h

theorem grows_attach (file : String) (o : AttachOutcomes) : Grows (attach file o) := by
  refine (grows_answer _).bind fun device => ?_
  exact (grows_create _).bind fun _ => grows_pure device

theorem grows_createDevice (role title name : String) (o : DmOutcomes) :
    Grows (createDevice role title name o) := by
  refine (grows_outside _ _).bind fun _ => ?_
  refine (grows_outside _ _).bind fun _ => ?_
  refine (grows_outside _ _).bind fun _ => ?_
  refine (grows_create _).bind fun _ => ?_
  exact (grows_outside _ _).bind fun _ => grows_require _ _

theorem grows_createSnapshot (name baseDev cowDev : String) (o : SnapshotOutcomes) :
    Grows (createSnapshot name baseDev cowDev o) := by
  refine (grows_require _ _).bind fun _ => ?_
  refine (grows_require _ _).bind fun _ => ?_
  refine (grows_outside _ _).bind fun _ => ?_
  refine (grows_createDevice _ _ _ _).bind fun _ => ?_
  exact (grows_createDevice _ _ _ _).bind fun _ => grows_pure _

end Grows

/-! ## The results do not depend on what exists -/

section Steady

open Prog (steady_pure steady_throw steady_answer steady_change)

theorem steady_createDevice (role title name : String) (o : DmOutcomes) :
    Prog.Steady (createDevice role title name o) := by
  refine (steady_answer _).bind fun _ => (steady_answer _).bind fun _ => ?_
  refine (steady_answer _).bind fun _ => (steady_change _).bind fun _ => ?_
  exact (steady_answer _).bind fun _ => (steady_pure ()).ite (steady_throw _)

theorem steady_createSnapshot (name baseDev cowDev : String) (o : SnapshotOutcomes) :
    Prog.Steady (createSnapshot name baseDev cowDev o) := by
  refine ((steady_pure ()).ite (steady_throw _)).bind fun _ => ?_
  refine ((steady_pure ()).ite (steady_throw _)).bind fun _ => ?_
  refine (steady_answer _).bind fun _ => (steady_createDevice _ _ _ _).bind fun _ => ?_
  exact (steady_createDevice _ _ _ _).bind fun _ => steady_pure _

theorem steady_attach (file : String) (o : AttachOutcomes) : Prog.Steady (attach file o) := by
  refine (steady_answer _).bind fun device => ?_
  exact (steady_change _).bind fun _ => steady_pure device

theorem steady_createCowFile (path : String) (o : CowFileOutcomes) :
    Prog.Steady (createCowFile path o) := by
  refine (steady_answer _).bind fun _ => (steady_answer _).bind fun _ => ?_
  exact (steady_change _).bind fun _ => steady_answer _

theorem steady_createVmCgroup (vmId : String) (o : CgroupOutcomes) :
    Prog.Steady (createVmCgroup vmId o) := by
  have hslice : Prog.Steady (createSlice o) :=
    (steady_pure ()).ite ((steady_answer _).bind fun _ => steady_change _)
  refine Prog.Steady.ite (steady_pure ()) ?_
  exact hslice.bind fun _ => (steady_answer _).bind fun _ => steady_change _

end Steady

/-! ## What comes into being -/

/-- A directory comes into being, be it only the slice. -/
def CgroupOutcomes.creates (o : CgroupOutcomes) : Bool :=
  !o.pathExists && if o.sliceExists then o.createDir.isOk else o.createSlice.isOk

theorem createVmCgroup_of_not_creates {o : CgroupOutcomes} (h : o.creates = false) (vmId : String)
    (s : Created) : ((createVmCgroup vmId o).exec s).2 = s := by
  obtain ⟨path, slice, makeSlice, dir⟩ := o
  cases path with
  | true => rfl
  | false =>
    cases slice with
    | true =>
      cases dir with
      | error e => rfl
      | ok => cases h
    | false =>
      cases makeSlice with
      | error e => rfl
      | ok => cases h

theorem mem_createVmCgroup {o : CgroupOutcomes} (h : o.creates = true) (vmId : String)
    (s : Created) : ∃ path, (path = slicePath ∨ path = cgroupPath vmId) ∧
      .cgroup path ∈ ((createVmCgroup vmId o).exec s).2 := by
  obtain ⟨path, slice, makeSlice, dir⟩ := o
  cases path with
  | true => cases h
  | false =>
    cases slice with
    | true =>
      cases dir with
      | error e => cases h
      | ok => exact ⟨_, .inr rfl, Finset.mem_insert_self _ _⟩
    | false =>
      cases makeSlice with
      | error e => cases h
      | ok =>
        have hrest : Grows (outside .io dir >>= fun _ => create (.cgroup (cgroupPath vmId))) :=
          (grows_outside _ _).bind fun _ => grows_create _
        exact ⟨_, .inl rfl, hrest _ _ (Finset.mem_insert_self _ s)⟩

/-- The copy-on-write file comes into being, with its length or without it. -/
def CowFileOutcomes.createsFile (o : CowFileOutcomes) : Bool :=
  o.createParent.isOk && o.createFile.isOk

theorem createCowFile_of_not_createsFile {o : CowFileOutcomes} (h : o.createsFile = false)
    (path : String) (s : Created) : ∃ e, (createCowFile path o).exec s = (.error e, s) := by
  obtain ⟨parent, file, len⟩ := o
  cases parent with
  | error e => exact ⟨_, rfl⟩
  | ok =>
    cases file with
    | error e => exact ⟨_, rfl⟩
    | ok => cases h

theorem mem_createCowFile {o : CowFileOutcomes} (h : o.createsFile = true) (path : String)
    (s : Created) : .cowFile path ∈ ((createCowFile path o).exec s).2 := by
  obtain ⟨parent, file, len⟩ := o
  cases parent with
  | error e => cases h
  | ok =>
    cases file with
    | error e => cases h
    | ok =>
      have hlen := grows_outside (α := Unit) .io len (.cowFile path) (insert (.cowFile path) s)
      exact hlen (Finset.mem_insert_self _ _)

end Vyoma.Devices
