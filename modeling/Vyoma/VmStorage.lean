import Vyoma.KernelDevices
import Vyoma.VmCreation
import Mathlib.Data.Finset.Image

/-!
# Device-mapper storage of a VM

`prepare_privileged_storage` makes a copy-on-write file, attaches it and the root file
system to loop devices, and makes a snapshot of the two. No failure takes back what was
made before it, so a failed preparation leaves nothing only if it fails before the
copy-on-write file is there.
-/
namespace Vyoma.Devices
open HostFiles
open VmService (PreparedStorage Ledger Resource StorageOutcomes)

/-- An error of `anyhow`: what was attempted, and why it failed. -/
structure ContextError where
  context : String
  cause : StorageError
  deriving DecidableEq, Repr

def withContext {α : Type} (context : String) (x : StorageM α) : Prog Created ContextError α :=
  x.mapError (ContextError.mk context)

structure PrivilegedOutcomes where
  cowFile : CowFileOutcomes
  loopManager : Except String Unit
  dmManager : Except String Unit
  attachBase : AttachOutcomes
  attachCow : AttachOutcomes
  snapshot : SnapshotOutcomes

def preparePrivilegedStorage (rootfsSqfsPath vmDir vmId : String) (o : PrivilegedOutcomes) :
    Prog Created ContextError PreparedStorage := do
  let cowFile := vmDir ++ "/diff.cow"
  withContext "Failed to create COW file" (createCowFile cowFile o.cowFile)
  withContext "Failed to create LoopManager" (outside .io o.loopManager)
  withContext "Failed to create DmManager" (outside .io o.dmManager)
  let baseLoop ← withContext "Failed to attach squashfs loop device"
    (attach rootfsSqfsPath o.attachBase)
  let cowLoop ← withContext "Failed to attach COW loop device" (attach cowFile o.attachCow)
  let dmName := "vyoma-" ++ vmId
  let dmDevice ← withContext "Failed to create DM snapshot"
    (createSnapshot dmName baseLoop cowLoop o.snapshot)
  return ⟨dmDevice.path, [baseLoop, cowLoop], cowFile, dmName, false, none⟩

/-- A preparation that fails leaves nothing of what it created. -/
def AllOrNothing (out : Except ContextError PreparedStorage × Created) : Prop :=
  ∀ e, out.1 = .error e → out.2 = ∅

/-- Every step succeeds. -/
structure PrivilegedOutcomes.Ready (rootfsSqfsPath vmDir : String) (o : PrivilegedOutcomes) :
    Prop where
  cowFile : o.cowFile.Ready
  loopManager : o.loopManager = .ok ()
  dmManager : o.dmManager = .ok ()
  attachBase : ∃ device, o.attachBase.device rootfsSqfsPath = .ok device
  attachCow : ∃ device, o.attachCow.device (vmDir ++ "/diff.cow") = .ok device
  snapshot : o.snapshot.Ready

section Privileged

variable (rootfsSqfsPath vmDir vmId : String) {o : PrivilegedOutcomes}

theorem withContext_eq_ok_iff {α : Type} {context : String} {x : StorageM α} {s s' : Created}
    {a : α} : (withContext context x).exec s = (.ok a, s') ↔ x.exec s = (.ok a, s') :=
  Prog.exec_mapError_eq_ok_iff

theorem withContext_of_error {α : Type} (context : String) {x : StorageM α} {s s' : Created}
    {e : StorageError} (h : x.exec s = (.error e, s')) :
    (withContext context x).exec s = (.error ⟨context, e⟩, s') := by
  unfold withContext
  rw [Prog.exec_mapError, h]
  rfl

theorem exists_prepared_iff :
    (∃ storage s,
        (preparePrivilegedStorage rootfsSqfsPath vmDir vmId o).exec ∅ = (.ok storage, s)) ↔
      o.Ready rootfsSqfsPath vmDir := by
  simp only [preparePrivilegedStorage, Prog.exec_bind_eq_ok_iff, withContext_eq_ok_iff,
    createCowFile_eq_ok_iff, outside_eq_ok_iff, attach_eq_ok_iff, createSnapshot_eq_ok_iff,
    Prog.exec_pure_eq_ok_iff]
  constructor
  · rintro ⟨_, _, _, _, ⟨hcow, -⟩, _, _, ⟨hloop, -⟩, _, _, ⟨hdm, -⟩, base, _, ⟨hbase, -⟩, cow, _,
      ⟨hattach, -⟩, _, _, ⟨hsnapshot, -⟩, -⟩
    exact ⟨hcow, hloop, hdm, ⟨base, hbase⟩, ⟨cow, hattach⟩, hsnapshot⟩
  · rintro ⟨hcow, hloop, hdm, ⟨base, hbase⟩, ⟨cow, hattach⟩, hsnapshot⟩
    exact ⟨_, _, (), _, ⟨hcow, rfl⟩, (), _, ⟨hloop, rfl⟩, (), _, ⟨hdm, rfl⟩, base, _, ⟨hbase, rfl⟩,
      cow, _, ⟨hattach, rfl⟩, _, _, ⟨hsnapshot, rfl, rfl⟩, rfl, rfl⟩

theorem mem_preparePrivilegedStorage (h : o.cowFile.createsFile = true) :
    .cowFile (vmDir ++ "/diff.cow") ∈
      ((preparePrivilegedStorage rootfsSqfsPath vmDir vmId o).exec ∅).2 := by
  refine Prog.exec_bind_of_keeps (mem_createCowFile h _ ∅) fun _ => (?_ : Grows _) _
  refine ((grows_outside _ _).mapError _).bind fun _ => ?_
  refine ((grows_outside _ _).mapError _).bind fun _ => ?_
  refine ((grows_attach _ _).mapError _).bind fun base => ?_
  refine ((grows_attach _ _).mapError _).bind fun cow => ?_
  exact ((grows_createSnapshot _ _ _ _).mapError _).bind fun _ => grows_pure _

theorem preparePrivilegedStorage_of_not_createsFile (h : o.cowFile.createsFile = false) :
    ((preparePrivilegedStorage rootfsSqfsPath vmDir vmId o).exec ∅).2 = ∅ := by
  obtain ⟨e, he⟩ := createCowFile_of_not_createsFile h (vmDir ++ "/diff.cow") ∅
  have hfails : (withContext "Failed to create COW file"
      (createCowFile (vmDir ++ "/diff.cow") o.cowFile)).exec ∅ =
        (.error ⟨"Failed to create COW file", e⟩, ∅) := by
    unfold withContext
    rw [Prog.exec_mapError, he]
    rfl
  unfold preparePrivilegedStorage
  rw [Prog.exec_bind_error hfails]

/-- Storage preparation is all or nothing exactly if it fails before the copy-on-write file
is there, or does not fail at all. -/
theorem privileged_storage_all_or_nothing_iff (o : PrivilegedOutcomes) :
    AllOrNothing ((preparePrivilegedStorage rootfsSqfsPath vmDir vmId o).exec ∅) ↔
      o.cowFile.createsFile = false ∨ o.Ready rootfsSqfsPath vmDir := by
  constructor
  · intro h
    by_contra hnone
    obtain ⟨hcreates, hready⟩ := not_or.mp hnone
    have hmem := mem_preparePrivilegedStorage rootfsSqfsPath vmDir vmId
      (Bool.eq_true_of_not_eq_false hcreates)
    rw [← exists_prepared_iff rootfsSqfsPath vmDir vmId] at hready
    generalize (preparePrivilegedStorage rootfsSqfsPath vmDir vmId o).exec ∅ = out at h hmem hready
    obtain ⟨r, s⟩ := out
    cases r with
    | ok storage => exact hready ⟨storage, s, rfl⟩
    | error e =>
      have hs : s = ∅ := h e rfl
      rw [hs] at hmem
      exact Finset.notMem_empty _ hmem
  · rintro (hcreates | hready) e he
    · exact preparePrivilegedStorage_of_not_createsFile _ _ _ hcreates
    · obtain ⟨storage, s, hok⟩ := (exists_prepared_iff rootfsSqfsPath vmDir vmId).mpr hready
      rw [hok] at he
      cases he

/-- Every call succeeds but the last but one, the loading of the table of the snapshot. -/
def tableRefused : PrivilegedOutcomes where
  cowFile := ⟨.ok (), .ok (), .ok ()⟩
  loopManager := .ok ()
  dmManager := .ok ()
  attachBase := ⟨true, fun _ => .attached "/dev/loop0"⟩
  attachCow := ⟨true, fun _ => .attached "/dev/loop1"⟩
  snapshot :=
    { baseExists := true
      cowExists := true
      size := .ok ()
      origin := ⟨.ok (), .ok (), .ok (), .ok (), true⟩
      snapshot := ⟨.ok (), .ok (), .ok (), .error "Invalid argument (os error 22)", true⟩ }

theorem refused_table_leaves_devices :
    ¬AllOrNothing ((preparePrivilegedStorage "/images/alpine/rootfs.sqfs" "/vms/a1" "a1"
      tableRefused).exec ∅) := by
  intro h
  exact Finset.insert_ne_empty _ _ (h _ rfl)

end Privileged

/-! ## The same preparation in the creation of a VM -/

def CowFileOutcomes.stage (o : CowFileOutcomes) : VmService.CowFile :=
  if o.createsFile then if o.setLen.isOk then .created else .notSized else .notCreated

def DmOutcomes.createsDevice (o : DmOutcomes) : Bool :=
  o.name.isOk && o.uuid.isOk && o.deviceCreate.isOk

def DmOutcomes.ready (o : DmOutcomes) : Bool := o.createsDevice && o.tableLoad.isOk && o.appears

def SnapshotOutcomes.stage (o : SnapshotOutcomes) : VmService.DmSnapshot :=
  if !(o.baseExists && o.cowExists && o.size.isOk && o.origin.createsDevice) then .refused
  else if !(o.origin.ready && o.snapshot.createsDevice) then .originOnly
  else if !o.snapshot.ready then .notReady
  else .created

/-- The same outcomes, in the terms of the creation of a VM. -/
def PrivilegedOutcomes.stages (o : PrivilegedOutcomes) (qemuImg : VmService.QemuImg)
    (rootfsSqfsPath vmDir : String) : StorageOutcomes where
  qemuImg := qemuImg
  cowFile := o.cowFile.stage
  loopManager := o.loopManager.isOk
  dmManager := o.dmManager.isOk
  baseLoop := (o.attachBase.device rootfsSqfsPath).toOption
  cowLoop := (o.attachCow.device (vmDir ++ "/diff.cow")).toOption
  dmSnapshot := o.snapshot.stage

/-- The resource of a VM that an object is. -/
def resource (vmId : String) : KernelObject → Resource
  | .cowFile _ => .cowFile
  | .loopDevice path => .loopDevice path
  | .dmDevice name => if name = "vyoma-" ++ vmId then .dmSnapshot else .dmOrigin
  | .cgroup _ => .cgroup

def ledgerOf (l : Ledger) (vmId : String) (s : Created) : Ledger :=
  ⟨l.acquired ∪ s.image (resource vmId), l.held ∪ s.image (resource vmId)⟩

section Ledger

variable (l : Ledger) (vmId : String)

theorem ledgerOf_insert (obj : KernelObject) (s : Created) :
    ledgerOf l vmId (insert obj s) = (ledgerOf l vmId s).acquire (resource vmId obj) := by
  simp [ledgerOf, Ledger.acquire, Finset.image_insert, Finset.union_insert]

theorem resource_origin :
    resource vmId (.dmDevice (originName ("vyoma-" ++ vmId))) = .dmOrigin := by
  have hne : originName ("vyoma-" ++ vmId) ≠ "vyoma-" ++ vmId := by
    intro h
    have := congrArg String.length h
    simp [originName] at this
  simp [resource, hne]

theorem createSnapshot_ledger (s : Created) (vmDir base cow : String) (o : SnapshotOutcomes) :
    let out := (createSnapshot ("vyoma-" ++ vmId) base cow o).exec s
    VmService.createSnapshot (ledgerOf l vmId s) o.stage vmDir vmId base cow =
      ((out.1.map fun dev => (⟨dev.path, [base, cow], vmDir ++ "/diff.cow", "vyoma-" ++ vmId, false,
        none⟩ : PreparedStorage)).mapError fun _ => "Failed to create DM snapshot",
        ledgerOf l vmId out.2) := by
  have horigin : ledgerOf l vmId (insert (.dmDevice (originName ("vyoma-" ++ vmId))) s) =
      (ledgerOf l vmId s).acquire .dmOrigin := by
    rw [ledgerOf_insert, resource_origin]
  have hboth : ledgerOf l vmId (insert (.dmDevice ("vyoma-" ++ vmId))
      (insert (.dmDevice (originName ("vyoma-" ++ vmId))) s)) =
        ((ledgerOf l vmId s).acquire .dmOrigin).acquire .dmSnapshot := by
    rw [ledgerOf_insert, horigin]
    simp [resource]
  obtain ⟨hb, hc, size, ⟨n, u, d, t, a⟩, ⟨n', u', d', t', a'⟩⟩ := o
  cases hb
  · rfl
  cases hc
  · rfl
  cases size
  · rfl
  cases n
  · rfl
  cases u
  · rfl
  cases d
  · rfl
  cases t
  · exact Prod.ext rfl horigin.symm
  cases a
  · exact Prod.ext rfl horigin.symm
  cases n'
  · exact Prod.ext rfl horigin.symm
  cases u'
  · exact Prod.ext rfl horigin.symm
  cases d'
  · exact Prod.ext rfl horigin.symm
  cases t'
  · exact Prod.ext rfl hboth.symm
  cases a'
  · exact Prod.ext rfl hboth.symm
  exact Prod.ext rfl hboth.symm

/-- An outcome in the terms of the creation of a VM: the context of the error, and the ledger. -/
def told {α : Type} (out : Except ContextError α × Created) : Except String α × Ledger :=
  (out.1.mapError ContextError.context, ledgerOf l vmId out.2)

/-- A failure to attach ends the preparation, and a device that is attached is there after it. -/
theorem told_attach {α : Type} (context file : String) (o : AttachOutcomes) (s : Created)
    (k : String → Prog Created ContextError α) :
    told l vmId ((withContext context (attach file o) >>= k).exec s) =
      match (o.device file).toOption with
      | none => (.error context, ledgerOf l vmId s)
      | some device => told l vmId ((k device).exec (insert (.loopDevice device) s)) := by
  cases hdevice : o.device file with
  | error e =>
    have hfails := withContext_of_error context (attach_of_error hdevice s)
    rw [Prog.exec_bind_error hfails]
    rfl
  | ok device =>
    have hattached : (withContext context (attach file o)).exec s =
        (.ok device, insert (.loopDevice device) s) :=
      withContext_eq_ok_iff.mpr (attach_eq_ok_iff.mpr ⟨hdevice, rfl⟩)
    rw [Prog.exec_bind_ok hattached]
    rfl

/-- The last step, with the record of the storage that it ends with. -/
theorem told_createSnapshot (s : Created) (vmDir base cow : String) (o : SnapshotOutcomes) :
    told l vmId ((withContext "Failed to create DM snapshot"
        (createSnapshot ("vyoma-" ++ vmId) base cow o) >>= fun dmDevice =>
          pure (⟨dmDevice.path, [base, cow], vmDir ++ "/diff.cow", "vyoma-" ++ vmId, false, none⟩ :
            PreparedStorage)).exec s) =
      VmService.createSnapshot (ledgerOf l vmId s) o.stage vmDir vmId base cow := by
  refine Eq.trans ?_ (createSnapshot_ledger l vmId s vmDir base cow o).symm
  rw [Prog.exec_bind]
  simp only [withContext, Prog.exec_mapError]
  generalize (createSnapshot ("vyoma-" ++ vmId) base cow o).exec s = out
  obtain ⟨r, s'⟩ := out
  cases r <;> rfl

theorem preparePrivilegedStorage_ledger (rootfsSqfsPath vmDir : String) (o : PrivilegedOutcomes)
    (qemuImg : VmService.QemuImg) (s : Created) :
    let out := (preparePrivilegedStorage rootfsSqfsPath vmDir vmId o).exec s
    VmService.preparePrivilegedStorage (ledgerOf l vmId s) (o.stages qemuImg rootfsSqfsPath vmDir)
      vmDir vmId = (out.1.mapError ContextError.context, ledgerOf l vmId out.2) := by
  obtain ⟨⟨parent, file, len⟩, loop, dm, base, cow, snapshot⟩ := o
  have hcow := ledgerOf_insert l vmId (.cowFile (vmDir ++ "/diff.cow")) s
  cases parent
  · rfl
  cases file
  · rfl
  cases len
  · exact Prod.ext rfl hcow.symm
  cases loop
  · exact Prod.ext rfl hcow.symm
  cases dm
  · exact Prod.ext rfl hcow.symm
  -- The file and the managers are there; two devices and the snapshot are left.
  have hstart : ∀ {α : Type} (f : Prog Created ContextError α), (do
      withContext "Failed to create COW file"
        (createCowFile (vmDir ++ "/diff.cow") ⟨.ok (), .ok (), .ok ()⟩)
      withContext "Failed to create LoopManager" (outside .io (.ok ()))
      withContext "Failed to create DmManager" (outside .io (.ok ()))
      f).exec s = f.exec (insert (.cowFile (vmDir ++ "/diff.cow")) s) := fun f => rfl
  show _ = told l vmId ((preparePrivilegedStorage rootfsSqfsPath vmDir vmId _).exec s)
  unfold preparePrivilegedStorage
  simp only [hstart, told_attach, told_createSnapshot, ledgerOf_insert]
  rfl

end Ledger

end Vyoma.Devices
