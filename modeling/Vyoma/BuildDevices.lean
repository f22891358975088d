import Vyoma.BuildRunner
import Vyoma.KernelDevices
import Vyoma.RustText

/-!
# The devices of a build

A `RUN` attaches the ext4 image and a copy-on-write file to loop devices, makes a
device-mapper snapshot of the two, boots a VM on it, perhaps in a cgroup of its own, and
packs the snapshot into a new layer. The guard that releases the devices is made after the
VM has run. The state is the files of the runner and the kernel objects of the call.
-/
namespace Vyoma.Build
open HostFiles
open Devices
open RustText (trimStartMatches)

/-- How the VM process ends; a process killed by a signal has no exit code. -/
inductive VmEnd where
  | exited (code : Option ℤ)
  | timedOut

/-- What the start of the VM meets. Limits that cannot be set on a cgroup are only logged. -/
structure VmOutcomes where
  spawn : Except String Unit
  cgroup : CgroupOutcomes
  ending : VmEnd

/-- What the release of the devices meets. -/
structure ReleaseOutcomes where
  loopManager : Except String Unit
  detaches : String → Detach
  dmManager : Except String Unit
  snapshot : RemovalOutcomes
  cgroup : Except String Unit

/-- What a `RUN` meets in full: `files` without its `devices` and `vm`, which the other
outcomes settle. -/
structure BuildOutcomes (γ : Type) where
  files : RunOutcome γ
  pid : UInt32
  cowFile : CowFileOutcomes
  loopManager : Except String Unit
  attachBase : AttachOutcomes
  attachCow : AttachOutcomes
  dmManager : Except String Unit
  snapshot : SnapshotOutcomes
  vm : VmOutcomes
  release : ReleaseOutcomes
  removeCowFile : Bool

structure BuildResourceGuard where
  loopDevices : List String
  dmName : Option String
  cgroupVmId : Option String

def detachAll (o : ReleaseOutcomes) : List String → StorageM Unit
  | [] => pure ()
  | device :: devices => do
    let _ ← (detach device (o.detaches device)).attempt
    detachAll o devices

def releaseSnapshot (o : ReleaseOutcomes) : Option String → StorageM Unit
  | none => pure ()
  | some dmName => do
    Devices.outside .io o.dmManager
    let _ ← (removeSnapshot dmName o.snapshot).attempt

def releaseCgroup (o : ReleaseOutcomes) : Option String → StorageM Unit
  | none => pure ()
  | some cgroupVmId => do
    let _ ← (removeVmCgroup cgroupVmId o.cgroup).attempt

/-- `drop` of the guard. Without a loop manager or a device-mapper manager it gives up. -/
def BuildResourceGuard.drop (guard : BuildResourceGuard) (o : ReleaseOutcomes) : StorageM Unit := do
  Devices.outside .io o.loopManager
  detachAll o guard.loopDevices
  releaseSnapshot o guard.dmName
  releaseCgroup o guard.cgroupVmId

/-- The cgroup of a VM process; the manager of cgroups is optional. -/
def joinCgroup (cgroupVmId : Option String) (o : CgroupOutcomes) : StorageM Unit :=
  match cgroupVmId with
  | none => pure ()
  | some cgroupId => createVmCgroup (trimStartMatches "vyoma-build-" cgroupId) o

/-- What `run_command_in_ch` does once there is a boot image, with the exit code of the VM as
its result. -/
def startCh (cgroupVmId : Option String) (o : VmOutcomes) : Prog Created BuildError ℤ := do
  Prog.answer (o.spawn.mapError fun e => .vmError ("Failed to start cloud-hypervisor: " ++ e))
  let _ ← ((joinCgroup cgroupVmId o.cgroup).mapError fun e => .vmError e.display).attempt
  match o.ending with
  | .timedOut => throw (.vmError "VM execution timed out")
  | .exited code => return code.getD 1

/-- `run_command_in_ch` on the files and the devices. -/
def runCommandOnDevices {γ : Type} (command : String) (cgroupVmId : Option String)
    (o : BuildOutcomes γ) : Prog (Work γ × Created) BuildError ℤ := do
  (prepareBoot command o.files).onFst
  (startCh cgroupVmId o.vm).onSnd

def step {α : Type} (context : String) (x : StorageM α) : Prog Created BuildError α :=
  x.mapError fun e => .executionError (context ++ e.display)

/-- The first half of `execute_build_in_vm`: everything up to the snapshot, with the two loop
devices as its result. -/
def acquireDevices (ext4Path cowPath dmName : String) {γ : Type} (o : BuildOutcomes γ) :
    Prog Created BuildError (String × String) := do
  step "Failed to create COW file: " (createCowFile cowPath o.cowFile)
  step "Failed to create loop manager: " (Devices.outside .io o.loopManager)
  let baseLoop ← step "Failed to attach base ext4: " (attach ext4Path o.attachBase)
  let cowLoop ← step "Failed to attach COW: " (attach cowPath o.attachCow)
  step "Failed to create DM manager: " (Devices.outside .io o.dmManager)
  let _ ← step "Failed to create DM snapshot: " (createSnapshot dmName baseLoop cowLoop o.snapshot)
  return (baseLoop, cowLoop)

/-- The new layer. A conversion that fails ends the call at once; all other failures are
handed on. -/
def makeLayer {γ : Type} (newLayerPath : HostPath) (o : RunOutcome γ) :
    Except BuildError ℤ → BuildM γ (Except BuildError HostPath)
  | .error e => return .error e
  | .ok code =>
    if code = 0 then
      if o.dmDeviceExists then do
        writeFile .executionError newLayerPath o.layer
        return .ok newLayerPath
      else return .error (.executionError "DM device not found for layer creation")
    else return .error (.executionError ("Build command failed with exit code " ++ toString code))

/-- The second half: the VM, the guard, the layer, and the end of the guard. -/
def runOnDevices {γ : Type} (command : String) (loopDevices : List String) (dmName : String)
    (cgroupVmId : Option String) (cowPath : String) (newLayerPath : HostPath)
    (o : BuildOutcomes γ) : Prog (Work γ × Created) BuildError HostPath := do
  let vmResult ← (runCommandOnDevices command cgroupVmId o).attempt
  let guard : BuildResourceGuard := ⟨loopDevices, some dmName, cgroupVmId⟩
  let res ← (makeLayer newLayerPath o.files vmResult).onFst.attempt
  let _ ← ((guard.drop o.release).mapError fun e => .executionError e.display).onSnd.attempt
  match res with
  | .error e => throw e
  | .ok res =>
    if o.removeCowFile then Prog.change fun s => (s.1, s.2.erase (.cowFile cowPath))
    else pure ()
    Prog.answer res

/-- `execute_build_in_vm` on the files and the devices; `cgroups` is whether the runner has
a manager of cgroups. -/
def executeBuildOnDevices {γ : Type} (r : BuildRunner) (cgroups : Bool) (baseSquashfs : HostPath)
    (command : String) (buildDir : HostDir) (o : BuildOutcomes γ) :
    Prog (Work γ × Created) BuildError HostPath := do
  let ext4Path ← (ext4For r baseSquashfs o.files).onFst
  let cowPath := r.display ⟨buildDir, "cow.img"⟩
  let dmName := "vyoma-build-" ++ toString o.pid
  let cgroupVmId := if cgroups then some ("vyoma-build-" ++ toString o.pid) else none
  let loops ← (acquireDevices (r.display ext4Path) cowPath dmName o).onSnd
  runOnDevices command [loops.1, loops.2] dmName cgroupVmId cowPath ⟨buildDir, "layer.sqfs"⟩ o

/-! ## The files of the step -/

section Files

open Prog (steady_pure steady_throw steady_answer)

variable {γ : Type} {o : BuildOutcomes γ}

theorem steady_acquireDevices (ext4Path cowPath dmName : String) (o : BuildOutcomes γ) :
    Prog.Steady (acquireDevices ext4Path cowPath dmName o) := by
  refine ((steady_createCowFile _ _).mapError _).bind fun _ => ?_
  refine ((steady_answer _).mapError _).bind fun _ => ?_
  refine ((steady_attach _ _).mapError _).bind fun _ => ?_
  refine ((steady_attach _ _).mapError _).bind fun _ => ?_
  refine ((steady_answer _).mapError _).bind fun _ => ?_
  exact ((steady_createSnapshot _ _ _ _).mapError _).bind fun _ => steady_pure _

/-- A cgroup that cannot be made does not keep the VM from running. -/
theorem steady_startCh (cgroupVmId : Option String) (o : VmOutcomes) :
    Prog.Steady (startCh cgroupVmId o) := by
  have hjoin : Prog.Steady (joinCgroup cgroupVmId o.cgroup) := by
    cases cgroupVmId with
    | none => exact steady_pure ()
    | some id => exact steady_createVmCgroup _ _
  refine (steady_answer _).bind fun _ => ?_
  refine (hjoin.mapError _).attempt.bind fun _ => ?_
  cases o.ending with
  | timedOut => exact steady_throw _
  | exited code => exact steady_pure _

/-- What the devices and the VM amount to for the files of a build. -/
def BuildOutcomes.amountsTo (r : BuildRunner) (cgroups : Bool) (baseSquashfs : HostPath)
    (buildDir : HostDir) (o : BuildOutcomes γ) (w : Work γ) : RunOutcome γ :=
  { o.files with
    devices :=
      match ((ext4For r baseSquashfs o.files).exec w).1 with
      | .error _ => .ok ()
      | .ok ext4Path => ((acquireDevices (r.display ext4Path) (r.display ⟨buildDir, "cow.img"⟩)
          ("vyoma-build-" ++ toString o.pid) o).exec ∅).1.map fun _ => ()
    vm := ((startCh (if cgroups then some ("vyoma-build-" ++ toString o.pid) else none)
      o.vm).exec ∅).1 }

theorem executeBuildInVm_eq (r : BuildRunner) (baseSquashfs : HostPath) (command : String)
    (buildDir : HostDir) (o : RunOutcome γ) :
    executeBuildInVm r baseSquashfs command buildDir o = (do
      let _ ← ext4For r baseSquashfs o
      Prog.answer o.devices
      let vmResult ← (runCommandInCh command o).attempt
      let res ← makeLayer ⟨buildDir, "layer.sqfs"⟩ o vmResult
      Prog.answer res) := by
  have hlayer : ∀ vmResult : Except BuildError ℤ, (do
      let code ← Prog.answer vmResult
      if code = 0 then
        if o.dmDeviceExists then
          writeFile .executionError ⟨buildDir, "layer.sqfs"⟩ o.layer
          return ⟨buildDir, "layer.sqfs"⟩
        else throw (.executionError "DM device not found for layer creation")
      else throw (.executionError ("Build command failed with exit code " ++ toString code))) =
      (do
        let res ← makeLayer ⟨buildDir, "layer.sqfs"⟩ o vmResult
        (Prog.answer res : BuildM γ HostPath)) := by
    intro vmResult
    cases vmResult with
    | error e => rfl
    | ok code =>
      show (if code = 0 then _ else _) = (makeLayer _ o (.ok code) >>= fun res => Prog.answer res)
      by_cases hcode : code = 0
      · simp only [makeLayer, if_pos hcode]
        cases o.dmDeviceExists with
        | false => rfl
        | true => cases o.layer <;> rfl
      · simp only [makeLayer, if_neg hcode]
        rfl
  simp only [← hlayer]
  exact congrArg (fun x => ext4For r baseSquashfs o >>= fun _ =>
    Prog.answer o.devices >>= fun _ => x) (Prog.attempt_bind_answer _ _).symm

theorem runOnDevices_files (command : String) (loops : List String) (dmName : String)
    (cgroupVmId : Option String) (cowPath : String) (newLayerPath : HostPath) (w : Work γ)
    (s : Created) :
    let out := (runOnDevices command loops dmName cgroupVmId cowPath newLayerPath o).exec (w, s)
    (makeLayer newLayerPath o.files ((runCommandOnDevices command cgroupVmId o).exec (w, s)).1 >>=
        fun res => Prog.answer res).exec
        ((runCommandOnDevices command cgroupVmId o).exec (w, s)).2.1 =
      (out.1, out.2.1) := by
  unfold runOnDevices
  rw [Prog.exec_bind_ok (Prog.exec_attempt _ _), Prog.exec_bind_ok (Prog.exec_attempt _ _),
    Prog.exec_bind_ok (Prog.exec_attempt _ _), Prog.exec_bind]
  simp only [Prog.exec_onSnd, Prog.exec_onFst, Prog.exec_mapError]
  generalize (makeLayer newLayerPath o.files _).exec _ = out
  obtain ⟨res, w'⟩ := out
  cases res with
  | error e => rfl
  | ok res => cases o.removeCowFile <;> rfl

theorem runCommandOnDevices_files (command : String) (files : RunOutcome γ)
    {cgroupVmId : Option String} (hboot : prepareBoot command files = prepareBoot command o.files)
    (hvm : ∀ s, files.vm = ((startCh cgroupVmId o.vm).exec s).1) (w : Work γ) (s : Created) :
    let out := (runCommandOnDevices command cgroupVmId o).exec (w, s)
    (runCommandInCh command files).exec w = (out.1, out.2.1) := by
  unfold runCommandInCh runCommandOnDevices
  rw [hboot, Prog.exec_bind, Prog.exec_bind, Prog.exec_onFst]
  generalize (prepareBoot command o.files).exec w = out
  obtain ⟨boot, w'⟩ := out
  cases boot with
  | error e => rfl
  | ok _ =>
    show ((files.vm, w') : Except BuildError ℤ × Work γ) = _
    rw [hvm s]
    rfl

/-- On the files of the runner the step is `execute_build_in_vm` with these outcomes. -/
theorem executeBuildOnDevices_files (r : BuildRunner) (cgroups : Bool) (baseSquashfs : HostPath)
    (command : String) (buildDir : HostDir) (o : BuildOutcomes γ) (w : Work γ) (s : Created) :
    let out := (executeBuildOnDevices r cgroups baseSquashfs command buildDir o).exec (w, s)
    (executeBuildInVm r baseSquashfs command buildDir
      (o.amountsTo r cgroups baseSquashfs buildDir w)).exec w = (out.1, out.2.1) := by
  have hfiles : ext4For r baseSquashfs (o.amountsTo r cgroups baseSquashfs buildDir w) =
      ext4For r baseSquashfs o.files := rfl
  have hlayer : ∀ path vm, makeLayer path (o.amountsTo r cgroups baseSquashfs buildDir w) vm =
      makeLayer path o.files vm := fun _ vm => by cases vm <;> rfl
  rw [executeBuildInVm_eq, hfiles]
  unfold executeBuildOnDevices
  simp only [hlayer]
  cases hext4 : (ext4For r baseSquashfs o.files).exec w with
  | mk ext4 w' =>
    cases ext4 with
    | error e =>
      rw [Prog.exec_bind_error hext4, Prog.exec_bind, Prog.exec_onFst, hext4]
    | ok ext4Path =>
      have hdevices := steady_acquireDevices (r.display ext4Path) (r.display ⟨buildDir, "cow.img"⟩)
        ("vyoma-build-" ++ toString o.pid) o ∅ s
      have hanswer : (o.amountsTo r cgroups baseSquashfs buildDir w).devices =
          ((acquireDevices (r.display ext4Path) (r.display ⟨buildDir, "cow.img"⟩)
            ("vyoma-build-" ++ toString o.pid) o).exec s).1.map fun _ => () := by
        unfold BuildOutcomes.amountsTo
        rw [hext4]
        exact congrArg (Except.map fun _ => ()) hdevices
      have hvm : ∀ s₁, (o.amountsTo r cgroups baseSquashfs buildDir w).vm = ((startCh
          (if cgroups then some ("vyoma-build-" ++ toString o.pid) else none) o.vm).exec s₁).1 :=
        fun s₁ => steady_startCh _ o.vm ∅ s₁
      have hfirst : (ext4For r baseSquashfs o.files).onFst.exec (w, s) =
          (.ok ext4Path, (w', s)) := by
        rw [Prog.exec_onFst, hext4]
      rw [Prog.exec_bind_ok hext4, Prog.exec_bind_ok hfirst, Prog.exec_bind, Prog.exec_bind,
        Prog.exec_answer, Prog.exec_onSnd, hanswer]
      generalize (acquireDevices (r.display ext4Path) (r.display ⟨buildDir, "cow.img"⟩)
        ("vyoma-build-" ++ toString o.pid) o).exec s = out
      obtain ⟨acquire, s₁⟩ := out
      cases acquire with
      | error e => rfl
      | ok loops =>
        refine Eq.trans ?_ (runOnDevices_files command _ _ _ _ _ w' s₁)
        have hcommand := runCommandOnDevices_files command
          (o.amountsTo r cgroups baseSquashfs buildDir w) rfl hvm w' s₁
        show (Prog.attempt _ >>= _).exec w' = _
        rw [Prog.exec_bind_ok (Prog.exec_attempt _ _), hcommand]

end Files

/-! ## What the first half leaves -/

/-- No loop device, device-mapper device or cgroup is among the objects. -/
def Released (s : Created) : Prop := ∀ obj ∈ s, ∃ path, obj = .cowFile path

theorem released_empty : Released ∅ := fun _ h => absurd h (Finset.notMem_empty _)

theorem keeps_released_createCowFile (path : String) (o : CowFileOutcomes) :
    Prog.Keeps Released (createCowFile path o) := by
  refine (Prog.keeps_answer _).bind fun _ => (Prog.keeps_answer _).bind fun _ => ?_
  refine (Prog.keeps_change fun s hs obj hobj => ?_).bind fun _ => Prog.keeps_answer _
  obtain rfl | hobj := Finset.mem_insert.mp hobj
  · exact ⟨path, rfl⟩
  · exact hs obj hobj

section Acquire

variable {γ : Type} {o : BuildOutcomes γ}

/-- The base image gets as far as a loop device. -/
structure BuildOutcomes.AttachesBase (o : BuildOutcomes γ) : Prop where
  cowFile : o.cowFile.Ready
  loopManager : o.loopManager = .ok ()
  attachBase : o.attachBase.attaches = true

/-- After the base image, the copy-on-write file is attached and the snapshot is made. -/
structure BuildOutcomes.MakesSnapshot (o : BuildOutcomes γ) : Prop where
  attachCow : o.attachCow.attaches = true
  dmManager : o.dmManager = .ok ()
  snapshot : o.snapshot.Ready

variable (ext4Path cowPath dmName : String)

theorem step_eq_ok_iff {α : Type} {context : String} {x : StorageM α} {s s' : Created} {a : α} :
    (step context x).exec s = (.ok a, s') ↔ x.exec s = (.ok a, s') := Prog.exec_mapError_eq_ok_iff

theorem acquireDevices_eq_ok_iff {s s' : Created} {loops : String × String} :
    (acquireDevices ext4Path cowPath dmName o).exec s = (.ok loops, s') ↔
      (o.cowFile.Ready ∧ o.loopManager = .ok () ∧ o.attachBase.device ext4Path = .ok loops.1) ∧
      (o.attachCow.device cowPath = .ok loops.2 ∧ o.dmManager = .ok () ∧ o.snapshot.Ready) ∧
      s' = insert (.dmDevice dmName) (insert (.dmDevice (originName dmName))
        (insert (.loopDevice loops.2) (insert (.loopDevice loops.1)
          (insert (.cowFile cowPath) s)))) := by
  simp only [acquireDevices, Prog.exec_bind_eq_ok_iff, step_eq_ok_iff, createCowFile_eq_ok_iff,
    outside_eq_ok_iff, attach_eq_ok_iff, createSnapshot_eq_ok_iff, Prog.exec_pure_eq_ok_iff]
  constructor
  · rintro ⟨_, _, ⟨hcow, rfl⟩, _, _, ⟨hloop, rfl⟩, _, _, ⟨hbase, rfl⟩, _, _, ⟨hattach, rfl⟩, _, _,
      ⟨hdm, rfl⟩, _, _, ⟨hsnapshot, -, rfl⟩, rfl, rfl⟩
    exact ⟨⟨hcow, hloop, hbase⟩, ⟨hattach, hdm, hsnapshot⟩, rfl⟩
  · rintro ⟨⟨hcow, hloop, hbase⟩, ⟨hattach, hdm, hsnapshot⟩, rfl⟩
    exact ⟨(), _, ⟨hcow, rfl⟩, (), _, ⟨hloop, rfl⟩, _, _, ⟨hbase, rfl⟩, _, _, ⟨hattach, rfl⟩, (), _,
      ⟨hdm, rfl⟩, _, _, ⟨hsnapshot, rfl, rfl⟩, rfl, rfl⟩

/-- A call that gets no loop device for the base image creates a file at most. -/
theorem keeps_released_acquireDevices (h : ¬o.AttachesBase) :
    Prog.Keeps Released (acquireDevices ext4Path cowPath dmName o) := by
  have hcow : Prog.Yields (fun _ => o.cowFile.Ready)
      (step "Failed to create COW file: " (createCowFile cowPath o.cowFile)) :=
    Prog.yields_of_eq_ok fun s u s' hok => (createCowFile_eq_ok_iff.mp (step_eq_ok_iff.mp hok)).1
  have hloop : Prog.Yields (fun _ => o.loopManager = .ok ())
      (step "Failed to create loop manager: " (Devices.outside .io o.loopManager)) :=
    Prog.yields_of_eq_ok fun s u s' hok => (outside_eq_ok_iff.mp (step_eq_ok_iff.mp hok)).1
  have hbase : Prog.Yields (fun _ => o.attachBase.attaches = true)
      (step "Failed to attach base ext4: " (attach ext4Path o.attachBase)) :=
    Prog.yields_of_eq_ok fun s device s' hok =>
      (attaches_iff ext4Path).mpr ⟨device, (attach_eq_ok_iff.mp (step_eq_ok_iff.mp hok)).1⟩
  refine ((keeps_released_createCowFile _ _).mapError _).bind_of_yields hcow fun _ hready => ?_
  refine Prog.Keeps.bind_of_yields ((Prog.keeps_answer _).mapError _) hloop fun _ hmanager => ?_
  have hnot : o.attachBase.attaches ≠ true := fun hattaches => h ⟨hready, hmanager, hattaches⟩
  refine Prog.Keeps.bind_of_yields ?_ hbase fun _ hattaches => absurd hattaches hnot
  intro s hs
  cases hdevice : o.attachBase.device ext4Path with
  | ok device => exact absurd ((attaches_iff ext4Path).mpr ⟨device, hdevice⟩) hnot
  | error e =>
    have hsame : ((step "Failed to attach base ext4: " (attach ext4Path o.attachBase)).exec s).2 =
        s := by
      unfold step
      rw [Prog.exec_mapError, attach_of_error hdevice]
    rw [hsame]
    exact hs

/-- The loop device of the base image is there however the first half goes on. -/
theorem mem_acquireDevices (h : o.AttachesBase) (s : Created) :
    ∃ device, .loopDevice device ∈ ((acquireDevices ext4Path cowPath dmName o).exec s).2 := by
  obtain ⟨device, hdevice⟩ := (attaches_iff ext4Path).mp h.attachBase
  refine ⟨device, ?_⟩
  have hcow : (step "Failed to create COW file: " (createCowFile cowPath o.cowFile)).exec s =
      (.ok (), _) := step_eq_ok_iff.mpr (createCowFile_eq_ok_iff.mpr ⟨h.cowFile, rfl⟩)
  have hloop : (step "Failed to create loop manager: "
      (Devices.outside .io o.loopManager)).exec (insert (.cowFile cowPath) s) = (.ok (), _) :=
    step_eq_ok_iff.mpr (outside_eq_ok_iff.mpr ⟨h.loopManager, rfl⟩)
  have hbase : (step "Failed to attach base ext4: " (attach ext4Path o.attachBase)).exec
      (insert (.cowFile cowPath) s) = (.ok device, _) :=
    step_eq_ok_iff.mpr (attach_eq_ok_iff.mpr ⟨hdevice, rfl⟩)
  unfold acquireDevices
  rw [Prog.exec_bind_ok hcow, Prog.exec_bind_ok hloop, Prog.exec_bind_ok hbase]
  refine (?_ : Grows _) _ _ (Finset.mem_insert_self _ _)
  refine ((grows_attach _ _).mapError _).bind fun _ => ?_
  refine ((grows_outside _ _).mapError _).bind fun _ => ?_
  exact ((grows_createSnapshot _ _ _ _).mapError _).bind fun _ => grows_pure _

end Acquire

/-! ## What the guard releases -/

/-- The release calls all succeed. -/
structure ReleaseOutcomes.Succeed (o : ReleaseOutcomes) : Prop where
  loopManager : o.loopManager = .ok ()
  detaches : ∀ device, o.detaches device = .detached
  dmManager : o.dmManager = .ok ()
  dmName : o.snapshot.name = .ok ()
  removeSnapshot : o.snapshot.removeSnapshot = .ok ()
  originName : o.snapshot.originName = .ok ()
  removeOrigin : o.snapshot.removeOrigin = .ok ()
  cgroup : o.cgroup = .ok ()

section Guard

variable {o : ReleaseOutcomes}

theorem mem_detachAll_iff (h : o.Succeed) (devices : List String) (s : Created)
    (obj : KernelObject) :
    ((detachAll o devices).exec s).1 = .ok () ∧
      (obj ∈ ((detachAll o devices).exec s).2 ↔ obj ∈ s ∧ obj ∉ devices.map .loopDevice) := by
  induction devices generalizing s with
  | nil => simp [detachAll]
  | cons device devices ih =>
    have hdetach : (detach device (o.detaches device)).attempt.exec s =
        (.ok (.ok ()), s.erase (.loopDevice device)) := by
      rw [h.detaches]
      rfl
    unfold detachAll
    rw [Prog.exec_bind_ok hdetach]
    refine ⟨(ih _).1, ?_⟩
    rw [(ih _).2, Finset.mem_erase, List.map_cons, List.mem_cons]
    tauto

/-- The objects of a snapshot, and of a cgroup, that a guard names. -/
def snapshotObjects (dmName : Option String) : List KernelObject :=
  dmName.elim [] fun name => [.dmDevice name, .dmDevice (originName name)]

def cgroupObjects (cgroupVmId : Option String) : List KernelObject :=
  cgroupVmId.elim [] fun vmId => [.cgroup (cgroupPath vmId)]

theorem mem_releaseSnapshot_iff (h : o.Succeed) (dmName : Option String) (s : Created)
    (obj : KernelObject) :
    ((releaseSnapshot o dmName).exec s).1 = .ok () ∧
      (obj ∈ ((releaseSnapshot o dmName).exec s).2 ↔ obj ∈ s ∧ obj ∉ snapshotObjects dmName) := by
  cases dmName with
  | none => simp [releaseSnapshot, snapshotObjects]
  | some name =>
    have hexec : (releaseSnapshot o (some name)).exec s =
        (.ok (), (s.erase (.dmDevice name)).erase (.dmDevice (originName name))) := by
      simp only [releaseSnapshot, removeSnapshot, h.dmManager, h.dmName, h.removeSnapshot,
        h.originName, h.removeOrigin]
      rfl
    rw [hexec]
    refine ⟨rfl, ?_⟩
    simp only [Finset.mem_erase, snapshotObjects, Option.elim_some, List.mem_cons,
      List.not_mem_nil, or_false]
    tauto

theorem mem_releaseCgroup_iff (h : o.Succeed) (cgroupVmId : Option String) (s : Created)
    (obj : KernelObject) :
    obj ∈ ((releaseCgroup o cgroupVmId).exec s).2 ↔ obj ∈ s ∧ obj ∉ cgroupObjects cgroupVmId := by
  cases cgroupVmId with
  | none => simp [releaseCgroup, cgroupObjects]
  | some vmId =>
    have hexec :
        ((releaseCgroup o (some vmId)).exec s).2 = s.erase (.cgroup (cgroupPath vmId)) := by
      simp only [releaseCgroup, removeVmCgroup, h.cgroup]
      rfl
    rw [hexec, Finset.mem_erase]
    simp only [cgroupObjects, Option.elim_some, List.mem_singleton]
    tauto

/-- What is released is exactly what the guard names. -/
theorem mem_drop_iff (h : o.Succeed) (guard : BuildResourceGuard) (s : Created)
    (obj : KernelObject) :
    obj ∈ ((guard.drop o).exec s).2 ↔ obj ∈ s ∧ obj ∉ guard.loopDevices.map .loopDevice ∧
      obj ∉ snapshotObjects guard.dmName ∧ obj ∉ cgroupObjects guard.cgroupVmId := by
  have hmanager : (Devices.outside .io o.loopManager).exec s = (.ok (), s) :=
    outside_eq_ok_iff.mpr ⟨h.loopManager, rfl⟩
  obtain ⟨hdetach, hdetached⟩ := mem_detachAll_iff h guard.loopDevices s obj
  obtain ⟨hremove, hremoved⟩ := mem_releaseSnapshot_iff h guard.dmName
    ((detachAll o guard.loopDevices).exec s).2 obj
  unfold BuildResourceGuard.drop
  rw [Prog.exec_bind_ok hmanager, Prog.exec_bind_ok (Prod.ext hdetach rfl),
    Prog.exec_bind_ok (Prod.ext hremove rfl), mem_releaseCgroup_iff h, hremoved, hdetached]
  tauto

end Guard

/-! ## The cgroup of the VM -/

section Cgroup

/-- The VM process is started. -/
def BuildOutcomes.starts {γ : Type} (o : BuildOutcomes γ) : Bool :=
  o.files.kernelExists && o.files.initramfs.answer.isOk && o.vm.spawn.isOk

theorem runCommandOnDevices_created {γ : Type} (command : String) (cgroupVmId : Option String)
    (o : BuildOutcomes γ) (w : Work γ) (s : Created) :
    ((runCommandOnDevices command cgroupVmId o).exec (w, s)).2.2 =
      if o.starts then ((joinCgroup cgroupVmId o.vm.cgroup).exec s).2 else s := by
  obtain ⟨files, pid, cowFile, loopManager, attachBase, attachCow, dmManager, snapshot, vm⟩ := o
  obtain ⟨spawn, cgroup, ending⟩ := vm
  obtain ⟨millis, createBuildDir, createCacheDir, convertError, convert, devices, kernelExists,
    initramfs⟩ := files
  cases kernelExists with
  | false => rfl
  | true =>
    cases initramfs with
    | refused e => rfl
    | broken e left => rfl
    | done image =>
      cases spawn with
      | error e => rfl
      | ok => cases ending <;> rfl

/-- The directory that is created is not the one that the guard removes. -/
theorem cgroupPath_trim_ne (id : String) :
    cgroupPath (trimStartMatches "vyoma-build-" ("vyoma-build-" ++ id)) ≠
      cgroupPath ("vyoma-build-" ++ id) := by
  intro h
  have hsame := congrArg (fun s => s.toList.length) ((String.append_right_inj _).mp h)
  have hshorter := RustText.length_trimStartMatches_append_le (p := "vyoma-build-") (by decide) id
  simp only [String.toList_append, List.length_append] at hsame
  have : ("vyoma-build-".toList).length = 12 := by decide
  omega

theorem slicePath_ne_cgroupPath (id : String) : slicePath ≠ cgroupPath id := by
  intro h
  have hsame := congrArg (fun s => s.toList.length) h
  unfold cgroupPath at hsame
  simp only [String.toList_append, List.length_append] at hsame
  have : ("/vyoma-".toList).length = 7 := by decide
  omega

/-- The runner makes a cgroup for the VM of a build. -/
def BuildOutcomes.makesCgroup {γ : Type} (cgroups : Bool) (o : BuildOutcomes γ) : Bool :=
  cgroups && o.starts && o.vm.cgroup.creates

theorem runCommandOnDevices_of_not_makesCgroup {γ : Type} {cgroups : Bool} {o : BuildOutcomes γ}
    (h : o.makesCgroup cgroups = false) (command id : String) (w : Work γ) (s : Created) :
    ((runCommandOnDevices command (if cgroups then some id else none) o).exec (w, s)).2.2 = s := by
  rw [runCommandOnDevices_created]
  unfold BuildOutcomes.makesCgroup at h
  cases cgroups with
  | false => cases o.starts <;> rfl
  | true =>
    cases hstarts : o.starts with
    | false => rfl
    | true =>
      rw [hstarts] at h
      exact createVmCgroup_of_not_creates h _ s

theorem mem_runCommandOnDevices {γ : Type} {cgroups : Bool} {o : BuildOutcomes γ}
    (h : o.makesCgroup cgroups = true) (command id : String) (w : Work γ) (s : Created) :
    ∃ path, path ≠ cgroupPath ("vyoma-build-" ++ id) ∧
      .cgroup path ∈ ((runCommandOnDevices command
        (if cgroups then some ("vyoma-build-" ++ id) else none) o).exec (w, s)).2.2 := by
  unfold BuildOutcomes.makesCgroup at h
  rw [Bool.and_eq_true, Bool.and_eq_true] at h
  obtain ⟨⟨hcgroups, hstarts⟩, hcreates⟩ := h
  rw [runCommandOnDevices_created, if_pos hstarts, hcgroups]
  obtain ⟨path, hpath, hmem⟩ := mem_createVmCgroup hcreates
    (trimStartMatches "vyoma-build-" ("vyoma-build-" ++ id)) s
  refine ⟨path, ?_, hmem⟩
  obtain rfl | rfl := hpath
  · exact slicePath_ne_cgroupPath _
  · exact cgroupPath_trim_ne id

end Cgroup

/-! ## The whole step -/

section Whole

variable {γ : Type} {o : BuildOutcomes γ}

theorem released_erase_iff (s : Created) (path : String) :
    Released (s.erase (.cowFile path)) ↔ Released s := by
  constructor
  · intro h obj hobj
    by_cases hcow : obj = .cowFile path
    · exact ⟨path, hcow⟩
    · exact h obj (Finset.mem_erase.mpr ⟨hcow, hobj⟩)
  · intro h obj hobj
    exact h obj (Finset.mem_of_mem_erase hobj)

/-- After the second half there is what the guard leaves, with the copy-on-write file or
without it. -/
theorem released_runOnDevices_iff (command : String) (loops : List String) (dmName : String)
    (cgroupVmId : Option String) (cowPath : String) (newLayerPath : HostPath) (w : Work γ)
    (s : Created) :
    Released ((runOnDevices command loops dmName cgroupVmId cowPath newLayerPath o).exec
        (w, s)).2.2 ↔
      Released (((BuildResourceGuard.drop ⟨loops, some dmName, cgroupVmId⟩ o.release).exec
        ((runCommandOnDevices command cgroupVmId o).exec (w, s)).2.2).2) := by
  unfold runOnDevices
  rw [Prog.exec_bind_ok (Prog.exec_attempt _ _), Prog.exec_bind_ok (Prog.exec_attempt _ _),
    Prog.exec_bind_ok (Prog.exec_attempt _ _)]
  simp only [Prog.exec_onSnd, Prog.exec_onFst, Prog.exec_mapError]
  generalize (runCommandOnDevices command cgroupVmId o).exec (w, s) = vm
  generalize ((BuildResourceGuard.drop ⟨loops, some dmName, cgroupVmId⟩ o.release).exec
    vm.2.2).2 = s'
  generalize (makeLayer newLayerPath o.files _).exec _ = out
  obtain ⟨res, w'⟩ := out
  cases res with
  | error e => exact Iff.rfl
  | ok res =>
    cases hremove : o.removeCowFile with
    | false => exact Iff.rfl
    | true => exact released_erase_iff s' cowPath

theorem acquired_iff (ext4Path cowPath dmName : String) (s : Created) :
    (∃ loops s', (acquireDevices ext4Path cowPath dmName o).exec s = (.ok loops, s')) ↔
      o.AttachesBase ∧ o.MakesSnapshot := by
  constructor
  · rintro ⟨loops, s', h⟩
    obtain ⟨⟨hcow, hloop, hbase⟩, ⟨hattach, hdm, hsnapshot⟩, -⟩ :=
      (acquireDevices_eq_ok_iff _ _ _).mp h
    exact ⟨⟨hcow, hloop, (attaches_iff _).mpr ⟨_, hbase⟩⟩,
      ⟨(attaches_iff _).mpr ⟨_, hattach⟩, hdm, hsnapshot⟩⟩
  · rintro ⟨hbase, hsnapshot⟩
    obtain ⟨baseLoop, hbaseLoop⟩ := (attaches_iff ext4Path).mp hbase.attachBase
    obtain ⟨cowLoop, hcowLoop⟩ := (attaches_iff cowPath).mp hsnapshot.attachCow
    exact ⟨(baseLoop, cowLoop), _, (acquireDevices_eq_ok_iff _ _ _).mpr
      ⟨⟨hbase.cowFile, hbase.loopManager, hbaseLoop⟩,
        ⟨hcowLoop, hsnapshot.dmManager, hsnapshot.snapshot⟩, rfl⟩⟩

/-- With the devices acquired, all is released but a cgroup that was made. -/
theorem released_after_acquired_iff (hrelease : o.release.Succeed) {ext4Path cowPath : String}
    {loops : String × String} {s : Created} (cgroups : Bool) (command : String)
    (newLayerPath : HostPath) (w : Work γ)
    (h : (acquireDevices ext4Path cowPath ("vyoma-build-" ++ toString o.pid) o).exec ∅ =
      (.ok loops, s)) :
    Released ((runOnDevices command [loops.1, loops.2] ("vyoma-build-" ++ toString o.pid)
        (if cgroups then some ("vyoma-build-" ++ toString o.pid) else none) cowPath newLayerPath
        o).exec (w, s)).2.2 ↔ o.makesCgroup cgroups = false := by
  obtain ⟨-, -, hs⟩ := (acquireDevices_eq_ok_iff _ _ _).mp h
  rw [released_runOnDevices_iff]
  constructor
  · intro hreleased
    by_contra hmakes
    obtain ⟨path, hne, hmem⟩ := mem_runCommandOnDevices (Bool.eq_true_of_not_eq_false hmakes)
      command (toString o.pid) w s
    have hleft := (mem_drop_iff hrelease ⟨[loops.1, loops.2], some ("vyoma-build-" ++
      toString o.pid), if cgroups then some ("vyoma-build-" ++ toString o.pid) else none⟩ _
      (.cgroup path)).mpr ⟨hmem, by simp, by simp [snapshotObjects], ?_⟩
    · obtain ⟨_, hcow⟩ := hreleased _ hleft
      cases hcow
    · cases cgroups <;> simp [cgroupObjects, hne]
  · intro hmakes obj hobj
    obtain ⟨hmem, hloops, hsnapshot, -⟩ := (mem_drop_iff hrelease _ _ obj).mp hobj
    rw [runCommandOnDevices_of_not_makesCgroup hmakes, hs] at hmem
    simp only [snapshotObjects, Option.elim_some, List.map_cons, List.map_nil, List.mem_cons,
      List.not_mem_nil, or_false, not_or] at hloops hsnapshot
    simp only [Finset.mem_insert, Finset.notMem_empty, or_false] at hmem
    obtain hdm | horigin | hcowLoop | hbaseLoop | hcow := hmem
    · exact absurd hdm hsnapshot.1
    · exact absurd horigin hsnapshot.2
    · exact absurd hcowLoop hloops.2
    · exact absurd hbaseLoop hloops.1
    · exact ⟨_, hcow⟩

theorem released_of_acquired_iff (hrelease : o.release.Succeed) (hbase : o.AttachesBase)
    (hsnapshot : o.MakesSnapshot) {r : BuildRunner} {baseSquashfs ext4Path : HostPath}
    {w w' : Work γ} (hext4 : (ext4For r baseSquashfs o.files).exec w = (.ok ext4Path, w'))
    (cgroups : Bool) (command : String) (buildDir : HostDir) :
    Released ((executeBuildOnDevices r cgroups baseSquashfs command buildDir o).exec (w, ∅)).2.2 ↔
      o.makesCgroup cgroups = false := by
  obtain ⟨loops, s, hacquire⟩ := (acquired_iff (r.display ext4Path)
    (r.display ⟨buildDir, "cow.img"⟩) ("vyoma-build-" ++ toString o.pid) ∅).mpr ⟨hbase, hsnapshot⟩
  have hfiles : (ext4For r baseSquashfs o.files).onFst.exec (w, (∅ : Created)) =
      (.ok ext4Path, (w', ∅)) := by
    rw [Prog.exec_onFst, hext4]
  have hdevices : (acquireDevices (r.display ext4Path) (r.display ⟨buildDir, "cow.img"⟩)
      ("vyoma-build-" ++ toString o.pid) o).onSnd.exec (w', ∅) = (.ok loops, (w', s)) := by
    rw [Prog.exec_onSnd, hacquire]
  unfold executeBuildOnDevices
  rw [Prog.exec_bind_ok hfiles, Prog.exec_bind_ok hdevices]
  exact released_after_acquired_iff hrelease cgroups command _ w' hacquire

theorem released_of_not_acquired_iff {r : BuildRunner} {baseSquashfs ext4Path : HostPath}
    {w w' : Work γ} (hext4 : (ext4For r baseSquashfs o.files).exec w = (.ok ext4Path, w'))
    (hnot : ¬(o.AttachesBase ∧ o.MakesSnapshot)) (cgroups : Bool) (command : String)
    (buildDir : HostDir) :
    Released ((executeBuildOnDevices r cgroups baseSquashfs command buildDir o).exec (w, ∅)).2.2 ↔
      ¬o.AttachesBase := by
  have hfiles : (ext4For r baseSquashfs o.files).onFst.exec (w, (∅ : Created)) =
      (.ok ext4Path, (w', ∅)) := by
    rw [Prog.exec_onFst, hext4]
  have hbefore := fun h => keeps_released_acquireDevices (o := o) (r.display ext4Path)
    (r.display ⟨buildDir, "cow.img"⟩) ("vyoma-build-" ++ toString o.pid) h ∅ released_empty
  have hafter := fun h => mem_acquireDevices (o := o) (r.display ext4Path)
    (r.display ⟨buildDir, "cow.img"⟩) ("vyoma-build-" ++ toString o.pid) h ∅
  rw [← acquired_iff (r.display ext4Path) (r.display ⟨buildDir, "cow.img"⟩)
    ("vyoma-build-" ++ toString o.pid) ∅] at hnot
  unfold executeBuildOnDevices
  rw [Prog.exec_bind_ok hfiles, Prog.exec_bind, Prog.exec_onSnd]
  generalize (acquireDevices (r.display ext4Path) (r.display ⟨buildDir, "cow.img"⟩)
    ("vyoma-build-" ++ toString o.pid) o).exec ∅ = out at hbefore hafter hnot
  obtain ⟨acquire, s⟩ := out
  cases acquire with
  | ok loops => exact absurd ⟨loops, s, rfl⟩ hnot
  | error e =>
    refine ⟨fun hreleased hbase => ?_, hbefore⟩
    obtain ⟨device, hdevice⟩ := hafter hbase
    obtain ⟨path, hcow⟩ := hreleased _ hdevice
    cases hcow

/-- Where every release call succeeds, a build step leaves none of its kernel objects exactly
if it ends before the base image has a loop device, or makes its snapshot and no cgroup. -/
theorem build_step_releases_iff (r : BuildRunner) (cgroups : Bool) (baseSquashfs : HostPath)
    (command : String) (buildDir : HostDir) (o : BuildOutcomes γ) (w : Work γ)
    (hrelease : o.release.Succeed) :
    Released ((executeBuildOnDevices r cgroups baseSquashfs command buildDir o).exec (w, ∅)).2.2 ↔
      (∀ ext4Path, ((ext4For r baseSquashfs o.files).exec w).1 ≠ .ok ext4Path) ∨
        ¬o.AttachesBase ∨ (o.MakesSnapshot ∧ o.makesCgroup cgroups = false) := by
  cases hext4 : (ext4For r baseSquashfs o.files).exec w with
  | mk ext4 w' =>
    cases ext4 with
    | error e =>
      refine iff_of_true ?_ (.inl fun _ h => nomatch h)
      unfold executeBuildOnDevices
      rw [Prog.exec_bind, Prog.exec_onFst, hext4]
      exact released_empty
    | ok ext4Path =>
      have hmade : ¬∀ p, (Except.ok ext4Path : Except BuildError HostPath) ≠ .ok p :=
        fun h => h _ rfl
      simp only [hmade, false_or]
      by_cases hacquired : o.AttachesBase ∧ o.MakesSnapshot
      · rw [released_of_acquired_iff hrelease hacquired.1 hacquired.2 hext4]
        simp only [hacquired, not_true, false_or, true_and]
      · rw [released_of_not_acquired_iff hext4 hacquired]
        refine ⟨.inl, ?_⟩
        rintro (hbase | ⟨hsnapshot, -⟩)
        · exact hbase
        · exact fun hbase => hacquired ⟨hbase, hsnapshot⟩

end Whole

section Runs

def releaseAll : ReleaseOutcomes where
  loopManager := .ok ()
  detaches _ := .detached
  dmManager := .ok ()
  snapshot := ⟨.ok (), .ok (), .ok (), .ok ()⟩
  cgroup := .ok ()

theorem releaseAll_succeed : releaseAll.Succeed :=
  ⟨rfl, fun _ => rfl, rfl, rfl, rfl, rfl, rfl, rfl⟩

/-- A command that exits with 0, with every call of the host successful. -/
def quietRun : BuildOutcomes Unit where
  files :=
    { millis := 1700000000000
      createBuildDir := .ok ()
      createCacheDir := .ok ()
      convertError := .executionError
      convert := .done ()
      devices := .ok ()
      kernelExists := true
      initramfs := .done fun _ => ()
      vm := .ok 0
      dmDeviceExists := true
      layer := .done ()
      nanos := 1700000000000000000
      rename := .ok ()
      removeDir := true }
  pid := 4242
  cowFile := ⟨.ok (), .ok (), .ok ()⟩
  loopManager := .ok ()
  attachBase := ⟨true, fun _ => .attached "/dev/loop0"⟩
  attachCow := ⟨true, fun _ => .attached "/dev/loop1"⟩
  dmManager := .ok ()
  snapshot :=
    { baseExists := true
      cowExists := true
      size := .ok ()
      origin := ⟨.ok (), .ok (), .ok (), .ok (), true⟩
      snapshot := ⟨.ok (), .ok (), .ok (), .ok (), true⟩ }
  vm := ⟨.ok (), ⟨false, true, .ok (), .ok ()⟩, .exited (some 0)⟩
  release := releaseAll
  removeCowFile := true

def emptyWork : Work Unit where
  ext4Cache := ∅
  disk := ⟨fun _ => false, fun _ => none, fun _ h => nomatch h⟩

def alpineRootfs : HostPath := ⟨.image "alpine_latest", "rootfs.sqfs"⟩

def quietBuild (cgroups : Bool) : Except BuildError HostPath × (Work Unit × Created) :=
  (executeBuildOnDevices ⟨"/var/lib/vyoma", false, none⟩ cgroups alpineRootfs "apk add curl"
    (.build "build-1700000000000") quietRun).exec (emptyWork, ∅)

theorem quietRun_attachesBase : quietRun.AttachesBase := ⟨⟨rfl, rfl, rfl⟩, rfl, rfl⟩

theorem quietRun_makesSnapshot : quietRun.MakesSnapshot :=
  ⟨rfl, rfl, ⟨rfl, rfl, rfl, ⟨rfl, rfl, rfl, rfl, rfl⟩, ⟨rfl, rfl, rfl, rfl, rfl⟩⟩⟩

theorem build_without_cgroups_releases :
    quietRun.release.Succeed ∧ Released (quietBuild false).2.2 := by
  refine ⟨releaseAll_succeed, ?_⟩
  refine (build_step_releases_iff _ false _ _ _ quietRun emptyWork releaseAll_succeed).mpr ?_
  exact .inr (.inr ⟨quietRun_makesSnapshot, rfl⟩)

theorem build_with_cgroups_leaves_cgroup :
    quietRun.release.Succeed ∧ ¬Released (quietBuild true).2.2 := by
  refine ⟨releaseAll_succeed, fun h => ?_⟩
  have hmakes := (released_of_acquired_iff releaseAll_succeed quietRun_attachesBase
    quietRun_makesSnapshot rfl true _ _).mp h
  cases hmakes

end Runs

end Vyoma.Build
