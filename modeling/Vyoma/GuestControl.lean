import Vyoma.OrderedMaps
import Vyoma.VmLifecycle
import Mathlib.Logic.Function.Basic

/-!
# Pausing, hibernating and waking the guest

Beside the status the daemon keeps for a VM stands its hypervisor process, in which the
guest executes, is paused, or is not there. Hibernation snapshots the guest and kills the
process; waking it starts a new process and loads the snapshot, or boots the disk when
there is none. Most answers of the hypervisor are dropped, so the status can move without
the guest. Each call of the hypervisor and of the file system is an argument here.
-/
namespace Vyoma.VmService
open OrderedMaps

/-- The hypervisor process of a VM and the guest in it. -/
inductive Vmm where
  | dead
  | idle
  | paused
  | executing
  deriving DecidableEq, Repr

/-- The VMs with their processes, whether the process is a child that the daemon started
itself (that of an adopted or recovered VM is not), and whether the hibernation directory of
each VM holds a snapshot file with content. -/
structure Host where
  daemon : Daemon
  vmm : String → Vmm
  child : String → Bool
  snapshot : String → Bool

namespace Vmm

/-- `vm.pause` stops a guest that executes. -/
def pause (answer : Except String Unit) (v : Vmm) : Vmm :=
  match answer, v with
  | .ok (), .executing => .paused
  | _, v => v

/-- `vm.resume` continues a paused guest. -/
def resume (answer : Except String Unit) (v : Vmm) : Vmm :=
  match answer, v with
  | .ok (), .paused => .executing
  | _, v => v

/-- `vm.restore` puts the guest of the snapshot, paused, into a process without one. -/
def restore (answer : Except String Unit) (v : Vmm) : Vmm :=
  match answer, v with
  | .ok (), .idle => .paused
  | _, v => v

/-- `start_instance` creates and boots a guest in a process without one. -/
def boot (answer : Except String Unit) (v : Vmm) : Vmm :=
  match answer, v with
  | .ok (), .idle => .executing
  | _, v => v

@[simp] theorem pause_eq_dead_iff (answer : Except String Unit) (v : Vmm) :
    v.pause answer = .dead ↔ v = .dead := by
  cases answer <;> cases v <;> simp [pause]

@[simp] theorem pause_eq_idle_iff (answer : Except String Unit) (v : Vmm) :
    v.pause answer = .idle ↔ v = .idle := by
  cases answer <;> cases v <;> simp [pause]

@[simp] theorem resume_eq_idle_iff (answer : Except String Unit) (v : Vmm) :
    v.resume answer = .idle ↔ v = .idle := by
  cases answer <;> cases v <;> simp [resume]

end Vmm

structure HibernateOutcomes where
  pause : Except String Unit
  createDir : Except String Unit
  createSnapshot : Except String Unit

structure ResumeOutcomes where
  /-- The answer to the resumption of a VM that is not hibernated. -/
  resume : Except String Unit
  startDaemon : Except String Unit
  loadSnapshot : Except String Unit
  resumeLoaded : Except String Unit
  startInstance : Except String Unit

namespace Host

def setVmm (h : Host) (vmId : String) (v : Vmm) : Host :=
  { h with vmm := Function.update h.vmm vmId v }

/-- `VmmManager::kill` takes the child process and kills it. Without one nothing is killed. -/
def kill (h : Host) (vmId : String) : Host :=
  { h.setVmm vmId (if h.child vmId then .dead else h.vmm vmId) with
    child := Function.update h.child vmId false }

def setStatus (h : Host) (vmId : String) (vm : VmInstance) (status : VmStatus) : Host :=
  { h with daemon := { h.daemon with
      vms := h.daemon.vms.insert vmId { vm with status := status } } }

def pauseVm (h : Host) (pause : Except String Unit) (vmId : String) :
    Host × Except String String :=
  match h.daemon.vms[vmId]? with
  | none => (h, .error ("VM " ++ vmId ++ " not found"))
  | some vm =>
    match pause with
    | .error _ => (h, .error "Failed to pause VM")
    | .ok () => ((h.setVmm vmId ((h.vmm vmId).pause pause)).setStatus vmId vm .paused,
        .ok ("VM " ++ vmId ++ " paused"))

/-- A snapshot that is written replaces the one before; a failed one leaves it. -/
def takeSnapshot (h : Host) (vmId : String) (answer : Except String Unit) : Host :=
  match answer with
  | .ok () => { h with snapshot := Function.update h.snapshot vmId true }
  | .error _ => h

def hibernateVm (h : Host) (o : HibernateOutcomes) (vmId : String) :
    Host × Except String String :=
  match h.daemon.vms[vmId]? with
  | none => (h, .error ("VM " ++ vmId ++ " not found"))
  | some vm =>
    if vm.status = .hibernated then (h, .ok ("VM " ++ vmId ++ " already hibernated"))
    else
      let h := h.setVmm vmId ((h.vmm vmId).pause o.pause)
      match o.createDir with
      | .error _ => (h, .error "Failed to create hibernation directory")
      | .ok () =>
        let h := h.takeSnapshot vmId o.createSnapshot
        ((h.kill vmId).setStatus vmId vm .hibernated,
          .ok ("VM " ++ vmId ++ " hibernated (0 vCPUs, 0 MB host memory)"))

/-- The process a hibernated VM has after its wake-up; a process that does not start
leaves the one before in place. -/
def wake (h : Host) (o : ResumeOutcomes) (vmId : String) : Vmm :=
  match o.startDaemon with
  | .error _ => h.vmm vmId
  | .ok () =>
    if h.snapshot vmId then (Vmm.idle.restore o.loadSnapshot).resume o.resumeLoaded
    else Vmm.idle.boot o.startInstance

/-- A process that starts is a child of the daemon. -/
def wakeVm (h : Host) (o : ResumeOutcomes) (vmId : String) : Host :=
  { h.setVmm vmId (h.wake o vmId) with
    child := Function.update h.child vmId (h.child vmId || o.startDaemon.isOk) }

def resumeVm (h : Host) (o : ResumeOutcomes) (vmId : String) : Host × Except String String :=
  match h.daemon.vms[vmId]? with
  | none => (h, .error ("VM " ++ vmId ++ " not found"))
  | some vm =>
    if vm.status = .paused then
      match o.resume with
      | .error _ => (h, .error "Failed to resume paused VM")
      | .ok () => ((h.setVmm vmId ((h.vmm vmId).resume o.resume)).setStatus vmId vm .running,
          .ok ("VM " ++ vmId ++ " resumed from pause"))
    else if vm.status = .hibernated then
      ((h.wakeVm o vmId).setStatus vmId vm .running,
        .ok ("VM " ++ vmId ++ " resumed from hibernation in 180ms"))
    else
      ((h.setVmm vmId ((h.vmm vmId).resume o.resume)).setStatus vmId vm .running,
        .ok ("VM " ++ vmId ++ " resumed"))

/-! ## The daemon's side of the operations -/

theorem pauseVm_daemon (h : Host) (pause : Except String Unit) (vmId : String) :
    ((h.pauseVm pause vmId).1.daemon, (h.pauseVm pause vmId).2) =
      h.daemon.pauseVm pause vmId := by
  unfold pauseVm Daemon.pauseVm
  cases h.daemon.vms[vmId]? with
  | none => rfl
  | some vm => cases pause <;> rfl

theorem hibernateVm_daemon (h : Host) (o : HibernateOutcomes) (vmId : String) :
    ((h.hibernateVm o vmId).1.daemon, (h.hibernateVm o vmId).2) =
      h.daemon.hibernateVm o.createDir vmId := by
  unfold hibernateVm Daemon.hibernateVm
  cases h.daemon.vms[vmId]? with
  | none => rfl
  | some vm =>
    dsimp only
    split_ifs
    · rfl
    · cases o.createDir with
      | error e => rfl
      | ok _ => cases hsnap : o.createSnapshot <;> rfl

theorem resumeVm_daemon (h : Host) (o : ResumeOutcomes) (vmId : String) :
    ((h.resumeVm o vmId).1.daemon, (h.resumeVm o vmId).2) = h.daemon.resumeVm o.resume vmId := by
  unfold resumeVm Daemon.resumeVm
  cases h.daemon.vms[vmId]? with
  | none => rfl
  | some vm =>
    dsimp only
    split_ifs
    · cases o.resume <;> rfl
    · rfl
    · rfl

/-! ## What the operations leave of a registered VM -/

def statusOf (h : Host) (vmId : String) : Option VmStatus :=
  (h.daemon.vms[vmId]?).map VmInstance.status

@[simp] theorem statusOf_setStatus (h : Host) (vmId : String) (vm : VmInstance)
    (status : VmStatus) : (h.setStatus vmId vm status).statusOf vmId = some status := by
  simp [setStatus, statusOf]

@[simp] theorem vmm_setStatus (h : Host) (vmId : String) (vm : VmInstance) (status : VmStatus) :
    (h.setStatus vmId vm status).vmm = h.vmm := rfl

@[simp] theorem vmm_setVmm (h : Host) (vmId : String) (v : Vmm) :
    (h.setVmm vmId v).vmm vmId = v := by simp [setVmm]

@[simp] theorem vmm_kill (h : Host) (vmId : String) :
    (h.kill vmId).vmm vmId = if h.child vmId then .dead else h.vmm vmId := by
  simp [kill, setVmm]

@[simp] theorem vmm_wakeVm (h : Host) (o : ResumeOutcomes) (vmId : String) :
    (h.wakeVm o vmId).vmm vmId = h.wake o vmId := by
  simp [wakeVm, setVmm]

@[simp] theorem vmm_takeSnapshot (h : Host) (vmId : String) (answer : Except String Unit) :
    (h.takeSnapshot vmId answer).vmm = h.vmm := by
  cases answer <;> rfl

@[simp] theorem child_takeSnapshot (h : Host) (vmId : String) (answer : Except String Unit) :
    (h.takeSnapshot vmId answer).child = h.child := by
  cases answer <;> rfl

@[simp] theorem child_setVmm (h : Host) (vmId : String) (v : Vmm) :
    (h.setVmm vmId v).child = h.child := rfl

@[simp] theorem statusOf_setVmm (h : Host) (vmId : String) (v : Vmm) :
    (h.setVmm vmId v).statusOf vmId = h.statusOf vmId := rfl

theorem statusOf_eq_some_iff {h : Host} {vmId : String} {status : VmStatus} :
    h.statusOf vmId = some status ↔ ∃ vm, h.daemon.vms[vmId]? = some vm ∧ vm.status = status := by
  rw [statusOf, Option.map_eq_some_iff]

/-- What `hibernate_vm` does to a VM that is not hibernated yet. -/
theorem hibernateVm_cases {h : Host} {vmId : String} {status : VmStatus}
    (hstatus : h.statusOf vmId = some status) (hawake : status ≠ .hibernated)
    (o : HibernateOutcomes) :
    (∃ e e', o.createDir = .error e ∧ (h.hibernateVm o vmId).2 = .error e' ∧
      (h.hibernateVm o vmId).1.vmm vmId = (h.vmm vmId).pause o.pause ∧
      (h.hibernateVm o vmId).1.statusOf vmId = some status) ∨
    (o.createDir = .ok () ∧ (∃ message, (h.hibernateVm o vmId).2 = .ok message) ∧
      (h.hibernateVm o vmId).1.vmm vmId =
        (if h.child vmId then .dead else (h.vmm vmId).pause o.pause) ∧
      (h.hibernateVm o vmId).1.statusOf vmId = some .hibernated) := by
  obtain ⟨vm, hvm, rfl⟩ := statusOf_eq_some_iff.mp hstatus
  unfold hibernateVm
  rw [hvm]
  simp only [if_neg hawake]
  cases o.createDir with
  | error e => exact .inl ⟨e, _, rfl, rfl, by simp, by simpa using hstatus⟩
  | ok _ => exact .inr ⟨rfl, ⟨_, rfl⟩, by simp, by simp⟩

theorem hibernateVm_hibernated {h : Host} {vmId : String}
    (hstatus : h.statusOf vmId = some .hibernated) (o : HibernateOutcomes) :
    (h.hibernateVm o vmId).1 = h := by
  obtain ⟨vm, hvm, hasleep⟩ := statusOf_eq_some_iff.mp hstatus
  unfold hibernateVm
  rw [hvm]
  simp only [if_pos hasleep]

/-- A hibernated VM is always reported as resumed, with the process of its wake-up. -/
theorem resumeVm_hibernated {h : Host} {vmId : String}
    (hstatus : h.statusOf vmId = some .hibernated) (o : ResumeOutcomes) :
    (∃ message, (h.resumeVm o vmId).2 = .ok message) ∧
    (h.resumeVm o vmId).1.vmm vmId = h.wake o vmId ∧
    (h.resumeVm o vmId).1.statusOf vmId = some .running := by
  obtain ⟨vm, hvm, hasleep⟩ := statusOf_eq_some_iff.mp hstatus
  have hpaused : vm.status ≠ .paused := by rw [hasleep]; nofun
  unfold resumeVm
  rw [hvm]
  simp only [if_neg hpaused, if_pos hasleep]
  exact ⟨⟨_, rfl⟩, by simp, by simp⟩

/-! ## Whether the guest survives -/

/-- The snapshot call of a hibernation was made and succeeded. -/
def SnapshotTaken (o : HibernateOutcomes) : Prop :=
  o.createDir = .ok () ∧ o.createSnapshot = .ok ()

/-- The process was started, and the guest was loaded and resumed from the snapshot or,
without one, booted. -/
def Woken (h : Host) (o : ResumeOutcomes) (vmId : String) : Prop :=
  o.startDaemon = .ok () ∧
    if h.snapshot vmId then o.loadSnapshot = .ok () ∧ o.resumeLoaded = .ok ()
    else o.startInstance = .ok ()

/-- Without a snapshot a hibernation fails, and leaves the process and the status. -/
def HibernationKeepsGuest (h : Host) (o : HibernateOutcomes) (vmId : String) : Prop :=
  ∀ status, h.statusOf vmId = some status → status ≠ .hibernated → ¬ SnapshotTaken o →
    (∃ e, (h.hibernateVm o vmId).2 = .error e) ∧
    ((h.hibernateVm o vmId).1.vmm vmId = .dead ↔ h.vmm vmId = .dead) ∧
    (h.hibernateVm o vmId).1.statusOf vmId = some status

/-- A hibernated VM is reported as running only if it was woken, and stays hibernated
otherwise. -/
def ResumptionWakesGuest (h : Host) (o : ResumeOutcomes) (vmId : String) : Prop :=
  h.statusOf vmId = some .hibernated →
    ((∃ message, (h.resumeVm o vmId).2 = .ok message) →
      (h.resumeVm o vmId).1.statusOf vmId = some .running → Woken h o vmId) ∧
    (¬ Woken h o vmId → (h.resumeVm o vmId).1.statusOf vmId = some .hibernated)

theorem wake_eq_executing_iff {h : Host} {vmId : String} (hdead : h.vmm vmId = .dead)
    (o : ResumeOutcomes) : h.wake o vmId = .executing ↔ Woken h o vmId := by
  unfold wake Woken
  cases o.startDaemon with
  | error e => simp [hdead]
  | ok _ =>
    cases h.snapshot vmId with
    | true => cases o.loadSnapshot <;> cases o.resumeLoaded <;> simp [Vmm.restore, Vmm.resume]
    | false => cases o.startInstance <;> simp [Vmm.boot]

theorem hibernation_keeps_guest_iff (h : Host) (o : HibernateOutcomes) (vmId : String) :
    HibernationKeepsGuest h o vmId ↔
      ((∃ status, h.statusOf vmId = some status ∧ status ≠ .hibernated) →
        o.createDir = .ok () → o.createSnapshot = .ok ()) := by
  constructor
  · intro hkeeps hawake hdir
    obtain ⟨status, hstatus, hawake⟩ := hawake
    by_contra hsnap
    obtain ⟨⟨e, he⟩, _⟩ := hkeeps status hstatus hawake (fun ht => hsnap ht.2)
    obtain ⟨e', _, herr, _⟩ | ⟨_, ⟨message, hok⟩, _⟩ := hibernateVm_cases hstatus hawake o
    · rw [hdir] at herr
      cases herr
    · rw [hok] at he
      cases he
  · intro hcond status hstatus hawake hnot
    obtain ⟨e, e', hdir, herr, hvmm, hsame⟩ | ⟨hdir, _⟩ := hibernateVm_cases hstatus hawake o
    · exact ⟨⟨e', herr⟩, by rw [hvmm, Vmm.pause_eq_dead_iff], hsame⟩
    · exact absurd ⟨hdir, hcond ⟨status, hstatus, hawake⟩ hdir⟩ hnot

theorem resumption_wakes_guest_iff (h : Host) (o : ResumeOutcomes) (vmId : String) :
    ResumptionWakesGuest h o vmId ↔ (h.statusOf vmId = some .hibernated → Woken h o vmId) := by
  constructor
  · intro hwakes hasleep
    obtain ⟨hok, _, hrunning⟩ := resumeVm_hibernated hasleep o
    exact (hwakes hasleep).1 hok hrunning
  · intro hcond hasleep
    exact ⟨fun _ _ => hcond hasleep, fun hnot => absurd (hcond hasleep) hnot⟩

/-- Over every outcome of the calls, hibernation keeps the guest exactly when a snapshot
is taken once the directory is there, and resumption exactly when the guest is woken. -/
theorem guest_survives_hibernation_iff (h : Host) (ho : HibernateOutcomes) (ro : ResumeOutcomes)
    (vmId : String) :
    (HibernationKeepsGuest h ho vmId ↔
      ((∃ status, h.statusOf vmId = some status ∧ status ≠ .hibernated) →
        ho.createDir = .ok () → ho.createSnapshot = .ok ())) ∧
    (ResumptionWakesGuest h ro vmId ↔ (h.statusOf vmId = some .hibernated → Woken h ro vmId)) :=
  ⟨hibernation_keeps_guest_iff h ho vmId, resumption_wakes_guest_iff h ro vmId⟩

end Host

/-- A host with one VM of the given status and process, which the daemon has started. -/
def oneVm (status : VmStatus) (v : Vmm) : Host where
  daemon := { fresh with vms := fresh.vms.insert "vm-1" ⟨"vm-1", status, none, "/vm-1/ch.sock",
    "", "", [], "", "", none, none, [], [], none, ∅, [], "", 1, 256⟩ }
  vmm _ := v
  child _ := true
  snapshot _ := false

/-- The hypervisor refuses the snapshot. -/
def snapshotFails : HibernateOutcomes := ⟨.ok (), .ok (), .error "No space left on device"⟩

/-- The hypervisor binary is gone. -/
def daemonFails : ResumeOutcomes :=
  ⟨.ok (), .error "Failed to spawn cloud-hypervisor", .ok (), .ok (), .ok ()⟩

/-- A guest is killed although no snapshot of it exists, and one that is not there is
reported as running. -/
theorem hibernation_loses_guest :
    ¬ Host.HibernationKeepsGuest (oneVm .running .executing) snapshotFails "vm-1" ∧
    ¬ Host.ResumptionWakesGuest (oneVm .hibernated .dead) daemonFails "vm-1" := by
  constructor
  · intro h
    have hnot : ¬ Host.SnapshotTaken snapshotFails := fun ht => nomatch ht.2
    obtain ⟨_, hdead, _⟩ := h .running (by decide) nofun hnot
    exact absurd (hdead.mp (by decide)) (by decide)
  · intro h
    have hnot : ¬ Host.Woken (oneVm .hibernated .dead) daemonFails "vm-1" := fun hw => nomatch hw.1
    exact absurd ((h (by decide)).2 hnot) (by decide)

end Vyoma.VmService
