import Vyoma.AttestationGate
import Vyoma.GuestControl

/-!
# The reported status and the guest

Every call to a hypervisor process that is alive is taken to succeed. Pausing and resuming then
move the status together with the guest. A hibernation whose directory cannot be created leaves
the guest paused, and one of a VM whose process is not a child of the daemon leaves the process
alive. The attestation task writes its verdict over whatever status the VM has. Along a run the
status tells the state of the guest exactly when no hibernation fails on an executing guest or
meets a process that is no child, and no verdict arrives for a VM that is paused or hibernated.
-/
namespace Vyoma.VmService
open OrderedMaps Runs

/-- The operations on one VM, with the answers of the file system and the verifier. -/
inductive GuestOp where
  | pause
  | resume
  | hibernate (createDir : Except String Unit)
  | attestation (save : Except String Unit) (verification : Verification)

/-- A process that is alive answers; the socket of a dead one is gone. -/
def Vmm.answer : Vmm → Except String Unit
  | .dead => .error "Cloud Hypervisor socket not found"
  | _ => .ok ()

namespace Host

/-- The completion of the attestation task; a VM it removes has its manager kill the process. -/
def completeAttestation (h : Host) (save : Except String Unit) (verification : Verification)
    (vmId : String) : Host :=
  let d := VmService.completeAttestation h.daemon vmId save verification
  if vmId ∈ h.daemon.vms ∧ vmId ∉ d.vms then { h.kill vmId with daemon := d }
  else { h with daemon := d }

def guestStep (vmId : String) (h : Host) : GuestOp → Host
  | .pause => (h.pauseVm (h.vmm vmId).answer vmId).1
  | .resume => (h.resumeVm ⟨(h.vmm vmId).answer, .ok (), .ok (), .ok (), .ok ()⟩ vmId).1
  | .hibernate createDir =>
    (h.hibernateVm ⟨(h.vmm vmId).answer, createDir, (h.vmm vmId).answer⟩ vmId).1
  | .attestation save verification => h.completeAttestation save verification vmId

/-- The status of the VM, while it is registered, tells the state of its guest. -/
def StatusAgrees (vmId : String) (h : Host) : Prop :=
  ∀ status, h.statusOf vmId = some status →
    (status = .paused ↔ h.vmm vmId = .paused) ∧
    (status = .hibernated ↔ h.vmm vmId = .dead) ∧
    (status = .running → h.vmm vmId = .executing)

/-- A hibernation that fails meets a guest that is not executing, one that succeeds meets a
child process, and a verdict that does not kill the VM meets one that is neither paused nor
hibernated. -/
def MovesTogether (vmId : String) (h : Host) : GuestOp → Prop
  | .pause | .resume => True
  | .hibernate createDir => ∀ status, h.statusOf vmId = some status → status ≠ .hibernated →
      (createDir ≠ .ok () → status = .paused) ∧ (createDir = .ok () → h.child vmId = true)
  | .attestation _ verification => ∀ task, h.daemon.tasks[vmId]? = some task →
      killsVm h.daemon vmId verification = false → ∀ status,
        h.statusOf vmId = some status → status ≠ .paused ∧ status ≠ .hibernated

section Steps

variable {h : Host} {vmId : String} {status : VmStatus}

/-- Of a process that holds a guest, agreement leaves one state for each status. -/
theorem StatusAgrees.executing (hagrees : StatusAgrees vmId h) (hguest : h.vmm vmId ≠ .idle)
    (hstatus : h.statusOf vmId = some status) (hpaused : status ≠ .paused)
    (hawake : status ≠ .hibernated) : h.vmm vmId = .executing := by
  obtain ⟨hp, hh, _⟩ := hagrees status hstatus
  cases hv : h.vmm vmId with
  | dead => exact absurd (hh.mpr hv) hawake
  | idle => exact absurd hv hguest
  | paused => exact absurd (hp.mpr hv) hpaused
  | executing => rfl

/-- A status that is neither paused nor hibernated agrees exactly with a guest that executes. -/
theorem statusAgrees_awake_iff {h' : Host} (hstatus : h'.statusOf vmId = some status)
    (hpaused : status ≠ .paused) (hawake : status ≠ .hibernated) (hguest : h'.vmm vmId ≠ .idle) :
    StatusAgrees vmId h' ↔ h'.vmm vmId = .executing := by
  constructor
  · intro hagrees
    exact hagrees.executing hguest hstatus hpaused hawake
  · intro hexec status' hstatus'
    rw [hstatus] at hstatus'
    cases hstatus'
    rw [hexec]
    simp [hpaused, hawake]

theorem statusAgrees_of_paused {h' : Host} (hstatus : h'.statusOf vmId = some .paused)
    (hvmm : h'.vmm vmId = .paused) : StatusAgrees vmId h' := by
  intro status' hstatus'
  rw [hstatus] at hstatus'
  cases hstatus'
  simp [hvmm]

theorem statusAgrees_of_hibernated {h' : Host} (hstatus : h'.statusOf vmId = some .hibernated)
    (hvmm : h'.vmm vmId = .dead) : StatusAgrees vmId h' := by
  intro status' hstatus'
  rw [hstatus] at hstatus'
  cases hstatus'
  simp [hvmm]

theorem statusAgrees_of_running {h' : Host} (hstatus : h'.statusOf vmId = some .running)
    (hvmm : h'.vmm vmId = .executing) : StatusAgrees vmId h' := by
  intro status' hstatus'
  rw [hstatus] at hstatus'
  cases hstatus'
  simp [hvmm]

theorem statusAgrees_of_none {h' : Host} (hnone : h'.statusOf vmId = none) :
    StatusAgrees vmId h' := by
  intro status' hstatus'
  rw [hnone] at hstatus'
  cases hstatus'

theorem lookup_of_statusOf_none (hnone : h.statusOf vmId = none) :
    h.daemon.vms[vmId]? = none := Option.map_eq_none_iff.mp hnone

/-- The three states a registered VM can be in when its status agrees with its guest. -/
theorem StatusAgrees.cases (hagrees : StatusAgrees vmId h) (hguest : h.vmm vmId ≠ .idle)
    (hstatus : h.statusOf vmId = some status) :
    (status = .paused ∧ h.vmm vmId = .paused) ∨ (status = .hibernated ∧ h.vmm vmId = .dead) ∨
    (status ≠ .paused ∧ status ≠ .hibernated ∧ h.vmm vmId = .executing) := by
  obtain ⟨hp, hh, _⟩ := hagrees status hstatus
  by_cases hpaused : status = .paused
  · exact .inl ⟨hpaused, hp.mp hpaused⟩
  · by_cases hasleep : status = .hibernated
    · exact .inr (.inl ⟨hasleep, hh.mp hasleep⟩)
    · exact .inr (.inr ⟨hpaused, hasleep, hagrees.executing hguest hstatus hpaused hasleep⟩)

theorem statusAgrees_pause (hagrees : StatusAgrees vmId h) (hguest : h.vmm vmId ≠ .idle) :
    StatusAgrees vmId (h.guestStep vmId .pause) := by
  cases hstatus : h.statusOf vmId with
  | none =>
    have hnone := lookup_of_statusOf_none hstatus
    simpa only [guestStep, pauseVm, hnone] using hagrees
  | some status =>
    obtain ⟨vm, hvm, rfl⟩ := statusOf_eq_some_iff.mp hstatus
    obtain ⟨_, hv⟩ | ⟨_, hv⟩ | ⟨_, _, hv⟩ := hagrees.cases hguest hstatus
    · simp only [guestStep, pauseVm, hvm, hv, Vmm.answer]
      exact statusAgrees_of_paused (by simp) (by simp [Vmm.pause])
    · simpa only [guestStep, pauseVm, hvm, hv, Vmm.answer] using hagrees
    · simp only [guestStep, pauseVm, hvm, hv, Vmm.answer]
      exact statusAgrees_of_paused (by simp) (by simp [Vmm.pause])

theorem statusAgrees_resume (hagrees : StatusAgrees vmId h) (hguest : h.vmm vmId ≠ .idle) :
    StatusAgrees vmId (h.guestStep vmId .resume) := by
  cases hstatus : h.statusOf vmId with
  | none =>
    have hnone := lookup_of_statusOf_none hstatus
    simpa only [guestStep, resumeVm, hnone] using hagrees
  | some status =>
    obtain ⟨vm, hvm, rfl⟩ := statusOf_eq_some_iff.mp hstatus
    obtain ⟨hs, hv⟩ | ⟨hs, hv⟩ | ⟨hp, hh, hv⟩ := hagrees.cases hguest hstatus
    · simp only [guestStep, resumeVm, hvm, hs, hv, Vmm.answer, if_true]
      exact statusAgrees_of_running (by simp) (by simp [Vmm.resume])
    · rw [hs] at hstatus
      obtain ⟨_, hvmm, hrunning⟩ := resumeVm_hibernated hstatus
        ⟨(h.vmm vmId).answer, .ok (), .ok (), .ok (), .ok ()⟩
      refine statusAgrees_of_running hrunning (hvmm.trans ?_)
      rw [wake_eq_executing_iff hv]
      exact ⟨rfl, by simp⟩
    · simp only [guestStep, resumeVm, hvm, if_neg hp, if_neg hh, hv, Vmm.answer]
      exact statusAgrees_of_running (by simp) (by simp [Vmm.resume])

theorem StatusAgrees.ne_dead (hagrees : StatusAgrees vmId h)
    (hstatus : h.statusOf vmId = some status) (hawake : status ≠ .hibernated) :
    h.vmm vmId ≠ .dead := fun hdead => hawake ((hagrees status hstatus).2.1.mpr hdead)

/-- A hibernation whose directory cannot be created pauses the guest and leaves the status. -/
theorem statusAgrees_hibernate_error_iff (hagrees : StatusAgrees vmId h)
    (hguest : h.vmm vmId ≠ .idle) (hstatus : h.statusOf vmId = some status)
    (hawake : status ≠ .hibernated) (e : String) :
    StatusAgrees vmId (h.guestStep vmId (.hibernate (.error e))) ↔ status = .paused := by
  obtain ⟨_, _, _, _, hvmm, hsame⟩ | ⟨hdir, _⟩ := hibernateVm_cases hstatus hawake
    ⟨(h.vmm vmId).answer, .error e, (h.vmm vmId).answer⟩
  · obtain ⟨hs, hv⟩ | ⟨hs, _⟩ | ⟨hp, _, hv⟩ := hagrees.cases hguest hstatus
    · refine iff_of_true ?_ hs
      rw [hs] at hsame
      exact statusAgrees_of_paused hsame (by rw [guestStep, hvmm, hv]; rfl)
    · exact absurd hs hawake
    · -- the guest was executing and is paused now, under the status it had
      refine iff_of_false (fun hafter => ?_) hp
      have hpausedNow : (h.guestStep vmId (.hibernate (.error e))).vmm vmId = .paused := by
        rw [guestStep, hvmm, hv]
        rfl
      exact hp ((hafter status hsame).1.mpr hpausedNow)
  · cases hdir

/-- A hibernation that is carried out ends no process but a child. -/
theorem statusAgrees_hibernate_ok_iff (hagrees : StatusAgrees vmId h)
    (hstatus : h.statusOf vmId = some status) (hawake : status ≠ .hibernated) :
    StatusAgrees vmId (h.guestStep vmId (.hibernate (.ok ()))) ↔ h.child vmId = true := by
  obtain ⟨_, _, hdir, _⟩ | ⟨_, _, hvmm, hnew⟩ := hibernateVm_cases hstatus hawake
    ⟨(h.vmm vmId).answer, .ok (), (h.vmm vmId).answer⟩
  · cases hdir
  · cases hchild : h.child vmId with
    | true =>
      rw [hchild, if_pos rfl] at hvmm
      exact iff_of_true (statusAgrees_of_hibernated hnew hvmm) rfl
    | false =>
      -- the process is still there, under the status of one that is dead
      refine iff_of_false (fun hafter => ?_) Bool.false_ne_true
      have hdead := (hafter _ hnew).2.1.mp rfl
      rw [guestStep, hvmm, hchild, if_neg Bool.false_ne_true, Vmm.pause_eq_dead_iff] at hdead
      exact hagrees.ne_dead hstatus hawake hdead

/-- A hibernation pauses the guest before it creates the directory, and kills nothing but a
child process. -/
theorem statusAgrees_hibernate_iff (hagrees : StatusAgrees vmId h) (hguest : h.vmm vmId ≠ .idle)
    (createDir : Except String Unit) : StatusAgrees vmId (h.guestStep vmId (.hibernate createDir)) ↔
      MovesTogether vmId h (.hibernate createDir) := by
  cases hstatus : h.statusOf vmId with
  | none =>
    have hnone := lookup_of_statusOf_none hstatus
    refine iff_of_true ?_ (fun status hsome => ?_)
    · simpa only [guestStep, hibernateVm, hnone] using hagrees
    · rw [hstatus] at hsome
      cases hsome
  | some status =>
    have hmoves : MovesTogether vmId h (.hibernate createDir) ↔ (status ≠ .hibernated →
        (createDir ≠ .ok () → status = .paused) ∧ (createDir = .ok () → h.child vmId = true)) := by
      simp only [MovesTogether, hstatus, Option.some.injEq, forall_eq']
    rw [hmoves]
    by_cases hasleep : status = .hibernated
    · rw [hasleep] at hstatus
      refine iff_of_true ?_ (fun hawake => absurd hasleep hawake)
      simp only [guestStep, hibernateVm_hibernated hstatus]
      exact hagrees
    · cases createDir with
      | error e =>
        rw [statusAgrees_hibernate_error_iff hagrees hguest hstatus hasleep e]
        simp [hasleep]
      | ok _ =>
        rw [statusAgrees_hibernate_ok_iff hagrees hstatus hasleep]
        simp [hasleep]

theorem completeAttestation_of_no_task (htask : h.daemon.tasks[vmId]? = none)
    (save : Except String Unit) (verification : Verification) :
    h.completeAttestation save verification vmId = h := by
  have hsame : VmService.completeAttestation h.daemon vmId save verification = h.daemon := by
    unfold VmService.completeAttestation
    rw [htask]
  unfold completeAttestation
  rw [hsame, if_neg (fun hboth => hboth.2 hboth.1)]

theorem verdict_awake (policy : PolicyConfig) (vmId : String) (tpmSocketPath : Option String)
    (verification : Verification) : verdict policy vmId tpmSocketPath verification ≠ .paused ∧
      verdict policy vmId tpmSocketPath verification ≠ .hibernated := by
  obtain he | ⟨reason, he⟩ := verdict_kind policy vmId tpmSocketPath verification
  · rw [he]
    exact ⟨nofun, nofun⟩
  · rw [he]
    exact ⟨nofun, nofun⟩

/-- A verdict on a registered VM removes it or leaves its process, under a status that is
neither paused nor hibernated. -/
theorem completeAttestation_cases {task : AttestationTask}
    (htask : h.daemon.tasks[vmId]? = some task) (save : Except String Unit)
    (verification : Verification) :
    let h' := h.completeAttestation save verification vmId
    (killsVm h.daemon vmId verification = true ∨ h.statusOf vmId = none) ∧
      h'.statusOf vmId = none ∨
    killsVm h.daemon vmId verification = false ∧ h'.vmm vmId = h.vmm vmId ∧
      (∃ old, h.statusOf vmId = some old) ∧
      ∃ status, status ≠ .paused ∧ status ≠ .hibernated ∧ h'.statusOf vmId = some status := by
  obtain ⟨attested, hlook⟩ := lookup_completeAttestation h.daemon save vmId htask verification
  have hself := hlook vmId
  rw [if_pos rfl] at hself
  have hdaemon : (h.completeAttestation save verification vmId).daemon =
      VmService.completeAttestation h.daemon vmId save verification := by
    unfold completeAttestation
    dsimp only
    split_ifs <;> rfl
  dsimp only
  cases hkills : killsVm h.daemon vmId verification with
  | true =>
    refine .inl ⟨.inl rfl, ?_⟩
    rw [hkills, if_pos rfl] at hself
    rw [statusOf, hdaemon, hself]
    rfl
  | false =>
    rw [hkills, if_neg Bool.false_ne_true] at hself
    cases hvm : h.daemon.vms[vmId]? with
    | none =>
      refine .inl ⟨.inr (by rw [statusOf, hvm]; rfl), ?_⟩
      rw [statusOf, hdaemon, hself, hvm]
      rfl
    | some vm =>
      have hself : (h.completeAttestation save verification vmId).statusOf vmId =
          some (verdict h.daemon.policy vmId task.tpmSocketPath verification) := by
        rw [statusOf, hdaemon, hself, hvm]
        rfl
      have hmem : vmId ∈ (VmService.completeAttestation h.daemon vmId save verification).vms := by
        rw [← hdaemon]
        obtain ⟨vm', hvm', _⟩ := statusOf_eq_some_iff.mp hself
        exact mem_iff_lookup.mpr ⟨vm', hvm'⟩
      obtain ⟨hp, hh⟩ := verdict_awake h.daemon.policy vmId task.tpmSocketPath verification
      refine .inr ⟨rfl, ?_, ⟨vm.status, by rw [statusOf, hvm]; rfl⟩, _, hp, hh, hself⟩
      unfold completeAttestation
      rw [if_neg (fun hboth => hboth.2 hmem)]

theorem statusAgrees_attestation_iff (hagrees : StatusAgrees vmId h) (hguest : h.vmm vmId ≠ .idle)
    (save : Except String Unit) (verification : Verification) :
    StatusAgrees vmId (h.guestStep vmId (.attestation save verification)) ↔
      MovesTogether vmId h (.attestation save verification) := by
  cases htask : h.daemon.tasks[vmId]? with
  | none =>
    refine iff_of_true ?_ (fun task hsome => ?_)
    · rw [guestStep, completeAttestation_of_no_task htask]
      exact hagrees
    · rw [htask] at hsome
      cases hsome
  | some task =>
    obtain ⟨hgone, hnone⟩ | ⟨hkeeps, hvmm, ⟨old, hold⟩, status', hp', hh', hnew⟩ :=
      completeAttestation_cases htask save verification
    · refine iff_of_true (statusAgrees_of_none hnone) (fun task' hsome hkeeps status hstatus => ?_)
      rw [htask] at hsome
      cases hsome
      obtain hkills | hunregistered := hgone
      · rw [hkills] at hkeeps
        cases hkeeps
      · rw [hunregistered] at hstatus
        cases hstatus
    · have hguest' : (h.completeAttestation save verification vmId).vmm vmId ≠ .idle := by
        rw [hvmm]
        exact hguest
      rw [guestStep, statusAgrees_awake_iff hnew hp' hh' hguest', hvmm]
      constructor
      · intro hexec task' _ _ status hstatus
        obtain ⟨hp, hh, _⟩ := hagrees status hstatus
        rw [hexec] at hp hh
        simpa using And.intro hp hh
      · intro hmoves
        obtain ⟨hp, hh⟩ := hmoves task htask hkeeps old hold
        exact hagrees.executing hguest hold hp hh

theorem statusAgrees_guestStep_iff (op : GuestOp) (hguest : h.vmm vmId ≠ .idle)
    (hagrees : StatusAgrees vmId h) :
    StatusAgrees vmId (h.guestStep vmId op) ↔ MovesTogether vmId h op := by
  cases op with
  | pause => exact iff_of_true (statusAgrees_pause hagrees hguest) trivial
  | resume => exact iff_of_true (statusAgrees_resume hagrees hguest) trivial
  | hibernate createDir => exact statusAgrees_hibernate_iff hagrees hguest createDir
  | attestation save verification =>
    exact statusAgrees_attestation_iff hagrees hguest save verification

theorem vmm_pause_ne_idle (hguest : h.vmm vmId ≠ .idle) :
    (h.guestStep vmId .pause).vmm vmId ≠ .idle := by
  unfold guestStep pauseVm
  cases h.daemon.vms[vmId]? with
  | none => exact hguest
  | some vm =>
    cases (h.vmm vmId).answer with
    | error e => exact hguest
    | ok _ => simpa using hguest

theorem vmm_resume_ne_idle (hguest : h.vmm vmId ≠ .idle) :
    (h.guestStep vmId .resume).vmm vmId ≠ .idle := by
  unfold guestStep resumeVm
  cases h.daemon.vms[vmId]? with
  | none => exact hguest
  | some vm =>
    dsimp only
    split_ifs
    · cases (h.vmm vmId).answer with
      | error e => exact hguest
      | ok _ => simpa using hguest
    · -- a process that is woken has a guest
      rw [vmm_setStatus, vmm_wakeVm, wake]
      split_ifs <;> simp [Vmm.restore, Vmm.boot]
    · simpa using hguest

theorem vmm_hibernate_ne_idle (createDir : Except String Unit) (hguest : h.vmm vmId ≠ .idle) :
    (h.guestStep vmId (.hibernate createDir)).vmm vmId ≠ .idle := by
  cases hstatus : h.statusOf vmId with
  | none =>
    have hnone := lookup_of_statusOf_none hstatus
    simpa only [guestStep, hibernateVm, hnone] using hguest
  | some status =>
    by_cases hasleep : status = .hibernated
    · rw [hasleep] at hstatus
      simpa only [guestStep, hibernateVm_hibernated hstatus] using hguest
    · obtain ⟨_, _, _, _, hvmm, _⟩ | ⟨_, _, hvmm, _⟩ := hibernateVm_cases hstatus hasleep
        ⟨(h.vmm vmId).answer, createDir, (h.vmm vmId).answer⟩
      · rw [guestStep, hvmm, ne_eq, Vmm.pause_eq_idle_iff]
        exact hguest
      · rw [guestStep, hvmm]
        split_ifs
        · decide
        · rw [ne_eq, Vmm.pause_eq_idle_iff]
          exact hguest

theorem vmm_attestation_ne_idle (save : Except String Unit) (verification : Verification)
    (hguest : h.vmm vmId ≠ .idle) :
    (h.guestStep vmId (.attestation save verification)).vmm vmId ≠ .idle := by
  unfold guestStep completeAttestation
  dsimp only
  split_ifs
  · dsimp only
    rw [vmm_kill]
    split_ifs
    · decide
    · exact hguest
  · exact hguest

/-- A process that answers is never left without its guest. -/
theorem vmm_guestStep_ne_idle (op : GuestOp) (hguest : h.vmm vmId ≠ .idle) :
    (h.guestStep vmId op).vmm vmId ≠ .idle := by
  cases op with
  | pause => exact vmm_pause_ne_idle hguest
  | resume => exact vmm_resume_ne_idle hguest
  | hibernate createDir => exact vmm_hibernate_ne_idle createDir hguest
  | attestation save verification => exact vmm_attestation_ne_idle save verification hguest

end Steps

/-- Over every interleaving of the operations on a registered VM, its status agrees with
its guest after every step exactly when every step moves the two together. -/
theorem status_agrees_iff (vmId : String) (h : Host) (hguest : h.vmm vmId ≠ .idle)
    (hstart : StatusAgrees vmId h) (run : List GuestOp) :
    Throughout (guestStep vmId) (StatusAgrees vmId) h run ↔
      Along (guestStep vmId) (MovesTogether vmId) h run :=
  throughout_iff_along_of_invariant (I := fun h => h.vmm vmId ≠ .idle) hguest
    (fun _ op hidle => vmm_guestStep_ne_idle op hidle) hstart
    (fun _ op hidle hagrees => statusAgrees_guestStep_iff op hidle hagrees) run

end Host

/-- A VM whose attestation is under way. -/
def attestingVm : Host :=
  let h := oneVm .pendingAttestation .executing
  { h with daemon := { h.daemon with
      policy := PolicyConfig.setRequireMeasuredBoot {} true
      tasks := h.daemon.tasks.insert "vm-1" ⟨"alpine", some "tpm.sock"⟩ } }

theorem attestingVm_agrees : Host.StatusAgrees "vm-1" attestingVm := by
  intro status hstatus
  have hpending : attestingVm.statusOf "vm-1" = some .pendingAttestation := by decide
  rw [hpending] at hstatus
  cases hstatus
  decide

/-- Pausing, resuming and hibernating after the verdict keeps the two together. -/
theorem status_agrees_after_verdict :
    Throughout (Host.guestStep "vm-1") (Host.StatusAgrees "vm-1") attestingVm
      [.attestation (.ok ()) .verified, .pause, .resume, .hibernate (.ok ()), .resume] :=
  (Host.status_agrees_iff "vm-1" attestingVm (by decide) attestingVm_agrees _).mpr
    ⟨fun task _ _ status hstatus => by
      have hpending : attestingVm.statusOf "vm-1" = some .pendingAttestation := by decide
      rw [hpending] at hstatus
      cases hstatus
      exact ⟨nofun, nofun⟩,
    trivial, trivial, fun _ _ _ => ⟨fun hfails => absurd rfl hfails, fun _ => by decide⟩, trivial,
    trivial⟩

/-- A VM is paused, its attestation succeeds, and it is reported as running. -/
theorem paused_guest_reported_running :
    ¬ Throughout (Host.guestStep "vm-1") (Host.StatusAgrees "vm-1") attestingVm
      [.pause, .attestation (.ok ()) .verified] := by
  intro h
  obtain ⟨_, _, hrunning⟩ := h.exec .running (by decide)
  exact absurd (hrunning rfl) (by decide)

/-- A VM that was adopted is hibernated, and its hypervisor is still there. -/
example :
    let h := { oneVm .running .executing with child := fun _ => false }
    (h.guestStep "vm-1" (.hibernate (.ok ()))).statusOf "vm-1" = some .hibernated ∧
      (h.guestStep "vm-1" (.hibernate (.ok ()))).vmm "vm-1" = .paused := by
  decide

end Vyoma.VmService
