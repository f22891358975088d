import Vyoma.OrderedMaps
import Vyoma.Runs
import Vyoma.VmLifecycle

/-!
# The attestation task beside the registration of its VM

`run_vm` spawns the attestation task first and registers the VM afterwards: it saves the
state and inserts the instance into the map. The task looks the VM up in the map each
time it has something to record. A schedule gives the turns of the two, and each turn
does what one of them does between two points at which the other may run. The instance
is shared, so a write through a handle obtained earlier is a write to the map's entry:
nothing but the task itself takes the entry away.
-/
namespace Vyoma.VmService
open OrderedMaps Runs

/-- What the two meet: the VM with the id drawn for it, the answers of the file system
and the verifier, and the policy's setting when it is read. -/
structure RaceEnv where
  vmId : String
  vm : VmInstance
  saveState : Bool
  tpmSocketPath : Option String
  verification : Verification
  saveStatus : Except String Unit
  blockOnFailure : Bool

/-- Why the check fails, as it is recorded in the status; nothing when it succeeds. -/
def RaceEnv.failure (env : RaceEnv) : Option String :=
  match env.tpmSocketPath with
  | none => some ("vTPM socket not available for VM " ++ env.vmId ++ " - cannot perform attestation")
  | some _ =>
    match env.verification with
    | .verified => none
    | .rejected error => some ("Attestation failed: " ++ error.getD "Attestation failed")
    | .failed e => some ("Attestation failed: " ++ e)
    | .timedOut elapsed =>
      some ("Attestation timed out after " ++ elapsed ++ " for VM " ++ env.vmId)

inductive Registration where
  | saving
  | inserting
  | done
  deriving DecidableEq, Repr

inductive TaskPhase where
  | verifying
  | lookingUp
  | setting
  | saving
  | lookingUpAgain
  | marking
  | deciding
  | removing
  | killing
  | finished
  deriving DecidableEq, Repr

/-- The map, whether the VMM process of the VM was killed, and where the two are. -/
structure Race where
  vms : Std.ExtTreeMap String VmInstance
  killed : Bool
  registration : Registration
  task : TaskPhase

inductive Turn where
  | registration
  | task
  deriving DecidableEq, Repr

section Steps

variable (env : RaceEnv)

/-- The rest of `run_vm`. When saving fails the instance is dropped, and with it the
VMM manager, whose destructor kills the process. -/
def registrationTurn (s : Race) : Race :=
  match s.registration with
  | .saving =>
    if env.saveState then { s with registration := .inserting }
    else { s with registration := .done, killed := true }
  | .inserting => { s with
      vms := s.vms.insert env.vmId { env.vm with
        id := env.vmId, status := .pendingAttestation, attestationStatus := none }
      registration := .done }
  | .done => s

/-- A write to the shared instance. -/
def writeVm (s : Race) (f : VmInstance → VmInstance) : Std.ExtTreeMap String VmInstance :=
  match s.vms[env.vmId]? with
  | some vm => s.vms.insert env.vmId (f vm)
  | none => s.vms

/-- `check_policy_and_perform_attestation` from one lock to the next. After a success a
VM that is not found, or cannot be saved, ends the task; after a failure it goes on. -/
def taskTurn (s : Race) : Race :=
  match s.task with
  | .verifying => { s with task := .lookingUp }
  | .lookingUp =>
    if env.vmId ∈ s.vms then { s with task := .setting }
    else { s with task := if env.failure.isSome then .lookingUpAgain else .finished }
  | .setting => { s with
      vms := writeVm env s fun vm => { vm with
        status := match env.failure with
          | none => .running
          | some reason => .attestationFailed reason }
      task := .saving }
  | .saving => { s with
      task := if env.saveStatus.isOk || env.failure.isSome then .lookingUpAgain else .finished }
  | .lookingUpAgain =>
    if env.vmId ∈ s.vms then { s with task := .marking }
    else { s with task := if env.failure.isSome then .deciding else .finished }
  | .marking => { s with
      vms := writeVm env s fun vm => { vm with
        attestationStatus := some (if env.failure.isSome then "FAILED" else "VERIFIED") }
      task := if env.failure.isSome then .deciding else .finished }
  | .deciding => { s with task := if env.blockOnFailure then .removing else .finished }
  | .removing =>
    if env.vmId ∈ s.vms then { s with vms := s.vms.erase env.vmId, task := .killing }
    else { s with task := .finished }
  | .killing => { s with killed := true, task := .finished }
  | .finished => s

def turn (s : Race) : Turn → Race
  | .registration => registrationTurn env s
  | .task => taskTurn env s

end Steps

def Race.start (vms : Std.ExtTreeMap String VmInstance) : Race := ⟨vms, false, .saving, .verifying⟩

def Race.Finished (s : Race) : Prop := s.registration = .done ∧ s.task = .finished

/-- Neither outcome is lost: a VM that failed and must be blocked is gone and its process
killed, and a VM that succeeded is registered as running. -/
structure OutcomeKept (env : RaceEnv) (s : Race) : Prop where
  failed : env.failure.isSome = true → env.blockOnFailure = true →
    env.vmId ∉ s.vms ∧ s.killed = true
  succeeded : env.failure = none → ∃ vm, s.vms[env.vmId]? = some vm ∧ vm.status = .running

/-- The VM is registered in time: after a success before the task looks it up, and after
a failure that blocks it before the task is over. -/
def InTime (env : RaceEnv) (s : Race) : Turn → Prop
  | .task => True
  | .registration =>
    match s.registration with
    | .saving => env.failure = none → env.saveState = true
    | .inserting =>
      (env.failure = none → s.task = .verifying ∨ s.task = .lookingUp) ∧
        (env.failure.isSome = true → env.blockOnFailure = true → s.task ≠ .finished)
    | .done => True

instance (env : RaceEnv) : ∀ s t, Decidable (InTime env s t)
  | _, .task => inferInstanceAs (Decidable True)
  | ⟨_, _, .saving, _⟩, .registration => inferInstanceAs (Decidable (_ → _))
  | ⟨_, _, .inserting, _⟩, .registration => inferInstanceAs (Decidable (_ ∧ _))
  | ⟨_, _, .done, _⟩, .registration => inferInstanceAs (Decidable True)

/-! ## The task on its own

With no turn of the registration in between, the turns of the task do to the map what
`checkPolicyAndPerformAttestation` does in one piece. -/

section Alone

variable {env : RaceEnv} (d : Daemon) (killed : Bool) (registration : Registration)

theorem exec_task_success (hnone : env.failure = none) :
    (exec (turn env) ⟨d.vms, killed, registration, .verifying⟩ (List.replicate 9 .task)).vms =
      (match d.updateVmStatus env.saveStatus env.vmId .running with
        | (d, .error _) => d
        | (d, .ok ()) => d.setAttestationStatus env.vmId "VERIFIED").vms := by
  simp only [List.replicate, exec_cons, exec_nil]
  by_cases hin : env.vmId ∈ d.vms
  · cases hsave : env.saveStatus with
    | error e =>
      simp [turn, taskTurn, hin, hnone, Daemon.updateVmStatus, writeVm, hsave, Except.isOk,
        Except.toBool, Except.mapError]
    | ok u =>
      simp [turn, taskTurn, hin, hnone, Daemon.updateVmStatus, Daemon.setAttestationStatus,
        writeVm, hsave, Except.isOk, Except.toBool, Except.mapError]
  · simp [turn, taskTurn, hin, hnone, Daemon.updateVmStatus]

theorem exec_task_failure {reason : String} (hfail : env.failure = some reason)
    (hblock : d.policy.measuredBoot.blockOnFailure = env.blockOnFailure) :
    (exec (turn env) ⟨d.vms, killed, registration, .verifying⟩ (List.replicate 9 .task)).vms =
      (d.handleAttestationFailure env.saveStatus env.vmId reason).vms := by
  simp only [List.replicate, exec_cons, exec_nil]
  by_cases hin : env.vmId ∈ d.vms
  · cases hset : env.blockOnFailure <;> rw [hset] at hblock <;>
      simp [turn, taskTurn, hin, hfail, Daemon.handleAttestationFailure, Daemon.updateVmStatus,
        Daemon.setAttestationStatus, Daemon.killVm, hblock, hset, writeVm]
  · cases hset : env.blockOnFailure <;> rw [hset] at hblock <;>
      simp [turn, taskTurn, hin, hfail, Daemon.handleAttestationFailure, Daemon.updateVmStatus,
        Daemon.setAttestationStatus, Daemon.killVm, hblock, hset, erase_of_notMem]

theorem exec_task_alone (hpolicy : d.policy.mustVerifyOnBoot = true)
    (hblock : d.policy.measuredBoot.blockOnFailure = env.blockOnFailure) :
    (exec (turn env) ⟨d.vms, killed, registration, .verifying⟩ (List.replicate 9 .task)).vms =
      (d.checkPolicyAndPerformAttestation env.saveStatus env.vmId env.tpmSocketPath
        env.verification).1.vms := by
  unfold Daemon.checkPolicyAndPerformAttestation
  rw [hpolicy]
  cases htpm : env.tpmSocketPath with
  | none => exact exec_task_failure d killed registration (by simp [RaceEnv.failure, htpm]) hblock
  | some path =>
    cases hverdict : env.verification with
    | verified =>
      rw [exec_task_success d killed registration (by simp [RaceEnv.failure, htpm, hverdict])]
      simp only [Bool.not_true, Bool.false_eq_true, if_false]
      obtain ⟨d', result⟩ := d.updateVmStatus env.saveStatus env.vmId .running
      cases result <;> rfl
    | rejected error =>
      exact exec_task_failure d killed registration (by simp [RaceEnv.failure, htpm, hverdict]) hblock
    | failed e =>
      exact exec_task_failure d killed registration (by simp [RaceEnv.failure, htpm, hverdict]) hblock
    | timedOut elapsed =>
      exact exec_task_failure d killed registration (by simp [RaceEnv.failure, htpm, hverdict]) hblock

end Alone

section Writes

variable (env : RaceEnv) (s : Race) (f : VmInstance → VmInstance)

@[simp] theorem writeVm_lookup : (writeVm env s f)[env.vmId]? = (s.vms[env.vmId]?).map f := by
  unfold writeVm
  cases hvm : s.vms[env.vmId]? with
  | none => simpa using hvm
  | some vm => simp

@[simp] theorem mem_writeVm : env.vmId ∈ writeVm env s f ↔ env.vmId ∈ s.vms := by
  rw [mem_iff_lookup, mem_iff_lookup, writeVm_lookup]
  simp

end Writes

/-- What holds in every state of every schedule. -/
structure RaceInv (env : RaceEnv) (s : Race) : Prop where
  unregistered : s.registration ≠ .done → env.vmId ∉ s.vms
  holding : s.task = .setting → env.vmId ∈ s.vms
  recorded : env.failure = none → s.task = .saving ∨ s.task = .lookingUpAgain ∨ s.task = .marking →
    ∃ vm, s.vms[env.vmId]? = some vm ∧ vm.status = .running
  blocking : env.failure = none → s.task ≠ .deciding ∧ s.task ≠ .removing ∧ s.task ≠ .killing
  removed : s.task = .killing → env.vmId ∉ s.vms ∧ s.registration = .done
  dropped : s.registration = .done → env.vmId ∉ s.vms → s.killed = true ∨ s.task = .killing

theorem raceInv_start {env : RaceEnv} {vms : Std.ExtTreeMap String VmInstance}
    (hfresh : env.vmId ∉ vms) : RaceInv env (Race.start vms) := by
  constructor <;> simp [Race.start, hfresh]

theorem raceInv_registrationTurn {env : RaceEnv} {s : Race} (h : RaceInv env s) :
    RaceInv env (registrationTurn env s) := by
  obtain ⟨vms, killed, registration, task⟩ := s
  unfold registrationTurn
  cases registration with
  | saving =>
    have hnew : env.vmId ∉ vms := h.unregistered (by simp)
    by_cases hsave : env.saveState = true
    · simp only [hsave, if_true]
      exact ⟨fun _ => hnew, h.holding, h.recorded, h.blocking,
        fun ht => absurd (h.removed ht).2 (by simp), by simp⟩
    · simp only [hsave, if_false, Bool.false_eq_true]
      exact ⟨by simp, h.holding, h.recorded, h.blocking, fun ht => ⟨(h.removed ht).1, rfl⟩, by simp⟩
  | inserting =>
    have hnew : env.vmId ∉ vms := h.unregistered (by simp)
    refine ⟨by simp, fun _ => by simp, fun hnone hphase => ?_, h.blocking, fun ht => ?_, by simp⟩
    · obtain ⟨vm, hvm, _⟩ := h.recorded hnone hphase
      exact absurd (mem_iff_lookup.mpr ⟨vm, hvm⟩) hnew
    · exact absurd (h.removed ht).2 (by simp)
  | done => exact h

/-- The task moves on and touches nothing; the new phase brings its own obligations. -/
theorem RaceInv.moveTo {env : RaceEnv} {s : Race} {task : TaskPhase} (h : RaceInv env s)
    (hnow : s.task ≠ .killing) (hholding : task = .setting → env.vmId ∈ s.vms)
    (hrecorded : env.failure = none → task = .saving ∨ task = .lookingUpAgain ∨ task = .marking →
      ∃ vm, s.vms[env.vmId]? = some vm ∧ vm.status = .running)
    (hblocking : env.failure = none → task ≠ .deciding ∧ task ≠ .removing ∧ task ≠ .killing)
    (hkilling : task ≠ .killing) : RaceInv env { s with task := task } where
  unregistered := h.unregistered
  holding := hholding
  recorded := hrecorded
  blocking := hblocking
  removed htask := absurd htask hkilling
  dropped hreg hout := .inl ((h.dropped hreg hout).resolve_right hnow)

theorem RaceInv.finish {env : RaceEnv} {s : Race} (h : RaceInv env s) (hnow : s.task ≠ .killing) :
    RaceInv env { s with task := .finished } :=
  h.moveTo hnow nofun (by simp) (by simp) nofun

/-- A write to the VM, after a success one that leaves it running. -/
theorem RaceInv.write {env : RaceEnv} {s : Race} {f : VmInstance → VmInstance} (h : RaceInv env s)
    (hf : env.failure = none → ∀ vm, vm.status = .running → (f vm).status = .running) :
    RaceInv env { s with vms := writeVm env s f } where
  unregistered hreg := by simpa using h.unregistered hreg
  holding htask := by simpa using h.holding htask
  recorded hnone hphase := by
    obtain ⟨vm, hvm, hrunning⟩ := h.recorded hnone hphase
    exact ⟨f vm, by simp [hvm], hf hnone vm hrunning⟩
  blocking := h.blocking
  removed htask := by simpa using h.removed htask
  dropped hreg hout := h.dropped hreg (by simpa using hout)

theorem raceInv_taskTurn {env : RaceEnv} {s : Race} (h : RaceInv env s) :
    RaceInv env (taskTurn env s) := by
  obtain ⟨vms, killed, registration, task⟩ := s
  unfold taskTurn
  cases task with
  | verifying => exact h.moveTo nofun nofun (by simp) (by simp) nofun
  | lookingUp =>
    by_cases hin : env.vmId ∈ vms
    · simp only [hin, if_true]
      exact h.moveTo nofun (fun _ => hin) (by simp) (by simp) nofun
    · simp only [hin, if_false]
      cases hfail : env.failure with
      | none => exact h.finish nofun
      | some reason => exact h.moveTo nofun nofun (by simp [hfail]) (by simp) nofun
  | setting =>
    obtain ⟨vm, hvm⟩ := mem_iff_lookup.mp (h.holding rfl)
    refine (h.write fun hnone vm _ => ?_).moveTo nofun nofun (fun hnone _ => ?_) (by simp) nofun
    · simp [hnone]
    · exact ⟨_, by simp [hvm]; rfl, by simp [hnone]⟩
  | saving =>
    by_cases hgo : (env.saveStatus.isOk || env.failure.isSome) = true
    · simp only [hgo, if_true]
      exact h.moveTo nofun nofun (fun hnone _ => h.recorded hnone (.inl rfl)) (by simp) nofun
    · simp only [hgo, if_false, Bool.false_eq_true]
      exact h.finish nofun
  | lookingUpAgain =>
    by_cases hin : env.vmId ∈ vms
    · simp only [hin, if_true]
      exact h.moveTo nofun nofun (fun hnone _ => h.recorded hnone (.inr (.inl rfl))) (by simp) nofun
    · simp only [hin, if_false]
      cases hfail : env.failure with
      | none => exact h.finish nofun
      | some reason => exact h.moveTo nofun nofun (by simp [hfail]) (by simp [hfail]) nofun
  | marking =>
    have hwritten := h.write (f := fun vm => { vm with
      attestationStatus := some (if env.failure.isSome then "FAILED" else "VERIFIED") })
      fun _ _ hrunning => hrunning
    cases hfail : env.failure with
    | none =>
      simp only [hfail] at hwritten
      exact hwritten.finish nofun
    | some reason =>
      simp only [hfail] at hwritten
      exact hwritten.moveTo nofun nofun (by simp [hfail]) (by simp [hfail]) nofun
  | deciding =>
    have hfail : env.failure ≠ none := fun hnone => (h.blocking hnone).1 rfl
    by_cases hblock : env.blockOnFailure = true
    · simp only [hblock, if_true]
      exact h.moveTo nofun nofun (by simp) (fun hnone => absurd hnone hfail) nofun
    · simp only [hblock, if_false, Bool.false_eq_true]
      exact h.finish nofun
  | removing =>
    by_cases hin : env.vmId ∈ vms
    · have hfail : env.failure ≠ none := fun hnone => (h.blocking hnone).2.1 rfl
      have hreg : registration = .done := by
        by_contra hne
        exact h.unregistered hne hin
      simp only [hin, if_true]
      exact ⟨by simp, by simp, by simp, fun hnone => absurd hnone hfail, by simp [hreg], by simp⟩
    · simp only [hin, if_false]
      exact h.finish nofun
  | killing =>
    exact ⟨h.unregistered, by simp, by simp, by simp, by simp, by simp⟩
  | finished => exact h

theorem raceInv_turn {env : RaceEnv} (s : Race) (t : Turn) (h : RaceInv env s) :
    RaceInv env (turn env s t) := by
  cases t with
  | registration => exact raceInv_registrationTurn h
  | task => exact raceInv_taskTurn h

/-- Once the registration is over, the outcome is certain to be kept: the task has yet to
look the VM up or has recorded its success, and has yet to remove a VM it blocks. -/
structure Settled (env : RaceEnv) (s : Race) : Prop where
  succeeded : s.registration = .done → env.failure = none → ∃ vm, s.vms[env.vmId]? = some vm ∧
    (s.task = .verifying ∨ s.task = .lookingUp ∨ s.task = .setting ∨ vm.status = .running)
  failed : s.registration = .done → env.failure.isSome = true → env.blockOnFailure = true →
    env.vmId ∈ s.vms → s.task ≠ .finished

/-- Whatever the task does next, a success that is recorded stands. -/
theorem RaceInv.stands {env : RaceEnv} {s : Race} (h : RaceInv env s) (hnone : env.failure = none)
    (hphase : s.task = .saving ∨ s.task = .lookingUpAgain ∨ s.task = .marking) (task : TaskPhase) :
    ∃ vm, s.vms[env.vmId]? = some vm ∧
      (task = .verifying ∨ task = .lookingUp ∨ task = .setting ∨ vm.status = .running) := by
  obtain ⟨vm, hvm, hrunning⟩ := h.recorded hnone hphase
  exact ⟨vm, hvm, .inr (.inr (.inr hrunning))⟩

theorem settled_start (env : RaceEnv) (vms : Std.ExtTreeMap String VmInstance) :
    Settled env (Race.start vms) := by
  constructor <;> simp [Race.start]

/-- At the end, certain to be kept means kept. -/
theorem settled_iff_outcomeKept {env : RaceEnv} {s : Race} (h : RaceInv env s)
    (hfinished : s.Finished) : Settled env s ↔ OutcomeKept env s := by
  obtain ⟨hreg, htask⟩ := hfinished
  constructor
  · intro hsettled
    refine ⟨fun hfail hblock => ?_, fun hnone => ?_⟩
    · have hout : env.vmId ∉ s.vms := fun hin => hsettled.failed hreg hfail hblock hin htask
      refine ⟨hout, ?_⟩
      simpa [htask] using h.dropped hreg hout
    · simpa [htask] using hsettled.succeeded hreg hnone
  · intro hkept
    refine ⟨fun _ hnone => ?_, fun _ hfail hblock hin => ?_⟩
    · obtain ⟨vm, hvm, hrunning⟩ := hkept.succeeded hnone
      exact ⟨vm, hvm, .inr (.inr (.inr hrunning))⟩
    · exact absurd hin (hkept.failed hfail hblock).1

theorem settled_registrationTurn_iff {env : RaceEnv} {s : Race} (h : RaceInv env s)
    (hsettled : Settled env s) :
    Settled env (registrationTurn env s) ↔ InTime env s .registration := by
  obtain ⟨vms, killed, registration, task⟩ := s
  cases registration with
  | saving =>
    have hnew : env.vmId ∉ vms := h.unregistered (by simp)
    have hlookup : vms[env.vmId]? = none := Std.ExtTreeMap.getElem?_eq_none hnew
    cases hsave : env.saveState with
    | true =>
      refine iff_of_true ?_ (by simp [InTime, hsave])
      constructor <;> simp [registrationTurn, hsave]
    | false =>
      simp only [registrationTurn, hsave, InTime, Bool.false_eq_true, if_false, imp_false]
      constructor
      · intro hafter hnone
        obtain ⟨vm, hvm, _⟩ := hafter.succeeded rfl hnone
        simp [hlookup] at hvm
      · intro hfail
        exact ⟨fun _ hnone => absurd hnone hfail, fun _ _ _ hin => absurd hin hnew⟩
  | inserting =>
    have hnew : env.vmId ∉ vms := h.unregistered (by simp)
    have hnotSetting : task ≠ .setting := fun ht => hnew (h.holding ht)
    constructor
    · intro hafter
      refine ⟨fun hnone => ?_, fun hfail hblock => hafter.failed rfl hfail hblock (by
        simp [registrationTurn])⟩
      obtain ⟨vm, hvm, hphase⟩ := hafter.succeeded rfl hnone
      simp only [registrationTurn, lookup_insert, if_true, Option.some.injEq] at hvm
      simpa [← hvm, hnotSetting, registrationTurn] using hphase
    · intro hintime
      obtain ⟨hsucceeded, hfailed⟩ := hintime
      refine ⟨fun _ hnone => ?_, fun _ hfail hblock _ => hfailed hfail hblock⟩
      refine ⟨_, by simp [registrationTurn]; rfl, ?_⟩
      obtain hphase | hphase := hsucceeded hnone
      · exact .inl hphase
      · exact .inr (.inl hphase)
  | done => exact iff_of_true hsettled trivial

theorem settled_taskTurn {env : RaceEnv} {s : Race} (h : RaceInv env s)
    (hsettled : Settled env s) : Settled env (taskTurn env s) := by
  obtain ⟨vms, killed, registration, task⟩ := s
  unfold taskTurn
  cases task with
  | verifying =>
    refine ⟨fun hreg hnone => ?_, fun _ _ _ _ => by simp⟩
    obtain ⟨vm, hvm, _⟩ := hsettled.succeeded hreg hnone
    exact ⟨vm, hvm, .inr (.inl rfl)⟩
  | lookingUp =>
    by_cases hin : env.vmId ∈ vms
    · simp only [hin, if_true]
      refine ⟨fun hreg hnone => ?_, fun _ _ _ _ => by simp⟩
      obtain ⟨vm, hvm⟩ := mem_iff_lookup.mp hin
      exact ⟨vm, hvm, .inr (.inr (.inl rfl))⟩
    · simp only [hin, if_false]
      refine ⟨fun hreg hnone => ?_, fun _ _ _ hmem => absurd hmem hin⟩
      obtain ⟨vm, hvm, _⟩ := hsettled.succeeded hreg hnone
      exact absurd (mem_iff_lookup.mpr ⟨vm, hvm⟩) hin
  | setting =>
    refine ⟨fun hreg hnone => ?_, fun _ _ _ _ => by simp⟩
    obtain ⟨vm, hvm⟩ := mem_iff_lookup.mp (h.holding rfl)
    exact ⟨_, by simp [hvm]; rfl, .inr (.inr (.inr (by simp [hnone])))⟩
  | saving =>
    refine ⟨fun _ hnone => ?_, fun _ hfail _ _ => by simp [hfail]⟩
    exact h.stands hnone (.inl rfl) _
  | lookingUpAgain =>
    by_cases hin : env.vmId ∈ vms
    · simp only [hin, if_true]
      refine ⟨fun _ hnone => ?_, fun _ _ _ _ => by simp⟩
      exact h.stands hnone (.inr (.inl rfl)) _
    · simp only [hin, if_false]
      refine ⟨fun _ hnone => ?_, fun _ _ _ hmem => absurd hmem hin⟩
      obtain ⟨vm, hvm, _⟩ := h.recorded hnone (.inr (.inl rfl))
      exact absurd (mem_iff_lookup.mpr ⟨vm, hvm⟩) hin
  | marking =>
    refine ⟨fun _ hnone => ?_, fun _ hfail _ _ => by simp [hfail]⟩
    obtain ⟨vm, hvm, hrunning⟩ := h.recorded hnone (.inr (.inr rfl))
    exact ⟨{ vm with attestationStatus := some "VERIFIED" }, by simp [hvm, hnone],
      .inr (.inr (.inr hrunning))⟩
  | deciding =>
    refine ⟨fun _ hnone => absurd rfl (h.blocking hnone).1, fun _ _ hblock _ => ?_⟩
    simp [hblock]
  | removing =>
    refine ⟨fun _ hnone => absurd rfl (h.blocking hnone).2.1, fun _ _ _ hmem => ?_⟩
    by_cases hin : env.vmId ∈ vms
    · simp [hin] at hmem
    · simp [hin] at hmem
  | killing =>
    refine ⟨fun _ hnone => absurd rfl (h.blocking hnone).2.2, fun _ _ _ hmem => ?_⟩
    exact absurd hmem (h.removed rfl).1
  | finished => exact hsettled

/-- A task that is still at work has lost nothing yet, but for a VM that is not there. -/
theorem settled_of_taskTurn {env : RaceEnv} {s : Race} (h : RaceInv env s)
    (hafter : Settled env (taskTurn env s)) : Settled env s := by
  obtain ⟨vms, killed, registration, task⟩ := s
  unfold taskTurn at hafter
  cases task with
  | verifying =>
    refine ⟨fun hreg hnone => ?_, by simp⟩
    obtain ⟨vm, hvm, _⟩ := hafter.succeeded hreg hnone
    exact ⟨vm, hvm, .inl rfl⟩
  | lookingUp =>
    refine ⟨fun hreg hnone => ?_, by simp⟩
    by_cases hin : env.vmId ∈ vms
    · obtain ⟨vm, hvm⟩ := mem_iff_lookup.mp hin
      exact ⟨vm, hvm, .inr (.inl rfl)⟩
    · simp only [hin, if_false] at hafter
      obtain ⟨vm, hvm, _⟩ := hafter.succeeded hreg hnone
      exact ⟨vm, hvm, .inr (.inl rfl)⟩
  | setting =>
    refine ⟨fun _ _ => ?_, by simp⟩
    obtain ⟨vm, hvm⟩ := mem_iff_lookup.mp (h.holding rfl)
    exact ⟨vm, hvm, .inr (.inr (.inl rfl))⟩
  | saving =>
    refine ⟨fun _ hnone => ?_, by simp⟩
    exact h.stands hnone (.inl rfl) _
  | lookingUpAgain =>
    refine ⟨fun _ hnone => ?_, by simp⟩
    exact h.stands hnone (.inr (.inl rfl)) _
  | marking =>
    refine ⟨fun _ hnone => ?_, by simp⟩
    exact h.stands hnone (.inr (.inr rfl)) _
  | deciding => exact ⟨fun _ hnone => absurd rfl (h.blocking hnone).1, by simp⟩
  | removing => exact ⟨fun _ hnone => absurd rfl (h.blocking hnone).2.1, by simp⟩
  | killing => exact ⟨fun _ hnone => absurd rfl (h.blocking hnone).2.2, by simp⟩
  | finished => exact hafter

theorem not_settled_turn {env : RaceEnv} (s : Race) (t : Turn) (h : RaceInv env s)
    (hnot : ¬ Settled env s) : ¬ Settled env (turn env s t) := by
  intro hafter
  refine hnot ?_
  cases t with
  | task => exact settled_of_taskTurn h hafter
  | registration =>
    by_cases hreg : s.registration = .done
    · simpa [turn, registrationTurn, hreg] using hafter
    · exact ⟨fun hdone => absurd hdone hreg, fun hdone => absurd hdone hreg⟩

theorem settled_turn_iff {env : RaceEnv} (s : Race) (t : Turn) (h : RaceInv env s)
    (hsettled : Settled env s) : Settled env (turn env s t) ↔ InTime env s t := by
  cases t with
  | registration => exact settled_registrationTurn_iff h hsettled
  | task => exact iff_of_true (settled_taskTurn h hsettled) trivial

/-- In every schedule after which registration and task are over, the outcome of the check
is kept exactly when the VM was registered in time. -/
theorem outcomeKept_iff_inTime (env : RaceEnv) {vms : Std.ExtTreeMap String VmInstance}
    (hfresh : env.vmId ∉ vms) {schedule : List Turn}
    (hfinished : (exec (turn env) (Race.start vms) schedule).Finished) :
    OutcomeKept env (exec (turn env) (Race.start vms) schedule) ↔
      Along (turn env) (InTime env) (Race.start vms) schedule := by
  have hinv : RaceInv env (exec (turn env) (Race.start vms) schedule) :=
    exec_of_invariant (raceInv_start hfresh) raceInv_turn schedule
  rw [← settled_iff_outcomeKept hinv hfinished]
  exact exec_iff_along_of_invariant (raceInv_start hfresh) raceInv_turn (settled_start env vms)
    settled_turn_iff not_settled_turn schedule

/-- A VM whose check succeeds. -/
def verifiedRace : RaceEnv where
  vmId := "5f2c"
  vm :=
    { id := "5f2c", status := .pendingAttestation, chSocketPath := "", vcpu := 1, memSizeMib := 512 }
  saveState := true
  tpmSocketPath := some "/run/swtpm.sock"
  verification := .verified
  saveStatus := .ok ()
  blockOnFailure := true

theorem outcomeKept_registered_first : "5f2c" ∉ (∅ : Std.ExtTreeMap String VmInstance) ∧
    OutcomeKept verifiedRace (exec (turn verifiedRace) (Race.start ∅)
      [.task, .registration, .registration, .task, .task, .task, .task, .task]) :=
  ⟨by simp, (outcomeKept_iff_inTime verifiedRace (by simp [verifiedRace]) ⟨by decide, by decide⟩).mpr
    (by decide)⟩

/-- The task looks the VM up before it is registered, and ends; the VM stays pending. -/
theorem outcome_lost_looked_up_first :
    (exec (turn verifiedRace) (Race.start ∅) [.task, .task, .registration, .registration]).Finished ∧
      ¬ OutcomeKept verifiedRace (exec (turn verifiedRace) (Race.start ∅)
        [.task, .task, .registration, .registration]) := by
  refine ⟨⟨by decide, by decide⟩, fun h => ?_⟩
  obtain ⟨vm, hvm, hrunning⟩ := h.succeeded rfl
  have hpending : (exec (turn verifiedRace) (Race.start ∅)
      [.task, .task, .registration, .registration]).vms["5f2c"]?.map VmInstance.status =
        some .pendingAttestation := by decide
  have hstatus := congrArg (Option.map VmInstance.status) hvm
  rw [Option.map_some, hrunning] at hstatus
  exact absurd (hpending.symm.trans hstatus) (by decide)

end Vyoma.VmService
