import Vyoma.SharedFolders

/-!
# What the monitor restores

A round of the monitor checks the volumes one after another. What it does to one volume is read
off its manager: the manager keeps its job for good, and its process unless that has ended.
-/
namespace Vyoma.SharedFolders
open ProcessTables

/-- The manager of a volume of a registered VM. -/
def Node.manager (s : Node) (id : String) (idx : ℕ) : Option VirtioFsManager :=
  match s.vms id with
  | none => none
  | some vm => if vm.registered then vm.managers[idx]? else none

theorem Node.manager_eq_some_iff {s : Node} {id : String} {idx : ℕ} {m : VirtioFsManager} :
    s.manager id idx = some m ↔
      ∃ vm, s.vms id = some vm ∧ vm.registered = true ∧ vm.managers[idx]? = some m := by
  unfold manager
  cases s.vms id with
  | none => simp
  | some vm => cases h : vm.registered <;> simp [h]

theorem nodeStep_check (root : String) (s : Node) (id : String) (idx : ℕ) (waited : Bool)
    (o : StartOutcome) :
    nodeStep root s (.check id idx waited o) = s ∨
    ∃ vm, s.vms id = some vm ∧ vm.registered = true ∧
      nodeStep root s (.check id idx waited o) = monitor id vm idx waited o s := by
  unfold nodeStep
  dsimp only
  cases s.vms id with
  | none => exact .inl rfl
  | some vm =>
    dsimp only
    split_ifs with hregistered
    · exact .inr ⟨vm, rfl, hregistered, rfl⟩
    · exact .inl rfl

/-- A check replaces the process of one volume, which had ended, by one for the same job, and
nothing else. -/
theorem check_cases {root : String} {s : Node} (h : s.Sound root) (id : String) (idx : ℕ)
    (waited : Bool) (o : StartOutcome) :
    nodeStep root s (.check id idx waited o) = s ∨
    ∃ m pid job, s.manager id idx = some m ∧ m.process = some pid ∧
      s.procs.isAlive pid = false ∧ s.procs.jobOf pid = some job ∧
      (nodeStep root s (.check id idx waited o)).procs = s.procs.spawn job ∧
      (nodeStep root s (.check id idx waited o)).manager id idx =
        some { m with process := some s.procs.length } ∧
      ∀ id' idx', (id', idx') ≠ (id, idx) →
        (nodeStep root s (.check id idx waited o)).manager id' idx' = s.manager id' idx' := by
  obtain hsame | ⟨vm, hvm, hregistered, hstep⟩ := nodeStep_check root s id idx waited o
  · exact .inl hsame
  · rw [hstep]
    obtain hsame | ⟨m, pid, hostPath, hm, hpid, hdead, hvolume, hmonitor⟩ :=
      monitor_cases hvm idx waited o
    · exact .inl hsame
    · obtain ⟨hsocket, hostPath', hvolume', hjob⟩ := h.kept id vm hvm idx m hm
      cases hvolume.symm.trans hvolume'
      obtain ⟨hidx, -⟩ := List.getElem?_eq_some_iff.mp hm
      rw [hmonitor, hsocket]
      refine .inr ⟨m, pid, _, Node.manager_eq_some_iff.mpr ⟨vm, hvm, hregistered, hm⟩, hpid, hdead,
        hjob pid hpid, rfl, ?_, fun id' idx' hne => ?_⟩
      · exact Node.manager_eq_some_iff.mpr ⟨_, s.vms_put_self _ _ _, hregistered,
          List.getElem?_set_self hidx⟩
      · by_cases hid : id' = id
        · subst hid
          have hidx' : idx ≠ idx' := fun he => hne (by rw [he])
          unfold Node.manager
          rw [s.vms_put_self, hvm]
          exact if_congr Iff.rfl (List.getElem?_set_ne hidx') rfl
        · unfold Node.manager
          rw [s.vms_put_of_ne hid]

/-- One of the checks of a round of the monitor. -/
structure Check where
  id : String
  idx : ℕ
  waited : Bool
  o : StartOutcome

def Check.action (c : Check) : NodeAction := .check c.id c.idx c.waited c.o

/-- The check sees that the process of the volume has ended, if it has, and can start another. -/
def Check.Restarts (c : Check) (id : String) (idx : ℕ) : Prop :=
  c.id = id ∧ c.idx = idx ∧ c.waited = true ∧ c.o.Starts

theorem check_of_ended {root : String} {s : Node} (h : s.Sound root) {id : String} {idx : ℕ}
    {m : VirtioFsManager} (hm : s.manager id idx = some m) {pid : ℕ} (hpid : m.process = some pid)
    (hdead : s.procs.isAlive pid = false) {c : Check} (hc : c.Restarts id idx) :
    ∃ job, (nodeStep root s c.action).procs = s.procs.spawn job := by
  obtain ⟨cid, cidx, waited, o⟩ := c
  obtain ⟨rfl, rfl, rfl, ho⟩ := hc
  obtain ⟨vm, hvm, hregistered, hm⟩ := Node.manager_eq_some_iff.mp hm
  obtain ⟨-, hostPath, hvolume, -⟩ := h.kept cid vm hvm cidx m hm
  have hstep : nodeStep root s (Check.action ⟨cid, cidx, true, o⟩) =
      monitor cid vm cidx true o s := by
    unfold nodeStep Check.action
    dsimp only
    rw [hvm]
    exact if_pos hregistered
  rw [hstep, monitor_of_ended hm hpid hdead hvolume ho]
  exact ⟨_, rfl⟩

/-- A check leaves a volume with a process for the same job: the one that it had, if that runs. -/
theorem manager_check {root : String} {s : Node} (h : s.Sound root) {id : String} {idx : ℕ}
    {m : VirtioFsManager} (hm : s.manager id idx = some m) {pid : ℕ} (hpid : m.process = some pid)
    (c : Check) : ∃ pid', (nodeStep root s c.action).manager id idx =
        some { m with process := some pid' } ∧
      (nodeStep root s c.action).procs.jobOf pid' = s.procs.jobOf pid ∧
      (s.procs.isAlive pid = true →
        pid' = pid ∧ (nodeStep root s c.action).procs.isAlive pid = true) ∧
      (c.Restarts id idx → (nodeStep root s c.action).procs.isAlive pid' = true) := by
  have hself : { m with process := some pid } = m := by
    rw [← hpid]
  obtain hsame | ⟨m', pid₀, job, hm', hpid₀, hdead, hjob, hprocs, hmanager, hothers⟩ :=
    check_cases h c.id c.idx c.waited c.o
  · change nodeStep root s c.action = s at hsame
    refine ⟨pid, ?_, by rw [hsame], fun halive => ⟨rfl, by rwa [hsame]⟩, fun hc => ?_⟩
    · rw [hsame, hself]
      exact hm
    · rw [hsame]
      by_contra hdead
      obtain ⟨job, hspawn⟩ := check_of_ended h hm hpid (Bool.eq_false_iff.mpr hdead) hc
      rw [hsame] at hspawn
      exact absurd (congrArg List.length hspawn) (by simp [Table.spawn])
  · change (nodeStep root s c.action).procs = _ at hprocs
    by_cases hplace : (id, idx) = (c.id, c.idx)
    · obtain ⟨rfl, rfl⟩ := Prod.mk.inj hplace
      cases hm.symm.trans hm'
      cases hpid.symm.trans hpid₀
      refine ⟨s.procs.length, hmanager, ?_, fun halive => ?_, fun _ => ?_⟩
      · rw [hprocs, hjob]
        exact Table.jobOf_spawn_length _ _
      · rw [hdead] at halive
        cases halive
      · rw [hprocs]
        exact Table.isAlive_spawn.mpr (.inr rfl)
    · refine ⟨pid, (hothers id idx hplace).trans (hself ▸ hm), ?_, fun halive => ⟨rfl, ?_⟩, ?_⟩
      · obtain ⟨vm, hvm, -, hidx⟩ := Node.manager_eq_some_iff.mp hm
        obtain ⟨-, hostPath, -, hjob'⟩ := h.kept id vm hvm idx m hidx
        rw [hprocs, hjob' pid hpid]
        exact Table.jobOf_spawn (hjob' pid hpid) job
      · rw [hprocs]
        exact Table.isAlive_spawn.mpr (.inl halive)
      · rintro ⟨rfl, rfl, -⟩
        exact absurd rfl hplace

theorem manager_checks {root : String} {s : Node} (h : s.Sound root) {id : String} {idx : ℕ}
    {m : VirtioFsManager} (hm : s.manager id idx = some m) {pid : ℕ} (hpid : m.process = some pid)
    (round : List Check) :
    ∃ pid', (Runs.exec (nodeStep root) s (round.map Check.action)).manager id idx =
        some { m with process := some pid' } ∧
      (Runs.exec (nodeStep root) s (round.map Check.action)).procs.jobOf pid' =
        s.procs.jobOf pid ∧
      (s.procs.isAlive pid = true → pid' = pid ∧
        (Runs.exec (nodeStep root) s (round.map Check.action)).procs.isAlive pid = true) ∧
      ((∃ c ∈ round, c.Restarts id idx) →
        (Runs.exec (nodeStep root) s (round.map Check.action)).procs.isAlive pid' = true) := by
  induction round generalizing s m pid with
  | nil =>
    refine ⟨pid, ?_, rfl, fun halive => ⟨rfl, halive⟩, fun hc => ?_⟩
    · rw [← hpid]
      exact hm
    · obtain ⟨c, hc, -⟩ := hc
      cases hc
  | cons c round ih =>
    obtain ⟨pid₁, hm₁, hjob₁, halive₁, hc₁⟩ := manager_check h hm hpid c
    obtain ⟨pid', hm', hjob', halive', hc'⟩ := ih (h.step (a := c.action) trivial) hm₁ rfl
    refine ⟨pid', hm', hjob'.trans hjob₁, fun halive => ?_, fun hc => ?_⟩
    · obtain ⟨rfl, hafter⟩ := halive₁ halive
      exact halive' hafter
    · obtain ⟨c', hmem, hrestarts⟩ := hc
      obtain rfl | hmem := List.mem_cons.mp hmem
      · obtain ⟨rfl, hafter⟩ := halive' (hc₁ hrestarts)
        exact hafter
      · exact hc' ⟨c', hmem, hrestarts⟩

/-- A manager whose process has been killed is left alone. -/
theorem manager_checks_killed {root : String} {s : Node} (h : s.Sound root) {id : String}
    {idx : ℕ} {m : VirtioFsManager} (hm : s.manager id idx = some m) (hkilled : m.process = none)
    (round : List Check) :
    (Runs.exec (nodeStep root) s (round.map Check.action)).manager id idx = some m := by
  induction round generalizing s with
  | nil => exact hm
  | cons c round ih =>
    refine ih (h.step (a := c.action) trivial) ?_
    obtain hsame | ⟨m', pid, job, hm', hpid, -, -, -, -, hothers⟩ :=
      check_cases h c.id c.idx c.waited c.o
    · exact (congrArg (Node.manager · id idx) hsame).trans hm
    · refine (hothers id idx ?_).trans hm
      intro hplace
      obtain ⟨rfl, rfl⟩ := Prod.mk.inj hplace
      cases hm.symm.trans hm'
      cases hkilled.symm.trans hpid

/-- After any run, a round of the monitor brings back the volume of a registered VM: a process
that has ended is replaced by one at the same socket and from the same folder, as soon as one can
be started, one that runs is kept, and one that has been killed stays away. -/
theorem folders_restored (root : String) {run : List NodeAction} (hrun : ∀ a ∈ run, a.KillsDone)
    {id : String} {idx : ℕ} {m : VirtioFsManager}
    (hm : (Runs.exec (nodeStep root) Node.empty run).manager id idx = some m)
    {round : List Check} (hround : ∃ c ∈ round, c.Restarts id idx) :
    let s := Runs.exec (nodeStep root) Node.empty run
    let s' := Runs.exec (nodeStep root) s (round.map Check.action)
    (m.process = none → s'.manager id idx = some m) ∧
    ∀ pid, m.process = some pid → ∃ pid', s'.manager id idx = some { m with process := some pid' } ∧
      s'.procs.isAlive pid' = true ∧ s'.procs.jobOf pid' = s.procs.jobOf pid ∧
      (s.procs.isAlive pid = true → pid' = pid) := by
  have hsound := (Node.sound_empty root).exec hrun
  refine ⟨fun hkilled => manager_checks_killed hsound hm hkilled round, fun pid hpid => ?_⟩
  obtain ⟨pid', hm', hjob, halive, hc⟩ := manager_checks hsound hm hpid round
  exact ⟨pid', hm', hc hround, hjob, fun h => (halive h).1⟩

/-- The process of the volume ends by itself. -/
def endedVolume : List NodeAction := oneVolume ++ [.exit 0]

theorem endedVolume_killsDone : ∀ a ∈ endedVolume, a.KillsDone := by
  simp [endedVolume, oneVolume, NodeAction.KillsDone, KillOutcome.done]

def volumeManager : VirtioFsManager := ⟨some 0, "/vms/vm1/fs_0.sock", "vol0"⟩

theorem endedVolume_restored :
    let s := Runs.exec (nodeStep "/vms") Node.empty endedVolume
    let s' := Runs.exec (nodeStep "/vms") s ([⟨"vm1", 0, true, goodStart⟩].map Check.action)
    (volumeManager.process = none → s'.manager "vm1" 0 = some volumeManager) ∧
    ∀ pid, volumeManager.process = some pid → ∃ pid',
      s'.manager "vm1" 0 = some { volumeManager with process := some pid' } ∧
      s'.procs.isAlive pid' = true ∧ s'.procs.jobOf pid' = s.procs.jobOf pid ∧
      (s.procs.isAlive pid = true → pid' = pid) :=
  folders_restored "/vms" endedVolume_killsDone (by decide)
    ⟨_, List.mem_cons_self, rfl, rfl, rfl, fun h => (nomatch h), rfl⟩

end Vyoma.SharedFolders
