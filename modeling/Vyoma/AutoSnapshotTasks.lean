import Vyoma.AutoSnapshot
import Vyoma.Runs

/-!
# The tasks of automatic snapshots

`start_task` registers the sending half of a channel under the VM and spawns a loop with
the receiving half; `stop_task` drops the sender. A loop that notices this leaves its
`select!`, and some time later removes whatever the map holds for its VM. Each step below
is one stretch of code under the lock of the map, or a turn of one loop.
-/
namespace Vyoma.AutoSnapshot
open TimeMachine
open Runs

inductive Phase where
  | spawned
  | running
  | stopping
  | ended
  | panicked
  deriving DecidableEq, Repr

/-- The loop still is before or in its `select!`. -/
def Phase.live : Phase → Bool
  | .spawned => true
  | .running => true
  | _ => false

def Phase.over : Phase → Bool
  | .ended => true
  | .panicked => true
  | _ => false

structure LoopTask where
  config : AutoSnapshotConfig
  phase : Phase

inductive Call where
  | start
  | stop
  deriving DecidableEq, Repr

/-- The map of the manager, the loops that were spawned, and the snapshots. A sender is
known by the number of its channel, which is the position of the loop that has the
receiver. `lastCall` is a ghost: the last call for a VM that returned `Ok`. -/
structure TaskManager where
  tasks : Std.ExtTreeMap String ℕ
  loops : List LoopTask
  store : Store
  lastCall : String → Option Call
  registered : ∀ (vmId : String) (n : ℕ), tasks[vmId]? = some n →
    lastCall vmId = some .start ∧ ∃ loop, loops[n]? = some loop ∧ loop.config.vmId = vmId

namespace TaskManager

/-- No task, and the given snapshots. -/
def initial (store : Store) : TaskManager where
  tasks := ∅
  loops := []
  store := store
  lastCall _ := none
  registered := by simp

def setPhase (m : TaskManager) (n : ℕ) (phase : Phase) : TaskManager where
  tasks := m.tasks
  loops := m.loops.modify n fun loop => { loop with phase := phase }
  store := m.store
  lastCall := m.lastCall
  registered vmId k h := by
    obtain ⟨hcall, loop, hloop, hvm⟩ := m.registered vmId k h
    refine ⟨hcall, ?_⟩
    rw [List.getElem?_modify, hloop]
    split_ifs
    · exact ⟨_, rfl, hvm⟩
    · exact ⟨loop, rfl, hvm⟩

def setStore (m : TaskManager) (store : Store) : TaskManager := { m with store := store }

/-- `tasks.remove`: the sender of a VM, whichever it is, is dropped. -/
def remove (m : TaskManager) (vmId : String) : TaskManager where
  tasks := m.tasks.erase vmId
  loops := m.loops
  store := m.store
  lastCall := m.lastCall
  registered vmId' n h := m.registered vmId' n (OrderedMaps.lookup_erase_eq_some_iff.mp h).2

/-- A new channel for a VM that is not registered, and its loop. -/
def spawn (m : TaskManager) (config : AutoSnapshotConfig) : TaskManager where
  tasks := m.tasks.insert config.vmId m.loops.length
  loops := m.loops ++ [⟨config, .spawned⟩]
  store := m.store
  lastCall := Function.update m.lastCall config.vmId (some .start)
  registered vmId n h := by
    obtain ⟨rfl, rfl⟩ | ⟨hne, h⟩ := OrderedMaps.lookup_insert_eq_some_iff.mp h
    · exact ⟨Function.update_self _ _ _, ⟨config, .spawned⟩, by simp, rfl⟩
    · obtain ⟨hcall, loop, hloop, hvm⟩ := m.registered vmId n h
      rw [Function.update_of_ne (Ne.symm hne), List.getElem?_append_left]
      · exact ⟨hcall, loop, hloop, hvm⟩
      · exact (List.getElem?_eq_some_iff.mp hloop).1

/-- `start_task`. -/
def startTask (m : TaskManager) (config : AutoSnapshotConfig) : TaskManager × Except String Unit :=
  if config.vmId ∈ m.tasks then
    (m, .error ("Auto-snapshot task already running for VM " ++ config.vmId))
  else (m.spawn config, .ok ())

/-- The entry of a VM is removed by `stop_task`. -/
def drop (m : TaskManager) (vmId : String) : TaskManager where
  tasks := m.tasks.erase vmId
  loops := m.loops
  store := m.store
  lastCall := Function.update m.lastCall vmId (some .stop)
  registered vmId' n h := by
    obtain ⟨hne, h⟩ := OrderedMaps.lookup_erase_eq_some_iff.mp h
    rw [Function.update_of_ne (Ne.symm hne)]
    exact m.registered vmId' n h

/-- `stop_task`. -/
def stopTask (m : TaskManager) (vmId : String) : TaskManager × Except String Unit :=
  if vmId ∈ m.tasks then (m.drop vmId, .ok ())
  else (m, .error ("No auto-snapshot task found for VM " ++ vmId))

/-- The sender of this channel has been dropped. -/
def closed (m : TaskManager) (n : ℕ) (vmId : String) : Bool := m.tasks[vmId]? ≠ some n

/-- A turn of one loop, taken only in the phase it belongs to. -/
def atPhase (m : TaskManager) (n : ℕ) (phase : Phase) (turn : AutoSnapshotConfig → TaskManager) :
    TaskManager :=
  match m.loops[n]? with
  | none => m
  | some loop => if loop.phase = phase then turn loop.config else m

/-- The first turn of a loop. `tokio::time::interval` panics on an empty interval. -/
def beginLoop (m : TaskManager) (n : ℕ) : TaskManager :=
  m.atPhase n .spawned fun config =>
    m.setPhase n (if config.interval = 0 then .panicked else .running)

def tickLoop (m : TaskManager) (n : ℕ) (o : TickOutcomes) : TaskManager :=
  m.atPhase n .running fun config =>
    let out := tick config m.store o
    (m.setStore out.1).setPhase n (if out.2 then .running else .panicked)

/-- `stop_rx.changed()` returns an error once the sender is gone; nothing is ever sent. -/
def noticeStop (m : TaskManager) (n : ℕ) : TaskManager :=
  m.atPhase n .running fun config => if m.closed n config.vmId then m.setPhase n .stopping else m

/-- The end of a loop, after its `select!`. -/
def finishLoop (m : TaskManager) (n : ℕ) : TaskManager :=
  m.atPhase n .stopping fun config => (m.remove config.vmId).setPhase n .ended

end TaskManager

inductive TaskAction where
  | startTask (config : AutoSnapshotConfig)
  | stopTask (vmId : String)
  | begin (n : ℕ)
  | tick (n : ℕ) (o : TickOutcomes)
  | notice (n : ℕ)
  | finish (n : ℕ)

def taskStep (m : TaskManager) : TaskAction → TaskManager
  | .startTask config => (m.startTask config).1
  | .stopTask vmId => (m.stopTask vmId).1
  | .begin n => m.beginLoop n
  | .tick n o => m.tickLoop n o
  | .notice n => m.noticeStop n
  | .finish n => m.finishLoop n

/-! ## What registration promises -/

/-- The steps a loop takes on its own way out. -/
def wayOut (n : ℕ) : List TaskAction := [.begin n, .notice n, .finish n]

/-- A started VM has a live loop that is the one registered. -/
def Started (m : TaskManager) (vmId : String) : Prop :=
  ∃ n loop, m.tasks[vmId]? = some n ∧ m.loops[n]? = some loop ∧ loop.config.vmId = vmId ∧
    loop.phase.live = true

/-- A stopped VM is not registered, and each of its loops is over after its own steps. -/
def Stopped (m : TaskManager) (vmId : String) : Prop :=
  m.tasks[vmId]? = none ∧ ∀ (n : ℕ) (loop : LoopTask), m.loops[n]? = some loop →
    loop.config.vmId = vmId → ∃ last, (exec taskStep m (wayOut n)).loops[n]? = some last ∧
      last.phase.over = true

def KeepsCalls (m : TaskManager) : Prop :=
  ∀ vmId, (m.lastCall vmId = some .start → Started m vmId) ∧
    (m.lastCall vmId = some .stop → Stopped m vmId)

namespace TaskManager

variable {m : TaskManager} {n : ℕ} {config : AutoSnapshotConfig}

theorem loops_setPhase (m : TaskManager) (n k : ℕ) (phase : Phase) :
    (m.setPhase n phase).loops[k]? =
      if n = k then m.loops[k]?.map fun loop => { loop with phase := phase } else m.loops[k]? := by
  show (m.loops.modify n _)[k]? = _
  rw [List.getElem?_modify]
  split_ifs <;> simp

theorem loops_setPhase_self {phase : Phase} (h : m.loops[n]? = some ⟨config, phase⟩)
    (phase' : Phase) : (m.setPhase n phase').loops[n]? = some ⟨config, phase'⟩ := by
  rw [loops_setPhase, if_pos rfl, h]
  rfl

theorem atPhase_of_phase {phase : Phase} {turn : AutoSnapshotConfig → TaskManager}
    (h : m.loops[n]? = some ⟨config, phase⟩) : m.atPhase n phase turn = turn config := by
  simp only [atPhase, h, if_true]

theorem atPhase_of_ne {phase phase' : Phase} {turn : AutoSnapshotConfig → TaskManager}
    (h : m.loops[n]? = some ⟨config, phase'⟩) (hne : phase' ≠ phase) :
    m.atPhase n phase turn = m := by
  simp only [atPhase, h, if_neg hne]

theorem over_finishLoop (h : m.loops[n]? = some ⟨config, .stopping⟩) :
    ∃ last, (m.finishLoop n).loops[n]? = some last ∧ last.phase.over = true := by
  unfold finishLoop
  rw [atPhase_of_phase h]
  exact ⟨_, loops_setPhase_self (m := m.remove config.vmId) h .ended, rfl⟩

theorem over_noticeStop (h : m.loops[n]? = some ⟨config, .running⟩)
    (hclosed : m.tasks[config.vmId]? ≠ some n) :
    ∃ last, ((m.noticeStop n).finishLoop n).loops[n]? = some last ∧ last.phase.over = true := by
  have hgone : m.closed n config.vmId = true := decide_eq_true hclosed
  have hnotice : m.noticeStop n = m.setPhase n .stopping := by
    unfold noticeStop
    rw [atPhase_of_phase h, if_pos hgone]
  rw [hnotice]
  exact over_finishLoop (loops_setPhase_self h .stopping)

/-- A loop that is over takes no more turns. -/
theorem over_of_over {phase : Phase} (h : m.loops[n]? = some ⟨config, phase⟩)
    (hover : phase.over = true) :
    ∃ last, ((m.noticeStop n).finishLoop n).loops[n]? = some last ∧ last.phase.over = true := by
  have hrunning : phase ≠ .running := by
    rintro rfl
    cases hover
  have hstopping : phase ≠ .stopping := by
    rintro rfl
    cases hover
  unfold noticeStop finishLoop
  rw [atPhase_of_ne h hrunning, atPhase_of_ne h hstopping]
  exact ⟨_, h, hover⟩

/-- A loop whose channel is closed is over after its own steps. -/
theorem over_of_closed {phase : Phase} (h : m.loops[n]? = some ⟨config, phase⟩)
    (hclosed : m.tasks[config.vmId]? ≠ some n) :
    ∃ last, (exec taskStep m (wayOut n)).loops[n]? = some last ∧ last.phase.over = true := by
  show ∃ last, (((m.beginLoop n).noticeStop n).finishLoop n).loops[n]? = some last ∧ _
  by_cases hspawned : phase = .spawned
  · subst hspawned
    unfold beginLoop
    rw [atPhase_of_phase h]
    split_ifs
    · exact over_of_over (loops_setPhase_self h .panicked) rfl
    · exact over_noticeStop (loops_setPhase_self h .running) hclosed
  · unfold beginLoop
    rw [atPhase_of_ne h hspawned]
    cases phase with
    | spawned => exact absurd rfl hspawned
    | running => exact over_noticeStop h hclosed
    | stopping =>
      have hnotice : m.noticeStop n = m := atPhase_of_ne h (by decide)
      rw [hnotice]
      exact over_finishLoop h
    | ended => exact over_of_over h rfl
    | panicked => exact over_of_over h rfl

/-- A VM that was stopped last is stopped for good: only the started ones can go wrong. -/
theorem keepsCalls_iff :
    KeepsCalls m ↔ ∀ vmId, m.lastCall vmId = some .start → Started m vmId := by
  constructor
  · intro h vmId
    exact (h vmId).1
  · intro h vmId
    refine ⟨h vmId, fun hstop => ?_⟩
    have hnone : m.tasks[vmId]? = none := by
      by_contra hsome
      obtain ⟨n, hn⟩ := Option.ne_none_iff_exists'.mp hsome
      rw [(m.registered vmId n hn).1] at hstop
      cases hstop
    refine ⟨hnone, fun n loop hloop hvm => ?_⟩
    refine over_of_closed hloop ?_
    rw [hvm, hnone]
    exact fun h => nomatch h

end TaskManager

/-! ## Which steps break the promise -/

/-- A loop that is registered does not panic, and the last step of a loop meets no entry for
its VM. -/
def Harmless (m : TaskManager) : TaskAction → Prop
  | .begin n => ∀ config, m.loops[n]? = some ⟨config, .spawned⟩ → config.interval = 0 →
      m.tasks[config.vmId]? ≠ some n
  | .tick n o => ∀ config, m.loops[n]? = some ⟨config, .running⟩ → Panics config m.store o →
      m.tasks[config.vmId]? ≠ some n
  | .finish n => ∀ config, m.loops[n]? = some ⟨config, .stopping⟩ → m.tasks[config.vmId]? = none
  | _ => True

section Steps

open TaskManager

variable {m : TaskManager} {n : ℕ}

theorem keepsCalls_initial (store : Store) : KeepsCalls (TaskManager.initial store) :=
  keepsCalls_iff.mpr fun _ h => nomatch h

theorem started_of_same {m' : TaskManager} {vmId : String}
    (htasks : m'.tasks[vmId]? = m.tasks[vmId]?)
    (hloops : ∀ n, m.tasks[vmId]? = some n → m'.loops[n]? = m.loops[n]?) (h : Started m vmId) :
    Started m' vmId := by
  obtain ⟨n, loop, hn, hloop, hvm, hlive⟩ := h
  exact ⟨n, loop, htasks.trans hn, (hloops n hn).trans hloop, hvm, hlive⟩

theorem keepsCalls_spawn (h : KeepsCalls m) (config : AutoSnapshotConfig) :
    KeepsCalls (m.spawn config) := by
  rw [keepsCalls_iff] at h ⊢
  intro vmId hcall
  by_cases hvm : config.vmId = vmId
  · refine ⟨m.loops.length, ⟨config, .spawned⟩, ?_, ?_, hvm, rfl⟩
    · show (m.tasks.insert config.vmId m.loops.length)[vmId]? = _
      rw [OrderedMaps.lookup_insert, if_pos hvm]
    · show (m.loops ++ [⟨config, .spawned⟩])[m.loops.length]? = _
      simp
  · have hbefore : m.lastCall vmId = some .start := by
      rw [← hcall]
      exact (Function.update_of_ne (Ne.symm hvm) _ _).symm
    refine started_of_same ?_ ?_ (h vmId hbefore)
    · show (m.tasks.insert config.vmId m.loops.length)[vmId]? = _
      rw [OrderedMaps.lookup_insert, if_neg hvm]
    · intro n hn
      obtain ⟨-, loop, hloop, -⟩ := m.registered vmId n hn
      exact List.getElem?_append_left (List.getElem?_eq_some_iff.mp hloop).1

theorem keepsCalls_drop (h : KeepsCalls m) (vmId : String) : KeepsCalls (m.drop vmId) := by
  rw [keepsCalls_iff] at h ⊢
  intro vmId' hcall
  by_cases hvm : vmId = vmId'
  · subst hvm
    have hstop : (m.drop vmId).lastCall vmId = some .stop := Function.update_self _ _ _
    rw [hstop] at hcall
    cases hcall
  · have hbefore : m.lastCall vmId' = some .start := by
      rw [← hcall]
      exact (Function.update_of_ne (Ne.symm hvm) _ _).symm
    refine started_of_same (m := m) ?_ (fun _ _ => rfl) (h vmId' hbefore)
    show (m.tasks.erase vmId)[vmId']? = _
    rw [OrderedMaps.lookup_erase, if_neg hvm]

/-- Only the registered loop of a VM matters to it. -/
theorem keepsCalls_setPhase_iff {config : AutoSnapshotConfig} {phase : Phase} (h : KeepsCalls m)
    (hloop : m.loops[n]? = some ⟨config, phase⟩) (phase' : Phase) :
    KeepsCalls (m.setPhase n phase') ↔ phase'.live = true ∨ m.tasks[config.vmId]? ≠ some n := by
  rw [keepsCalls_iff] at h ⊢
  constructor
  · intro hafter
    by_contra hnone
    obtain ⟨hdead, hregistered⟩ := not_or.mp hnone
    rw [not_not] at hregistered
    obtain ⟨k, loop, hk, hafterLoop, -, hlive⟩ :=
      hafter config.vmId (m.registered _ n hregistered).1
    obtain rfl : n = k := Option.some.inj (hregistered.symm.trans hk)
    rw [loops_setPhase_self hloop] at hafterLoop
    cases hafterLoop
    exact hdead hlive
  · intro hcond vmId hcall
    obtain ⟨k, loop, hk, hkloop, hvm, hlive⟩ := h vmId hcall
    by_cases hkn : n = k
    · subst hkn
      rw [hloop] at hkloop
      cases hkloop
      obtain rfl : config.vmId = vmId := hvm
      have hstays : phase'.live = true := hcond.resolve_right fun hne => hne hk
      exact ⟨n, ⟨config, phase'⟩, hk, loops_setPhase_self hloop phase', rfl, hstays⟩
    · refine ⟨k, loop, hk, ?_, hvm, hlive⟩
      rw [loops_setPhase, if_neg hkn, hkloop]

theorem keepsCalls_finish_iff {config : AutoSnapshotConfig} (h : KeepsCalls m)
    (hloop : m.loops[n]? = some ⟨config, .stopping⟩) :
    KeepsCalls ((m.remove config.vmId).setPhase n .ended) ↔ m.tasks[config.vmId]? = none := by
  have hloops : ∀ k, n ≠ k →
      ((m.remove config.vmId).setPhase n .ended).loops[k]? = m.loops[k]? := by
    intro k hk
    rw [loops_setPhase, if_neg hk]
    rfl
  have htasks : ∀ vmId, ((m.remove config.vmId).setPhase n .ended).tasks[vmId]? =
      if config.vmId = vmId then none else m.tasks[vmId]? :=
    fun vmId => OrderedMaps.lookup_erase m.tasks config.vmId vmId
  rw [keepsCalls_iff] at h ⊢
  constructor
  · intro hafter
    by_contra hsome
    obtain ⟨k, hk⟩ := Option.ne_none_iff_exists'.mp hsome
    obtain ⟨k', loop, hk', -⟩ := hafter config.vmId (m.registered _ k hk).1
    rw [htasks, if_pos rfl] at hk'
    cases hk'
  · intro hnone vmId hcall
    have hstarted := h vmId hcall
    obtain ⟨k, loop, hk, hkloop, -, hlive⟩ := hstarted
    have hvm : config.vmId ≠ vmId := by
      rintro rfl
      rw [hnone] at hk
      cases hk
    refine started_of_same ?_ ?_ (h vmId hcall)
    · rw [htasks, if_neg hvm]
    · intro j hj
      obtain rfl : k = j := Option.some.inj (hk.symm.trans hj)
      refine hloops k fun hnk => ?_
      rw [← hnk, hloop] at hkloop
      cases hkloop
      cases hlive

/-- What a turn does is decided in its phase; in any other, nothing happens. -/
theorem keepsCalls_atPhase_iff {phase : Phase} {turn : AutoSnapshotConfig → TaskManager}
    {C : AutoSnapshotConfig → Prop} (h : KeepsCalls m)
    (hturn : ∀ config, m.loops[n]? = some ⟨config, phase⟩ → (KeepsCalls (turn config) ↔ C config)) :
    KeepsCalls (m.atPhase n phase turn) ↔
      ∀ config, m.loops[n]? = some ⟨config, phase⟩ → C config := by
  by_cases hphase : ∃ config, m.loops[n]? = some ⟨config, phase⟩
  · obtain ⟨config, hloop⟩ := hphase
    rw [atPhase_of_phase hloop, hturn config hloop]
    constructor
    · intro hC config' hloop'
      rw [hloop] at hloop'
      cases hloop'
      exact hC
    · intro hC
      exact hC config hloop
  · refine iff_of_true ?_ fun config hloop => absurd ⟨config, hloop⟩ hphase
    cases hloop : m.loops[n]? with
    | none => simpa only [atPhase, hloop] using h
    | some loop =>
      obtain ⟨config, phase'⟩ := loop
      have hne : phase' ≠ phase := by
        rintro rfl
        exact hphase ⟨config, hloop⟩
      rwa [atPhase_of_ne hloop hne]

theorem keepsCalls_taskStep_iff (m : TaskManager) (a : TaskAction) (h : KeepsCalls m) :
    KeepsCalls (taskStep m a) ↔ Harmless m a := by
  cases a with
  | startTask config =>
    refine iff_of_true ?_ trivial
    show KeepsCalls (m.startTask config).1
    unfold TaskManager.startTask
    split_ifs
    · exact h
    · exact keepsCalls_spawn h config
  | stopTask vmId =>
    refine iff_of_true ?_ trivial
    show KeepsCalls (m.stopTask vmId).1
    unfold TaskManager.stopTask
    split_ifs
    · exact keepsCalls_drop h vmId
    · exact h
  | begin n =>
    refine keepsCalls_atPhase_iff h fun config hloop => ?_
    rw [keepsCalls_setPhase_iff h hloop]
    split_ifs with hinterval
    · simp [Phase.live, hinterval]
    · simp [Phase.live, hinterval]
  | tick n o =>
    refine keepsCalls_atPhase_iff h fun config hloop => ?_
    have hstore : KeepsCalls (m.setStore (tick config m.store o).1) := by
      rw [keepsCalls_iff] at h ⊢
      exact h
    rw [keepsCalls_setPhase_iff (m := m.setStore _) hstore hloop, ← tick_panics_iff]
    cases (tick config m.store o).2 with
    | false => simp [Phase.live, setStore]
    | true => simp [Phase.live]
  | notice n =>
    refine (keepsCalls_atPhase_iff (C := fun _ => True) h fun config hloop => ?_).trans
      (iff_of_true (fun _ _ => trivial) trivial)
    refine iff_of_true ?_ trivial
    split_ifs with hclosed
    · exact (keepsCalls_setPhase_iff h hloop .stopping).mpr (.inr (of_decide_eq_true hclosed))
    · exact h
  | finish n => exact keepsCalls_atPhase_iff h fun config hloop => keepsCalls_finish_iff h hloop

/-- Registration survives a run exactly if no registered loop panics, on an empty interval or
on a history that cannot be read again, and no loop ends while its VM has a new entry. -/
theorem registration_survives_iff (store : Store) (run : List TaskAction) :
    Throughout taskStep KeepsCalls (.initial store) run ↔
      Along taskStep Harmless (.initial store) run :=
  throughout_iff_along (R := fun _ _ => True) (keepsCalls_initial store)
    (fun m a h _ => keepsCalls_taskStep_iff m a h)
    (along_of_invariant (Q := fun _ => True) trivial (fun _ _ _ => trivial) run)

/-- A task is stopped and started again before its old loop comes to its end. -/
def restart : List TaskAction :=
  [.startTask (hourly 3), .begin 0, .stopTask "vm-1", .notice 0, .startTask (hourly 3), .finish 0]

theorem restarted_task_unregistered :
    ¬Throughout taskStep KeepsCalls (.initial ∅) restart := by
  intro h
  have hcall : (exec taskStep (.initial ∅) restart).lastCall "vm-1" = some .start := by decide
  have hnone : (exec taskStep (.initial ∅) restart).tasks["vm-1"]? = none := by decide
  obtain ⟨n, loop, hn, -⟩ := (h.exec "vm-1").1 hcall
  rw [hnone] at hn
  cases hn

end Steps

end Vyoma.AutoSnapshot
