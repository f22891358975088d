import Vyoma.TeleportSessions

/-!
# Which daemon owns a migrated VM

The task removes the VM from the source and then asks the target to adopt it. What comes
of that request is logged and otherwise ignored: the session is completed either way. The
handler in turn may report the session as in progress after the task has completed it.
-/
namespace Vyoma.Teleport
open Runs

/-- The two that take the steps of one migration. -/
inductive Party where
  | handler
  | task
  deriving DecidableEq, Repr

def Party.turn (sessionId : String) : Party → Turn
  | .handler => .handler sessionId
  | .task => .task sessionId

def migrationTurn (env : Env) (sessionId : String) (s : Teleports) (p : Party) : Teleports :=
  turn env s (p.turn sessionId)

section Ownership

variable (env : Env) (sessionId : String) (s : Teleports)

def OnSource : Prop := (env.migration sessionId).vmId ∈ s.source.vms

def OnTarget : Prop :=
  (env.migration sessionId).vmId ∈ (s.targets ((env.migration sessionId).resolved.getD "")).vms

instance : Decidable (OnSource env sessionId s) := inferInstanceAs (Decidable (_ ∈ _))

instance : Decidable (OnTarget env sessionId s) := inferInstanceAs (Decidable (_ ∈ _))

/-- The session id has just been drawn. -/
structure NotStarted : Prop where
  handler : s.handler sessionId = .inserting
  task : s.task sessionId = .notSpawned
  status : s.sessions.statusOf sessionId = none

/-- The task is over, or the handler has returned an error and there is no task. -/
def Ended : Prop := s.task sessionId = .finished ∨ ∃ e, s.handler sessionId = .returned (.error e)

/-- The VM is registered on exactly one of the two: on the target if the session is
reported completed, on the source otherwise. -/
def Owned : Prop :=
  (s.sessions.statusOf sessionId = some "completed" →
      OnTarget env sessionId s ∧ ¬ OnSource env sessionId s) ∧
    (s.sessions.statusOf sessionId ≠ some "completed" →
      OnSource env sessionId s ∧ ¬ OnTarget env sessionId s)

instance : Decidable (Owned env sessionId s) :=
  inferInstanceAs (Decidable ((_ → _ ∧ ¬ _) ∧ (_ → _ ∧ ¬ _)))

/-- The request to adopt takes effect on the target, and the handler does not report
progress after the task has completed the session. -/
def HandsOver : Party → Prop
  | .handler => s.handler sessionId = .reporting → s.task sessionId = .finished →
      s.sessions.statusOf sessionId ≠ some "completed"
  | .task => s.task sessionId = .adopting → (env.migration sessionId).adopt = .delivered (.ok ())

instance : ∀ p, Decidable (HandsOver env sessionId s p)
  | .handler => inferInstanceAs (Decidable (_ = _ → _ = _ → _ ≠ _))
  | .task => inferInstanceAs (Decidable (_ = _ → _ = _))

/-- The task has not taken the VM from the source. -/
def MigrationTask.atSource : MigrationTask → Bool
  | .sending | .polling _ | .pausing | .removing | .resuming | .failing => true
  | _ => false

/-- The handler has spawned the task. -/
def Spawned : Prop :=
  s.handler sessionId = .reporting ∨ ∃ reply, s.handler sessionId = .returned (.ok reply)

/-- The ways a migration can stand, by what its handler and its task have done. -/
inductive Course : Prop
  | unopened (handler : s.handler sessionId = .inserting)
      (task : s.task sessionId = .notSpawned) (status : s.sessions.statusOf sessionId = none)
      (here : OnSource env sessionId s) (there : ¬ OnTarget env sessionId s)
  | opened (handler : (s.handler sessionId).early = true)
      (inserted : s.handler sessionId ≠ .inserting) (task : s.task sessionId = .notSpawned)
      (status : ∃ status, s.sessions.statusOf sessionId = some status ∧ status ≠ "completed")
      (here : OnSource env sessionId s) (there : ¬ OnTarget env sessionId s)
  | refused (handler : ∃ e, s.handler sessionId = .returned (.error e))
      (task : s.task sessionId = .notSpawned)
      (status : s.sessions.statusOf sessionId ≠ some "completed")
      (here : OnSource env sessionId s) (there : ¬ OnTarget env sessionId s)
  | underway (handler : Spawned sessionId s) (task : (s.task sessionId).atSource = true)
      (status : ∃ status, s.sessions.statusOf sessionId = some status)
      (here : OnSource env sessionId s) (there : ¬ OnTarget env sessionId s)
  | inTransit (handler : Spawned sessionId s) (task : s.task sessionId = .adopting)
      (status : ∃ status, s.sessions.statusOf sessionId = some status)
      (here : ¬ OnSource env sessionId s) (there : ¬ OnTarget env sessionId s)
  | handedOver (handler : Spawned sessionId s) (task : s.task sessionId = .completing)
      (status : ∃ status, s.sessions.statusOf sessionId = some status)
      (here : ¬ OnSource env sessionId s)
  | kept (handler : Spawned sessionId s) (task : s.task sessionId = .finished)
      (status : ∃ status, s.sessions.statusOf sessionId = some status ∧ status ≠ "completed")
      (here : OnSource env sessionId s) (there : ¬ OnTarget env sessionId s)
  | moved (handler : Spawned sessionId s) (task : s.task sessionId = .finished)
      (status : ∃ status, s.sessions.statusOf sessionId = some status)
      (here : ¬ OnSource env sessionId s)

end Ownership

section HandlerTurns

variable {env : Env} {sid : String} {s : Teleports}

/-- The handler leaves both registries alone. -/
theorem handlerTurn_daemons :
    (handlerTurn env s sid).source = s.source ∧ (handlerTurn env s sid).targets = s.targets := by
  cases hh : s.handler sid with
  | inserting =>
    cases hresolved : (env.migration sid).resolved <;>
      simp [handlerTurn, hh, hresolved, Teleports.setHandler]
  | lookingUp => simp [handlerTurn, hh, Teleports.setHandler]
  | asking => simp [handlerTurn, hh, Teleports.setHandler]
  | spawning => simp [handlerTurn, hh, Teleports.setHandler, Teleports.setTask]
  | reporting => simp [handlerTurn, hh, Teleports.setHandler]
  | failing e => simp [handlerTurn, hh, Teleports.setHandler]
  | returned reply => simp [handlerTurn, hh]

theorem onSource_handlerTurn : OnSource env sid (handlerTurn env s sid) ↔ OnSource env sid s := by
  rw [OnSource, OnSource, handlerTurn_daemons.1]

theorem onTarget_handlerTurn : OnTarget env sid (handlerTurn env s sid) ↔ OnTarget env sid s := by
  rw [OnTarget, OnTarget, handlerTurn_daemons.2]

/-- Once the task is spawned, the handler has only its report to write. -/
theorem handlerTurn_of_spawned (h : Spawned sid s) :
    Spawned sid (handlerTurn env s sid) ∧ (handlerTurn env s sid).task sid = s.task sid ∧
      ((s.handler sid = .reporting ∧ (handlerTurn env s sid).sessions.statusOf sid =
          (s.sessions.statusOf sid).map fun _ => "in_progress") ∨
        (s.handler sid ≠ .reporting ∧ (handlerTurn env s sid).sessions.statusOf sid =
          s.sessions.statusOf sid)) := by
  obtain hh | ⟨reply, hh⟩ := h
  · simp [handlerTurn, hh, Teleports.setHandler, Spawned]
  · simp [handlerTurn, hh, Spawned]

theorem course_handlerTurn_spawned (h : Spawned sid s) {status : String}
    (hstatus : s.sessions.statusOf sid = some status) : ∃ status',
      (handlerTurn env s sid).sessions.statusOf sid = some status' ∧
        (status' = status ∨ status' = "in_progress") := by
  obtain ⟨_, _, ⟨_, hafter⟩ | ⟨_, hafter⟩⟩ := @handlerTurn_of_spawned env sid s h
  · exact ⟨"in_progress", by rw [hafter, hstatus]; rfl, .inr rfl⟩
  · exact ⟨status, by rw [hafter, hstatus], .inl rfl⟩

/-- Once the task is spawned, the handler leaves it and its session there. -/
theorem handlerTurn_keeps_session (h : Spawned sid s)
    (hstatus : ∃ status, s.sessions.statusOf sid = some status) :
    Spawned sid (handlerTurn env s sid) ∧ (handlerTurn env s sid).task sid = s.task sid ∧
      ∃ status, (handlerTurn env s sid).sessions.statusOf sid = some status := by
  obtain ⟨hspawned, htask, _⟩ := @handlerTurn_of_spawned env sid s h
  obtain ⟨old, hold⟩ := hstatus
  obtain ⟨new, hnew, _⟩ := @course_handlerTurn_spawned env sid s h old hold
  exact ⟨hspawned, htask, new, hnew⟩

/-- Before the task is spawned, the VM stays where it is. -/
theorem course_handlerTurn_opened (handler : (s.handler sid).early = true)
    (inserted : s.handler sid ≠ .inserting) (task : s.task sid = .notSpawned)
    (status : ∃ status, s.sessions.statusOf sid = some status ∧ status ≠ "completed")
    (here : OnSource env sid s) (there : ¬ OnTarget env sid s) :
    Course env sid (handlerTurn env s sid) := by
  have here' := onSource_handlerTurn.mpr here
  have there' := onTarget_handlerTurn.not.mpr there
  cases hh : s.handler sid with
  | inserting => exact absurd hh inserted
  | lookingUp =>
    have hin : (env.migration sid).vmId ∈ s.source.vms := here
    refine .opened ?_ ?_ ?_ ?_ here' there' <;>
      simp [handlerTurn, hh, hin, Teleports.setHandler, HandlerPhase.early, task, status]
  | asking =>
    cases hreceive : (env.migration sid).receive <;>
      refine .opened ?_ ?_ ?_ ?_ here' there' <;>
        simp [handlerTurn, hh, hreceive, Teleports.setHandler, HandlerPhase.early, task, status]
  | spawning =>
    obtain ⟨old, hold, _⟩ := status
    refine .underway ?_ ?_ ?_ here' there' <;>
      simp [handlerTurn, hh, Teleports.setHandler, Teleports.setTask, Spawned,
        MigrationTask.atSource, hold]
  | failing e =>
    refine .refused ?_ ?_ ?_ here' there' <;>
      simp [handlerTurn, hh, Teleports.setHandler, task]
  | reporting =>
    rw [hh] at handler
    cases handler
  | returned reply =>
    rw [hh] at handler
    cases handler

theorem course_handlerTurn (h : Course env sid s) : Course env sid (handlerTurn env s sid) := by
  cases h with
  | unopened handler task status here there =>
    have here' := onSource_handlerTurn.mpr here
    have there' := onTarget_handlerTurn.not.mpr there
    cases hresolved : (env.migration sid).resolved with
    | none =>
      refine .refused ?_ ?_ ?_ here' there' <;>
        simp [handlerTurn, handler, hresolved, Teleports.setHandler, task, status]
    | some node =>
      refine .opened ?_ ?_ ?_ ?_ here' there' <;>
        simp [handlerTurn, handler, hresolved, Teleports.setHandler, HandlerPhase.early, task,
          statusOf_insert]
  | opened handler inserted task status here there =>
    exact course_handlerTurn_opened handler inserted task status here there
  | refused handler task status here there =>
    obtain ⟨e, he⟩ := handler
    have hsame : handlerTurn env s sid = s := by simp only [handlerTurn, he]
    rw [hsame]
    exact .refused ⟨e, he⟩ task status here there
  | underway handler task status here there =>
    obtain ⟨hspawned, htask, hstatus⟩ := @handlerTurn_keeps_session env sid s handler status
    exact .underway hspawned (by rw [htask, task]) hstatus (onSource_handlerTurn.mpr here)
      (onTarget_handlerTurn.not.mpr there)
  | inTransit handler task status here there =>
    obtain ⟨hspawned, htask, hstatus⟩ := @handlerTurn_keeps_session env sid s handler status
    exact .inTransit hspawned (by rw [htask, task]) hstatus (onSource_handlerTurn.not.mpr here)
      (onTarget_handlerTurn.not.mpr there)
  | handedOver handler task status here =>
    obtain ⟨hspawned, htask, hstatus⟩ := @handlerTurn_keeps_session env sid s handler status
    exact .handedOver hspawned (by rw [htask, task]) hstatus (onSource_handlerTurn.not.mpr here)
  | kept handler task status here there =>
    obtain ⟨hspawned, htask, _⟩ := @handlerTurn_of_spawned env sid s handler
    obtain ⟨old, hold, hne⟩ := status
    obtain ⟨new, hnew, rfl | rfl⟩ := @course_handlerTurn_spawned env sid s handler old hold
    · exact .kept hspawned (by rw [htask, task]) ⟨_, hnew, hne⟩ (onSource_handlerTurn.mpr here)
        (onTarget_handlerTurn.not.mpr there)
    · exact .kept hspawned (by rw [htask, task]) ⟨_, hnew, by decide⟩
        (onSource_handlerTurn.mpr here) (onTarget_handlerTurn.not.mpr there)
  | moved handler task status here =>
    obtain ⟨hspawned, htask, hstatus⟩ := @handlerTurn_keeps_session env sid s handler status
    exact .moved hspawned (by rw [htask, task]) hstatus (onSource_handlerTurn.not.mpr here)

end HandlerTurns

section TaskTurns

variable {env : Env} {sid : String} {s : Teleports}

theorem taskTurn_handler : (taskTurn env s sid).handler = s.handler := by
  cases hphase : s.task sid with
  | adopting =>
    cases hadopt : (env.migration sid).adopt <;> simp [taskTurn, hphase, hadopt, Teleports.setTask]
  | polling n => simp [taskTurn, hphase, Teleports.setTask]
  | notSpawned => simp [taskTurn, hphase]
  | sending => simp [taskTurn, hphase, Teleports.setTask]
  | pausing => simp [taskTurn, hphase, Teleports.setTask]
  | removing => simp [taskTurn, hphase, Teleports.setTask]
  | completing => simp [taskTurn, hphase, Teleports.setTask]
  | resuming => simp [taskTurn, hphase, Teleports.setTask]
  | failing => simp [taskTurn, hphase, Teleports.setTask]
  | finished => simp [taskTurn, hphase]

theorem spawned_taskTurn (h : Spawned sid s) : Spawned sid (taskTurn env s sid) := by
  unfold Spawned
  rw [taskTurn_handler]
  exact h

/-- A session that is there is there after a turn of the task. -/
theorem exists_status_taskTurn (h : ∃ status, s.sessions.statusOf sid = some status) :
    ∃ status, (taskTurn env s sid).sessions.statusOf sid = some status := by
  obtain ⟨old, hold⟩ := h
  have hafter : (taskTurn env s sid).sessions.statusOf sid =
      afterWrite (s.sessions.statusOf sid) sid (written env s (.task sid)) :=
    @statusOf_turn env s (.task sid) (fun _ he => nomatch he) sid
  rw [hafter, hold]
  cases written env s (.task sid) with
  | none => exact ⟨old, rfl⟩
  | some p =>
    simp only [afterWrite]
    split_ifs
    · exact ⟨p.2, rfl⟩
    · exact ⟨old, rfl⟩

theorem course_taskTurn_underway (handler : Spawned sid s) (task : (s.task sid).atSource = true)
    (status : ∃ status, s.sessions.statusOf sid = some status) (here : OnSource env sid s)
    (there : ¬ OnTarget env sid s) : Course env sid (taskTurn env s sid) := by
  have handler' := @spawned_taskTurn env sid s handler
  have status' := @exists_status_taskTurn env sid s status
  cases hphase : s.task sid with
  | sending =>
    refine .underway handler' ?_ status' ?_ ?_
    · cases hsend : (env.migration sid).sendMigration <;>
        simp [taskTurn, hphase, hsend, Teleports.setTask, MigrationTask.atSource]
    · simpa [OnSource, taskTurn, hphase, Teleports.setTask] using here
    · simpa [OnTarget, taskTurn, hphase, Teleports.setTask] using there
  | polling n =>
    refine .underway handler' ?_ status' ?_ ?_
    · simp only [taskTurn, hphase, Teleports.setTask, Function.update_self]
      split <;> rfl
    · simpa [OnSource, taskTurn, hphase, Teleports.setTask] using here
    · simpa [OnTarget, taskTurn, hphase, Teleports.setTask] using there
  | pausing =>
    refine .underway handler' ?_ status' ?_ ?_
    · simp [taskTurn, hphase, Teleports.setTask, MigrationTask.atSource]
    · simpa [OnSource, taskTurn, hphase, Teleports.setTask] using here
    · simpa [OnTarget, taskTurn, hphase, Teleports.setTask] using there
  | removing =>
    refine .inTransit handler' ?_ status' ?_ ?_
    · simp [taskTurn, hphase, Teleports.setTask]
    · simp [OnSource, taskTurn, hphase, Teleports.setTask, VmService.Daemon.removeTeleported]
    · simpa [OnTarget, taskTurn, hphase, Teleports.setTask] using there
  | resuming =>
    refine .underway handler' ?_ status' ?_ ?_
    · simp [taskTurn, hphase, Teleports.setTask, MigrationTask.atSource]
    · simpa [OnSource, taskTurn, hphase, Teleports.setTask] using here
    · simpa [OnTarget, taskTurn, hphase, Teleports.setTask] using there
  | failing =>
    obtain ⟨old, hold⟩ := status
    refine .kept handler' ?_ ⟨"failed", ?_, by decide⟩ ?_ ?_
    · simp [taskTurn, hphase, Teleports.setTask]
    · simp [taskTurn, hphase, Teleports.setTask, hold]
    · simpa [OnSource, taskTurn, hphase, Teleports.setTask] using here
    · simpa [OnTarget, taskTurn, hphase, Teleports.setTask] using there
  | notSpawned => simp [hphase, MigrationTask.atSource] at task
  | adopting => simp [hphase, MigrationTask.atSource] at task
  | completing => simp [hphase, MigrationTask.atSource] at task
  | finished => simp [hphase, MigrationTask.atSource] at task

/-- Adoption is the one step that puts the VM on the target. -/
theorem adopting_taskTurn (hphase : s.task sid = .adopting) (there : ¬ OnTarget env sid s) :
    (taskTurn env s sid).task sid = .completing ∧ (taskTurn env s sid).source = s.source ∧
      (OnTarget env sid (taskTurn env s sid) ↔
        (env.migration sid).adopt = .delivered (.ok ())) := by
  cases hadopt : (env.migration sid).adopt with
  | notDelivered e =>
    refine ⟨?_, ?_, iff_of_false ?_ nofun⟩
    · simp [taskTurn, hphase, hadopt, Teleports.setTask]
    · simp [taskTurn, hphase, hadopt, Teleports.setTask]
    · simpa [OnTarget, taskTurn, hphase, hadopt, Teleports.setTask] using there
  | delivered probe =>
    refine ⟨?_, ?_, ?_⟩
    · simp [taskTurn, hphase, hadopt, Teleports.setTask]
    · simp [taskTurn, hphase, hadopt, Teleports.setTask]
    · cases probe with
      | error e =>
        refine iff_of_false ?_ (by simp)
        simpa [OnTarget, taskTurn, hphase, hadopt, Teleports.setTask,
          VmService.Daemon.adoptTeleportedVm] using there
      | ok u =>
        refine iff_of_true ?_ rfl
        simp [OnTarget, taskTurn, hphase, hadopt, Teleports.setTask,
          VmService.Daemon.adoptTeleportedVm]

/-- The task writes completed and leaves the registries alone. -/
theorem completing_taskTurn (hphase : s.task sid = .completing) {old : String}
    (hold : s.sessions.statusOf sid = some old) :
    (taskTurn env s sid).task sid = .finished ∧
      (taskTurn env s sid).sessions.statusOf sid = some "completed" ∧
      (OnSource env sid (taskTurn env s sid) ↔ OnSource env sid s) ∧
      (OnTarget env sid (taskTurn env s sid) ↔ OnTarget env sid s) := by
  refine ⟨?_, ?_, ?_, ?_⟩
  · simp [taskTurn, hphase, Teleports.setTask]
  · simp only [taskTurn, hphase, Teleports.setTask]
    refine Eq.trans (statusOf_update fun _ => rfl) ?_
    rw [if_pos rfl, hold, Option.map_some]
  · simp [OnSource, taskTurn, hphase, Teleports.setTask]
  · simp [OnTarget, taskTurn, hphase, Teleports.setTask]

theorem taskTurn_of_idle (h : s.task sid = .notSpawned ∨ s.task sid = .finished) :
    taskTurn env s sid = s := by
  obtain h | h := h
  · simp only [taskTurn, h]
  · simp only [taskTurn, h]

theorem course_taskTurn (h : Course env sid s) : Course env sid (taskTurn env s sid) := by
  have hcourse := h
  cases h with
  | unopened handler task status here there =>
    rw [taskTurn_of_idle (.inl task)]
    exact hcourse
  | opened handler inserted task status here there =>
    rw [taskTurn_of_idle (.inl task)]
    exact hcourse
  | refused handler task status here there =>
    rw [taskTurn_of_idle (.inl task)]
    exact hcourse
  | underway handler task status here there =>
    exact course_taskTurn_underway handler task status here there
  | inTransit handler task status here there =>
    obtain ⟨htask, hsource, _⟩ := @adopting_taskTurn env sid s task there
    refine .handedOver (spawned_taskTurn handler) htask (exists_status_taskTurn status) ?_
    rw [OnSource, hsource]
    exact here
  | handedOver handler task status here =>
    obtain ⟨old, hold⟩ := status
    obtain ⟨htask, hstatus, hsource, _⟩ := @completing_taskTurn env sid s task old hold
    exact .moved (spawned_taskTurn handler) htask ⟨_, hstatus⟩ (hsource.not.mpr here)
  | kept handler task status here there =>
    rw [taskTurn_of_idle (.inr task)]
    exact hcourse
  | moved handler task status here =>
    rw [taskTurn_of_idle (.inr task)]
    exact hcourse

end TaskTurns

/-- A VM that was taken from the source is on the target when the task completes the
session, and the session stays completed. -/
structure Settled (env : Env) (sid : String) (s : Teleports) : Prop where
  handedOver : s.task sid = .completing → OnTarget env sid s
  moved : s.task sid = .finished → ¬ OnSource env sid s →
    OnTarget env sid s ∧ s.sessions.statusOf sid = some "completed"

section Settling

variable {env : Env} {sid : String} {s : Teleports}

/-- There is nothing to settle while the task is at work. -/
theorem settled_of_working (hcompleting : s.task sid ≠ .completing)
    (hfinished : s.task sid ≠ .finished) : Settled env sid s :=
  ⟨fun h => absurd h hcompleting, fun h => absurd h hfinished⟩

theorem settled_of_kept (htask : s.task sid = .finished) (here : OnSource env sid s) :
    Settled env sid s :=
  ⟨fun h => absurd (htask.symm.trans h) nofun, fun _ hnot => absurd here hnot⟩

theorem ne_of_atSource {task : MigrationTask} (h : task.atSource = true) :
    task ≠ .completing ∧ task ≠ .finished ∧ task ≠ .adopting := by
  refine ⟨?_, ?_, ?_⟩ <;> (rintro rfl; cases h)

theorem handlerTurn_task_unspawned (h : s.task sid = .notSpawned) :
    (handlerTurn env s sid).task sid ≠ .completing ∧
      (handlerTurn env s sid).task sid ≠ .finished := by
  cases hh : s.handler sid with
  | inserting =>
    cases hresolved : (env.migration sid).resolved <;>
      simp [handlerTurn, hh, hresolved, Teleports.setHandler, h]
  | lookingUp => simp [handlerTurn, hh, Teleports.setHandler, h]
  | asking => simp [handlerTurn, hh, Teleports.setHandler, h]
  | spawning => simp [handlerTurn, hh, Teleports.setHandler, Teleports.setTask]
  | reporting => simp [handlerTurn, hh, Teleports.setHandler, h]
  | failing e => simp [handlerTurn, hh, Teleports.setHandler, h]
  | returned reply => simp [handlerTurn, hh, h]

/-- Before the task is at its end, a turn of the handler settles nothing. -/
theorem settled_handlerTurn_iff (h : Course env sid s) (hsettled : Settled env sid s) :
    Settled env sid (handlerTurn env s sid) ↔ HandsOver env sid s .handler := by
  have hunspawned : s.task sid = .notSpawned →
      (Settled env sid (handlerTurn env s sid) ↔ HandsOver env sid s .handler) := by
    intro htask
    obtain ⟨hcompleting, hfinished⟩ := @handlerTurn_task_unspawned env sid s htask
    exact iff_of_true (settled_of_working hcompleting hfinished)
      fun _ hfin => nomatch htask.symm.trans hfin
  cases h with
  | unopened handler task status here there => exact hunspawned task
  | opened handler inserted task status here there => exact hunspawned task
  | refused handler task status here there => exact hunspawned task
  | underway handler task status here there =>
    obtain ⟨_, htask, _⟩ := @handlerTurn_of_spawned env sid s handler
    obtain ⟨hcompleting, hfinished, _⟩ := ne_of_atSource task
    refine iff_of_true (settled_of_working ?_ ?_) fun _ hfin => absurd hfin hfinished
    · rwa [htask]
    · rwa [htask]
  | inTransit handler task status here there =>
    obtain ⟨_, htask, _⟩ := @handlerTurn_of_spawned env sid s handler
    rw [task] at htask
    refine iff_of_true (settled_of_working ?_ ?_) fun _ hfin => nomatch task.symm.trans hfin
    · rw [htask]
      exact nofun
    · rw [htask]
      exact nofun
  | handedOver handler task status here =>
    obtain ⟨_, htask, _⟩ := @handlerTurn_of_spawned env sid s handler
    rw [task] at htask
    refine iff_of_true ⟨fun _ => ?_, fun hfin => nomatch htask.symm.trans hfin⟩
      fun _ hfin => nomatch task.symm.trans hfin
    exact onTarget_handlerTurn.mpr (hsettled.handedOver task)
  | kept handler task status here there =>
    obtain ⟨_, htask, _⟩ := @handlerTurn_of_spawned env sid s handler
    obtain ⟨old, hold, hne⟩ := status
    refine iff_of_true ?_ fun _ _ => ?_
    · exact settled_of_kept (htask.trans task) (onSource_handlerTurn.mpr here)
    · rw [hold]
      simpa using hne
  | moved handler task status here =>
    obtain ⟨_, htask, hstatus⟩ := @handlerTurn_of_spawned env sid s handler
    obtain ⟨there, hcompleted⟩ := hsettled.moved task here
    obtain ⟨hreporting, hstatus⟩ | ⟨hreported, hstatus⟩ := hstatus
    · refine iff_of_false (fun hafter => ?_) fun hkeeps => hkeeps hreporting task hcompleted
      have hcompleted' := (hafter.moved (htask.trans task) (onSource_handlerTurn.not.mpr here)).2
      rw [hstatus, hcompleted] at hcompleted'
      exact absurd hcompleted' (by decide)
    · refine iff_of_true ⟨fun hc => absurd ((htask.trans task).symm.trans hc) nofun, fun _ _ => ?_⟩
        fun hr => absurd hr hreported
      exact ⟨onTarget_handlerTurn.mpr there, hstatus.trans hcompleted⟩

/-- While the VM is on the source, the task either works on or ends with it there. -/
theorem settled_taskTurn_underway (task : (s.task sid).atSource = true) (here : OnSource env sid s) :
    Settled env sid (taskTurn env s sid) := by
  cases hphase : s.task sid with
  | sending =>
    refine settled_of_working ?_ ?_ <;>
      cases hsend : (env.migration sid).sendMigration <;>
        simp [taskTurn, hphase, hsend, Teleports.setTask]
  | polling n =>
    refine settled_of_working ?_ ?_ <;>
      simp only [taskTurn, hphase, Teleports.setTask, Function.update_self] <;>
        split <;> (intro hsame; cases hsame)
  | pausing => refine settled_of_working ?_ ?_ <;> simp [taskTurn, hphase, Teleports.setTask]
  | removing => refine settled_of_working ?_ ?_ <;> simp [taskTurn, hphase, Teleports.setTask]
  | resuming => refine settled_of_working ?_ ?_ <;> simp [taskTurn, hphase, Teleports.setTask]
  | failing =>
    refine settled_of_kept ?_ ?_
    · simp [taskTurn, hphase, Teleports.setTask]
    · simpa [OnSource, taskTurn, hphase, Teleports.setTask] using here
  | notSpawned => simp [hphase, MigrationTask.atSource] at task
  | adopting => simp [hphase, MigrationTask.atSource] at task
  | completing => simp [hphase, MigrationTask.atSource] at task
  | finished => simp [hphase, MigrationTask.atSource] at task

theorem settled_taskTurn_iff (h : Course env sid s) (hsettled : Settled env sid s) :
    Settled env sid (taskTurn env s sid) ↔ HandsOver env sid s .task := by
  have hidle : s.task sid = .notSpawned ∨ s.task sid = .finished →
      (Settled env sid (taskTurn env s sid) ↔ HandsOver env sid s .task) := by
    intro htask
    rw [taskTurn_of_idle htask]
    refine iff_of_true hsettled fun hadopting => ?_
    obtain htask | htask := htask
    · exact nomatch htask.symm.trans hadopting
    · exact nomatch htask.symm.trans hadopting
  cases h with
  | unopened handler task status here there => exact hidle (.inl task)
  | opened handler inserted task status here there => exact hidle (.inl task)
  | refused handler task status here there => exact hidle (.inl task)
  | underway handler task status here there =>
    exact iff_of_true (settled_taskTurn_underway task here) fun hadopting =>
      absurd hadopting (ne_of_atSource task).2.2
  | inTransit handler task status here there =>
    obtain ⟨htask, _, htarget⟩ := @adopting_taskTurn env sid s task there
    constructor
    · exact fun hafter _ => htarget.mp (hafter.handedOver htask)
    · intro hadopt
      exact ⟨fun _ => htarget.mpr (hadopt task), fun hfin => nomatch htask.symm.trans hfin⟩
  | handedOver handler task status here =>
    obtain ⟨old, hold⟩ := status
    obtain ⟨htask, hstatus, _, htarget⟩ := @completing_taskTurn env sid s task old hold
    refine iff_of_true ⟨fun hc => absurd (htask.symm.trans hc) nofun, fun _ _ => ?_⟩
      fun hadopting => nomatch task.symm.trans hadopting
    exact ⟨htarget.mpr (hsettled.handedOver task), hstatus⟩
  | kept handler task status here there => exact hidle (.inr task)
  | moved handler task status here => exact hidle (.inr task)

/-- What was not settled before a turn of the handler is not settled by it. -/
theorem settled_of_handlerTurn (h : Course env sid s)
    (hafter : Settled env sid (handlerTurn env s sid)) : Settled env sid s := by
  by_cases hspawned : Spawned sid s
  · obtain ⟨_, htask, hstatus⟩ := @handlerTurn_of_spawned env sid s hspawned
    refine ⟨fun hc => ?_, fun hfin hnot => ?_⟩
    · exact onTarget_handlerTurn.mp (hafter.handedOver (htask.trans hc))
    · obtain ⟨there, hcompleted⟩ :=
        hafter.moved (htask.trans hfin) (onSource_handlerTurn.not.mpr hnot)
      refine ⟨onTarget_handlerTurn.mp there, ?_⟩
      obtain ⟨_, hstatus⟩ | ⟨_, hstatus⟩ := hstatus
      · rw [hstatus, Option.map_eq_some_iff] at hcompleted
        obtain ⟨_, _, he⟩ := hcompleted
        exact absurd he (by decide)
      · exact hstatus.symm.trans hcompleted
  · have htask : s.task sid = .notSpawned := by
      cases h with
      | unopened handler task status here there => exact task
      | opened handler inserted task status here there => exact task
      | refused handler task status here there => exact task
      | underway handler task status here there => exact absurd handler hspawned
      | inTransit handler task status here there => exact absurd handler hspawned
      | handedOver handler task status here => exact absurd handler hspawned
      | kept handler task status here there => exact absurd handler hspawned
      | moved handler task status here => exact absurd handler hspawned
    exact settled_of_working (by simp [htask]) (by simp [htask])

theorem settled_of_taskTurn (h : Course env sid s) (hafter : Settled env sid (taskTurn env s sid)) :
    Settled env sid s := by
  cases hphase : s.task sid with
  | completing =>
    cases h with
    | handedOver handler task status here =>
      obtain ⟨old, hold⟩ := status
      obtain ⟨htask, _, hsource, htarget⟩ := @completing_taskTurn env sid s task old hold
      refine ⟨fun _ => ?_, fun hfin => absurd (task.symm.trans hfin) nofun⟩
      exact htarget.mp (hafter.moved htask (hsource.not.mpr here)).1
    | unopened handler task status here there => exact absurd (task.symm.trans hphase) nofun
    | opened handler inserted task status here there => exact absurd (task.symm.trans hphase) nofun
    | refused handler task status here there => exact absurd (task.symm.trans hphase) nofun
    | underway handler task status here there => exact absurd hphase (ne_of_atSource task).1
    | inTransit handler task status here there => exact absurd (task.symm.trans hphase) nofun
    | kept handler task status here there => exact absurd (task.symm.trans hphase) nofun
    | moved handler task status here => exact absurd (task.symm.trans hphase) nofun
  | finished => rwa [taskTurn_of_idle (.inr hphase)] at hafter
  | notSpawned => rwa [taskTurn_of_idle (.inl hphase)] at hafter
  | sending => exact settled_of_working (by simp [hphase]) (by simp [hphase])
  | polling n => exact settled_of_working (by simp [hphase]) (by simp [hphase])
  | pausing => exact settled_of_working (by simp [hphase]) (by simp [hphase])
  | removing => exact settled_of_working (by simp [hphase]) (by simp [hphase])
  | adopting => exact settled_of_working (by simp [hphase]) (by simp [hphase])
  | resuming => exact settled_of_working (by simp [hphase]) (by simp [hphase])
  | failing => exact settled_of_working (by simp [hphase]) (by simp [hphase])

theorem not_ended (hhandler : ∀ e, s.handler sid ≠ .returned (.error e))
    (htask : s.task sid ≠ .finished) : ¬ Ended sid s := by
  rintro (hfin | ⟨e, he⟩)
  · exact htask hfin
  · exact hhandler e he

theorem Spawned.ne_error (h : Spawned sid s) (e : ℕ × String) :
    s.handler sid ≠ .returned (.error e) := by
  obtain hh | ⟨reply, hh⟩ := h
  · simp [hh]
  · simp [hh]

/-- At the end of a migration, what is settled is who owns the VM. -/
theorem owned_iff_settled (h : Course env sid s) (hended : Ended sid s) :
    Owned env sid s ↔ Settled env sid s := by
  have hstays : s.sessions.statusOf sid ≠ some "completed" → OnSource env sid s →
      ¬ OnTarget env sid s → Owned env sid s :=
    fun hne here there => ⟨fun he => absurd he hne, fun _ => ⟨here, there⟩⟩
  cases h with
  | refused handler task status here there =>
    exact iff_of_true (hstays status here there)
      (settled_of_working (by simp [task]) (by simp [task]))
  | kept handler task status here there =>
    obtain ⟨old, hold, hne⟩ := status
    refine iff_of_true (hstays ?_ here there) (settled_of_kept task here)
    rw [hold]
    simpa using hne
  | moved handler task status here =>
    constructor
    · intro howned
      refine ⟨fun hc => absurd (task.symm.trans hc) nofun, fun _ _ => ?_⟩
      by_cases hcompleted : s.sessions.statusOf sid = some "completed"
      · exact ⟨(howned.1 hcompleted).1, hcompleted⟩
      · exact absurd (howned.2 hcompleted).1 here
    · intro hsettled
      obtain ⟨there, hcompleted⟩ := hsettled.moved task here
      exact ⟨fun _ => ⟨there, here⟩, fun hne => absurd hcompleted hne⟩
  | unopened handler task status here there =>
    exact absurd hended (not_ended (by simp [handler]) (by simp [task]))
  | opened handler inserted task status here there =>
    refine absurd hended (not_ended (fun e he => ?_) (by simp [task]))
    rw [he] at handler
    cases handler
  | underway handler task status here there =>
    exact absurd hended (not_ended handler.ne_error (ne_of_atSource task).2.1)
  | inTransit handler task status here there =>
    exact absurd hended (not_ended handler.ne_error (by simp [task]))
  | handedOver handler task status here =>
    exact absurd hended (not_ended handler.ne_error (by simp [task]))

theorem course_turn (s : Teleports) (p : Party) (h : Course env sid s) :
    Course env sid (migrationTurn env sid s p) := by
  cases p with
  | handler => exact course_handlerTurn h
  | task => exact course_taskTurn h

theorem settled_turn_iff (s : Teleports) (p : Party) (h : Course env sid s)
    (hsettled : Settled env sid s) :
    Settled env sid (migrationTurn env sid s p) ↔ HandsOver env sid s p := by
  cases p with
  | handler => exact settled_handlerTurn_iff h hsettled
  | task => exact settled_taskTurn_iff h hsettled

theorem not_settled_turn (s : Teleports) (p : Party) (h : Course env sid s)
    (hnot : ¬ Settled env sid s) : ¬ Settled env sid (migrationTurn env sid s p) := by
  intro hafter
  cases p with
  | handler => exact hnot (settled_of_handlerTurn h hafter)
  | task => exact hnot (settled_of_taskTurn h hafter)

end Settling

/-- In every order of the steps of a migration and for every outcome of its remote calls,
the VM is owned as reported when the migration has ended, exactly when the target adopts it
and the handler does not report over the completed session. -/
theorem owned_iff_handsOver (env : Env) (sid : String) {s : Teleports} (hfresh : NotStarted sid s)
    (hsource : OnSource env sid s) (htarget : ¬ OnTarget env sid s) {schedule : List Party}
    (hended : Ended sid (exec (migrationTurn env sid) s schedule)) :
    Owned env sid (exec (migrationTurn env sid) s schedule) ↔
      Along (migrationTurn env sid) (HandsOver env sid) s schedule := by
  have hstart : Course env sid s :=
    .unopened hfresh.handler hfresh.task hfresh.status hsource htarget
  have hcourse : Course env sid (exec (migrationTurn env sid) s schedule) :=
    exec_of_invariant hstart course_turn schedule
  have hsettled : Settled env sid s :=
    settled_of_working (by simp [hfresh.task]) (by simp [hfresh.task])
  rw [owned_iff_settled hcourse hended]
  exact exec_iff_along_of_invariant hstart course_turn hsettled settled_turn_iff not_settled_turn
    schedule

/-- A migration of `vm-1` in which everything succeeds up to adoption. -/
def migrating (adopt : AdoptCall) : Env where
  migration := fun _ => sentMigration adopt
  cancel := fun _ => ⟨none, none, .ok ()⟩

/-- All turns of the migration, the handler's first. -/
def handlerFirst : List Party := List.replicate 5 .handler ++ List.replicate 6 .task

/-- How the migration ends when the adoption comes to what is given. -/
def afterMigration (adopt : AdoptCall) : Teleports :=
  exec (migrationTurn (migrating adopt) "s-1") beforeMigration handlerFirst

theorem owned_when_adopted : Ended "s-1" (afterMigration (.delivered (.ok ()))) ∧
    Owned (migrating (.delivered (.ok ()))) "s-1" (afterMigration (.delivered (.ok ()))) :=
  ⟨.inl (by decide), (owned_iff_handsOver (migrating (.delivered (.ok ()))) "s-1" ⟨rfl, rfl, rfl⟩
    (by decide) (by decide) (.inl (by decide))).mpr (by decide)⟩

/-- The target does not find the VM's directory and refuses. -/
def adoptionRefused : AdoptCall := .delivered (.error (404, "VM directory not found for vm-1"))

/-- The session is reported completed, and the VM is on neither daemon. -/
theorem owned_by_nobody_when_refused : Ended "s-1" (afterMigration adoptionRefused) ∧
    (afterMigration adoptionRefused).sessions.statusOf "s-1" = some "completed" ∧
    ¬ OnSource (migrating adoptionRefused) "s-1" (afterMigration adoptionRefused) ∧
    ¬ OnTarget (migrating adoptionRefused) "s-1" (afterMigration adoptionRefused) ∧
    ¬ Owned (migrating adoptionRefused) "s-1" (afterMigration adoptionRefused) :=
  ⟨.inl (by decide), by decide, by decide, by decide, by decide⟩

end Vyoma.Teleport
