import Vyoma.TeleportMigration

/-!
# Outcomes of migration sessions

A session is finished once it is completed, failed or cancelled, and the client stops
watching it then. None of the writers looks at the status it overwrites. What each of them
can meet follows from where the handler and the task of the session are.
-/
namespace Vyoma.Teleport
open Runs

def Final (status : String) : Prop :=
  status = "completed" ∨ status = "failed" ∨ status = "cancelled"

instance (status : String) : Decidable (Final status) :=
  inferInstanceAs (Decidable (_ ∨ _ ∨ _))

def Sessions.statusOf (sessions : Sessions) (sessionId : String) : Option String :=
  (sessions.lookup sessionId).map MigrationSession.status

/-- Once a session is finished its status never changes again. -/
def OutcomesFinal (env : Env) (s : Teleports) (schedule : List Turn) : Prop :=
  ∀ pre mid post, schedule = pre ++ mid ++ post → ∀ sessionId status,
    (exec (turn env) s pre).sessions.statusOf sessionId = some status → Final status →
      (exec (turn env) s (pre ++ mid)).sessions.statusOf sessionId = some status

/-- The VM whose session a cancellation looks for, when it does not name a session. -/
def CancelEnv.byVm (c : CancelEnv) (sessions : Sessions) : Option String :=
  match c.sessionIdArg with
  | some sid => if sid ∈ sessions then none else some sid
  | none => c.vmIdArg

/-- The cancellation by VM id marks an unfinished session of the VM if there is one. -/
def Marks (env : Env) (s : Teleports) (n : ℕ) : Prop :=
  s.cancel n = .marking → ∀ vmId, (env.cancel n).byVm s.sessions = some vmId →
    (∃ sessionId session, s.sessions.lookup sessionId = some session ∧ session.vmId = vmId ∧
      ¬ Final session.status) →
    ∃ ch, (env.cancel n).chosen s.sessions = some ch ∧ ch.session.vmId = vmId ∧
      ¬ Final ch.session.status ∧
      (turn env s (.cancel n)).sessions.statusOf ch.key = some "cancelling"

def CancelsMark (env : Env) (s : Teleports) (schedule : List Turn) : Prop :=
  ∀ pre n post, schedule = pre ++ .cancel n :: post → Marks env (exec (turn env) s pre) n

/-- The handler reports progress while the session is unfinished; neither the handler nor
the callback nor the task writes over a cancellation; a cancellation takes an unfinished
session, which is not finished otherwise until it is marked again. -/
def Orderly (env : Env) (s : Teleports) : Turn → Prop
  | .handler sid =>
    match s.handler sid with
    | .reporting => ∀ status ∈ s.sessions.statusOf sid, ¬ Final status
    | .failing _ => s.sessions.statusOf sid ≠ some "cancelled"
    | _ => True
  | .task sid =>
    match s.task sid with
    | .polling n => s.sessions.statusOf sid = some "cancelled" →
        ∀ progress ∈ ((env.migration sid).polls n).progress, progress.status = "cancelled"
    | .completing => s.sessions.statusOf sid ≠ some "cancelled"
    | .failing => s.sessions.statusOf sid ≠ some "cancelled"
    | _ => True
  | .cancel n =>
    match s.cancel n with
    | .marking => ∀ ch ∈ (env.cancel n).chosen s.sessions, ¬ Final ch.session.status
    | .finishing (some sid) _ _ =>
      s.sessions.statusOf sid ≠ some "completed" ∧ s.sessions.statusOf sid ≠ some "failed"
    | _ => True

/-- The session a turn writes to, and the status it writes. -/
def written (env : Env) (s : Teleports) : Turn → Option (String × String)
  | .handler sid =>
    match s.handler sid with
    | .reporting => some (sid, "in_progress")
    | .failing _ => some (sid, "failed")
    | _ => none
  | .task sid =>
    match s.task sid with
    | .polling n => ((env.migration sid).polls n).progress.map fun p => (sid, p.status)
    | .completing => some (sid, "completed")
    | .failing => some (sid, "failed")
    | _ => none
  | .cancel n =>
    match s.cancel n with
    | .marking => ((env.cancel n).chosen s.sessions).map fun ch => (ch.key, "cancelling")
    | .finishing found _ _ => found.map fun sid => (sid, "cancelled")
    | _ => none

section Writes

variable {sessions : Sessions} {sid a : String}

theorem statusOf_update {f : MigrationSession → MigrationSession} {status : String}
    (h : ∀ session, (f session).status = status) :
    Sessions.statusOf (HashMap.update sessions sid f) a =
      if sid = a then (sessions.statusOf a).map fun _ => status else sessions.statusOf a := by
  unfold Sessions.statusOf
  rw [HashMap.lookup_update]
  split_ifs with hsid
  · simp [Option.map_map, Function.comp_def, h]
  · rfl

@[simp] theorem statusOf_setStatus {status : String} :
    (sessions.setStatus sid status).statusOf a =
      if sid = a then (sessions.statusOf a).map fun _ => status else sessions.statusOf a :=
  statusOf_update fun _ => rfl

/-- The status of a session after a write, if there was one. -/
def afterWrite (old : Option String) (a : String) : Option (String × String) → Option String
  | none => old
  | some (sid, status) => if sid = a then old.map fun _ => status else old

theorem statusOf_report {progress : Option MigrationProgress} :
    (sessions.report sid progress).statusOf a =
      afterWrite (sessions.statusOf a) a (progress.map fun p => (sid, p.status)) := by
  cases progress with
  | none => rfl
  | some p => exact statusOf_update fun _ => rfl

theorem statusOf_mark {found : Option String} {status : String} :
    (sessions.mark found status).statusOf a =
      afterWrite (sessions.statusOf a) a (found.map fun sid => (sid, status)) := by
  cases found with
  | none => rfl
  | some sid => exact statusOf_setStatus

theorem statusOf_insert {order : HashMap.Traversal String MigrationSession}
    {session : MigrationSession} :
    Sessions.statusOf (order.visit (sessions.insert sid session)) a =
      if sid = a then some session.status else sessions.statusOf a := by
  unfold Sessions.statusOf
  rw [HashMap.lookup_visit, HashMap.lookup_insert]
  split_ifs with hsid
  · rfl
  · rfl

end Writes

/-- A turn that opens no session changes the status that it writes and no other. -/
theorem statusOf_turn {env : Env} {s : Teleports} {t : Turn}
    (h : ∀ sid, t = .handler sid → s.handler sid ≠ .inserting) (a : String) :
    (turn env s t).sessions.statusOf a =
      afterWrite (s.sessions.statusOf a) a (written env s t) := by
  cases t with
  | handler sid =>
    have hphase := h sid rfl
    simp only [turn, handlerTurn, written]
    cases hh : s.handler sid with
    | inserting => exact absurd hh hphase
    | reporting => exact statusOf_setStatus
    | failing e => exact statusOf_setStatus
    | lookingUp => rfl
    | asking => rfl
    | spawning => rfl
    | returned reply => rfl
  | task sid =>
    simp only [turn, taskTurn, written]
    cases ht : s.task sid with
    | polling n => exact statusOf_report
    | completing => exact statusOf_update fun _ => rfl
    | failing => exact statusOf_setStatus
    | adopting =>
      cases (env.migration sid).adopt with
      | notDelivered e => rfl
      | delivered probe => rfl
    | notSpawned => rfl
    | sending => rfl
    | pausing => rfl
    | removing => rfl
    | resuming => rfl
    | finished => rfl
  | cancel n =>
    simp only [turn, cancelTurn, written]
    cases hc : s.cancel n with
    | marking =>
      refine statusOf_mark.trans ?_
      rw [Option.map_map]
      rfl
    | finishing found vmId result => exact statusOf_mark
    | calling found vmId => rfl
    | returned reply => rfl

/-! ## What a session can hold -/

/-- The handler has not spawned the task. -/
def HandlerPhase.early : HandlerPhase → Bool
  | .reporting | .returned _ => false
  | _ => true

/-- The task has not heard of an outcome. -/
def MigrationTask.underway : MigrationTask → Bool
  | .sending | .polling _ => true
  | _ => false

def MigrationTask.sent : MigrationTask → Bool
  | .pausing | .removing | .adopting | .completing => true
  | _ => false

def MigrationTask.lost : MigrationTask → Bool
  | .resuming | .failing => true
  | _ => false

/-- The statuses that go with a phase of the handler and a phase of the task. -/
structure Possible (handler : HandlerPhase) (task : MigrationTask) (status : Option String) :
    Prop where
  fresh : handler = .inserting → status = none
  unspawned : handler.early = true → task = .notSpawned
  undecided : handler.early = true ∨ task.underway = true →
    status ≠ some "completed" ∧ status ≠ some "failed"
  sent : task.sent = true → status ≠ some "failed"
  lost : task.lost = true → status ≠ some "completed"

section Polling

variable {poll : Poll} {progress : MigrationProgress}

theorem status_of_result_none (h : poll.result = none) (hp : poll.progress = some progress) :
    progress.status ≠ "completed" ∧ progress.status ≠ "failed" := by
  cases poll with
  | answered info =>
    obtain rfl := Option.some.inj hp
    simp only [Poll.result] at h
    split_ifs at h with hcompleted
    refine ⟨fun he => hcompleted (beq_iff_eq.mpr he), fun he => ?_⟩
    rw [Option.map_eq_none_iff] at h
    exact absurd h (by rw [show info.progress.error = some "Migration failed" from if_pos he]; simp)
  | timedOut => cases hp
  | queryFailed e => cases hp
  | notSuccessful => cases hp
  | unparsable e => cases hp

theorem status_of_result_ok (h : poll.result = some (.ok ())) :
    ∃ progress, poll.progress = some progress ∧ progress.status = "completed" := by
  cases poll with
  | answered info =>
    refine ⟨info.progress, rfl, ?_⟩
    simp only [Poll.result] at h
    split_ifs at h with hcompleted
    · exact beq_iff_eq.mp hcompleted
    · simp at h
  | timedOut => cases h
  | queryFailed e => cases h
  | notSuccessful => cases h
  | unparsable e => cases h

theorem status_of_result_error {e : String} (h : poll.result = some (.error e))
    (hp : poll.progress = some progress) : progress.status ≠ "completed" := by
  cases poll with
  | answered info =>
    obtain rfl := Option.some.inj hp
    intro he
    have hcompleted : info.progress.completed = true := beq_iff_eq.mpr he
    simp [Poll.result, hcompleted] at h
  | timedOut => cases hp
  | queryFailed e => cases hp
  | notSuccessful => cases hp
  | unparsable e => cases hp

end Polling

/-- A cancellation goes with every phase. -/
theorem Possible.map {handler : HandlerPhase} {task : MigrationTask} {status : Option String}
    (h : Possible handler task status) {new : String} (hcompleted : new ≠ "completed")
    (hfailed : new ≠ "failed") : Possible handler task (status.map fun _ => new) := by
  have hnone : ∀ final, new ≠ final → (status.map fun _ => new) ≠ some final := by
    intro final hne
    cases status with
    | none => simp
    | some old => simpa using hne
  refine ⟨fun hfresh => ?_, h.unspawned, fun _ => ?_, fun _ => ?_, fun _ => ?_⟩
  · rw [h.fresh hfresh, Option.map_none]
  · exact ⟨hnone _ hcompleted, hnone _ hfailed⟩
  · exact hnone _ hfailed
  · exact hnone _ hcompleted

def PossibleAll (s : Teleports) : Prop :=
  ∀ a, Possible (s.handler a) (s.task a) (s.sessions.statusOf a)

theorem possibleAll_start (source : VmService.Daemon) (targets : String → VmService.Daemon) :
    PossibleAll (Teleports.start source targets) := by
  intro a
  refine ⟨fun _ => rfl, fun _ => rfl, fun _ => ⟨?_, ?_⟩, fun hsent => ?_, fun hlost => ?_⟩
  · simp [Teleports.start, Sessions.statusOf]
  · simp [Teleports.start, Sessions.statusOf]
  · cases hsent
  · cases hlost

section Own

variable {env : Env} {s : Teleports} {sid : String}

/-- A handler that has not spawned the task leaves an unspawned task behind. -/
theorem possible_unspawned {handler : HandlerPhase} {status : Option String}
    (hfresh : handler ≠ .inserting)
    (hstatus : handler.early = true → status ≠ some "completed" ∧ status ≠ some "failed") :
    Possible handler .notSpawned status where
  fresh := fun he => absurd he hfresh
  unspawned := fun _ => rfl
  undecided := fun h => hstatus (h.resolve_right (by simp [MigrationTask.underway]))
  sent := fun h => by cases h
  lost := fun h => by cases h

theorem possible_handlerTurn (h : Possible (s.handler sid) (s.task sid) (s.sessions.statusOf sid)) :
    Possible ((handlerTurn env s sid).handler sid) ((handlerTurn env s sid).task sid)
      ((handlerTurn env s sid).sessions.statusOf sid) := by
  cases hh : s.handler sid with
  | inserting =>
    have htask : s.task sid = .notSpawned := h.unspawned (by rw [hh]; rfl)
    cases hresolved : (env.migration sid).resolved with
    | none =>
      simp only [handlerTurn, hh, hresolved, Teleports.setHandler, Function.update_self, htask]
      refine possible_unspawned nofun nofun
    | some node =>
      simp only [handlerTurn, hh, hresolved, Teleports.setHandler, Function.update_self, htask,
        statusOf_insert, if_true]
      refine possible_unspawned nofun fun _ => ?_
      decide
  | lookingUp =>
    have htask : s.task sid = .notSpawned := h.unspawned (by rw [hh]; rfl)
    have hstatus := h.undecided (.inl (by rw [hh]; rfl))
    simp only [handlerTurn, hh, Teleports.setHandler, Function.update_self, htask]
    split_ifs
    · exact possible_unspawned nofun fun _ => hstatus
    · exact possible_unspawned nofun fun _ => hstatus
  | asking =>
    have htask : s.task sid = .notSpawned := h.unspawned (by rw [hh]; rfl)
    have hstatus := h.undecided (.inl (by rw [hh]; rfl))
    simp only [handlerTurn, hh, Teleports.setHandler, Function.update_self, htask]
    cases (env.migration sid).receive with
    | accepted => exact possible_unspawned nofun fun _ => hstatus
    | unreachable e => exact possible_unspawned nofun fun _ => hstatus
    | refused text => exact possible_unspawned nofun fun _ => hstatus
  | spawning =>
    have hstatus := h.undecided (.inl (by rw [hh]; rfl))
    simp only [handlerTurn, hh, Teleports.setHandler, Teleports.setTask, Function.update_self]
    exact ⟨nofun, nofun, fun _ => hstatus, nofun, nofun⟩
  | reporting =>
    have hmap := h.map (show "in_progress" ≠ "completed" by decide) (by decide)
    simp only [handlerTurn, hh, Teleports.setHandler, Function.update_self, statusOf_setStatus,
      if_true]
    exact ⟨nofun, nofun, fun hcase => hmap.undecided (hcase.imp_left nofun), hmap.sent, hmap.lost⟩
  | failing e =>
    have htask : s.task sid = .notSpawned := h.unspawned (by rw [hh]; rfl)
    simp only [handlerTurn, hh, Teleports.setHandler, Function.update_self, htask]
    exact possible_unspawned nofun nofun
  | returned reply =>
    simpa only [handlerTurn, hh] using h

/-- A spawned task belongs to a handler that has spawned it. -/
theorem Possible.not_early {handler : HandlerPhase} {task : MigrationTask} {status : Option String}
    (h : Possible handler task status) (htask : task ≠ .notSpawned) : handler.early = false := by
  cases hearly : handler.early with
  | false => rfl
  | true => exact absurd (h.unspawned hearly) htask

/-- After spawning only the phase of the task matters. -/
theorem possible_spawned {handler : HandlerPhase} {task : MigrationTask} {status : Option String}
    (hearly : handler.early = false)
    (hundecided : task.underway = true → status ≠ some "completed" ∧ status ≠ some "failed")
    (hsent : task.sent = true → status ≠ some "failed")
    (hlost : task.lost = true → status ≠ some "completed") : Possible handler task status where
  fresh := fun he => by
    rw [he] at hearly
    cases hearly
  unspawned := fun he => by
    rw [hearly] at he
    cases he
  undecided := fun he => hundecided (he.resolve_left (by simp [hearly]))
  sent := hsent
  lost := hlost

theorem possible_polled {n : ℕ} (hphase : s.task sid = .polling n)
    (h : Possible (s.handler sid) (s.task sid) (s.sessions.statusOf sid)) :
    Possible ((taskTurn env s sid).handler sid) ((taskTurn env s sid).task sid)
      ((taskTurn env s sid).sessions.statusOf sid) := by
  have hearly := h.not_early (by rw [hphase]; exact nofun)
  have hbefore := h.undecided (.inr (by rw [hphase]; rfl))
  have hafter : ∀ final, s.sessions.statusOf sid ≠ some final →
      (∀ progress, ((env.migration sid).polls n).progress = some progress →
        progress.status ≠ final) →
      afterWrite (s.sessions.statusOf sid) sid
        (((env.migration sid).polls n).progress.map fun p => (sid, p.status)) ≠ some final := by
    intro final hold hnew
    cases hprogress : ((env.migration sid).polls n).progress with
    | none => exact hold
    | some progress =>
      cases hstatus : s.sessions.statusOf sid with
      | none => simp [afterWrite]
      | some old => simpa [afterWrite] using hnew progress hprogress
  simp only [taskTurn, hphase, Teleports.setTask, Function.update_self, statusOf_report]
  cases hresult : ((env.migration sid).polls n).result with
  | none =>
    refine possible_spawned hearly (fun _ => ⟨?_, ?_⟩) nofun nofun
    · exact hafter _ hbefore.1 fun progress hp => (status_of_result_none hresult hp).1
    · exact hafter _ hbefore.2 fun progress hp => (status_of_result_none hresult hp).2
  | some result =>
    cases result with
    | ok u =>
      refine possible_spawned hearly nofun (fun _ => ?_) nofun
      refine hafter _ hbefore.2 fun progress hp => ?_
      obtain ⟨progress', hp', hcompleted⟩ := status_of_result_ok hresult
      obtain rfl := Option.some.inj (hp.symm.trans hp')
      rw [hcompleted]
      decide
    | error e =>
      refine possible_spawned hearly nofun nofun fun _ => ?_
      exact hafter _ hbefore.1 fun progress hp => status_of_result_error hresult hp

/-- The task goes on to a phase with the same outcome, or to its failure from no outcome. -/
theorem Possible.follow {handler : HandlerPhase} {task next : MigrationTask}
    {status : Option String} (h : Possible handler task status) (hspawned : task ≠ .notSpawned)
    (hunderway : next.underway = true → task.underway = true)
    (hsent : next.sent = true → task.sent = true)
    (hlost : next.lost = true → task.lost = true ∨ task.underway = true) :
    Possible handler next status := by
  refine possible_spawned (h.not_early hspawned) (fun hn => ?_) (fun hn => ?_) (fun hn => ?_)
  · exact h.undecided (.inr (hunderway hn))
  · exact h.sent (hsent hn)
  · obtain hlost | hunderway := hlost hn
    · exact h.lost hlost
    · exact (h.undecided (.inr hunderway)).1

theorem possible_taskTurn (h : Possible (s.handler sid) (s.task sid) (s.sessions.statusOf sid)) :
    Possible ((taskTurn env s sid).handler sid) ((taskTurn env s sid).task sid)
      ((taskTurn env s sid).sessions.statusOf sid) := by
  have hturn := h
  cases hphase : s.task sid with
  | notSpawned => simpa only [taskTurn, hphase] using h
  | finished => simpa only [taskTurn, hphase] using h
  | polling n => exact possible_polled hphase h
  | sending =>
    rw [hphase] at hturn
    simp only [taskTurn, hphase, Teleports.setTask, Function.update_self]
    cases (env.migration sid).sendMigration with
    | error e => exact hturn.follow nofun nofun nofun fun _ => .inr rfl
    | ok u => exact hturn.follow nofun (fun _ => rfl) nofun nofun
  | pausing =>
    rw [hphase] at hturn
    simp only [taskTurn, hphase, Teleports.setTask, Function.update_self]
    exact hturn.follow nofun nofun (fun _ => rfl) nofun
  | removing =>
    rw [hphase] at hturn
    simp only [taskTurn, hphase, Teleports.setTask, Function.update_self]
    exact hturn.follow nofun nofun (fun _ => rfl) nofun
  | adopting =>
    rw [hphase] at hturn
    cases hadopt : (env.migration sid).adopt with
    | notDelivered e =>
      simp only [taskTurn, hphase, hadopt, Teleports.setTask, Function.update_self]
      exact hturn.follow nofun nofun (fun _ => rfl) nofun
    | delivered probe =>
      simp only [taskTurn, hphase, hadopt, Teleports.setTask, Function.update_self]
      exact hturn.follow nofun nofun (fun _ => rfl) nofun
  | resuming =>
    rw [hphase] at hturn
    simp only [taskTurn, hphase, Teleports.setTask, Function.update_self]
    exact hturn.follow nofun nofun nofun fun _ => .inl rfl
  | completing =>
    rw [hphase] at hturn
    simp only [taskTurn, hphase, Teleports.setTask, Function.update_self]
    exact possible_spawned (hturn.not_early nofun) nofun nofun nofun
  | failing =>
    rw [hphase] at hturn
    simp only [taskTurn, hphase, Teleports.setTask, Function.update_self]
    exact possible_spawned (hturn.not_early nofun) nofun nofun nofun

end Own

section Others

variable {env : Env} {s : Teleports} {sid a : String}

theorem handlerTurn_of_ne (h : sid ≠ a) : (handlerTurn env s sid).handler a = s.handler a ∧
    (handlerTurn env s sid).task a = s.task a ∧
    (handlerTurn env s sid).sessions.statusOf a = s.sessions.statusOf a := by
  cases hh : s.handler sid with
  | inserting =>
    cases hresolved : (env.migration sid).resolved with
    | none => simp [handlerTurn, hh, hresolved, Teleports.setHandler, Function.update_of_ne h.symm]
    | some node =>
      simp [handlerTurn, hh, hresolved, Teleports.setHandler, Function.update_of_ne h.symm,
        statusOf_insert, h]
  | lookingUp => simp [handlerTurn, hh, Teleports.setHandler, Function.update_of_ne h.symm]
  | asking => simp [handlerTurn, hh, Teleports.setHandler, Function.update_of_ne h.symm]
  | spawning =>
    simp [handlerTurn, hh, Teleports.setHandler, Teleports.setTask, Function.update_of_ne h.symm]
  | reporting => simp [handlerTurn, hh, Teleports.setHandler, Function.update_of_ne h.symm, h]
  | failing e => simp [handlerTurn, hh, Teleports.setHandler, Function.update_of_ne h.symm, h]
  | returned reply => simp [handlerTurn, hh]

theorem taskTurn_of_ne (h : sid ≠ a) : (taskTurn env s sid).handler a = s.handler a ∧
    (taskTurn env s sid).task a = s.task a ∧
    (taskTurn env s sid).sessions.statusOf a = s.sessions.statusOf a := by
  cases hphase : s.task sid with
  | polling n =>
    simp only [taskTurn, hphase, Teleports.setTask, Function.update_of_ne h.symm, statusOf_report,
      true_and]
    cases ((env.migration sid).polls n).progress with
    | none => rfl
    | some progress => exact if_neg h
  | adopting =>
    cases hadopt : (env.migration sid).adopt <;>
      simp [taskTurn, hphase, hadopt, Teleports.setTask, Function.update_of_ne h.symm]
  | completing =>
    simp only [taskTurn, hphase, Teleports.setTask, Function.update_of_ne h.symm, true_and]
    exact Eq.trans (statusOf_update fun _ => rfl) (if_neg h)
  | failing => simp [taskTurn, hphase, Teleports.setTask, Function.update_of_ne h.symm, h]
  | notSpawned => simp [taskTurn, hphase]
  | sending => simp [taskTurn, hphase, Teleports.setTask, Function.update_of_ne h.symm]
  | pausing => simp [taskTurn, hphase, Teleports.setTask, Function.update_of_ne h.symm]
  | removing => simp [taskTurn, hphase, Teleports.setTask, Function.update_of_ne h.symm]
  | resuming => simp [taskTurn, hphase, Teleports.setTask, Function.update_of_ne h.symm]
  | finished => simp [taskTurn, hphase]

theorem cancelTurn_phases (n : ℕ) : (cancelTurn env s n).handler = s.handler ∧
    (cancelTurn env s n).task = s.task := by
  unfold cancelTurn
  cases s.cancel n <;> exact ⟨rfl, rfl⟩

/-- A cancellation writes no outcome but its own. -/
theorem possible_cancelTurn (n : ℕ)
    (h : Possible (s.handler a) (s.task a) (s.sessions.statusOf a)) :
    Possible (s.handler a) (s.task a) ((cancelTurn env s n).sessions.statusOf a) := by
  have hwrite : (cancelTurn env s n).sessions.statusOf a =
      afterWrite (s.sessions.statusOf a) a (written env s (.cancel n)) :=
    @statusOf_turn env s (.cancel n) (fun _ he => nomatch he) a
  rw [hwrite]
  cases hw : written env s (.cancel n) with
  | none => exact h
  | some p =>
    obtain ⟨sid, status⟩ := p
    have hstatus : status = "cancelling" ∨ status = "cancelled" := by
      simp only [written] at hw
      split at hw
      · obtain ⟨ch, _, he⟩ := Option.map_eq_some_iff.mp hw
        exact .inl (congrArg Prod.snd he).symm
      · obtain ⟨found, _, he⟩ := Option.map_eq_some_iff.mp hw
        exact .inr (congrArg Prod.snd he).symm
      · cases hw
    simp only [afterWrite]
    split_ifs with hsid
    · obtain rfl | rfl := hstatus
      · exact h.map (by decide) (by decide)
      · exact h.map (by decide) (by decide)
    · exact h

theorem possibleAll_turn (s : Teleports) (t : Turn) (h : PossibleAll s) :
    PossibleAll (turn env s t) := by
  intro a
  cases t with
  | handler sid =>
    by_cases hsid : sid = a
    · subst hsid
      exact possible_handlerTurn (h sid)
    · obtain ⟨hhandler, htask, hstatus⟩ := @handlerTurn_of_ne env s sid a hsid
      simp only [turn, hhandler, htask, hstatus]
      exact h a
  | task sid =>
    by_cases hsid : sid = a
    · subst hsid
      exact possible_taskTurn (h sid)
    · obtain ⟨hhandler, htask, hstatus⟩ := @taskTurn_of_ne env s sid a hsid
      simp only [turn, hhandler, htask, hstatus]
      exact h a
  | cancel n =>
    obtain ⟨hhandler, htask⟩ := @cancelTurn_phases env s n
    simp only [turn, hhandler, htask]
    exact possible_cancelTurn n (h a)

end Others

/-! ## Finality -/

section Finality

variable {env : Env} {s : Teleports} {t : Turn}

/-- A turn leaves the status of every finished session as it is. -/
def Keeps (env : Env) (s : Teleports) (t : Turn) : Prop :=
  ∀ a status, s.sessions.statusOf a = some status → Final status →
    (turn env s t).sessions.statusOf a = some status

/-- A write keeps the finished sessions exactly when it meets an unfinished one, or one
that is finished with what it writes. -/
theorem keeps_iff_written (h : ∀ sid, t = .handler sid → s.handler sid ≠ .inserting) :
    Keeps env s t ↔ ∀ sid new, written env s t = some (sid, new) →
      ∀ old, s.sessions.statusOf sid = some old → Final old → old = new := by
  constructor
  · intro hkeeps sid new hw old hold hfinal
    have hafter := hkeeps sid old hold hfinal
    rw [statusOf_turn h, hw, hold] at hafter
    simpa [afterWrite, eq_comm] using hafter
  · intro hwrite a old hold hfinal
    rw [statusOf_turn h]
    cases hw : written env s t with
    | none => exact hold
    | some p =>
      obtain ⟨sid, new⟩ := p
      simp only [afterWrite]
      split_ifs with hsid
      · subst hsid
        rw [hold, Option.map_some, hwrite sid new hw old hold hfinal]
      · exact hold

/-- Opening a session keeps the others. -/
theorem keeps_inserting (h : PossibleAll s) {sid : String} (hh : s.handler sid = .inserting) :
    Keeps env s (.handler sid) := by
  intro a status hstatus hfinal
  by_cases hsid : sid = a
  · subst hsid
    rw [(h sid).fresh hh] at hstatus
    cases hstatus
  · rw [turn, (handlerTurn_of_ne hsid).2.2]
    exact hstatus

theorem chosen_lookup {c : CancelEnv} {sessions : Sessions} {ch : Chosen}
    (h : c.chosen sessions = some ch) : sessions.lookup ch.key = some ch.session := by
  have hfirst : ∀ vmId, sessions.firstOf vmId = some ch →
      sessions.lookup ch.key = some ch.session := by
    intro vmId hf
    obtain ⟨p, hp, rfl⟩ := Option.map_eq_some_iff.mp hf
    exact HashMap.mem_pairs.mp (List.mem_of_find?_eq_some hp)
  unfold CancelEnv.chosen at h
  split at h
  · split at h
    · next session hlookup =>
      obtain rfl := Option.some.inj h
      exact hlookup
    · exact hfirst _ h
  · exact hfirst _ h
  · cases h

theorem keeps_of_written_none (h : ∀ sid, t = .handler sid → s.handler sid ≠ .inserting)
    (hw : written env s t = none) : Keeps env s t := by
  rw [keeps_iff_written h, hw]
  exact fun _ _ he => nomatch he

theorem keeps_iff_of_written (h : ∀ sid, t = .handler sid → s.handler sid ≠ .inserting)
    {sid new : String} (hw : written env s t = some (sid, new)) :
    Keeps env s t ↔ (s.sessions.statusOf sid = some "completed" → new = "completed") ∧
      (s.sessions.statusOf sid = some "failed" → new = "failed") ∧
      (s.sessions.statusOf sid = some "cancelled" → new = "cancelled") := by
  rw [keeps_iff_written h, hw]
  constructor
  · intro hkeeps
    have hfinal : ∀ final, Final final → s.sessions.statusOf sid = some final → new = final :=
      fun final hf hstatus => (hkeeps sid new rfl final hstatus hf).symm
    exact ⟨hfinal _ (.inl rfl), hfinal _ (.inr (.inl rfl)), hfinal _ (.inr (.inr rfl))⟩
  · intro hnew sid' new' he old hold hfinal
    obtain ⟨rfl, rfl⟩ := Prod.mk.inj (Option.some.inj he)
    obtain rfl | rfl | rfl := hfinal
    · exact (hnew.1 hold).symm
    · exact (hnew.2.1 hold).symm
    · exact (hnew.2.2 hold).symm

theorem forall_not_final_iff {status : Option String} : (∀ final ∈ status, ¬ Final final) ↔
    status ≠ some "completed" ∧ status ≠ some "failed" ∧ status ≠ some "cancelled" := by
  cases status with
  | none => simp
  | some old => simp [Final]

theorem keeps_handler_iff (h : PossibleAll s) (sid : String) :
    Keeps env s (.handler sid) ↔ Orderly env s (.handler sid) := by
  have hphase : ∀ phase, s.handler sid = phase → phase ≠ .inserting →
      ∀ sid', Turn.handler sid = .handler sid' → s.handler sid' ≠ .inserting := by
    intro phase hh hne sid' he
    obtain rfl := Turn.handler.inj he
    rwa [hh]
  have hquiet : s.handler sid ≠ .inserting → written env s (.handler sid) = none →
      (Keeps env s (.handler sid) ↔ True) := fun hne hw =>
    iff_of_true (keeps_of_written_none (hphase _ rfl hne) hw) trivial
  simp only [Orderly]
  cases hh : s.handler sid with
  | inserting => exact iff_of_true (keeps_inserting h hh) trivial
  | reporting =>
    have hw : written env s (.handler sid) = some (sid, "in_progress") := by
      simp only [written, hh]
    rw [keeps_iff_of_written (hphase _ hh nofun) hw, forall_not_final_iff]
    simp
  | failing e =>
    have hstatus := (h sid).undecided (.inl (by rw [hh]; rfl))
    have hw : written env s (.handler sid) = some (sid, "failed") := by simp only [written, hh]
    rw [keeps_iff_of_written (hphase _ hh nofun) hw]
    simp [hstatus.1]
  | lookingUp =>
    exact hquiet (by rw [hh]; exact nofun) (by simp only [written, hh])
  | asking =>
    exact hquiet (by rw [hh]; exact nofun) (by simp only [written, hh])
  | spawning =>
    exact hquiet (by rw [hh]; exact nofun) (by simp only [written, hh])
  | returned reply =>
    exact hquiet (by rw [hh]; exact nofun) (by simp only [written, hh])

theorem keeps_task_iff (h : PossibleAll s) (sid : String) :
    Keeps env s (.task sid) ↔ Orderly env s (.task sid) := by
  have hturn : ∀ sid', Turn.task sid = .handler sid' → s.handler sid' ≠ .inserting := nofun
  have hquiet : written env s (.task sid) = none → (Keeps env s (.task sid) ↔ True) := fun hw =>
    iff_of_true (keeps_of_written_none hturn hw) trivial
  simp only [Orderly]
  cases hphase : s.task sid with
  | polling n =>
    have hstatus := (h sid).undecided (.inr (by rw [hphase]; rfl))
    cases hprogress : ((env.migration sid).polls n).progress with
    | none =>
      have hw : written env s (.task sid) = none := by simp [written, hphase, hprogress]
      exact iff_of_true (keeps_of_written_none hturn hw) (by simp [hprogress])
    | some progress =>
      have hw : written env s (.task sid) = some (sid, progress.status) := by
        simp [written, hphase, hprogress]
      rw [keeps_iff_of_written hturn hw]
      simp [hstatus.1, hstatus.2, hprogress]
  | completing =>
    have hstatus := (h sid).sent (by rw [hphase]; rfl)
    have hw : written env s (.task sid) = some (sid, "completed") := by simp only [written, hphase]
    rw [keeps_iff_of_written hturn hw]
    simp [hstatus]
  | failing =>
    have hstatus := (h sid).lost (by rw [hphase]; rfl)
    have hw : written env s (.task sid) = some (sid, "failed") := by simp only [written, hphase]
    rw [keeps_iff_of_written hturn hw]
    simp [hstatus]
  | notSpawned => exact hquiet (by simp only [written, hphase])
  | sending => exact hquiet (by simp only [written, hphase])
  | pausing => exact hquiet (by simp only [written, hphase])
  | removing => exact hquiet (by simp only [written, hphase])
  | adopting => exact hquiet (by simp only [written, hphase])
  | resuming => exact hquiet (by simp only [written, hphase])
  | finished => exact hquiet (by simp only [written, hphase])

theorem keeps_cancel_iff (n : ℕ) : Keeps env s (.cancel n) ↔ Orderly env s (.cancel n) := by
  have hturn : ∀ sid', Turn.cancel n = .handler sid' → s.handler sid' ≠ .inserting := nofun
  have hquiet : written env s (.cancel n) = none → (Keeps env s (.cancel n) ↔ True) := fun hw =>
    iff_of_true (keeps_of_written_none hturn hw) trivial
  simp only [Orderly]
  cases hphase : s.cancel n with
  | marking =>
    cases hch : (env.cancel n).chosen s.sessions with
    | none =>
      have hw : written env s (.cancel n) = none := by simp [written, hphase, hch]
      exact iff_of_true (keeps_of_written_none hturn hw) (by simp)
    | some ch =>
      have hw : written env s (.cancel n) = some (ch.key, "cancelling") := by
        simp [written, hphase, hch]
      have hstatus : s.sessions.statusOf ch.key = some ch.session.status := by
        rw [Sessions.statusOf, chosen_lookup hch, Option.map_some]
      rw [keeps_iff_of_written hturn hw, hstatus]
      simp [Final]
  | finishing found vmId result =>
    cases found with
    | none =>
      have hw : written env s (.cancel n) = none := by simp [written, hphase]
      exact iff_of_true (keeps_of_written_none hturn hw) trivial
    | some sid =>
      have hw : written env s (.cancel n) = some (sid, "cancelled") := by simp [written, hphase]
      rw [keeps_iff_of_written hturn hw]
      simp
  | calling found vmId => exact hquiet (by simp only [written, hphase])
  | returned reply => exact hquiet (by simp only [written, hphase])

theorem keeps_iff_orderly (h : PossibleAll s) (t : Turn) : Keeps env s t ↔ Orderly env s t := by
  cases t with
  | handler sid => exact keeps_handler_iff h sid
  | task sid => exact keeps_task_iff h sid
  | cancel n => exact keeps_cancel_iff n

end Finality

section Runs

variable {env : Env} {s : Teleports} {schedule : List Turn}

/-- Statuses that every turn keeps are kept by every stretch of turns. -/
theorem outcomesFinal_iff_along : OutcomesFinal env s schedule ↔
    Along (turn env) (Keeps env) s schedule := by
  rw [along_iff]
  constructor
  · intro h pre t post hsplit a status hstatus hfinal
    have hnext := h pre [t] post (by rw [hsplit]; simp) a status hstatus hfinal
    rwa [exec_append, exec_cons, exec_nil] at hnext
  · intro h pre mid
    induction mid generalizing pre with
    | nil =>
      intro post hsplit a status hstatus _
      rwa [List.append_nil]
    | cons t mid ih =>
      intro post hsplit a status hstatus hfinal
      have hnext := h pre t (mid ++ post) (by rw [hsplit]; simp) a status hstatus hfinal
      rw [List.append_cons]
      refine ih (pre ++ [t]) post (by rw [hsplit]; simp) a status ?_ hfinal
      rwa [exec_append, exec_cons, exec_nil]

/-- The first session of a VM is there if any session of it is. -/
theorem firstOf_of_lookup {sessions : Sessions} {sid : String} {session : MigrationSession}
    (h : sessions.lookup sid = some session) :
    ∃ ch, sessions.firstOf session.vmId = some ch ∧ ch.session.vmId = session.vmId := by
  have hsome : ((HashMap.pairs sessions).find? fun p => p.2.vmId = session.vmId).isSome = true :=
    List.find?_isSome.mpr ⟨(sid, session), HashMap.mem_pairs.mpr h, by simp⟩
  obtain ⟨p, hp⟩ := Option.isSome_iff_exists.mp hsome
  refine ⟨⟨p.1, p.2, p.1⟩, by rw [Sessions.firstOf, hp, Option.map_some], ?_⟩
  simpa using List.find?_some hp

theorem chosen_byVm {c : CancelEnv} {sessions : Sessions} {vmId : String}
    (h : c.byVm sessions = some vmId) : c.chosen sessions = sessions.firstOf vmId := by
  unfold CancelEnv.byVm at h
  unfold CancelEnv.chosen
  cases hsid : c.sessionIdArg with
  | none =>
    simp only [hsid] at h
    simp only [h]
  | some sid =>
    simp only [hsid] at h
    split_ifs at h with hmem
    obtain rfl := Option.some.inj h
    simp only [AList.lookup_eq_none.mpr hmem]

/-- A cancellation that takes an unfinished session marks one of the VM it names. -/
theorem marks_of_orderly {n : ℕ} (h : Orderly env s (.cancel n)) : Marks env s n := by
  intro hphase vmId hvm hexists
  obtain ⟨sid, session, hlookup, rfl, _⟩ := hexists
  obtain ⟨ch, hch, hsame⟩ := firstOf_of_lookup hlookup
  have hchosen : (env.cancel n).chosen s.sessions = some ch := by rw [chosen_byVm hvm, hch]
  have hunfinished : ¬ Final ch.session.status := by
    simp only [Orderly, hphase] at h
    exact h ch hchosen
  refine ⟨ch, hchosen, hsame, hunfinished, ?_⟩
  rw [@statusOf_turn env s (.cancel n) (fun _ he => nomatch he)]
  simp only [written, hphase, hchosen, Option.map_some, afterWrite, if_true]
  rw [Sessions.statusOf, chosen_lookup hchosen]
  rfl

/-- In every schedule of handlers, tasks and cancellations, sessions stay finished as they
were finished and cancellations by VM id mark an unfinished session if there is one,
exactly when all turns are orderly. -/
theorem outcomesFinal_and_cancelsMark_iff (env : Env) (source : VmService.Daemon)
    (targets : String → VmService.Daemon) (schedule : List Turn) :
    OutcomesFinal env (Teleports.start source targets) schedule ∧
        CancelsMark env (Teleports.start source targets) schedule ↔
      Along (turn env) (Orderly env) (Teleports.start source targets) schedule := by
  have hkeeps : Along (turn env) (Keeps env) (Teleports.start source targets) schedule ↔
      Along (turn env) (Orderly env) (Teleports.start source targets) schedule :=
    along_congr (possibleAll_start source targets) (fun s t h _ => possibleAll_turn s t h)
      (fun s t h => keeps_iff_orderly h t) schedule
  rw [outcomesFinal_iff_along, hkeeps]
  refine and_iff_left_of_imp fun horderly => ?_
  intro pre n post hsplit
  exact marks_of_orderly (along_iff.mp horderly pre (.cancel n) post hsplit)

end Runs

/-- Two requests to migrate `vm-1` and one to cancel its migration. The map of sessions
yields the session opened first before the other. -/
def migratedTwice : Env where
  migration := fun _ => { sentMigration (.delivered (.ok ())) with order := .reversed _ _ }
  cancel := fun _ => ⟨none, some "vm-1", .ok ()⟩

/-- The first migration runs to its end, the second is opened, the cancellation marks. -/
def cancelledLate : List Turn :=
  List.replicate 5 (.handler "s-1") ++ List.replicate 6 (.task "s-1") ++ [.handler "s-2", .cancel 0]

/-- The cancellation takes the session that is completed and not the one that is open. -/
theorem completed_session_cancelled :
    (exec (turn migratedTwice) beforeMigration (cancelledLate.take 12)).sessions.statusOf "s-1" =
        some "completed" ∧
      (exec (turn migratedTwice) beforeMigration cancelledLate).sessions.statusOf "s-1" =
        some "cancelling" ∧
      ¬ OutcomesFinal migratedTwice beforeMigration cancelledLate ∧
      ¬ CancelsMark migratedTwice beforeMigration cancelledLate := by
  have hbefore : (exec (turn migratedTwice) beforeMigration
      (cancelledLate.take 12)).sessions.statusOf "s-1" = some "completed" := by decide
  have hafter : (exec (turn migratedTwice) beforeMigration cancelledLate).sessions.statusOf "s-1" =
      some "cancelling" := by decide
  refine ⟨hbefore, hafter, fun hfinal => ?_, fun hmark => ?_⟩
  · have hkept := hfinal (cancelledLate.take 12) [.cancel 0] [] (by decide) "s-1" "completed" hbefore
      (.inl rfl)
    exact absurd (hafter.symm.trans hkept) (by decide)
  · have hchosen : ((migratedTwice.cancel 0).chosen (exec (turn migratedTwice) beforeMigration
        (cancelledLate.take 12)).sessions).map (fun ch => ch.session.status) =
          some "completed" := by decide
    obtain ⟨ch, hch, _, hunfinished, _⟩ :=
      hmark (cancelledLate.take 12) 0 [] (by decide) (by decide) "vm-1" (by decide)
        ⟨"s-2", _, rfl, rfl, by decide⟩
    rw [hch, Option.map_some, Option.some.injEq] at hchosen
    exact hunfinished (.inl hchosen)

end Vyoma.Teleport
