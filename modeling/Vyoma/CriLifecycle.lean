import Vyoma.CriPods

/-!
# The life of a container

`StartContainer` and `StopContainer` look a container up, call the agent of its VM without
the lock and then write the new state, whatever the state has become in between. A handler
that has passed its last check is bound to its write. A container that has ended stays so as
long as no handler is bound to start it.
-/
namespace Vyoma.Cri
open LockPrograms LockPrograms.Program Runs

/-- The state of a container that is there. -/
def stateOf (s : Server) (containerID : String) : Option ContainerState :=
  (s.containers.lookup containerID).map fun container => (s.containerCells container.cell).state

/-- The id under which a write inserts a container. -/
def insertedId : Write → Option String
  | .putContainer id _ _ => some id
  | _ => none

/-- The step inserts a container under the id, as `CreateContainer` does. -/
def Creates (containerID : String) (c : CriConfig) (a : Action Query Request) : Prop :=
  (writeOf c a).bind insertedId = some containerID

instance (containerID : String) (c : CriConfig) (a : Action Query Request) :
    Decidable (Creates containerID c a) :=
  inferInstanceAs (Decidable ((writeOf c a).bind insertedId = some containerID))

/-- Once a container is EXITED, it is not RUNNING later in the run unless it is created
again. -/
def NeverResumes (run : List (Action Query Request)) : Prop :=
  ∀ containerID pre mid, pre ++ mid <+: run →
    stateOf (Runs.exec (step service) CriConfig.init pre).store containerID = some .exited →
    Along (step service) (fun c a => ¬Creates containerID c a)
      (Runs.exec (step service) CriConfig.init pre) mid →
    stateOf (Runs.exec (step service) CriConfig.init (pre ++ mid)).store containerID ≠
      some .running

/-! ## Handlers that are bound to start a container -/

/-- The write takes the cell out of EXITED. In the handlers, it is that of RUNNING. -/
def Revives (cell : ℕ) (w : Write) : Prop :=
  ∃ state, w = .setContainerState cell state ∧ state ≠ .exited

/-- Whatever it is answered, the handler makes such a write. -/
def Bound (cell : ℕ) : Handler → Prop
  | .ret _ => False
  | .fail _ => False
  | .panics _ => False
  | .mutex _ next => Bound cell next
  | .write w next => Revives cell w ∨ Bound cell next
  | .ask _ next => ∀ a, Bound cell (next a)

theorem not_bound_streamTo (cell : ℕ) (type : String) (req : StreamRequest) :
    ¬Bound cell (streamTo type req) := by
  unfold streamTo
  split_ifs
  · exact fun h => h
  · exact fun h => h none

/-- A handler that has not looked at anything may still find nothing, or fail. -/
theorem not_bound_handle (cell : ℕ) (req : Request) : ¬Bound cell (handle req) := by
  intro h
  cases req with
  | runPodSandbox config => exact h (.error "")
  | stopPodSandbox podID => exact h none
  | removePodSandbox podID => exact h none
  | podSandboxStatus podID => exact h none
  | listPodSandbox filter => exact h []
  | updateRuntimeConfig => exact h
  | status => exact h
  | createContainer podID config => exact h none
  | startContainer containerID => exact h none
  | stopContainer containerID => exact h none
  | removeContainer containerID =>
    obtain ⟨state, hwrite, -⟩ | hrest := h none
    · cases hwrite
    · exact hrest
  | containerStatus containerID verbose => exact h none
  | listContainers filter => exact h []
  | updateContainerResources containerID => exact h none
  | reopenContainerLog containerID => exact h
  | exec req => exact not_bound_streamTo cell "exec" req h
  | attach req => exact not_bound_streamTo cell "attach" { req with cmd := [] } h
  | portForward podID ports =>
    change Bound cell (portForward podID ports) at h
    unfold portForward at h
    split_ifs at h
    · exact h
    · exact h none
  | syncPodsFromVyomad => exact h (.error "")

/-! ## Cells of containers that have ended -/

/-- The cell is that of a container that is there and EXITED. -/
structure Exited (s : Server) (cell : ℕ) : Prop where
  present : ∃ id container, s.containers.lookup id = some container ∧ container.cell = cell
  state : (s.containerCells cell).state = .exited

/-- The cell in which a write leaves EXITED. -/
def exits (s : Server) : Write → Option ℕ
  | .setContainerState cell .exited => some cell
  | .putContainer _ _ .exited => some s.cells
  | _ => none

section Cells

variable {s : Server} {w : Write} {cell : ℕ} {id : String}

/-- The container under an id after a write. -/
theorem lookup_containers_apply {container : ContainerInfo}
    (h : (s.apply w).containers.lookup id = some container) :
    s.containers.lookup id = some container ∨
      ∃ info state, w = .putContainer id info state ∧ container.cell = s.cells := by
  cases w with
  | putContainer id' info state =>
    rw [Server.apply, HashMap.lookup_insert] at h
    split_ifs at h with hid
    · cases h
      exact .inr ⟨info, state, by rw [hid], rfl⟩
    · exact .inl h
  | deleteContainer id' =>
    by_cases hid : id = id'
    · rw [hid, Server.apply, AList.lookup_erase] at h
      cases h
    · rw [Server.apply, AList.lookup_erase_ne hid] at h
      exact .inl h
  | _ => exact .inl h

/-- The state in a cell after a write. -/
theorem state_apply (s : Server) (w : Write) (cell : ℕ) :
    ((s.apply w).containerCells cell).state = (s.containerCells cell).state ∨
      (∃ state, w = .setContainerState cell state ∧
        ((s.apply w).containerCells cell).state = state) ∨
      ∃ id info state, w = .putContainer id info state ∧ cell = s.cells ∧
        ((s.apply w).containerCells cell).state = state := by
  cases w with
  | putContainer id info state =>
    by_cases hcell : cell = s.cells
    · refine .inr (.inr ⟨id, info, state, rfl, hcell, ?_⟩)
      simp only [Server.apply, hcell, Function.update_self]
    · refine .inl ?_
      simp only [Server.apply, Function.update_of_ne hcell]
  | setContainerState cell' state =>
    by_cases hcell : cell = cell'
    · refine .inr (.inl ⟨state, by rw [hcell], ?_⟩)
      simp only [Server.apply, hcell, Function.update_self]
    · refine .inl ?_
      simp only [Server.apply, Function.update_of_ne hcell]
  | setStartTime cell' time =>
    refine .inl ?_
    by_cases hcell : cell = cell'
    · simp only [Server.apply, hcell, Function.update_self]
    · simp only [Server.apply, Function.update_of_ne hcell]
  | _ => exact .inl rfl

theorem exits_of_exited_apply (h : Exited (s.apply w) cell) :
    Exited s cell ∨ exits s w = some cell := by
  obtain ⟨⟨id, container, hlookup, hcell⟩, hstate⟩ := h
  obtain hsame | ⟨state, rfl, hset⟩ | ⟨id', info, state, rfl, rfl, hput⟩ := state_apply s w cell
  · obtain hbefore | ⟨info, state, rfl, hnew⟩ := lookup_containers_apply hlookup
    · exact .inl ⟨⟨id, container, hbefore, hcell⟩, hsame ▸ hstate⟩
    · -- the new container has the cell, with the state it was given
      simp only [← hcell, hnew, Server.apply, Function.update_self] at hstate
      rw [hstate, ← hcell, hnew]
      exact .inr rfl
  · rw [hset] at hstate
    rw [hstate]
    exact .inr rfl
  · rw [hput] at hstate
    rw [hstate]
    exact .inr rfl

end Cells

/-! ## Runs -/

/-- No handler passes its last check on the way to start a container that has ended, and no
container ends while a handler is bound to start it. -/
structure SparesExited (c : CriConfig) (a : Action Query Request) : Prop where
  start : ∀ (i : ℕ) (world : ∀ β, Query β → β) (waiting : Bool) (β : Type) (q : Query β) next,
    a = .runs i world waiting → c.threads[i]? = some (.ask q next) →
    ∀ cell, Exited c.store cell → ¬Bound cell (next (c.store.answer world β q))
  stop : ∀ cell, (writeOf c a).bind (exits c.store) = some cell → ∀ h ∈ c.threads, ¬Bound cell h

/-- Cells are given out in order, and no handler is bound to start a container that has
ended. -/
structure Lasting (c : CriConfig) : Prop where
  cells : ∀ id container, c.store.containers.lookup id = some container →
    container.cell < c.store.cells
  unbound : ∀ cell, Exited c.store cell → ∀ h ∈ c.threads, ¬Bound cell h

theorem lasting_init : Lasting CriConfig.init where
  cells _ _ h := nomatch h
  unbound := by
    rintro cell ⟨⟨id, container, hlookup, -⟩, -⟩
    cases hlookup

theorem cells_apply {s : Server} (hs : ∀ id container, s.containers.lookup id = some container →
    container.cell < s.cells) (w : Write) :
    ∀ id container, (s.apply w).containers.lookup id = some container →
      container.cell < (s.apply w).cells := by
  have hle : s.cells ≤ (s.apply w).cells := by
    cases w with
    | putPod id pod state => exact Nat.le_succ s.cells
    | putContainer id info state => exact Nat.le_succ s.cells
    | _ => exact Nat.le_refl s.cells
  intro id container hlookup
  obtain hbefore | ⟨info, state, rfl, hnew⟩ := lookup_containers_apply hlookup
  · exact Nat.lt_of_lt_of_le (hs id container hbefore) hle
  · rw [hnew]
    exact Nat.lt_succ_self s.cells

section Step

variable {c : CriConfig} {i : ℕ}

theorem Lasting.advance (hc : Lasting c) {p next : Handler} (hi : c.threads[i]? = some p)
    (hnext : ∀ cell, ¬Bound cell p → Exited c.store cell → ¬Bound cell next) {m : RwMutex} :
    Lasting { c with mutex := m, threads := c.threads.set i next } := by
  refine ⟨hc.cells, fun cell hcell h hmem => ?_⟩
  obtain hmem | rfl := List.mem_or_eq_of_mem_set hmem
  · exact hc.unbound cell hcell h hmem
  · exact hnext cell (hc.unbound cell hcell _ (List.mem_of_getElem? hi)) hcell

theorem Lasting.write (hc : Lasting c) {w : Write} {next : Handler}
    (hi : c.threads[i]? = some (.write w next))
    (hexits : ∀ cell, exits c.store w = some cell → ∀ h ∈ c.threads, ¬Bound cell h) :
    Lasting { c with store := c.store.apply w, threads := c.threads.set i next } := by
  have hunbound : ∀ cell, Exited (c.store.apply w) cell → ∀ h ∈ c.threads, ¬Bound cell h := by
    intro cell hcell
    obtain hbefore | hnow := exits_of_exited_apply hcell
    · exact hc.unbound cell hbefore
    · exact hexits cell hnow
  refine ⟨cells_apply hc.cells w, fun cell hcell h hmem => ?_⟩
  obtain hmem | rfl := List.mem_or_eq_of_mem_set hmem
  · exact hunbound cell hcell h hmem
  · exact fun hnext => hunbound cell hcell _ (List.mem_of_getElem? hi) (.inr hnext)

/-- A step that spares the containers that have ended keeps the invariant. -/
theorem lasting_step (hc : Lasting c) (a : Action Query Request) (ha : SparesExited c a) :
    Lasting (step service c a) := by
  have hsteps := steps_step service c a
  generalize step service c a = c' at hsteps ⊢
  cases hsteps with
  | idle => exact hc
  | arrived req =>
    refine ⟨hc.cells, fun cell hcell h hmem => ?_⟩
    obtain hmem | hmem := List.mem_append.mp hmem
    · exact hc.unbound cell hcell h hmem
    · rw [List.mem_singleton.mp hmem]
      exact not_bound_handle cell req
  | panicked hi => exact ⟨hc.cells, hc.unbound⟩
  | crashed hi hop => exact ⟨hc.cells, hc.unbound⟩
  | locked hi hop =>
    refine hc.advance hi ?_
    exact fun cell hbound _ => hbound
  | wrote hi =>
    refine hc.write hi fun cell hexits => ha.stop cell ?_
    rw [writeOf, hi]
    exact hexits
  | asked hi => exact hc.advance hi fun cell _ hcell => ha.start _ _ _ _ _ _ rfl hi cell hcell

/-- The container is EXITED or gone. -/
def Over (containerID : String) (s : Server) : Prop :=
  ∀ container, s.containers.lookup containerID = some container →
    (s.containerCells container.cell).state = .exited

theorem over_write (hc : Lasting c) {containerID : String} (hover : Over containerID c.store)
    {w : Write} {next : Handler} (hi : c.threads[i]? = some (.write w next))
    (hcreates : ∀ container state, w ≠ .putContainer containerID container state) :
    Over containerID (c.store.apply w) := by
  intro container hlookup
  obtain hbefore | ⟨info, state, hw, -⟩ := lookup_containers_apply hlookup
  swap
  · exact absurd hw (hcreates info state)
  have hexited := hover container hbefore
  obtain hsame | ⟨state, rfl, hset⟩ | ⟨id, info, state, rfl, hcell, -⟩ :=
    state_apply c.store w container.cell
  · rw [hsame, hexited]
  · -- the handler that writes is not bound to start the container
    have hunbound := hc.unbound container.cell ⟨⟨containerID, container, hbefore, rfl⟩, hexited⟩ _
      (List.mem_of_getElem? hi)
    by_contra hstate
    exact hunbound (.inl ⟨state, rfl, fun he => hstate (hset.trans he)⟩)
  · exact absurd hcell (Nat.ne_of_lt (hc.cells containerID container hbefore))

/-- A container that is over stays so until it is created again. -/
theorem over_step (hc : Lasting c) {containerID : String} (hover : Over containerID c.store)
    (a : Action Query Request) (ha : ¬Creates containerID c a) :
    Over containerID (step service c a).store := by
  have hsteps := steps_step service c a
  generalize step service c a = c' at hsteps ⊢
  cases hsteps with
  | wrote hi =>
    refine over_write hc hover hi fun container state hw => ?_
    rw [Creates, writeOf, hi, hw] at ha
    exact ha rfl
  | _ => exact hover

end Step

/-- In every run in which no handler passes its last check on the way to start a container
that has ended, and no container ends while a handler is bound to start it, an EXITED
container does not run again unless it is created again. -/
theorem exited_containers_stay {run : List (Action Query Request)}
    (h : Along (step service) SparesExited CriConfig.init run) : NeverResumes run := by
  rintro containerID pre mid ⟨post, rfl⟩ hexited hcreates
  rw [List.append_assoc, along_append, along_append] at h
  obtain ⟨hpre, hmid, -⟩ := h
  have hlasting : Lasting (Runs.exec (step service) CriConfig.init pre) :=
    (throughout_of_along (Q := Lasting) lasting_init (fun c a hc ha => lasting_step hc a ha)
      hpre).exec
  have hover : Over containerID (Runs.exec (step service) CriConfig.init pre).store := by
    intro container hlookup
    rw [stateOf, hlookup] at hexited
    exact Option.some.inj hexited
  have hend := (throughout_of_along (Q := fun c => Lasting c ∧ Over containerID c.store)
    ⟨hlasting, hover⟩ (fun c a hc ha => ⟨lasting_step hc.1 a ha.1, over_step hc.1 hc.2 a ha.2⟩)
    (hmid.and hcreates)).exec.2
  rw [exec_append, stateOf]
  intro hrunning
  obtain ⟨container, hlookup, hstate⟩ := Option.map_eq_some_iff.mp hrunning
  rw [hend container hlookup] at hstate
  cases hstate

/-- A created container is started, and a request to stop it comes to its write. -/
def startedRun : List (Action Query Request) :=
  createdRun ++ .arrives (.startContainer "vm1-app") :: takes 2 14 ++
    .arrives (.stopContainer "vm1-app") :: takes 3 11

theorem sparesExited_of_none {c : CriConfig} {a : Action Query Request}
    (hcells : ∀ e ∈ c.store.containers.pairs, (c.store.containerCells e.2.cell).state ≠ .exited)
    (hwrite : (writeOf c a).bind (exits c.store) = none) : SparesExited c a := by
  refine ⟨fun i world waiting β q next _ _ cell hcell => ?_, fun cell hcell => ?_⟩
  · obtain ⟨⟨id, container, hlookup, rfl⟩, hstate⟩ := hcell
    exact absurd hstate (hcells (id, container) (HashMap.mem_pairs.mpr hlookup))
  · rw [hwrite] at hcell
    cases hcell

theorem sparesExited_of_unbound {c : CriConfig}
    (hask : ∀ h ∈ c.threads, ∀ (β : Type) (q : Query β) next, h ≠ .ask q next)
    (hbound : ∀ h ∈ c.threads, ∀ cell, ¬Bound cell h) (a : Action Query Request) :
    SparesExited c a := by
  refine ⟨fun i _ _ β q next _ hi => ?_, fun cell _ h hmem => hbound h hmem cell⟩
  exact absurd rfl (hask _ (List.mem_of_getElem? hi) β q next)

set_option maxRecDepth 4000 in
/-- The container stays EXITED after the stop. -/
theorem stopped_container_stays : NeverResumes (startedRun ++ takes 3 2) := by
  have hquiet : Along (step service) (fun c a =>
      (∀ e ∈ c.store.containers.pairs, (c.store.containerCells e.2.cell).state ≠ .exited) ∧
        (writeOf c a).bind (exits c.store) = none) CriConfig.init startedRun := by
    decide +kernel
  -- the handlers in flight before and after the write of the stop
  have hwriting : (Runs.exec (step service) CriConfig.init startedRun).threads =
      [.ret (.podSandbox "vm1"), .ret (.container "vm1-app"), .ret .empty,
        .write (.setContainerState 1 .exited) (.mutex .unlock (.ret .empty))] := rfl
  have hwritten : (step service (Runs.exec (step service) CriConfig.init startedRun)
      (.runs 3 quietWorld false)).threads =
      [.ret (.podSandbox "vm1"), .ret (.container "vm1-app"), .ret .empty,
        .mutex .unlock (.ret .empty)] := rfl
  refine exited_containers_stay (along_append.mpr ⟨?_, ?_⟩)
  · rw [along_iff] at hquiet ⊢
    intro pre a post hrun
    exact sparesExited_of_none (hquiet pre a post hrun).1 (hquiet pre a post hrun).2
  · refine ⟨sparesExited_of_unbound ?_ ?_ _, sparesExited_of_unbound ?_ ?_ _, trivial⟩
    · rw [hwriting]
      simp
    · rw [hwriting]
      simp [Bound, Revives]
    · rw [hwritten]
      simp
    · rw [hwritten]
      simp [Bound]

/-- The container is stopped while it is being started. -/
def stopDuringStartRun : List (Action Query Request) :=
  createdRun ++ .arrives (.startContainer "vm1-app") :: takes 2 9 ++
    .arrives (.stopContainer "vm1-app") :: takes 3 13

/-- The start goes on after the stop, and the container is RUNNING again. -/
theorem stopped_container_runs : ¬NeverResumes (stopDuringStartRun ++ takes 2 5) := by
  intro h
  exact h "vm1-app" stopDuringStartRun (takes 2 5) (List.prefix_refl _) (by decide +kernel)
    (by decide +kernel) (by decide +kernel)

end Vyoma.Cri
