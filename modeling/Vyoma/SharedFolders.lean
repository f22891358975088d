import Mathlib.Logic.Function.Basic
import Vyoma.ProcessTables
import Vyoma.Runs
import Vyoma.TextSplits

/-!
# Folders shared with machines

A volume of a VM is served by a process of its own, over a socket in the directory of the VM. The
processes are started while the VM boots. A monitor looks at them again and again and starts
those anew that have ended, until the VM is cleaned up. Boots, the monitor and the ends of
processes interleave in any order.
-/
namespace Vyoma.SharedFolders
open ProcessTables RustText

/-- What a `virtiofsd` is started with. -/
structure Virtiofsd where
  socketPath : String
  sharedDir : String
  deriving DecidableEq, Repr

structure VirtioFsManager where
  process : Option ℕ
  socketPath : String
  tag : String
  deriving DecidableEq, Repr

def VirtioFsManager.new (tag socketPath : String) : VirtioFsManager := ⟨none, socketPath, tag⟩

/-- What a start meets: a file at the socket, which may not be removable, a process that may not
be started, and a socket that may not appear in time. -/
structure StartOutcome where
  stale : Bool
  removed : Except String Unit
  spawned : Except String Unit
  appeared : Bool

/-- A start that fails can leave a process behind. -/
def VirtioFsManager.start (m : VirtioFsManager) (sourcePath : String) (o : StartOutcome)
    (procs : Table Virtiofsd) : Except String Unit × VirtioFsManager × Table Virtiofsd :=
  match (if o.stale then o.removed else .ok ()) with
  | .error e => (.error e, m, procs)
  | .ok () =>
    match o.spawned with
    | .error e => (.error ("Failed to spawn virtiofsd (is it installed?): " ++ e), m, procs)
    | .ok () =>
      (if o.appeared then .ok () else .error "Timed out waiting for virtiofsd socket",
        { m with process := some procs.length }, procs.spawn ⟨m.socketPath, sourcePath⟩)

structure KillOutcome where
  killed : Except String Unit
  waited : Except String Unit

def KillOutcome.done : KillOutcome := ⟨.ok (), .ok ()⟩

/-- The manager without its process. -/
def VirtioFsManager.take (m : VirtioFsManager) : VirtioFsManager := { m with process := none }

/-- The process is forgotten even when it cannot be killed. -/
def VirtioFsManager.kill (m : VirtioFsManager) (kills : ℕ → KillOutcome)
    (procs : Table Virtiofsd) : Except String Unit × VirtioFsManager × Table Virtiofsd :=
  match m.process with
  | none => (.ok (), m, procs)
  | some pid =>
    match (kills pid).killed with
    | .error e => (.error e, m.take, procs)
    | .ok () => ((kills pid).waited, m.take, procs.exit pid)

/-- Whether the process is seen to have ended. -/
def VirtioFsManager.tryWait (m : VirtioFsManager) (waited : Bool) (procs : Table Virtiofsd) :
    Bool :=
  match m.process with
  | none => false
  | some pid => waited && !procs.isAlive pid

/-- What becomes of the processes when all managers are killed, or dropped. -/
def killAll (kills : ℕ → KillOutcome) (managers : List VirtioFsManager)
    (procs : Table Virtiofsd) : Table Virtiofsd :=
  managers.foldl (fun procs m => (m.kill kills procs).2.2) procs

/-! ## The node -/

/-- A VM that is being booted or registered, with the folders of its volumes. -/
structure VmVolumes where
  registered : Bool
  volumes : List String
  managers : List VirtioFsManager

structure Node where
  procs : Table Virtiofsd
  vms : String → Option VmVolumes

def Node.empty : Node := ⟨[], fun _ => none⟩

def tag (idx : ℕ) : String := "vol" ++ toString idx

/-- The socket of a volume, in the directory of the VM. -/
def socketPath (root id : String) (idx : ℕ) : String :=
  root ++ "/" ++ id ++ "/" ++ ("fs_" ++ toString idx ++ ".sock")

inductive NodeAction where
  /-- An id is drawn for a VM, or a VM comes back under its own. -/
  | begin (id : String) (volumes : List String)
  | startVolume (id : String) (o : StartOutcome) (added : Except String Unit)
      (kills : ℕ → KillOutcome)
  /-- What remains of a boot once the volumes are there. -/
  | finish (id : String) (rest : Except String Unit) (kills : ℕ → KillOutcome)
  /-- A VM is found again when the daemon starts. -/
  | recover (id : String) (volumes : List String)
  /-- A process ends by itself. -/
  | exit (pid : ℕ)
  | check (id : String) (idx : ℕ) (waited : Bool) (o : StartOutcome)
  | cleanup (id : String) (kills : ℕ → KillOutcome)
  /-- The instance is dropped. -/
  | remove (id : String) (kills : ℕ → KillOutcome)

/-- The VM and the processes as they are after a step of the VM. -/
def Node.put (s : Node) (id : String) (vm : Option VmVolumes) (procs : Table Virtiofsd) : Node :=
  ⟨procs, Function.update s.vms id vm⟩

theorem Node.vms_put_self (s : Node) (id : String) (vm : Option VmVolumes)
    (procs : Table Virtiofsd) : (s.put id vm procs).vms id = vm := by
  simp [Node.put]

theorem Node.vms_put_of_ne {id id' : String} (h : id' ≠ id) (s : Node) (vm : Option VmVolumes)
    (procs : Table Virtiofsd) : (s.put id vm procs).vms id' = s.vms id' := by
  simp [Node.put, h]

/-- `start_vm`, for the next of the volumes. -/
def startVolume (root id : String) (vm : VmVolumes) (o : StartOutcome)
    (added : Except String Unit) (kills : ℕ → KillOutcome) (s : Node) : Node :=
  let idx := vm.managers.length
  match vm.volumes[idx]? with
  | none => s
  | some hostPath =>
    match (VirtioFsManager.new (tag idx) (socketPath root id idx)).start hostPath o s.procs, added
      with
    | (.ok (), m, procs), .ok () =>
      s.put id (some { vm with managers := vm.managers ++ [m] }) procs
    | (_, m, procs), _ => s.put id none (killAll kills (vm.managers ++ [m]) procs)

/-- The monitor looks at one of the managers. -/
def monitor (id : String) (vm : VmVolumes) (idx : ℕ) (waited : Bool) (o : StartOutcome)
    (s : Node) : Node :=
  match vm.managers[idx]? with
  | none => s
  | some m =>
    if m.tryWait waited s.procs then
      match vm.volumes[idx]? with
      | none => s
      | some hostPath =>
        let r := m.start hostPath o s.procs
        s.put id (some { vm with managers := vm.managers.set idx r.2.1 }) r.2.2
    else s

def nodeStep (root : String) (s : Node) : NodeAction → Node
  | .begin id volumes =>
    if (s.vms id).isSome then s else s.put id (some ⟨false, volumes, []⟩) s.procs
  | .startVolume id o added kills =>
    match s.vms id with
    | none => s
    | some vm => if vm.registered then s else startVolume root id vm o added kills s
  | .finish id rest kills =>
    match s.vms id with
    | none => s
    | some vm =>
      if vm.registered ∨ vm.managers.length ≠ vm.volumes.length then s
      else
        match rest with
        | .ok () => s.put id (some { vm with registered := true }) s.procs
        | .error _ => s.put id none (killAll kills vm.managers s.procs)
  | .recover id volumes =>
    if (s.vms id).isSome then s else s.put id (some ⟨true, volumes, []⟩) s.procs
  | .exit pid => { s with procs := s.procs.exit pid }
  | .check id idx waited o =>
    match s.vms id with
    | none => s
    | some vm => if vm.registered then monitor id vm idx waited o s else s
  | .cleanup id kills =>
    match s.vms id with
    | none => s
    | some vm =>
      if vm.registered then
        s.put id (some { vm with managers := vm.managers.map VirtioFsManager.take })
          (killAll kills vm.managers s.procs)
      else s
  | .remove id kills =>
    match s.vms id with
    | none => s
    | some vm => s.put id none (killAll kills vm.managers s.procs)

/-! ## What a start and a kill do -/

/-- A start leaves everything as it is, or adds a process for the folder at the socket. -/
theorem start_cases (m : VirtioFsManager) (sourcePath : String) (o : StartOutcome)
    (procs : Table Virtiofsd) :
    (∃ e, m.start sourcePath o procs = (.error e, m, procs)) ∨
    ∃ r, m.start sourcePath o procs = (r, { m with process := some procs.length },
      procs.spawn ⟨m.socketPath, sourcePath⟩) := by
  unfold VirtioFsManager.start
  split
  · exact .inl ⟨_, rfl⟩
  · split
    · exact .inl ⟨_, rfl⟩
    · exact .inr ⟨_, rfl⟩

/-- Nothing stands in the way of the process. -/
def StartOutcome.Starts (o : StartOutcome) : Prop :=
  (o.stale = true → o.removed = .ok ()) ∧ o.spawned = .ok ()

theorem start_of_starts (m : VirtioFsManager) (sourcePath : String) {o : StartOutcome}
    (h : o.Starts) (procs : Table Virtiofsd) :
    ∃ r, m.start sourcePath o procs = (r, { m with process := some procs.length },
      procs.spawn ⟨m.socketPath, sourcePath⟩) := by
  have hclear : (if o.stale then o.removed else .ok ()) = .ok () := by
    split
    · exact h.1 ‹_›
    · rfl
  unfold VirtioFsManager.start
  rw [hclear, h.2]
  exact ⟨_, rfl⟩

theorem jobOf_kill (m : VirtioFsManager) (kills : ℕ → KillOutcome) (procs : Table Virtiofsd)
    (pid : ℕ) : (m.kill kills procs).2.2.jobOf pid = procs.jobOf pid := by
  unfold VirtioFsManager.kill
  split
  · rfl
  · split
    · rfl
    · exact Table.jobOf_exit _ _ _

/-- A kill that is carried out ends the process of the manager, and no other. -/
theorem isAlive_kill {m : VirtioFsManager} {kills : ℕ → KillOutcome}
    (hkills : ∀ pid, (kills pid).killed = .ok ()) {procs : Table Virtiofsd} {pid : ℕ} :
    (m.kill kills procs).2.2.isAlive pid = true ↔
      procs.isAlive pid = true ∧ m.process ≠ some pid := by
  unfold VirtioFsManager.kill
  cases m.process with
  | none => simp
  | some pid' =>
    dsimp only
    rw [hkills pid']
    dsimp only
    rw [Table.isAlive_exit, Option.some_inj.ne, ne_comm]

theorem jobOf_killAll (kills : ℕ → KillOutcome) (managers : List VirtioFsManager)
    (procs : Table Virtiofsd) (pid : ℕ) :
    (killAll kills managers procs).jobOf pid = procs.jobOf pid := by
  induction managers generalizing procs with
  | nil => rfl
  | cons m managers ih => exact (ih _).trans (jobOf_kill m kills procs pid)

theorem isAlive_killAll {kills : ℕ → KillOutcome} (hkills : ∀ pid, (kills pid).killed = .ok ())
    {managers : List VirtioFsManager} {procs : Table Virtiofsd} {pid : ℕ} :
    (killAll kills managers procs).isAlive pid = true ↔
      procs.isAlive pid = true ∧ ∀ m ∈ managers, m.process ≠ some pid := by
  induction managers generalizing procs with
  | nil => simp [killAll]
  | cons m managers ih =>
    rw [killAll, List.foldl_cons, ← killAll, ih, isAlive_kill hkills, and_assoc,
      List.forall_mem_cons]

/-! ## Who serves what -/

/-- Every manager is for the volume at its place, and so is the process that it has. -/
def VmVolumes.Kept (root id : String) (vm : VmVolumes) (procs : Table Virtiofsd) : Prop :=
  ∀ idx m, vm.managers[idx]? = some m → m.socketPath = socketPath root id idx ∧
    ∃ hostPath, vm.volumes[idx]? = some hostPath ∧
      ∀ pid, m.process = some pid → procs.jobOf pid = some ⟨socketPath root id idx, hostPath⟩

/-- Every manager is for its volume, and every process that runs has a manager. -/
structure Node.Sound (root : String) (s : Node) : Prop where
  kept : ∀ id vm, s.vms id = some vm → vm.Kept root id s.procs
  owned : ∀ pid, s.procs.isAlive pid = true →
    ∃ id vm, s.vms id = some vm ∧ ∃ m ∈ vm.managers, m.process = some pid

theorem Node.sound_empty (root : String) : Node.empty.Sound root where
  kept _ _ h := nomatch h
  owned pid h := by simp [Node.empty, Table.isAlive] at h

theorem VmVolumes.Kept.mono {root id : String} {vm : VmVolumes} {procs procs' : Table Virtiofsd}
    (h : vm.Kept root id procs)
    (hjobs : ∀ pid job, procs.jobOf pid = some job → procs'.jobOf pid = some job) :
    vm.Kept root id procs' := by
  intro idx m hm
  obtain ⟨hsocket, hostPath, hvolume, hprocess⟩ := h idx m hm
  exact ⟨hsocket, hostPath, hvolume, fun pid hpid => hjobs pid _ (hprocess pid hpid)⟩

/-- A step of one VM keeps the node sound if it keeps the jobs of the processes and those that
run are processes of others, or of the VM as it is then. -/
theorem Node.Sound.put {root : String} {s : Node} (h : s.Sound root) {id : String}
    {vm : Option VmVolumes} {procs : Table Virtiofsd}
    (hjobs : ∀ pid job, s.procs.jobOf pid = some job → procs.jobOf pid = some job)
    (hkept : ∀ v ∈ vm, v.Kept root id procs)
    (howned : ∀ pid, procs.isAlive pid = true →
      (s.procs.isAlive pid = true ∧
        ∀ v ∈ s.vms id, ∀ m ∈ v.managers, m.process ≠ some pid) ∨
      ∃ v ∈ vm, ∃ m ∈ v.managers, m.process = some pid) :
    (s.put id vm procs).Sound root where
  kept id' v hv := by
    by_cases hid : id' = id
    · subst hid
      exact hkept v (s.vms_put_self id' vm procs ▸ hv)
    · exact (h.kept id' v (s.vms_put_of_ne hid vm procs ▸ hv)).mono hjobs
  owned pid hpid := by
    obtain ⟨halive, hothers⟩ | ⟨v, hv, hm⟩ := howned pid hpid
    · obtain ⟨id', v, hv, m, hm, hprocess⟩ := h.owned pid halive
      have hid : id' ≠ id := by
        rintro rfl
        exact hothers v hv m hm hprocess
      exact ⟨id', v, (s.vms_put_of_ne hid vm procs).trans hv, m, hm, hprocess⟩
    · exact ⟨id, v, (s.vms_put_self id vm procs).trans hv, hm⟩

/-- The processes of the step that are killed are ended. -/
def NodeAction.KillsDone : NodeAction → Prop
  | .startVolume _ _ _ kills | .finish _ _ kills | .cleanup _ kills | .remove _ kills =>
    ∀ pid, (kills pid).killed = .ok ()
  | .begin .. | .recover .. | .exit _ | .check .. => True

theorem Node.Sound.add {root : String} {s : Node} (h : s.Sound root) {id : String}
    (hnone : s.vms id = none) (registered : Bool) (volumes : List String) :
    (s.put id (some ⟨registered, volumes, []⟩) s.procs).Sound root := by
  refine h.put (fun _ _ hjob => hjob) (fun v hv => ?_) fun pid hpid => .inl ⟨hpid, ?_⟩
  · cases hv
    intro idx m hm
    cases hm
  · rw [hnone]
    exact fun v hv => nomatch hv

/-- Managers that are dropped take their processes with them. -/
theorem Node.Sound.drop {root : String} {s : Node} (h : s.Sound root) {id : String}
    {vm : VmVolumes} (hvm : s.vms id = some vm) {managers : List VirtioFsManager}
    {procs : Table Virtiofsd} (hmanagers : ∀ m ∈ vm.managers, m ∈ managers)
    (hjobs : ∀ pid job, s.procs.jobOf pid = some job → procs.jobOf pid = some job)
    (halive : ∀ pid, procs.isAlive pid = true →
      s.procs.isAlive pid = true ∨ ∃ m ∈ managers, m.process = some pid)
    {kills : ℕ → KillOutcome} (hkills : ∀ pid, (kills pid).killed = .ok ()) :
    (s.put id none (killAll kills managers procs)).Sound root := by
  refine h.put (fun pid job hjob => ?_) (fun v hv => nomatch hv) fun pid hpid => .inl ?_
  · rw [jobOf_killAll]
    exact hjobs pid job hjob
  · obtain ⟨hpid, hne⟩ := (isAlive_killAll hkills).mp hpid
    obtain hbefore | ⟨m, hm, hprocess⟩ := halive pid hpid
    · refine ⟨hbefore, fun v hv m hm => hne m (hmanagers m ?_)⟩
      cases hvm.symm.trans hv
      exact hm
    · exact absurd hprocess (hne m hm)

/-- The VM goes on with other managers, and those that are gone had no process that runs. -/
theorem Node.Sound.replace {root : String} {s : Node} (h : s.Sound root) {id : String}
    {vm vm' : VmVolumes} (hvm : s.vms id = some vm) {procs : Table Virtiofsd}
    (hjobs : ∀ pid job, s.procs.jobOf pid = some job → procs.jobOf pid = some job)
    (hkept : vm'.Kept root id procs)
    (halive : ∀ pid, procs.isAlive pid = true →
      s.procs.isAlive pid = true ∨ ∃ m ∈ vm'.managers, m.process = some pid)
    (hmanagers : ∀ m ∈ vm.managers, ∀ pid, m.process = some pid → procs.isAlive pid = true →
      ∃ m' ∈ vm'.managers, m'.process = some pid) :
    (s.put id (some vm') procs).Sound root := by
  refine h.put hjobs (fun v hv => ?_) fun pid hpid => ?_
  · cases hv
    exact hkept
  · by_cases hmine : ∃ m ∈ vm.managers, m.process = some pid
    · obtain ⟨m, hm, hprocess⟩ := hmine
      exact .inr ⟨vm', rfl, hmanagers m hm pid hprocess hpid⟩
    · obtain hbefore | hnew := halive pid hpid
      · refine .inl ⟨hbefore, fun v hv m hm hprocess => hmine ⟨m, ?_, hprocess⟩⟩
        cases hvm.symm.trans hv
        exact hm
      · exact .inr ⟨vm', rfl, hnew⟩

/-- A process that runs after a start ran before, or is that of the manager. -/
theorem isAlive_spawn_manager {procs : Table Virtiofsd} {job : Virtiofsd} {m : VirtioFsManager}
    {managers : List VirtioFsManager} (hm : m ∈ managers) (hprocess : m.process = procs.length)
    (pid : ℕ) (hpid : (procs.spawn job).isAlive pid = true) :
    procs.isAlive pid = true ∨ ∃ m ∈ managers, m.process = some pid := by
  obtain hbefore | rfl := Table.isAlive_spawn.mp hpid
  · exact .inl hbefore
  · exact .inr ⟨m, hm, hprocess⟩

/-- A manager comes after those of the volumes before it. -/
theorem VmVolumes.Kept.concat {root id : String} {vm : VmVolumes} {procs procs' : Table Virtiofsd}
    (h : vm.Kept root id procs)
    (hjobs : ∀ pid job, procs.jobOf pid = some job → procs'.jobOf pid = some job)
    {m : VirtioFsManager} (hsocket : m.socketPath = socketPath root id vm.managers.length)
    {hostPath : String} (hvolume : vm.volumes[vm.managers.length]? = some hostPath)
    (hprocess : ∀ pid, m.process = some pid →
      procs'.jobOf pid = some ⟨socketPath root id vm.managers.length, hostPath⟩) :
    VmVolumes.Kept root id { vm with managers := vm.managers ++ [m] } procs' := by
  intro idx m' hm'
  have hidx : idx < vm.managers.length + 1 := by
    simpa using (List.getElem?_eq_some_iff.mp hm').1
  obtain hlt | heq := Nat.lt_or_eq_of_le (Nat.le_of_lt_succ hidx)
  · exact h.mono hjobs idx m' (by rwa [List.getElem?_append_left hlt] at hm')
  · subst heq
    rw [List.getElem?_concat_length] at hm'
    cases hm'
    exact ⟨hsocket, hostPath, hvolume, hprocess⟩

/-- A manager is replaced by one for the same volume. -/
theorem VmVolumes.Kept.set {root id : String} {vm : VmVolumes} {procs procs' : Table Virtiofsd}
    (h : vm.Kept root id procs)
    (hjobs : ∀ pid job, procs.jobOf pid = some job → procs'.jobOf pid = some job) {idx : ℕ}
    {m : VirtioFsManager} (hsocket : m.socketPath = socketPath root id idx) {hostPath : String}
    (hvolume : vm.volumes[idx]? = some hostPath)
    (hprocess : ∀ pid, m.process = some pid →
      procs'.jobOf pid = some ⟨socketPath root id idx, hostPath⟩) :
    VmVolumes.Kept root id { vm with managers := vm.managers.set idx m } procs' := by
  intro idx' m' hm'
  by_cases hidx : idx = idx'
  · subst hidx
    have hlt : idx < vm.managers.length := by
      rw [← List.length_set]
      exact (List.getElem?_eq_some_iff.mp hm').1
    rw [List.getElem?_set_self hlt] at hm'
    cases hm'
    exact ⟨hsocket, hostPath, hvolume, hprocess⟩
  · rw [List.getElem?_set_ne hidx] at hm'
    exact h.mono hjobs idx' m' hm'

theorem Node.Sound.startVolume {root : String} {s : Node} (h : s.Sound root) {id : String}
    {vm : VmVolumes} (hvm : s.vms id = some vm) (o : StartOutcome) (added : Except String Unit)
    {kills : ℕ → KillOutcome} (hkills : ∀ pid, (kills pid).killed = .ok ()) :
    (startVolume root id vm o added kills s).Sound root := by
  unfold SharedFolders.startVolume
  dsimp only
  cases hvolume : vm.volumes[vm.managers.length]? with
  | none => exact h
  | some hostPath =>
    dsimp only
    obtain ⟨e, hstart⟩ | ⟨r, hstart⟩ := start_cases (VirtioFsManager.new (tag vm.managers.length)
      (socketPath root id vm.managers.length)) hostPath o s.procs
    · rw [hstart]
      exact h.drop hvm (fun m hm => List.mem_append_left _ hm) (fun _ _ hjob => hjob)
        (fun _ hpid => .inl hpid) hkills
    · rw [hstart]
      have hjobs := fun pid job (hjob : s.procs.jobOf pid = some job) => Table.jobOf_spawn hjob
        ⟨socketPath root id vm.managers.length, hostPath⟩
      -- the boot ends here, with all that has been started, unless the folder is added
      have hdropped : (s.put id none (killAll kills (vm.managers ++ [⟨some s.procs.length,
          socketPath root id vm.managers.length, tag vm.managers.length⟩])
          (s.procs.spawn ⟨socketPath root id vm.managers.length, hostPath⟩))).Sound root :=
        h.drop hvm (fun m hm => List.mem_append_left _ hm) hjobs
          (isAlive_spawn_manager (List.mem_append_right _ List.mem_cons_self) rfl) hkills
      cases r with
      | error e => exact hdropped
      | ok =>
        cases added with
        | error e => exact hdropped
        | ok =>
          refine h.replace hvm hjobs ((h.kept id vm hvm).concat hjobs rfl hvolume ?_)
            (isAlive_spawn_manager (List.mem_append_right _ List.mem_cons_self) rfl) ?_
          · intro pid hpid
            cases hpid
            exact Table.jobOf_spawn_length _ _
          · intro m hm pid hprocess _
            exact ⟨m, List.mem_append_left _ hm, hprocess⟩

/-- The VM with the new process at one of its volumes. -/
def VmVolumes.restart (vm : VmVolumes) (idx : ℕ) (m : VirtioFsManager) (pid : ℕ) : VmVolumes :=
  { vm with managers := vm.managers.set idx { m with process := some pid } }

/-- The monitor changes nothing, or replaces a process that has ended. -/
theorem monitor_cases {s : Node} {id : String} {vm : VmVolumes} (hvm : s.vms id = some vm)
    (idx : ℕ) (waited : Bool) (o : StartOutcome) :
    monitor id vm idx waited o s = s ∨
    ∃ m pid hostPath, vm.managers[idx]? = some m ∧ m.process = some pid ∧
      s.procs.isAlive pid = false ∧ vm.volumes[idx]? = some hostPath ∧
      monitor id vm idx waited o s = s.put id (some (vm.restart idx m s.procs.length))
        (s.procs.spawn ⟨m.socketPath, hostPath⟩) := by
  unfold monitor
  cases hm : vm.managers[idx]? with
  | none => exact .inl rfl
  | some m =>
    dsimp only
    split_ifs with hended
    · obtain ⟨pid, hpid, hdead⟩ : ∃ pid, m.process = some pid ∧ s.procs.isAlive pid = false := by
        cases hprocess : m.process with
        | none =>
          rw [VirtioFsManager.tryWait, hprocess] at hended
          cases hended
        | some pid =>
          rw [VirtioFsManager.tryWait, hprocess] at hended
          simp only [Bool.and_eq_true, Bool.not_eq_true'] at hended
          exact ⟨pid, rfl, hended.2⟩
      cases hvolume : vm.volumes[idx]? with
      | none => exact .inl rfl
      | some hostPath =>
        dsimp only
        obtain ⟨e, hstart⟩ | ⟨r, hstart⟩ := start_cases m hostPath o s.procs
        · refine .inl ?_
          obtain ⟨_, rfl⟩ := List.getElem?_eq_some_iff.mp hm
          rw [hstart, List.set_getElem_self, Node.put, ← hvm, Function.update_eq_self]
        · refine .inr ⟨m, pid, hostPath, rfl, hpid, hdead, rfl, ?_⟩
          rw [hstart]
          rfl
    · exact .inl rfl

theorem monitor_of_ended {s : Node} {vm : VmVolumes} {idx : ℕ} {m : VirtioFsManager}
    (hm : vm.managers[idx]? = some m) {pid : ℕ} (hpid : m.process = some pid)
    (hdead : s.procs.isAlive pid = false) {hostPath : String}
    (hvolume : vm.volumes[idx]? = some hostPath) {o : StartOutcome} (ho : o.Starts) (id : String) :
    monitor id vm idx true o s = s.put id (some (vm.restart idx m s.procs.length))
      (s.procs.spawn ⟨m.socketPath, hostPath⟩) := by
  have hended : m.tryWait true s.procs = true := by
    rw [VirtioFsManager.tryWait, hpid]
    dsimp only
    rw [hdead]
    rfl
  obtain ⟨r, hstart⟩ := start_of_starts m hostPath ho s.procs
  unfold monitor
  rw [hm]
  dsimp only
  rw [if_pos hended, hvolume]
  dsimp only
  rw [hstart]
  rfl

theorem Node.Sound.monitor {root : String} {s : Node} (h : s.Sound root) {id : String}
    {vm : VmVolumes} (hvm : s.vms id = some vm) (idx : ℕ) (waited : Bool) (o : StartOutcome) :
    (monitor id vm idx waited o s).Sound root := by
  obtain hsame | ⟨m, pid, hostPath, hm, hpid, hdead, hvolume, hmonitor⟩ :=
    monitor_cases hvm idx waited o
  · rw [hsame]
    exact h
  · obtain ⟨hsocket, -⟩ := h.kept id vm hvm idx m hm
    obtain ⟨hidx, rfl⟩ := List.getElem?_eq_some_iff.mp hm
    rw [hmonitor, hsocket]
    have hjobs := fun pid job (hjob : s.procs.jobOf pid = some job) =>
      Table.jobOf_spawn hjob ⟨socketPath root id idx, hostPath⟩
    refine h.replace hvm hjobs ((h.kept id vm hvm).set hjobs hsocket hvolume ?_)
      (isAlive_spawn_manager (List.mem_set hidx _) rfl) ?_
    · intro pid' hpid'
      cases hpid'
      exact Table.jobOf_spawn_length _ _
    · intro m' hmem pid' hpid' halive
      obtain ⟨j, hj, rfl⟩ := List.getElem_of_mem hmem
      obtain rfl | hne := eq_or_ne idx j
      · -- the process that has ended is not the new one
        cases hpid.symm.trans hpid'
        obtain hbefore | hnew := Table.isAlive_spawn.mp halive
        · rw [hdead] at hbefore
          cases hbefore
        · exact ⟨_, List.mem_set hidx _, congrArg some hnew.symm⟩
      · exact ⟨vm.managers[j], List.mem_iff_getElem?.mpr ⟨j, (List.getElem?_set_ne hne).trans
          (List.getElem?_eq_getElem hj)⟩, hpid'⟩

theorem Node.Sound.step {root : String} {s : Node} (h : s.Sound root) {a : NodeAction}
    (ha : a.KillsDone) : (nodeStep root s a).Sound root := by
  cases a with
  | begin id volumes =>
    unfold nodeStep
    dsimp only
    split_ifs with hsome
    · exact h
    · exact h.add (Option.not_isSome_iff_eq_none.mp hsome) false volumes
  | startVolume id o added kills =>
    unfold nodeStep
    dsimp only
    split
    · exact h
    · rename_i vm hvm
      split_ifs
      · exact h
      · exact h.startVolume hvm o added ha
  | finish id rest kills =>
    unfold nodeStep
    dsimp only
    split
    · exact h
    · rename_i vm hvm
      split_ifs
      · exact h
      · split
        · exact h.replace hvm (fun _ _ hjob => hjob) (h.kept id vm hvm) (fun _ hpid => .inl hpid)
            fun m hm pid hprocess _ => ⟨m, hm, hprocess⟩
        · exact h.drop hvm (fun _ hm => hm) (fun _ _ hjob => hjob) (fun _ hpid => .inl hpid) ha
  | recover id volumes =>
    unfold nodeStep
    dsimp only
    split_ifs with hsome
    · exact h
    · exact h.add (Option.not_isSome_iff_eq_none.mp hsome) true volumes
  | exit pid =>
    refine ⟨fun id vm hvm => (h.kept id vm hvm).mono fun pid' job hjob => ?_, fun pid' hpid => ?_⟩
    · exact (Table.jobOf_exit _ _ _).trans hjob
    · exact h.owned pid' (Table.isAlive_exit.mp hpid).1
  | check id idx waited o =>
    unfold nodeStep
    dsimp only
    split
    · exact h
    · rename_i vm hvm
      split_ifs
      · exact h.monitor hvm idx waited o
      · exact h
  | cleanup id kills =>
    unfold nodeStep
    dsimp only
    split
    · exact h
    · rename_i vm hvm
      split_ifs
      · refine h.replace hvm (fun pid job hjob => ?_) ?_ (fun pid hpid => .inl ?_) ?_
        · rw [jobOf_killAll, hjob]
        · intro idx m hm
          rw [List.getElem?_map] at hm
          obtain ⟨m', hm', rfl⟩ := Option.map_eq_some_iff.mp hm
          obtain ⟨hsocket, hostPath, hvolume, -⟩ := h.kept id vm hvm idx m' hm'
          exact ⟨hsocket, hostPath, hvolume, fun pid hpid => nomatch hpid⟩
        · exact ((isAlive_killAll ha).mp hpid).1
        · intro m hm pid hprocess hpid
          exact absurd hprocess (((isAlive_killAll ha).mp hpid).2 m hm)
      · exact h
  | remove id kills =>
    unfold nodeStep
    dsimp only
    split
    · exact h
    · exact h.drop ‹_› (fun _ hm => hm) (fun _ _ hjob => hjob) (fun _ hpid => .inl hpid) ha

/-- Sockets are shared neither by the volumes of a VM nor by VMs. -/
theorem socketPath_injective {root id id' : String} {idx idx' : ℕ}
    (h : socketPath root id idx = socketPath root id' idx') : id = id' ∧ idx = idx' := by
  have hname : ∀ i : ℕ, '/' ∉ ("fs_" ++ toString i ++ ".sock").toList := by
    intro i hmem
    rw [String.toList_append, String.toList_append, List.mem_append, List.mem_append] at hmem
    obtain (hmem | hmem) | hmem := hmem
    · revert hmem
      decide
    · exact absurd (isDigit_of_mem_toString hmem) (by decide)
    · revert hmem
      decide
  have hslash : "/" = String.singleton '/' := rfl
  unfold socketPath at h
  rw [hslash] at h
  have hcut := (rsplitOnce_of_notMem (hname idx) _).symm.trans
    ((congrArg (rsplitOnce '/') h).trans (rsplitOnce_of_notMem (hname idx') _))
  obtain ⟨hdir, hfile⟩ := Prod.mk.inj (Option.some.inj hcut)
  refine ⟨(String.append_right_inj _).mp hdir, natRepr_injective ?_⟩
  exact (String.append_right_inj "fs_").mp ((String.append_left_inj ".sock").mp hfile)

theorem Node.Sound.exec {root : String} {s : Node} (h : s.Sound root) {run : List NodeAction}
    (hrun : ∀ a ∈ run, a.KillsDone) : (Runs.exec (nodeStep root) s run).Sound root := by
  induction run generalizing s with
  | nil => exact h
  | cons a run ih =>
    obtain ⟨ha, hrest⟩ := List.forall_mem_cons.mp hrun
    exact ih (h.step ha) hrest

/-- However boots, checks, cleanups and the ends of processes interleave, every process that
runs serves a volume of a VM that is there, at the socket and from the folder of that volume, and
no other process runs at that socket. -/
theorem folders_served (root : String) {run : List NodeAction} (hrun : ∀ a ∈ run, a.KillsDone)
    {pid : ℕ} (hpid : (Runs.exec (nodeStep root) Node.empty run).procs.isAlive pid = true) :
    ∃ id vm idx hostPath, (Runs.exec (nodeStep root) Node.empty run).vms id = some vm ∧
      vm.volumes[idx]? = some hostPath ∧
      (Runs.exec (nodeStep root) Node.empty run).procs.jobOf pid =
        some ⟨socketPath root id idx, hostPath⟩ ∧
      ∀ pid' dir, (Runs.exec (nodeStep root) Node.empty run).procs.isAlive pid' = true →
        (Runs.exec (nodeStep root) Node.empty run).procs.jobOf pid' =
          some ⟨socketPath root id idx, dir⟩ → pid' = pid := by
  have hsound := (Node.sound_empty root).exec hrun
  generalize Runs.exec (nodeStep root) Node.empty run = s at hsound hpid ⊢
  -- the manager of a process is at the place of the socket of the process
  have hplace : ∀ pid, s.procs.isAlive pid = true → ∃ id vm idx m hostPath, s.vms id = some vm ∧
      vm.managers[idx]? = some m ∧ m.process = some pid ∧ vm.volumes[idx]? = some hostPath ∧
      s.procs.jobOf pid = some ⟨socketPath root id idx, hostPath⟩ := by
    intro pid hpid
    obtain ⟨id, vm, hvm, m, hm, hprocess⟩ := hsound.owned pid hpid
    obtain ⟨idx, hidx⟩ := List.mem_iff_getElem?.mp hm
    obtain ⟨-, hostPath, hvolume, hjob⟩ := hsound.kept id vm hvm idx m hidx
    exact ⟨id, vm, idx, m, hostPath, hvm, hidx, hprocess, hvolume, hjob pid hprocess⟩
  obtain ⟨id, vm, idx, m, hostPath, hvm, hm, hprocess, hvolume, hjob⟩ := hplace pid hpid
  refine ⟨id, vm, idx, hostPath, hvm, hvolume, hjob, fun pid' dir hpid' hjob' => ?_⟩
  obtain ⟨id', vm', idx', m', hostPath', hvm', hm', hprocess', -, hother⟩ := hplace pid' hpid'
  have hsocket := congrArg Virtiofsd.socketPath (Option.some.inj (hother.symm.trans hjob'))
  obtain ⟨rfl, rfl⟩ := socketPath_injective hsocket
  cases hvm.symm.trans hvm'
  cases hm.symm.trans hm'
  exact Option.some.inj (hprocess'.symm.trans hprocess)

def goodStart : StartOutcome := ⟨false, .ok (), .ok (), true⟩

/-- A VM with one volume. -/
def oneVolume : List NodeAction :=
  [.begin "vm1" ["/srv/data"], .startVolume "vm1" goodStart (.ok ()) fun _ => .done,
    .finish "vm1" (.ok ()) fun _ => .done]

/-- A socket of a second VM does not appear, so its boot fails. The process of the first VM ends
and is started anew, and a third VM is booted, cleaned up and dropped. -/
def failedBootAndCleanup : List NodeAction :=
  oneVolume ++
    [.begin "vm2" ["/srv/logs", "/srv/home"],
      .startVolume "vm2" goodStart (.ok ()) fun _ => .done,
      .startVolume "vm2" ⟨false, .ok (), .ok (), false⟩ (.ok ()) fun _ => .done,
      .exit 0, .check "vm1" 0 true goodStart,
      .begin "vm3" ["/srv/data"], .startVolume "vm3" goodStart (.ok ()) fun _ => .done,
      .finish "vm3" (.ok ()) fun _ => .done, .cleanup "vm3" fun _ => .done,
      .remove "vm3" fun _ => .done]

theorem failedBootAndCleanup_killsDone : ∀ a ∈ failedBootAndCleanup, a.KillsDone := by
  simp [failedBootAndCleanup, oneVolume, NodeAction.KillsDone, KillOutcome.done]

/-- Of the five processes that were started, the restarted one runs. -/
theorem restarted_process_serves :
    (∀ pid < 5, (Runs.exec (nodeStep "/vms") Node.empty failedBootAndCleanup).procs.isAlive pid =
      decide (pid = 3)) ∧
    ∃ id vm idx hostPath,
      (Runs.exec (nodeStep "/vms") Node.empty failedBootAndCleanup).vms id = some vm ∧
      vm.volumes[idx]? = some hostPath ∧
      (Runs.exec (nodeStep "/vms") Node.empty failedBootAndCleanup).procs.jobOf 3 =
        some ⟨socketPath "/vms" id idx, hostPath⟩ ∧
      ∀ pid' dir,
        (Runs.exec (nodeStep "/vms") Node.empty failedBootAndCleanup).procs.isAlive pid' = true →
        (Runs.exec (nodeStep "/vms") Node.empty failedBootAndCleanup).procs.jobOf pid' =
          some ⟨socketPath "/vms" id idx, dir⟩ → pid' = 3 :=
  ⟨by decide, folders_served "/vms" failedBootAndCleanup_killsDone (by decide)⟩

end Vyoma.SharedFolders
