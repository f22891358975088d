import Vyoma.SnapshotChain
import Vyoma.VmDisks

/-!
# Going back to a snapshot

Taking a snapshot of a VM writes no file, so over a whole run no snapshot has a file. A
restoration therefore finds nothing to load, and a branch is made over the disk that its source
goes on writing to. When the source is stopped its disk is removed, whatever is over it.
-/
namespace Vyoma.VmService
open FileTrees Overlays PointerChains Runs Storage TimeMachine

/-! ## Places -/

/-- A text that names an entry of a directory, as every UUID does. -/
def Name (c : String) : Prop := Plain c ∧ '/' ∉ c.toList

instance (c : String) : Decidable (Name c) := inferInstanceAs (Decidable (_ ∧ _))

theorem components_append_slash (path s : String) :
    components (path ++ "/" ++ s) = components path ++ components s := by
  have hlist : (path ++ "/" ++ s).toList = path.toList ++ '/' :: s.toList := by
    rw [String.toList_append, String.toList_append, List.append_assoc]
    rfl
  rw [components, hlist, List.splitOn_append_cons_self, List.map_append, components, components]

theorem place_append {c : String} (h : Name c) (path : String) :
    place (path ++ "/" ++ c) = place path ++ [c] := by
  rw [place, components_append_slash, components_of_notMem h.2, resolve_append, List.foldl_cons,
    List.foldl_nil, enter_plain h.1, place]

theorem place_joinPath {c : String} (h : Name c) (path : String) :
    place (joinPath path c) = place path ++ [c] := by
  have hrelative : c.toList.head? ≠ some '/' := fun hhead => h.2 (List.mem_of_mem_head? hhead)
  unfold joinPath
  rw [if_neg hrelative]
  by_cases hempty : path = ""
  · rw [if_pos (.inl hempty), hempty, String.empty_append, place, components_of_notMem h.2]
    exact enter_plain h.1 []
  · by_cases hslash : path.toList.getLast? = some '/'
    · rw [if_pos (.inr hslash)]
      obtain ⟨start, hstart⟩ := List.getLast?_eq_some_iff.mp hslash
      obtain rfl : path = String.ofList start ++ "/" := by
        rw [← String.toList_inj, hstart, String.toList_append, String.toList_ofList]
        rfl
      have hplace : place (String.ofList start ++ "/") = place (String.ofList start) := by
        have hcomponents := components_append_slash (String.ofList start) ""
        rw [String.append_empty] at hcomponents
        rw [place, hcomponents, resolve_append, place]
        rfl
      rw [hplace, place_append h]
    · rw [if_neg (not_or.mpr ⟨hempty, hslash⟩), place_append h]

theorem place_vmDir {id : String} (h : Name id) (root : String) :
    place (vmDir root id) = place root ++ [".vyoma", "vms", id] := by
  unfold vmDir
  rw [place_joinPath h, place_joinPath (by decide), place_joinPath (by decide), List.append_assoc,
    List.append_assoc]
  rfl

theorem place_vmDirPath {id file slashed : String} (h : Name id) (hfile : Name file)
    (hslashed : slashed = "/" ++ file) (root : String) :
    place (vmDirPath root id ++ slashed) = place root ++ [".vyoma", "vms", id, file] := by
  have hparts : vmDirPath root id ++ slashed =
      root ++ "/" ++ ".vyoma" ++ "/" ++ "vms" ++ "/" ++ id ++ "/" ++ file := by
    rw [vmDirPath, hslashed, ← String.toList_inj]
    simp [String.toList_append]
  rw [hparts, place_append hfile, place_append h, place_append (by decide),
    place_append (by decide)]
  simp

/-- The file that a new VM has for a disk, in the one root or the other. -/
theorem place_vmFile {id file : String} (h : Name id) (hfile : Name file) (root : String) :
    place (joinPath (vmDir root id) file) = place root ++ [".vyoma", "vms", id, file] := by
  rw [place_joinPath hfile, place_vmDir h, List.append_assoc]
  rfl

/-- The files that a snapshot could be restored from. -/
def snapshotNames : List String := ["root.qcow2", "snapshot.snap", "snapshot.bin", "diff.cow"]

/-- A file of that name in a directory of a snapshot, whatever VM it is of. -/
def SnapshotPlace (q : List String) : Prop :=
  ∃ dir id file, file ∈ snapshotNames ∧ q = dir ++ ["snapshots", id, file]

theorem name_of_mem_snapshotNames {file : String} (h : file ∈ snapshotNames) : Name file := by
  revert file
  decide

theorem snapshotPlace_file {id file : String} (h : Name id) (hfile : file ∈ snapshotNames)
    (root vmId : String) : SnapshotPlace (place (joinPath (snapshotDir root vmId id) file)) := by
  refine ⟨place (vmDir root vmId), id, file, hfile, ?_⟩
  rw [place_joinPath (name_of_mem_snapshotNames hfile), snapshotDir, place_joinPath h,
    place_joinPath (by decide), List.append_assoc, List.append_assoc]
  rfl

theorem not_snapshotPlace_vmFile (root : List String) (id file : String) :
    ¬SnapshotPlace (root ++ [".vyoma", "vms", id, file]) := by
  rintro ⟨dir, id', file', -, heq⟩
  have hparts : root ++ [".vyoma"] ++ ["vms", id, file] = dir ++ ["snapshots", id', file'] := by
    rw [← heq, List.append_assoc]
    rfl
  obtain ⟨-, hlast⟩ := List.append_inj' hparts rfl
  exact absurd (List.cons.inj hlast).1 (by decide)

theorem not_snapshotPlace_hibernated {dirs : Directories} {vmId file : String} (hfile : Name file)
    (hother : file ∉ snapshotNames) :
    ¬SnapshotPlace (place (Site.hibernatedFile dirs vmId file)) := by
  rintro ⟨dir, id, file', hfile', heq⟩
  unfold Site.hibernatedFile at heq
  have hsplit : dir ++ ["snapshots", id, file'] = dir ++ ["snapshots", id] ++ [file'] := by
    rw [List.append_assoc]
    rfl
  rw [place_joinPath hfile, hsplit] at heq
  obtain ⟨-, hlast⟩ := List.append_inj' heq rfl
  cases hlast
  exact hother hfile'

/-! ## Histories -/

/-- The ids of all snapshots name entries of a directory. -/
def AllNamed (tm : Store) : Prop := ∀ vmId, ∀ entry ∈ history tm vmId, Name entry.id

theorem mem_history_of_getSnapshot {tm : Store} {readOk : Bool} {vmId snapRef : String}
    {entry : SnapshotEntry} (h : getSnapshot tm readOk vmId snapRef = some entry) :
    entry ∈ history tm vmId := by
  cases readOk with
  | true => exact resolve_mem h
  | false =>
    rw [getSnapshot_failed] at h
    cases h

theorem AllNamed.createSnapshot {tm : Store} (h : AllNamed tm) {uuid : String} (hid : Name uuid)
    (io : TimeMachine.SledOutcomes) (now : ℤ) (vmId : String) (label : Option String) :
    AllNamed (TimeMachine.createSnapshot tm io uuid now vmId label).1 := by
  intro other entry hentry
  rw [TimeMachine.createSnapshot, history_saveSnapshots] at hentry
  split_ifs at hentry
  · obtain hold | hnew := List.mem_append.mp hentry
    · cases hget : io.get with
      | true =>
        rw [hget] at hold
        exact h vmId entry hold
      | false =>
        rw [hget] at hold
        cases hold
    · rw [List.mem_singleton.mp hnew]
      exact hid
  · exact h other entry hentry

/-- The ids that are drawn for the step. -/
def SiteAction.drawn : SiteAction → List String
  | .boots _ o => [o.vmId]
  | .branches _ _ _ _ newVmId _ _ uuid _ _ => [newVmId, uuid]
  | .restores _ _ newVmId _ _ _ _ => [newVmId]
  | .acts (.snapshot _ uuid _ _ _ _) => [uuid]
  | _ => []

/-- The step draws names, as drawing UUIDs does. -/
def DrawsNames (_ : Site) (a : SiteAction) : Prop := ∀ id ∈ a.drawn, Name id

instance (s : Site) (a : SiteAction) : Decidable (DrawsNames s a) :=
  inferInstanceAs (Decidable (∀ _ ∈ _, _))

section Histories

variable {d : Daemon}

theorem timemachine_runVmRegister (vmId : String) (vm : VmInstance) (save : Except String Unit) :
    (d.runVmRegister vmId vm save).1.timemachine = d.timemachine := by
  cases save <;> rfl

theorem timemachine_completeRun (vmId : String) (save : Except String Unit) :
    (completeRun d vmId save).timemachine = d.timemachine := by
  unfold completeRun
  split
  · rfl
  · exact timemachine_runVmRegister _ _ _

theorem timemachine_completeAttestation (vmId : String) (save : Except String Unit)
    (verification : Verification) :
    (completeAttestation d vmId save verification).timemachine = d.timemachine := by
  unfold completeAttestation
  split
  · rfl
  · next task _ =>
    exact (onlyVms_checkPolicyAndPerformAttestation _ save vmId task.tpmSocketPath
      verification).timemachine

theorem timemachine_pauseVm (answer : Except String Unit) (vmId : String) :
    (d.pauseVm answer vmId).1.timemachine = d.timemachine := by
  unfold Daemon.pauseVm
  split
  · rfl
  · cases answer <;> rfl

theorem timemachine_hibernateVm (createDir : Except String Unit) (vmId : String) :
    (d.hibernateVm createDir vmId).1.timemachine = d.timemachine := by
  unfold Daemon.hibernateVm
  split
  · rfl
  · split_ifs
    · rfl
    · cases createDir <;> rfl

theorem timemachine_resumeVm (answer : Except String Unit) (vmId : String) :
    (d.resumeVm answer vmId).1.timemachine = d.timemachine := by
  unfold Daemon.resumeVm
  split
  · rfl
  · dsimp only
    split_ifs
    · cases answer <;> rfl
    · rfl
    · rfl

theorem timemachine_stopVm (io : Daemon.Append) (timestamp : UInt64) (vmId : String) :
    (d.stopVm io timestamp vmId).1.timemachine = d.timemachine := by
  unfold Daemon.stopVm
  split <;> rfl

theorem timemachine_cloneVm (newVmId : String) (stages : Except (ℕ × String) VmInstance)
    (create start : Daemon.Append) (timestamp : UInt64) :
    (d.cloneVm newVmId stages create start timestamp).1.timemachine = d.timemachine := by
  cases stages <;> rfl

theorem allNamed_branchVm (h : AllNamed d.timemachine) {uuid : String} (hid : Name uuid)
    (iteration : List String) (id : String) (payload : Daemon.BranchRequest) (readOk : Bool)
    (newVmId : String) (disk : Except (ℕ × String) String) (io : TimeMachine.SledOutcomes) (now : ℤ)
    (ch ip : String) :
    AllNamed (d.branchVm iteration id payload readOk newVmId disk io uuid now ch
      ip).1.timemachine := by
  unfold Daemon.branchVm
  split
  · exact h
  · dsimp only
    split
    · exact h
    · cases disk with
      | error e => exact h
      | ok overlay => exact h.createSnapshot hid io now newVmId _

theorem allNamed_daemonStep (h : AllNamed d.timemachine) {a : Action} (hdisks : a.onDisks = false)
    (hid : ∀ id ∈ (SiteAction.acts a).drawn, Name id) :
    AllNamed (daemonStep d a).timemachine := by
  cases a with
  | runVmRegister vmId save => exact (timemachine_completeRun vmId save).symm ▸ h
  | attestationCompletes vmId save verification =>
    exact (timemachine_completeAttestation vmId save verification).symm ▸ h
  | pause answer vmId => exact (timemachine_pauseVm answer vmId).symm ▸ h
  | snapshot io uuid now createDir vmId label =>
    dsimp only [daemonStep]
    unfold Daemon.snapshotVm
    split
    · exact h
    · exact h.createSnapshot (hid uuid List.mem_cons_self) io now vmId _
  | adopt probe vmId ch =>
    cases probe with
    | error e => exact h
    | ok => exact h
  | requireMeasuredBoot => exact h
  | restart io => exact h
  | _ => cases hdisks

end Histories

section Sites

variable {dirs : Directories} {s : Site}

theorem daemon_copyDisk (source target : String) (o : Site.DiskCopy) :
    (s.copyDisk source target o).daemon = s.daemon := by
  unfold Site.copyDisk
  split_ifs
  · rfl
  · split <;> rfl

theorem daemon_cloneStages (newVmId : String) (paths : Site.SnapshotFiles)
    (o : Site.CloneOutcomes) : (s.cloneStages dirs newVmId paths o).1.daemon = s.daemon := by
  obtain hsame | ⟨home, loads, -, hcopied⟩ := s.cloneStages_site dirs newVmId paths o
  · rw [hsame]
  · rw [hcopied]
    exact daemon_copyDisk _ _ _

theorem timemachine_clone (newVmId : String) (paths : Site.SnapshotFiles)
    (o : Site.CloneOutcomes) (create start : Daemon.Append) (timestamp : UInt64) :
    (s.clone dirs newVmId paths o create start timestamp).1.daemon.timemachine =
      s.daemon.timemachine := by
  unfold Site.clone
  dsimp only
  rw [timemachine_cloneVm, daemon_cloneStages]

theorem timemachine_restoreVm (payload : Site.RestoreRequest) (reads : Bool × Bool)
    (newVmId : String) (o : Site.CloneOutcomes) (create start : Daemon.Append)
    (timestamp : UInt64) :
    (s.restoreVm dirs payload reads newVmId o create start timestamp).1.daemon.timemachine =
      s.daemon.timemachine := by
  unfold Site.restoreVm
  split
  · dsimp only
    split
    · rfl
    · split
      · next entry _ _ _ _ =>
        obtain ⟨loads, hloaded⟩ := s.loadInPlace_site _ (snapshotDir dirs.data _ entry.id)
        rw [hloaded]
      · split
        · rfl
        · exact timemachine_clone _ _ _ _ _ _
  · split
    · exact timemachine_clone _ _ _ _ _ _
    · rfl

theorem timemachine_boots (request : VmRunRequest) (o : RunOutcomes) :
    (s.boots dirs request o).daemon.timemachine = s.daemon.timemachine := by
  unfold Site.boots
  generalize runStages dirs.data request o = stages
  obtain ⟨prepared, ledger⟩ := stages
  dsimp only
  split_ifs <;> cases prepared <;> rfl

theorem daemon_guestWrites (vmId : String) (b : ℕ) (d : Sector) :
    (s.guestWrites vmId b d).daemon = s.daemon := by
  unfold Site.guestWrites
  split
  · rfl
  · split <;> rfl

theorem allNamed_siteStep (h : AllNamed s.daemon.timemachine) {a : SiteAction}
    (hdrawn : DrawsNames s a) : AllNamed (siteStep dirs s a).daemon.timemachine := by
  cases a with
  | boots request o => exact (timemachine_boots request o).symm ▸ h
  | branches iteration id payload readOk newVmId o io uuid now random =>
    refine allNamed_branchVm h (hdrawn uuid ?_) iteration id payload readOk newVmId _ io now _ _
    exact List.mem_cons_of_mem _ List.mem_cons_self
  | restores payload reads newVmId o create start timestamp =>
    exact (timemachine_restoreVm payload reads newVmId o create start timestamp).symm ▸ h
  | hibernates o vmId =>
    dsimp only [siteStep]
    unfold Site.hibernateVm
    dsimp only
    split
    · exact h
    · split_ifs
      · exact h
      · exact (timemachine_hibernateVm o.createDir vmId).symm ▸ h
  | resumes o vmId =>
    dsimp only [siteStep]
    unfold Site.resumeVm
    dsimp only
    split_ifs
    · exact (timemachine_resumeVm o.resume vmId).symm ▸ h
    · exact (timemachine_resumeVm o.resume vmId).symm ▸ h
  | stops o io timestamp vmId =>
    dsimp only [siteStep]
    unfold Site.stopVm
    split
    · exact h
    · exact (timemachine_stopVm io timestamp vmId).symm ▸ h
  | guestWrites vmId b d =>
    dsimp only [siteStep]
    rw [daemon_guestWrites]
    exact h
  | acts a =>
    dsimp only [siteStep]
    split_ifs with hdisks
    · exact h
    · exact allNamed_daemonStep h (Bool.eq_false_iff.mpr hdisks) hdrawn

end Sites

/-! ## No snapshot has a file -/

/-- The invariant of the runs. -/
structure Unkept (s : Site) : Prop where
  files : ∀ q, SnapshotPlace q → s.files q = none
  named : AllNamed s.daemon.timemachine

section Unkept

variable {dirs : Directories} {s : Site} {a : SiteAction}

theorem Unkept.not_leaves (h : Unkept s) (hdrawn : DrawsNames s a) {q : List String}
    {file : DiskFile} (hleaves : Leaves dirs s a q file) : ¬SnapshotPlace q := by
  cases hleaves with
  | overlay =>
    rw [place_vmDirPath (hdrawn _ List.mem_cons_self) (by decide)
      (show "/root.qcow2" = "/" ++ "root.qcow2" from rfl)]
    exact not_snapshotPlace_vmFile _ _ _
  | cowFile =>
    rw [place_vmDirPath (hdrawn _ List.mem_cons_self) (by decide)
      (show "/diff.cow" = "/" ++ "diff.cow" from rfl)]
    exact not_snapshotPlace_vmFile _ _ _
  | branchOver hbacking =>
    rw [place_vmFile (hdrawn _ List.mem_cons_self) (by decide)]
    exact not_snapshotPlace_vmFile _ _ _
  | branchBlank =>
    rw [place_vmFile (hdrawn _ List.mem_cons_self) (by decide)]
    exact not_snapshotPlace_vmFile _ _ _
  | branchBroken =>
    rw [place_vmFile (hdrawn _ List.mem_cons_self) (by decide)]
    exact not_snapshotPlace_vmFile _ _ _
  | copied hhome hsource =>
    rw [Site.clonedDisk, place_vmFile (hdrawn _ List.mem_cons_self) (by decide)]
    exact not_snapshotPlace_vmFile _ _ _
  | copyBroken hhome =>
    rw [Site.clonedDisk, place_vmFile (hdrawn _ List.mem_cons_self) (by decide)]
    exact not_snapshotPlace_vmFile _ _ _
  | hibernated hfile =>
    obtain rfl | rfl := hfile
    · exact not_snapshotPlace_hibernated (by decide) (by decide)
    · exact not_snapshotPlace_hibernated (by decide) (by decide)
  | written hq =>
    intro hplace
    rw [h.files q hplace] at hq
    cases hq

theorem Unkept.siteStep (h : Unkept s) (hdrawn : DrawsNames s a) :
    Unkept (siteStep dirs s a) where
  files q hplace := by
    obtain ⟨-, hgone⟩ | ⟨-, hsame | ⟨file, -, hleaves⟩⟩ := files_siteStep dirs s a q
    · exact hgone
    · rw [hsame]
      exact h.files q hplace
    · exact absurd hplace (h.not_leaves hdrawn hleaves)
  named := allNamed_siteStep h.named hdrawn

theorem Unkept.exec (h : Unkept s) {run : List SiteAction}
    (hdrawn : Along (VmService.siteStep dirs) DrawsNames s run) :
    Unkept (Runs.exec (VmService.siteStep dirs) s run) :=
  (throughout_of_along h (fun _ _ hs ha => hs.siteStep ha) hdrawn).exec

variable {vmId snapRef : String} {entry : SnapshotEntry} {readOk : Bool}

theorem Unkept.snapshotFile_missing (h : Unkept s) (dirs : Directories)
    (hentry : getSnapshot s.daemon.timemachine readOk vmId snapRef = some entry) (file : String)
    (hfile : file ∈ snapshotNames) :
    s.files (place (joinPath (snapshotDir dirs.data vmId entry.id) file)) = none :=
  h.files _ (snapshotPlace_file (h.named vmId entry (mem_history_of_getSnapshot hentry)) hfile _ _)

theorem fileExists_of_missing {path : String} (h : s.files (place path) = none) :
    s.fileExists path = false := by
  rw [Site.fileExists, h]
  exact Bool.and_false _

/-- There is nothing to load into an active VM. -/
theorem Unkept.loadInPlace_eq (h : Unkept s)
    (hentry : getSnapshot s.daemon.timemachine readOk vmId snapRef = some entry) :
    s.loadInPlace vmId (snapshotDir dirs.data vmId entry.id) = s := by
  have hsnap := h.snapshotFile_missing dirs hentry "snapshot.snap" (by decide)
  have hbin := h.snapshotFile_missing dirs hentry "snapshot.bin" (by decide)
  unfold Site.loadInPlace Site.snapshotFile
  rw [fileExists_of_missing hsnap]
  simp only [Bool.false_eq_true, if_false, hbin]

/-- A clone from the files of a snapshot has no disk to attach. -/
theorem Unkept.clone_fails (h : Unkept s)
    (hentry : getSnapshot s.daemon.timemachine readOk vmId snapRef = some entry)
    {newVmId : String} (hnew : ∀ home, dirs.home = some home →
      s.fileExists (Site.clonedDisk home newVmId) = false)
    (snapshotPath memPath : String) (o : Site.CloneOutcomes) (create start : Daemon.Append)
    (timestamp : UInt64) :
    ∃ e, s.clone dirs newVmId
      ⟨snapshotPath, memPath, joinPath (snapshotDir dirs.data vmId entry.id) "diff.cow"⟩ o create
      start timestamp = (s, .error e) := by
  have hcow := h.snapshotFile_missing dirs hentry "diff.cow" (by decide)
  suffices hstages : ∃ e, s.cloneStages dirs newVmId ⟨snapshotPath, memPath,
      joinPath (snapshotDir dirs.data vmId entry.id) "diff.cow"⟩ o = (s, .error e) by
    obtain ⟨e, hstages⟩ := hstages
    refine ⟨e, ?_⟩
    unfold Site.clone
    rw [hstages]
    rfl
  unfold Site.cloneStages
  cases hhome : dirs.home with
  | none => exact ⟨_, rfl⟩
  | some home =>
    cases o.createDir with
    | error e => exact ⟨_, rfl⟩
    | ok =>
      have hcopy : s.copyDisk (joinPath (snapshotDir dirs.data vmId entry.id) "diff.cow")
          (Site.clonedDisk home newVmId) o.copy = s := by
        unfold Site.copyDisk
        rw [hcow]
        exact ite_self s
      have hloop : ∃ e, s.setupLoopDevice (Site.clonedDisk home newVmId) o.cowLoop = .error e := by
        unfold Site.setupLoopDevice
        cases o.cowLoop.manager with
        | error e => exact ⟨e, rfl⟩
        | ok =>
          rw [hnew home hhome]
          exact ⟨_, rfl⟩
      obtain ⟨e, hloop⟩ := hloop
      dsimp only
      rw [hcopy, hloop]
      cases s.setupLoopDevice (Site.cloneBase home) o.baseLoop with
      | error e => exact ⟨_, rfl⟩
      | ok base => exact ⟨_, rfl⟩

end Unkept

/-- In every state of a run, a restoration to a snapshot of a VM changes nothing: neither is
anything loaded, nor does a VM come or go, nor is a disk touched. It is still answered with
success, exactly when the snapshot is found and the VM is active. -/
theorem restoration_changes_nothing {dirs : Directories} {s : Site} (hs : Unkept s)
    {run : List SiteAction} (hdrawn : Along (siteStep dirs) DrawsNames s run)
    (payload : Site.RestoreRequest) {vmId snapRef : String}
    (hvm : payload.vmId.or payload.originalVmId = some vmId)
    (href : payload.«from».or payload.snapshotId = some snapRef) (newVmId : String)
    (hnew : ∀ home, dirs.home = some home →
      (exec (siteStep dirs) s run).fileExists (Site.clonedDisk home newVmId) = false)
    (reads : Bool × Bool) (o : Site.CloneOutcomes) (create start : Daemon.Append)
    (timestamp : UInt64) :
    ((exec (siteStep dirs) s run).restoreVm dirs payload reads newVmId o create start
        timestamp).1 = exec (siteStep dirs) s run ∧
      ∀ answer, ((exec (siteStep dirs) s run).restoreVm dirs payload reads newVmId o create start
          timestamp).2 = .ok answer ↔
        ∃ vm, (exec (siteStep dirs) s run).daemon.vms[vmId]? = some vm ∧
          (getSnapshot (exec (siteStep dirs) s run).daemon.timemachine reads.1 vmId
            snapRef).isSome ∧ answer = ⟨vmId, "restored", vm.ipAddress⟩ := by
  have hunkept := hs.exec hdrawn
  generalize exec (siteStep dirs) s run = s' at hunkept hnew ⊢
  unfold Site.restoreVm
  rw [hvm, href]
  dsimp only
  cases hentry : getSnapshot s'.daemon.timemachine reads.1 vmId snapRef with
  | none => exact ⟨rfl, by simp⟩
  | some entry =>
    cases hlookup : s'.daemon.vms[vmId]? with
    | some vm =>
      refine ⟨hunkept.loadInPlace_eq hentry, fun answer => ?_⟩
      dsimp only
      rw [Except.ok.injEq]
      constructor
      · rintro rfl
        exact ⟨vm, rfl, rfl, rfl⟩
      · rintro ⟨vm', hvm', -, rfl⟩
        cases hvm'
        rfl
    | none =>
      cases hagain : getSnapshot s'.daemon.timemachine reads.2 vmId snapRef with
      | none => exact ⟨rfl, by simp⟩
      | some entry' =>
        obtain ⟨e, hclone⟩ := hunkept.clone_fails hagain hnew _ _ o create start timestamp
        dsimp only
        rw [hclone]
        exact ⟨rfl, by simp⟩

/-- Where the data directory is not in the home directory. -/
def oneHost : Directories := ⟨"/data", some "/root"⟩

def alpineBase : String := "/data/images/alpine_latest/base.ext4"

/-- A new daemon on a host that has pulled one image. -/
def imagePulled : Site where
  daemon := fresh
  files q := if q = place alpineBase then some (.raw 1 fun _ => []) else none
  loads := []

theorem unkept_imagePulled : Unkept imagePulled where
  files q hplace := by
    refine if_neg ?_
    rintro rfl
    obtain ⟨dir, id, file, -, heq⟩ := hplace
    have hplace : place alpineBase = ["data"] ++ ["images", "alpine_latest", "base.ext4"] := by
      decide
    rw [hplace] at heq
    obtain ⟨-, hlast⟩ := List.append_inj' heq rfl
    exact absurd (List.cons.inj hlast).1 (by decide)
  named vmId entry hentry := by cases hentry

/-- The image is there, and the VM starts. -/
def alpineStarts (vmId : String) : RunOutcomes :=
  { imageNotFound with image := .ok ⟨alpineBase, none⟩, vmId }

/-- A VM is created, and a snapshot is taken of it. -/
def snapshotOfFirst : List SiteAction :=
  [.boots runAlpine (alpineStarts "first"), .acts (.runVmRegister "first" (.ok ())),
    .acts (.snapshot {} "5a1f" 0 (.ok ()) "first" (some "base"))]

def loopAttached : Site.LoopOutcomes := ⟨.ok (), fun _ => .attached "/dev/loop2"⟩

def cloneStarts : Site.CloneOutcomes :=
  ⟨.ok (), .done, loopAttached, loopAttached, .ok (), .ok (), .ok (), 7, .ok (), .ok (), .ok (),
    .ok (), .ok (), none⟩

/-- The VM is answered to have been restored. -/
theorem restoration_of_first_changes_nothing :
    ((exec (siteStep oneHost) imagePulled snapshotOfFirst).restoreVm oneHost
      { vmId := some "first", «from» := some "base" } (true, true) "second" cloneStarts
      ⟨true, true, 0⟩ ⟨true, true, 0⟩ 0).1 = exec (siteStep oneHost) imagePulled snapshotOfFirst ∧
    ((exec (siteStep oneHost) imagePulled snapshotOfFirst).restoreVm oneHost
      { vmId := some "first", «from» := some "base" } (true, true) "second" cloneStarts
      ⟨true, true, 0⟩ ⟨true, true, 0⟩ 0).2.isOk := by
  have hdrawn : Along (siteStep oneHost) DrawsNames imagePulled snapshotOfFirst := by decide
  have h := restoration_changes_nothing unkept_imagePulled hdrawn
    { vmId := some "first", «from» := some "base" } rfl rfl "second"
    (fun home hhome => by cases hhome; decide) (true, true) cloneStarts ⟨true, true, 0⟩
    ⟨true, true, 0⟩ 0
  refine ⟨h.1, ?_⟩
  rw [(h.2 _).mpr ⟨_, rfl, by decide, rfl⟩]
  rfl

/-! ## Branches -/

section Branches

variable {dirs : Directories} {s : Site} {a : SiteAction}

/-- Nothing is kept with the snapshot, so the disk that the source has is taken. -/
theorem Unkept.backingDisk_eq (h : Unkept s) (dirs : Directories) {readOk : Bool}
    {vmId snapRef : String} {entry : SnapshotEntry}
    (hentry : getSnapshot s.daemon.timemachine readOk vmId snapRef = some entry)
    {sourceDisk : String} (hdisk : s.fileExists sourceDisk = true) :
    s.backingDisk dirs vmId sourceDisk entry.id = sourceDisk := by
  have hkept := h.snapshotFile_missing dirs hentry "root.qcow2" (by decide)
  unfold Site.backingDisk
  dsimp only
  rw [fileExists_of_missing hkept, hdisk]
  rfl

theorem files_createOverlay (s : Site) (path backing : String) (o : Site.BranchOutcomes)
    (h : (s.createOverlay path backing o).2 = .ok ()) :
    (s.createOverlay path backing o).1.files (place path) =
      some (.qcow2 ⟨some (place backing), fun _ => none⟩) := by
  unfold Site.createOverlay at h ⊢
  cases hbacking : s.files (place backing) with
  | none =>
    rw [hbacking] at h
    cases h
  | some file =>
    rw [hbacking] at h
    cases hparent : o.createParent with
    | error e =>
      rw [hparent] at h
      cases h
    | ok =>
      rw [hparent] at h
      dsimp only at h ⊢
      cases hrun : Site.runOver file o.qemuImg with
      | done => exact Function.update_self _ _ _
      | notRun e =>
        rw [hrun] at h
        cases h
      | refused stderr =>
        rw [hrun] at h
        cases h
      | broken stderr =>
        rw [hrun] at h
        cases h

theorem files_branchDisk {sourceVmId sourceDisk snapshotId : String}
    (hdisk : s.fileExists sourceDisk = true)
    (hbacking : s.backingDisk dirs sourceVmId sourceDisk snapshotId = sourceDisk)
    (newVmId : String) (o : Site.BranchOutcomes) (overlay : String)
    (h : (s.branchDisk dirs newVmId sourceVmId sourceDisk snapshotId o).2 = .ok overlay) :
    overlay = joinPath (vmDir dirs.data newVmId) "root.qcow2" ∧
      (s.branchDisk dirs newVmId sourceVmId sourceDisk snapshotId o).1.files (place overlay) =
        some (.qcow2 ⟨some (place sourceDisk), fun _ => none⟩) := by
  unfold Site.branchDisk at h ⊢
  rw [hbacking] at h ⊢
  cases hdir : o.createDir with
  | error e =>
    rw [hdir] at h
    cases h
  | ok =>
    rw [hdir] at h
    dsimp only at h ⊢
    rw [if_pos hdisk] at h ⊢
    have hcreated := files_createOverlay s (joinPath (vmDir dirs.data newVmId) "root.qcow2")
      sourceDisk o
    generalize s.createOverlay (joinPath (vmDir dirs.data newVmId) "root.qcow2") sourceDisk o =
      created at h hcreated ⊢
    obtain ⟨s', result⟩ := created
    cases result with
    | error e => cases h
    | ok =>
      cases h
      exact ⟨rfl, hcreated rfl⟩

/-- A branch that is answered with success has made its disk. -/
theorem files_branchVm (h : Unkept s) {iteration : List String} {id : String}
    {payload : Daemon.BranchRequest} {readOk : Bool} {newVmId : String} {o : Site.BranchOutcomes}
    {io : TimeMachine.SledOutcomes} {uuid : String} {now : ℤ} {random : UInt8} {vmId : String}
    {vm : VmInstance} {entry : SnapshotEntry} {answer : Daemon.BranchResponse}
    (hpoint : s.branchPoint iteration id payload readOk = some (vmId, vm, entry))
    (hdisk : s.fileExists vm.cowFilePath = true)
    (hanswer : (s.branchVm dirs iteration id payload readOk newVmId o io uuid now random).2 =
      .ok answer) :
    answer.cowFilePath = joinPath (vmDir dirs.data newVmId) "root.qcow2" ∧
      (s.branchVm dirs iteration id payload readOk newVmId o io uuid now random).1.files
          (place answer.cowFilePath) =
        some (.qcow2 ⟨some (place vm.cowFilePath), fun _ => none⟩) := by
  obtain ⟨source, hsource, hfound⟩ := Option.bind_eq_some_iff.mp hpoint
  obtain ⟨entry', hentry, heq⟩ := Option.map_eq_some_iff.mp hfound
  cases heq
  have hmade := files_branchDisk hdisk (h.backingDisk_eq dirs hentry hdisk) newVmId o
  unfold Site.branchVm at hanswer ⊢
  rw [hpoint] at hanswer ⊢
  dsimp only at hanswer ⊢
  generalize s.branchDisk dirs newVmId source.1 source.2.cowFilePath entry.id o = made
    at hanswer hmade ⊢
  obtain ⟨s', disk⟩ := made
  unfold Daemon.branchVm at hanswer
  rw [hsource] at hanswer
  dsimp only at hanswer ⊢
  rw [hentry] at hanswer
  cases disk with
  | error e => cases hanswer
  | ok overlay =>
    cases hanswer
    exact hmade overlay rfl

/-- While there is a file in the place, it is an image over the other one. -/
def StaysOver (q p : List String) (s : Site) : Prop :=
  ∀ file, s.files q = some file → ∃ written, file = .qcow2 ⟨some p, written⟩

theorem vmFile_ne {root root' : List String} {id id' : String} (h : id ≠ id')
    (file file' : String) :
    root ++ [".vyoma", "vms", id, file] ≠ root' ++ [".vyoma", "vms", id', file'] := by
  intro heq
  obtain ⟨-, hlast⟩ := List.append_inj' heq rfl
  cases hlast
  exact h rfl

theorem hibernatedFile_ne {vmId file file' : String} (hfile : Name file) (h : file ≠ file')
    (dir : List String) (id : String) :
    place (Site.hibernatedFile dirs vmId file) ≠ dir ++ [".vyoma", "vms", id, file'] := by
  intro heq
  have hsplit : dir ++ [".vyoma", "vms", id, file'] =
      dir ++ [".vyoma", "vms", id] ++ [file'] := by
    rw [List.append_assoc]
    rfl
  rw [Site.hibernatedFile, place_joinPath hfile, hsplit] at heq
  obtain ⟨-, hlast⟩ := List.append_inj' heq rfl
  cases hlast
  exact h rfl

/-- What a step may leave in the place of a disk whose id is not drawn for it. -/
theorem StaysOver.of_leaves {p : List String} {newVmId : String} (hid : Name newVmId)
    (h : StaysOver (place (joinPath (vmDir dirs.data newVmId) "root.qcow2")) p s)
    (hdrawn : DrawsNames s a) (hnew : newVmId ∉ a.drawn) {file : DiskFile}
    (hleaves : Leaves dirs s a (place (joinPath (vmDir dirs.data newVmId) "root.qcow2")) file) :
    ∃ written, file = .qcow2 ⟨some p, written⟩ := by
  rw [place_vmFile hid (by decide)] at h hleaves
  generalize hq : place dirs.data ++ [".vyoma", "vms", newVmId, "root.qcow2"] = q at h hleaves
  cases hleaves with
  | @overlay request o =>
    rw [place_vmDirPath (hdrawn _ List.mem_cons_self) (by decide)
      (show "/root.qcow2" = "/" ++ "root.qcow2" from rfl)] at hq
    exact absurd hq (vmFile_ne (List.ne_of_not_mem_cons hnew) _ _)
  | @cowFile request o =>
    rw [place_vmDirPath (hdrawn _ List.mem_cons_self) (by decide)
      (show "/diff.cow" = "/" ++ "diff.cow" from rfl)] at hq
    exact absurd hq (vmFile_ne (List.ne_of_not_mem_cons hnew) _ _)
  | branchOver hbacking =>
    rw [place_vmFile (hdrawn _ List.mem_cons_self) (by decide)] at hq
    exact absurd hq (vmFile_ne (List.ne_of_not_mem_cons hnew) _ _)
  | branchBlank =>
    rw [place_vmFile (hdrawn _ List.mem_cons_self) (by decide)] at hq
    exact absurd hq (vmFile_ne (List.ne_of_not_mem_cons hnew) _ _)
  | branchBroken =>
    rw [place_vmFile (hdrawn _ List.mem_cons_self) (by decide)] at hq
    exact absurd hq (vmFile_ne (List.ne_of_not_mem_cons hnew) _ _)
  | copied hhome hsource =>
    rw [Site.clonedDisk, place_vmFile (hdrawn _ List.mem_cons_self) (by decide)] at hq
    exact absurd hq (vmFile_ne (List.ne_of_not_mem_cons hnew) _ _)
  | copyBroken hhome =>
    rw [Site.clonedDisk, place_vmFile (hdrawn _ List.mem_cons_self) (by decide)] at hq
    exact absurd hq (vmFile_ne (List.ne_of_not_mem_cons hnew) _ _)
  | hibernated hfile =>
    obtain rfl | rfl := hfile
    · exact absurd hq.symm (hibernatedFile_ne (by decide) (by decide) _ _)
    · exact absurd hq.symm (hibernatedFile_ne (by decide) (by decide) _ _)
  | @written vmId b d _ image hfile =>
    obtain ⟨written, heq⟩ := h _ hfile
    cases heq
    exact ⟨_, rfl⟩

theorem StaysOver.siteStep {p : List String} {newVmId : String} (hid : Name newVmId)
    (h : StaysOver (place (joinPath (vmDir dirs.data newVmId) "root.qcow2")) p s)
    (hdrawn : DrawsNames s a) (hnew : newVmId ∉ a.drawn) :
    StaysOver (place (joinPath (vmDir dirs.data newVmId) "root.qcow2")) p
      (siteStep dirs s a) := by
  intro file hfile
  obtain ⟨-, hgone⟩ | ⟨-, hsame | ⟨left, hleft, hleaves⟩⟩ := files_siteStep dirs s a
    (place (joinPath (vmDir dirs.data newVmId) "root.qcow2"))
  · rw [hgone] at hfile
    cases hfile
  · exact h file (hsame ▸ hfile)
  · rw [hleft] at hfile
    cases hfile
    exact h.of_leaves hid hdrawn hnew hleaves

end Branches

/-- A branch is made over the disk of its source, whatever snapshot of it was asked for. In every
later state a block that has not been written on the branch itself reads as it does on the disk
of the source then, and not as it did when the snapshot was taken. -/
theorem branch_shows_source {dirs : Directories} {s : Site} (hs : Unkept s)
    {pre post : List SiteAction} {iteration : List String} {id : String}
    {payload : Daemon.BranchRequest} {readOk : Bool} {newVmId : String} {o : Site.BranchOutcomes}
    {io : TimeMachine.SledOutcomes} {uuid : String} {now : ℤ} {random : UInt8}
    (hdrawn : Along (siteStep dirs) DrawsNames s
      (pre ++ .branches iteration id payload readOk newVmId o io uuid now random :: post))
    (hnew : ∀ a ∈ post, newVmId ∉ a.drawn) {vmId : String} {vm : VmInstance}
    {entry : SnapshotEntry} {answer : Daemon.BranchResponse}
    (hpoint : (exec (siteStep dirs) s pre).branchPoint iteration id payload readOk =
      some (vmId, vm, entry))
    (hdisk : (exec (siteStep dirs) s pre).fileExists vm.cowFilePath = true)
    (hanswer : ((exec (siteStep dirs) s pre).branchVm dirs iteration id payload readOk newVmId o io
      uuid now random).2 = .ok answer)
    {image : DiskImage}
    (himage : (exec (siteStep dirs) s (pre ++ .branches iteration id payload readOk newVmId o io
      uuid now random :: post)).disks (place answer.cowFilePath) = some image) (b : ℕ)
    (hunwritten : image.written b = none) (content : Option Sector) :
    Reads (exec (siteStep dirs) s (pre ++ .branches iteration id payload readOk newVmId o io uuid
        now random :: post)).disks b (place answer.cowFilePath) content ↔
      Reads (exec (siteStep dirs) s (pre ++ .branches iteration id payload readOk newVmId o io uuid
        now random :: post)).disks b (place vm.cowFilePath) content := by
  obtain ⟨hpre, hbranch, hpost⟩ := along_append.mp hdrawn
  rw [exec_append, exec_cons] at himage ⊢
  obtain ⟨hpath, hmade⟩ := files_branchVm (hs.exec hpre) hpoint hdisk hanswer
  rw [hpath] at himage hmade ⊢
  have hid : Name newVmId := hbranch _ List.mem_cons_self
  -- the disk is made over that of the source, and stays over it as long as it is there
  have hstart : StaysOver (place (joinPath (vmDir dirs.data newVmId) "root.qcow2"))
      (place vm.cowFilePath) (siteStep dirs (exec (siteStep dirs) s pre)
        (.branches iteration id payload readOk newVmId o io uuid now random)) := by
    intro file hfile
    rw [siteStep, hmade] at hfile
    cases hfile
    exact ⟨_, rfl⟩
  have hdrawnNew : Along (siteStep dirs) (fun s a => DrawsNames s a ∧ newVmId ∉ a.drawn)
      (siteStep dirs (exec (siteStep dirs) s pre)
        (.branches iteration id payload readOk newVmId o io uuid now random)) post := by
    refine hpost.and (along_iff.mpr fun pre' a post' heq => hnew a ?_)
    rw [heq]
    exact List.mem_append_right _ List.mem_cons_self
  have hover := (throughout_of_along hstart (fun _ _ h ha => h.siteStep hid ha.1 ha.2)
    hdrawnNew).exec
  obtain ⟨file, hfile, rfl⟩ := Option.map_eq_some_iff.mp himage
  obtain ⟨written, rfl⟩ := hover file hfile
  exact reads_through_iff himage hunwritten rfl

def branchMade : Site.BranchOutcomes := ⟨.ok (), .ok (), .done⟩

/-- A branch is made from the snapshot. -/
def branchFromBase : SiteAction :=
  .branches [] "first" ⟨"base", "copy"⟩ true "second" branchMade {} "77c0" 0 5

def branchDiskPath : String := joinPath (vmDir "/data" "second") "root.qcow2"

/-- The branch reads what has been written after the snapshot was taken. -/
theorem branch_reads_later_write :
    Reads (exec (siteStep oneHost) imagePulled
      (snapshotOfFirst ++ branchFromBase :: [.guestWrites "first" 0 [1]])).disks 0
      (place branchDiskPath) (some [1]) := by
  have hdrawn : Along (siteStep oneHost) DrawsNames imagePulled
      (snapshotOfFirst ++ branchFromBase :: [.guestWrites "first" 0 [1]]) := by
    decide
  have h := branch_shows_source unkept_imagePulled hdrawn (by decide) rfl (by decide) rfl rfl 0 rfl
    (some [1])
  exact h.mpr (.own rfl rfl)

end Vyoma.VmService
