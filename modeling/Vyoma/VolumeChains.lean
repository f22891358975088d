import Vyoma.PointerChains
import Vyoma.Runs
import Vyoma.SnapshotAncestry
import Vyoma.StorageVolumes

/-!
# Chains of backing files

A disk can be opened only when the image in its file, the image below that one and so on are
all there and come to an end. Nothing that a call removes is a file, so what is below an
image stays; but a volume that is made under a name in use takes the place of another one.
Over runs, all disks can be opened exactly as long as no image is written over itself by way
of others. With names that are not used twice, the files mirror the snapshot tree.
-/
namespace Vyoma.Storage
open FileTrees OrderedMaps PointerChains Runs

/-! ## Opening a disk -/

/-- The place of the file that the file in a place is written over. -/
def under (files : List String → Option VolumeFile) (q : List String) : Option (List String) :=
  ((files q).bind VolumeFile.backing).map place

/-- What is below the file is there, down to a file that stands for itself. -/
inductive Opens (files : List String → Option VolumeFile) : List String → Prop
  | plain {q} (hfile : files q = some .plain) : Opens files q
  | overlay {q backing} (hfile : files q = some (.overlay backing))
    (hbelow : Opens files (place backing)) : Opens files q

/-- Every file that is there can be opened. -/
def DisksOpen (m : StorageManager) : Prop := ∀ q, (m.files q).isSome → Opens m.files q

/-- Every image is written over a file that is there. -/
def Closed (m : StorageManager) : Prop :=
  ∀ q backing, m.files q = some (.overlay backing) → (m.files (place backing)).isSome

theorem under_overlay {files : List String → Option VolumeFile} {q : List String}
    {backing : String} (h : files q = some (.overlay backing)) :
    under files q = some (place backing) := by
  rw [under, h]
  rfl

theorem under_plain {files : List String → Option VolumeFile} {q : List String}
    (h : files q = some .plain) : under files q = none := by
  rw [under, h]
  rfl

theorem disksOpen_iff {m : StorageManager} :
    DisksOpen m ↔ Closed m ∧ ∀ q, Ends (under m.files) q := by
  constructor
  · intro h
    refine ⟨fun q backing hfile => ?_, fun q => ?_⟩
    · have hopens := h q (by rw [hfile]; rfl)
      cases hopens with
      | plain hplain =>
        rw [hfile] at hplain
        cases hplain
      | overlay hoverlay hbelow =>
        rw [hfile] at hoverlay
        cases hoverlay
        cases hbelow with
        | plain hthere => rw [hthere]; rfl
        | overlay hthere _ => rw [hthere]; rfl
    · cases hfile : m.files q with
      | none => exact .last (by rw [under, hfile]; rfl)
      | some file =>
        have hopens := h q (by rw [hfile]; rfl)
        clear hfile
        induction hopens with
        | plain hplain => exact .last (under_plain hplain)
        | overlay hoverlay _ ih => exact .step (under_overlay hoverlay) ih
  · rintro ⟨hclosed, hends⟩ q hthere
    have hend := hends q
    induction hend with
    | @last q hlast =>
      obtain ⟨file, hfile⟩ := Option.isSome_iff_exists.mp hthere
      cases file with
      | plain => exact .plain hfile
      | overlay backing =>
        rw [under_overlay hfile] at hlast
        cases hlast
    | @step q below hunder _ ih =>
      obtain ⟨file, hfile⟩ := Option.isSome_iff_exists.mp hthere
      cases file with
      | plain =>
        rw [under_plain hfile] at hunder
        cases hunder
      | overlay backing =>
        rw [under_overlay hfile] at hunder
        cases hunder
        exact .overlay hfile (ih (hclosed q backing hfile))

/-! ## One call -/

section Step

variable {m : StorageManager} {a : VolumeAction}

theorem files_of_writes {path : String} {file : VolumeFile}
    (h : m.writes a = some (path, file)) :
    (volumeStep m a).files = Function.update m.files (place path) (some file) := by
  rw [m.files_volumeStep, h]
  rfl

theorem files_of_not_writes (h : m.writes a = none) : (volumeStep m a).files = m.files := by
  rw [m.files_volumeStep, h]
  rfl

/-- Nothing is removed. -/
theorem isSome_files_volumeStep {q : List String} (h : (m.files q).isSome) :
    ((volumeStep m a).files q).isSome := by
  cases hwrites : m.writes a with
  | none => rwa [files_of_not_writes hwrites]
  | some write =>
    rw [files_of_writes hwrites, Function.update_apply]
    split_ifs
    · rfl
    · exact h

theorem Closed.volumeStep (h : Closed m) (a : VolumeAction) : Closed (volumeStep m a) := by
  intro q backing hfile
  refine isSome_files_volumeStep ?_
  cases hwrites : m.writes a with
  | none =>
    rw [files_of_not_writes hwrites] at hfile
    exact h q backing hfile
  | some write =>
    rw [files_of_writes hwrites, Function.update_apply] at hfile
    split_ifs at hfile
    · obtain ⟨path, file⟩ := write
      cases hfile
      obtain hthere | ⟨q', hq'⟩ := StorageManager.backing_of_writes hwrites
      · exact (Bool.and_eq_true_iff.mp hthere).2
      · exact h q' backing hq'
    · exact h q backing hfile

theorem under_after (files : List String → Option VolumeFile) (path : String) (file : VolumeFile) :
    under (Function.update files (place path) (some file)) =
      Function.update (under files) (place path) (file.backing.map place) := by
  funext q
  unfold under
  rw [Function.update_apply, Function.update_apply]
  split_ifs <;> rfl

/-- No image is written where the file below it, or one further down, is. -/
def KeepsChains (m : StorageManager) (a : VolumeAction) : Prop :=
  ∀ path backing, m.writes a = some (path, .overlay backing) →
    ¬Leads (under m.files) (place backing) (place path)

theorem disksOpen_volumeStep_iff (h : DisksOpen m) :
    DisksOpen (volumeStep m a) ↔ KeepsChains m a := by
  obtain ⟨hclosed, hends⟩ := disksOpen_iff.mp h
  rw [disksOpen_iff, and_iff_right (hclosed.volumeStep a)]
  cases hwrites : m.writes a with
  | none =>
    rw [files_of_not_writes hwrites]
    refine iff_of_true hends fun path backing hsome => ?_
    rw [hwrites] at hsome
    cases hsome
  | some write =>
    obtain ⟨path, file⟩ := write
    rw [files_of_writes hwrites, under_after, ends_update_iff hends]
    constructor
    · intro hfree path' backing hsome
      rw [hwrites] at hsome
      cases hsome
      exact hfree _ rfl
    · intro hkeeps below hbelow
      obtain ⟨backing, hbacking, rfl⟩ := Option.map_eq_some_iff.mp hbelow
      cases file with
      | plain => cases hbacking
      | overlay b =>
        cases hbacking
        exact hkeeps path backing hwrites

end Step

/-- In every state of a run every disk can be opened, exactly when no call of the run writes an
image over itself by way of the images below it. -/
theorem disksOpen_throughout_iff (basePath : String) (run : List VolumeAction) :
    Throughout volumeStep DisksOpen (.new basePath) run ↔
      Along volumeStep KeepsChains (.new basePath) run := by
  have hstart : DisksOpen (.new basePath) := fun q h => nomatch h
  exact throughout_iff_along_of_invariant (I := fun _ => True) trivial (fun _ _ _ => trivial)
    hstart (fun m a _ h => disksOpen_volumeStep_iff h) run

/-! ## The files and the tree -/

/-- The id is that of no snapshot, and of no parent that has been deleted. -/
def NewId (tree : SnapshotTree) : Option String → Prop
  | none => True
  | some id => id ∉ tree.snapshots ∧ Childless tree id

/-- Nothing is where the file is written. -/
def Unused (m : StorageManager) : Option (String × VolumeFile) → Prop
  | none => True
  | some (path, _) => m.files (place path) = none

/-- Ids and names are not used twice, and no overlay is committed as if it stood for itself. -/
structure Proper (m : StorageManager) (a : VolumeAction) : Prop where
  newId : NewId m.tree a.drawn
  unused : Unused m (m.writes a)
  independent : a.IsCommit → ∀ path backing, m.writes a ≠ some (path, .overlay backing)

/-- Every snapshot but for branches that were not finished has a disk of its own. That of a
root stands for itself, and that of a branch is written over that of its parent. -/
structure Mirrors (m : StorageManager) : Prop where
  disk : ∀ (id : String) (node : SnapshotNode), m.tree.snapshots[id]? = some node →
    node.snapshotPath ≠ "" → (m.files (place node.snapshotPath)).isSome
  root : ∀ (id : String) (node : SnapshotNode), m.tree.snapshots[id]? = some node →
    node.parentId = none → m.files (place node.snapshotPath) = some .plain
  branch : ∀ (id pid : String) (node parent : SnapshotNode), m.tree.snapshots[id]? = some node →
    node.snapshotPath ≠ "" → node.parentId = some pid → m.tree.snapshots[pid]? = some parent →
    m.files (place node.snapshotPath) = some (.overlay parent.snapshotPath)
  own : ∀ (id id' : String) (node node' : SnapshotNode), m.tree.snapshots[id]? = some node →
    m.tree.snapshots[id']? = some node' → node.snapshotPath ≠ "" → node'.snapshotPath ≠ "" →
    place node.snapshotPath = place node'.snapshotPath → id = id'

instance : ∀ (tree : SnapshotTree) (drawn : Option String), Decidable (NewId tree drawn)
  | _, none => isTrue trivial
  | tree, some id => inferInstanceAs (Decidable (id ∉ tree.snapshots ∧ Childless tree id))

instance : ∀ (m : StorageManager) (write : Option (String × VolumeFile)),
    Decidable (Unused m write)
  | _, none => isTrue trivial
  | m, some (path, _) => inferInstanceAs (Decidable (m.files (place path) = none))

instance (m : StorageManager) (a : VolumeAction) : Decidable (Proper m a) :=
  decidable_of_iff
    (NewId m.tree a.drawn ∧ Unused m (m.writes a) ∧
      (a.IsCommit → ((m.writes a).bind fun write => write.2.backing) = none))
    ⟨fun ⟨hnew, hunused, hplain⟩ => ⟨hnew, hunused, fun hcommit path backing hwrites => by
        have hnone := hplain hcommit
        rw [hwrites] at hnone
        cases hnone⟩,
      fun h => ⟨h.newId, h.unused, fun hcommit => Option.eq_none_iff_forall_ne_some.mpr
        fun backing hbacking => by
          obtain ⟨⟨path, file⟩, hwrites, hfile⟩ := Option.bind_eq_some_iff.mp hbacking
          cases file with
          | plain => cases hfile
          | overlay b => exact h.independent hcommit path b hwrites⟩⟩

section Mirrors

variable {m : StorageManager} {a : VolumeAction}

/-- A file that is there stays as it is. -/
theorem Proper.files_kept (h : Proper m a) {q : List String} {file : VolumeFile}
    (hfile : m.files q = some file) : (volumeStep m a).files q = some file := by
  cases hwrites : m.writes a with
  | none => rwa [files_of_not_writes hwrites]
  | some write =>
    have hunused := h.unused
    rw [hwrites] at hunused
    have hne : q ≠ place write.1 := by
      rintro rfl
      rw [show m.files (place write.1) = none from hunused] at hfile
      cases hfile
    rw [files_of_writes hwrites, Function.update_of_ne hne]
    exact hfile

theorem files_written {path : String} {file : VolumeFile} (h : m.writes a = some (path, file)) :
    (volumeStep m a).files (place path) = some file := by
  rw [files_of_writes h, Function.update_self]

/-- What is written has no place that was taken. -/
theorem Proper.place_ne (h : Proper m a) {path : String} {file : VolumeFile}
    (hwrites : m.writes a = some (path, file)) {q : List String} (hq : (m.files q).isSome) :
    q ≠ place path := by
  rintro rfl
  have hunused := h.unused
  rw [hwrites] at hunused
  rw [show m.files (place path) = none from hunused] at hq
  cases hq

theorem Proper.keepsChains (h : Proper m a) (hclosed : Closed m) : KeepsChains m a := by
  intro path backing hwrites hleads
  obtain heq | ⟨q, -, hlast⟩ := hleads.cases_tail
  · obtain hthere | ⟨q', hq'⟩ := StorageManager.backing_of_writes hwrites
    · exact h.place_ne hwrites (Bool.and_eq_true_iff.mp hthere).2 heq.symm
    · exact h.place_ne hwrites (hclosed q' backing hq') heq.symm
  · obtain ⟨b, hb, hplace⟩ := Option.map_eq_some_iff.mp hlast
    obtain ⟨file, hfile, hbacking⟩ := Option.bind_eq_some_iff.mp hb
    cases file with
    | plain => cases hbacking
    | overlay b' =>
      cases hbacking
      exact h.place_ne hwrites (hclosed q b hfile) hplace

/-- A snapshot that the call has stored was not stored, and no snapshot has it as its parent. -/
theorem Proper.new (h : Proper m a) {id : String} (hdrawn : a.drawn = some id) :
    m.tree.snapshots[id]? = none ∧ Childless m.tree id := by
  have hnew := h.newId
  rw [hdrawn] at hnew
  exact ⟨Std.ExtTreeMap.getElem?_eq_none hnew.1, hnew.2⟩

/-- The parent of a snapshot is not the one that is stored by the call. -/
theorem Proper.drawn_ne_parent (h : Proper m a) {id pid : String} {node : SnapshotNode}
    (hnode : (volumeStep m a).tree.snapshots[id]? = some node)
    (hpid : node.parentId = some pid) : a.drawn ≠ some pid := by
  intro hdrawn
  obtain ⟨hnone, hchildless⟩ := h.new hdrawn
  cases StorageManager.nodeSource hnode with
  | kept old hold hsame hparent => exact hchildless id old hold (hparent ▸ hpid)
  | root file _ hroot _ _ =>
    rw [hroot] at hpid
    cases hpid
  | branch pid' parent _ hparentId hstored _ =>
    rw [hparentId] at hpid
    cases hpid
    rw [hnone] at hstored
    cases hstored

/-- The disk of a snapshot as it is after the call: it was there, or it has been written. -/
theorem Mirrors.disk_cases (h : Mirrors m) {id : String} {node : SnapshotNode}
    (hnode : (volumeStep m a).tree.snapshots[id]? = some node) (hpath : node.snapshotPath ≠ "") :
    (∃ old, m.tree.snapshots[id]? = some old ∧ old.snapshotPath = node.snapshotPath ∧
        (m.files (place node.snapshotPath)).isSome) ∨
      a.drawn = some id ∧ ∃ file, m.writes a = some (node.snapshotPath, file) := by
  cases StorageManager.nodeSource hnode with
  | kept old hold hsame hparent =>
    rw [hsame] at hpath ⊢
    exact .inl ⟨old, hold, rfl, h.disk id old hold hpath⟩
  | root file hdrawn hroot hwritten hplain => exact .inr ⟨hdrawn, file, hwritten⟩
  | branch pid parent hdrawn hparent hstored hwritten =>
    exact .inr ⟨hdrawn, _, hwritten.resolve_left hpath⟩

theorem Mirrors.volumeStep (h : Mirrors m) (hproper : Proper m a) : Mirrors (volumeStep m a) where
  disk id node hnode hpath := by
    obtain ⟨old, -, -, hthere⟩ | ⟨-, file, hwrites⟩ := h.disk_cases hnode hpath
    · exact isSome_files_volumeStep hthere
    · rw [files_written hwrites]
      rfl
  root id node hnode hroot := by
    cases StorageManager.nodeSource hnode with
    | kept old hold hsame hparent =>
      rw [hsame]
      exact hproper.files_kept (h.root id old hold (hparent ▸ hroot))
    | root file hdrawn _ hwritten hplain =>
      rw [files_written hwritten]
      obtain rfl | hcommit := hplain
      · rfl
      · cases file with
        | plain => rfl
        | overlay backing => exact absurd hwritten (hproper.independent hcommit _ _)
    | branch pid parent hdrawn hparent hstored hwritten =>
      rw [hroot] at hparent
      cases hparent
  branch id pid node parent hnode hpath hpid hparent := by
    cases StorageManager.nodeSource hparent with
    | kept oldParent holdParent hsameParent _ =>
      rw [hsameParent]
      cases StorageManager.nodeSource hnode with
      | kept old hold hsame hparentId =>
        rw [hsame] at hpath ⊢
        exact hproper.files_kept
          (h.branch id pid old oldParent hold hpath (hparentId ▸ hpid) holdParent)
      | root file hdrawn hroot hwritten hplain =>
        rw [hroot] at hpid
        cases hpid
      | branch pid' parent' hdrawn hparentId hstored hwritten =>
        rw [hparentId] at hpid
        cases hpid
        rw [hstored] at holdParent
        cases holdParent
        exact files_written (hwritten.resolve_left hpath)
    | root file hdrawn _ _ _ => exact absurd hdrawn (hproper.drawn_ne_parent hnode hpid)
    | branch _ _ hdrawn _ _ _ => exact absurd hdrawn (hproper.drawn_ne_parent hnode hpid)
  own id id' node node' hnode hnode' hpath hpath' hplace := by
    obtain ⟨old, hold, hsame, hthere⟩ | ⟨hdrawn, file, hwrites⟩ := h.disk_cases hnode hpath
    · obtain ⟨old', hold', hsame', -⟩ | ⟨hdrawn', file', hwrites'⟩ :=
        h.disk_cases hnode' hpath'
      · refine h.own id id' old old' hold hold' (hsame ▸ hpath) (hsame' ▸ hpath') ?_
        rw [hsame, hsame', hplace]
      · exact absurd hplace (hproper.place_ne hwrites' hthere)
    · obtain ⟨old', hold', hsame', hthere'⟩ | ⟨hdrawn', file', hwrites'⟩ :=
        h.disk_cases hnode' hpath'
      · exact absurd hplace.symm (hproper.place_ne hwrites hthere')
      · exact Option.some.inj (hdrawn.symm.trans hdrawn')

end Mirrors

theorem mirrors_new (basePath : String) : Mirrors (.new basePath) where
  disk id node h := by simp [StorageManager.new, SnapshotTree.empty] at h
  root id node h := by simp [StorageManager.new, SnapshotTree.empty] at h
  branch id pid node parent h := by simp [StorageManager.new, SnapshotTree.empty] at h
  own id id' node node' h := by simp [StorageManager.new, SnapshotTree.empty] at h

/-- When ids and names are not used twice, the files mirror the snapshot tree in every state
of a run, every disk can be opened, and no file changes once it is there: what a guest has
branched from is not written any more. -/
theorem volumes_mirror_tree (basePath : String) (run : List VolumeAction)
    (h : Along volumeStep Proper (.new basePath) run) :
    Throughout volumeStep (fun m => Mirrors m ∧ DisksOpen m) (.new basePath) run ∧
      ∀ pre post, run = pre ++ post → ∀ q file,
        (exec volumeStep (.new basePath) pre).files q = some file →
          (exec volumeStep (.new basePath) run).files q = some file := by
  have hstart : Mirrors (.new basePath) ∧ DisksOpen (.new basePath) :=
    ⟨mirrors_new basePath, fun q h => nomatch h⟩
  constructor
  · refine throughout_of_along hstart (fun m a hm ha => ⟨hm.1.volumeStep ha, ?_⟩) h
    exact (disksOpen_volumeStep_iff hm.2).mpr (ha.keepsChains (disksOpen_iff.mp hm.2).1)
  · rintro pre post rfl q file hfile
    rw [exec_append]
    refine (throughout_of_along (Q := fun m => m.files q = some file) hfile
      (fun m a hm ha => ha.files_kept hm) (along_append.mp h).2).exec

/-- A call that makes the directory and the disk, and whose snapshot is stored. -/
def smoothImage (uuid : String) : ImageOutcomes := ⟨.ok (), .ok (), .done, ⟨uuid, 0⟩, {}⟩

def smoothOverlay (uuid : String) : OverlayOutcomes :=
  ⟨{}, .ok (), .ok (), .done, ⟨uuid, 0⟩, {}, {}⟩

/-- A disk, a branch of it and a branch of the branch. Were the last one named as the first
disk, the three images would be written over each other in a circle. -/
def branchesRun (last : String) : List VolumeAction :=
  [.createQcow2 (smoothImage "51c0") "web", .branchQcow2 (smoothOverlay "8e2f") "51c0" "copy",
    .branchQcow2 (smoothOverlay "a97d") "8e2f" last]

theorem branches_mirror :
    Throughout volumeStep (fun m => Mirrors m ∧ DisksOpen m) (.new "/vols")
        (branchesRun "other") ∧
      ∀ pre post, branchesRun "other" = pre ++ post → ∀ q file,
        (exec volumeStep (.new "/vols") pre).files q = some file →
          (exec volumeStep (.new "/vols") (branchesRun "other")).files q = some file :=
  volumes_mirror_tree "/vols" (branchesRun "other") (by decide)

end Vyoma.Storage
