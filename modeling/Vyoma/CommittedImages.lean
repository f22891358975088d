import Vyoma.StoreEntries
import Vyoma.VmLifecycle

/-!
# Committing a VM to an image

`commit_vm` copies the disk of a VM to `root.ext4` in a directory of the image store that it
finds by the name as it is given. An image is started from `rootfs.ext4` or `rootfs.sqfs` in
the directory of its replaced name. No name leads the first to a file of the second.
-/
namespace Vyoma.ImageStore
open FileTrees HostFiles HostFiles.Prog
open Build (Copied)
open VmService (Daemon VmInstance)

structure CommitOutcome (γ : Type) where
  createDir : Except String Unit
  copy : Copied γ
  metadata : Except String Unit
  configJson : Except String Unit
  writeConfig : Written γ

section Commit

variable {γ : Type}

/-- `commit_snapshot_native`, from what opening the device gives. -/
def commitSnapshotNative (srcDevice : Except String γ) (imagesDir : List String)
    (o : CommitOutcome γ) : Prog (Host γ) String Unit := do
  let disk ← outside id srcDevice
  touch (imagesDir ++ ["root.ext4"])
  if ← leave imagesDir "root.ext4" (o.copy.left (some disk)) then outside id o.copy.answer
  else throw noSuchFile
  outside id o.metadata

/-- The directory of the new image: its name is joined to the images directory as it is. -/
def commitDir (d : DataDir) (newImageName : String) : List String :=
  join (imagesRoot d) newImageName

def commitVm (state : Daemon) (devices : String → Except String γ) (d : DataDir)
    (vmId newImageName : String) (o : CommitOutcome γ) : Prog (Host γ) String String :=
  match state.vms[vmId]? with
  | none => throw ("VM " ++ vmId ++ " not found or not running")
  | some vm => do
    let imagesDir := commitDir d newImageName
    createDirAll (fun _ => "Failed to create images dir") imagesDir o.createDir
    (commitSnapshotNative (devices ("/dev/mapper/" ++ vm.dmName)) imagesDir o).mapError
      fun _ => "Failed to commit snapshot"
    outside (fun _ => "Failed to serialize config") o.configJson
    writeFile (fun _ => "Failed to write config") imagesDir "vyoma-config.json" o.writeConfig
    return "VM " ++ vmId ++ " committed to image " ++ newImageName

end Commit

/-! ## What a commit leaves -/

section Specs

variable {γ ε : Type}

theorem leave_eq_ok_true {dir : List String} {file : String} {content : γ} {h h' : Host γ}
    (hok : (leave dir file (some content) : Prog (Host γ) ε Bool).exec h = (.ok true, h')) :
    ∃ tree, h.tree.write dir file content = some tree ∧ h' = { h with tree := tree } := by
  obtain ⟨made, h₁, hread, hok⟩ := exec_bind_eq_ok_iff.mp hok
  rw [exec_read] at hread
  cases hread
  cases hmade : h.tree.write dir file content with
  | none =>
    rw [hmade] at hok
    cases hok
  | some tree =>
    rw [hmade] at hok
    cases hok
    exact ⟨tree, rfl, rfl⟩

/-- A file that is written is in its place. -/
theorem writeFile_eq_ok {wrap : String → ε} {dir : List String} {file : String} {w : Written γ}
    {h h' : Host γ} (hok : (writeFile wrap dir file w).exec h = (.ok (), h')) :
    ∃ content tree, w = .done content ∧ h.tree.write dir file content = some tree ∧
      h'.tree = tree ∧ h'.requests = h.requests := by
  obtain ⟨_, h₁, htouch, hok⟩ := exec_bind_eq_ok_iff.mp hok
  obtain ⟨left, h₂, hleave, hok⟩ := exec_bind_eq_ok_iff.mp hok
  cases htouch
  cases left with
  | false => cases hok
  | true =>
    obtain ⟨hdone, rfl⟩ := exec_answer_eq_ok_iff.mp hok
    cases w with
    | refused error => cases hdone
    | broken error left => cases hdone
    | done content =>
      obtain ⟨tree, hmade, rfl⟩ := leave_eq_ok_true hleave
      exact ⟨content, tree, rfl, hmade, rfl, rfl⟩

theorem commitSnapshotNative_eq_ok {srcDevice : Except String γ} {dir : List String}
    {o : CommitOutcome γ} {h h' : Host γ}
    (hok : (commitSnapshotNative srcDevice dir o).exec h = (.ok (), h')) :
    ∃ disk tree, srcDevice = .ok disk ∧ h.tree.write dir "root.ext4" disk = some tree ∧
      h'.tree = tree ∧ h'.requests = h.requests := by
  obtain ⟨disk, h₁, hdisk, hok⟩ := exec_bind_eq_ok_iff.mp hok
  obtain ⟨_, h₂, htouch, hok⟩ := exec_bind_eq_ok_iff.mp hok
  obtain ⟨left, h₃, hleave, hok⟩ := exec_bind_eq_ok_iff.mp hok
  cases srcDevice with
  | error e => cases hdisk
  | ok disk =>
    cases hdisk
    cases htouch
    cases left with
    | false => cases hok
    | true =>
      obtain ⟨_, h₄, hcopied, hok⟩ := exec_bind_eq_ok_iff.mp hok
      obtain ⟨hdone, rfl⟩ := exec_answer_eq_ok_iff.mp hcopied
      obtain ⟨-, rfl⟩ := exec_answer_eq_ok_iff.mp hok
      cases hcopy : o.copy with
      | refused error =>
        rw [hcopy] at hdone
        cases hdone
      | broken error left =>
        rw [hcopy] at hdone
        cases hdone
      | done =>
        rw [hcopy] at hleave
        obtain ⟨tree, hmade, rfl⟩ := leave_eq_ok_true hleave
        exact ⟨disk, tree, rfl, hmade, rfl, rfl⟩

/-- The files a commit leaves: the disk, and a configuration beside it. -/
structure Committed (disk : γ) (dir : List String) (t t' : FileTree γ) : Prop where
  made : ∃ t₁ t₂ config, t.createDirs [] dir = some t₁ ∧
    t₁.write dir "root.ext4" disk = some t₂ ∧ t₂.write dir "vyoma-config.json" config = some t'

theorem commitVm_eq_ok {state : Daemon} {devices : String → Except String γ} {d : DataDir}
    {vmId name message : String} {o : CommitOutcome γ} {h h' : Host γ} {vm : VmInstance}
    (hvm : state.vms[vmId]? = some vm) {disk : γ}
    (hdisk : devices ("/dev/mapper/" ++ vm.dmName) = .ok disk)
    (hok : (commitVm state devices d vmId name o).exec h = (.ok message, h')) :
    Committed disk (commitDir d name) h.tree h'.tree ∧ h'.requests = h.requests := by
  unfold commitVm at hok
  rw [hvm] at hok
  obtain ⟨_, h₁, hcreate, hrest⟩ := exec_bind_eq_ok_iff.mp hok
  obtain ⟨_, h₂, hcopy, hrest'⟩ := exec_bind_eq_ok_iff.mp hrest
  obtain ⟨_, h₃, hjson, hrest''⟩ := exec_bind_eq_ok_iff.mp hrest'
  obtain ⟨_, h₄, hwrite, hpure⟩ := exec_bind_eq_ok_iff.mp hrest''
  obtain ⟨-, t₁, hdirs, rfl⟩ := createDirAll_eq_ok_iff.mp hcreate
  obtain ⟨disk', t₂, hdisk', hroot, htree, hrequests⟩ :=
    commitSnapshotNative_eq_ok (exec_mapError_eq_ok_iff.mp hcopy)
  obtain ⟨-, rfl⟩ := exec_answer_eq_ok_iff.mp hjson
  obtain ⟨config, t₃, -, hconfig, htree', hrequests'⟩ := writeFile_eq_ok hwrite
  obtain ⟨-, rfl⟩ := exec_pure_eq_ok_iff.mp hpure
  obtain rfl : disk = disk' := Except.ok.inj (hdisk.symm.trans hdisk')
  rw [htree, ← htree'] at hconfig
  exact ⟨⟨t₁, t₂, config, hdirs, hroot, hconfig⟩, hrequests'.trans hrequests⟩

end Specs

/-! ## The two names -/

section Names

variable {d : DataDir} {name : String}

/-- A directory name is as long as the name, so it can only be a component of itself. -/
theorem eq_safeImageName_of_mem (h : safeImageName name ∈ components name) :
    safeImageName name = name := by
  obtain heq | hlt := eq_or_length_lt_of_mem_components h
  · exact heq
  · rw [toList_safeImageName, List.length_map] at hlt
    omega

theorem eq_safeImageName_of_not_plain (h : ¬ Plain (safeImageName name)) :
    safeImageName name = name := by
  refine (eq_of_safeImageName rfl ?_).symm
  unfold Plain at h
  by_cases hempty : safeImageName name = ""
  · rw [hempty]
    decide
  · by_cases hdot : safeImageName name = "."
    · rw [hdot]
      decide
    · have hparent : safeImageName name = ".." := by
        by_contra hne
        exact h ⟨hempty, hdot, hne⟩
      rw [hparent]
      decide

/-- The way to the directory of a commit does not lead through a file of the image. -/
theorem commitDir_way_ne {file : String} (hfile : file ≠ "images") (k : ℕ) :
    ((commitDir d name).take k).foldl enter [] ≠ storeDir d name ++ [file] := by
  have hroot : ∀ j, ((imagesRoot d).take j).foldl enter [] = (imagesRoot d).take j := fun j =>
    foldl_enter_plain (fun c hc => plain_imagesRoot d c (List.mem_of_mem_take hc)) []
  have hway : ∀ j, ∀ c ∈ (components name).take j, c ∈ components name :=
    fun j c hc => List.mem_of_mem_take hc
  -- on the way to the images directory, or below it
  have hbelow : (∀ j, ((components name).take j).foldl enter (imagesRoot d) ≠
      storeDir d name ++ [file]) → ((imagesRoot d ++ components name).take k).foldl enter [] ≠
      storeDir d name ++ [file] := by
    intro hcs
    rw [List.take_append, List.foldl_append, hroot]
    by_cases hk : k ≤ (imagesRoot d).length
    · rw [Nat.sub_eq_zero_of_le hk, List.take_zero, List.foldl_nil]
      exact take_imagesRoot_ne d name hfile k
    · rw [List.take_of_length_le (by omega)]
      exact hcs _
  rw [commitDir, join]
  by_cases hself : safeImageName name = name
  · -- both names are the same, and the commit goes to the directory of the image
    have hslash : '/' ∉ name.toList := hself ▸ slash_notMem_safeImageName name
    have hrelative : name.toList.head? ≠ some '/' := fun h => hslash (List.mem_of_mem_head? h)
    rw [if_neg hrelative]
    refine hbelow fun j hq => ?_
    have hlength := congrArg List.length hq
    rw [components_of_notMem hslash, storeDir_eq, hself, List.length_append,
      List.length_singleton] at hlength
    cases j with
    | zero =>
      rw [List.take_zero, List.foldl_nil, storeDir_eq] at hq
      exact take_imagesRoot_ne d name hfile (imagesRoot d).length
        (by rw [List.take_length, storeDir_eq]; exact hq)
    | succ j =>
      rw [List.take_succ_cons, List.take_nil, List.foldl_cons, List.foldl_nil] at hlength
      omega
  · have hplain : Plain (safeImageName name) := by
      by_contra h
      exact hself (eq_safeImageName_of_not_plain h)
    have hnot : safeImageName name ∉ components name := fun h => hself (eq_safeImageName_of_mem h)
    have hstore : storeDir d name ++ [file] = imagesRoot d ++ [safeImageName name, file] := by
      rw [storeDir_eq, enter_plain hplain, List.append_assoc, List.singleton_append]
    split_ifs
    · intro hq
      have hmem := mem_drop_foldl_enter 0 (hway k) [] nofun (safeImageName name)
      rw [hq, hstore] at hmem
      exact hnot (hmem (by simp))
    · refine hbelow fun j hq => ?_
      have hmem := mem_drop_foldl_enter (imagesRoot d).length (hway j) (imagesRoot d) (by simp)
        (safeImageName name)
      rw [hq, hstore] at hmem
      exact hnot (hmem (by simp))

end Names

section Committed

variable {γ : Type} {disk : γ} {d : DataDir} {name : String} {t t' : FileTree γ}

/-- A commit does not change the files from which the image is started. -/
theorem Committed.nodes_rootfs (h : Committed disk (commitDir d name) t t') {file : String}
    (himages : file ≠ "images") (hroot : file ≠ "root.ext4")
    (hconfig : file ≠ "vyoma-config.json") :
    t'.nodes (storeDir d name ++ [file]) = t.nodes (storeDir d name ++ [file]) := by
  obtain ⟨t₁, t₂, config, hdirs, hdisk, hwrite⟩ := h.made
  have hother : ∀ {other : String}, file ≠ other →
      storeDir d name ++ [file] ≠ resolve (commitDir d name) ++ [other] := by
    intro other hne heq
    exact hne (List.singleton_inj.mp (List.append_inj' heq rfl).2)
  rw [FileTree.nodes_write hwrite, if_neg (hother hconfig), FileTree.nodes_write hdisk,
    if_neg (hother hroot)]
  obtain hsame | ⟨-, -, k, -, hq⟩ := FileTree.nodes_createDirs hdirs (FileTree.isDir_iff.mpr t.root)
    (storeDir d name ++ [file])
  · exact hsame
  · exact absurd hq.symm (commitDir_way_ne himages (k + 1))

/-- Nothing is in the way of the images directory, before a commit and after it. -/
def RootFree (d : DataDir) (name : String) (t : FileTree γ) : Prop :=
  ∀ k, (∀ content, t.nodes ((imagesRoot d).take k) ≠ some (.file content)) ∧
    (imagesRoot d).take k ≠ resolve (commitDir d name) ++ ["root.ext4"] ∧
    (imagesRoot d).take k ≠ resolve (commitDir d name) ++ ["vyoma-config.json"]

/-- A file after a commit was there before, or is one of its own. -/
theorem Committed.file_iff (h : Committed disk (commitDir d name) t t') (q : List String) :
    (∃ content, t'.nodes q = some (.file content)) ↔
      (∃ content, t.nodes q = some (.file content)) ∨
        q = resolve (commitDir d name) ++ ["root.ext4"] ∨
        q = resolve (commitDir d name) ++ ["vyoma-config.json"] := by
  obtain ⟨t₁, t₂, config, hdirs, hdisk, hwrite⟩ := h.made
  rw [FileTree.nodes_write hwrite]
  by_cases hconfig : q = resolve (commitDir d name) ++ ["vyoma-config.json"]
  · rw [if_pos hconfig]
    exact iff_of_true ⟨config, rfl⟩ (.inr (.inr hconfig))
  rw [if_neg hconfig, FileTree.nodes_write hdisk]
  by_cases hroot : q = resolve (commitDir d name) ++ ["root.ext4"]
  · rw [if_pos hroot]
    exact iff_of_true ⟨disk, rfl⟩ (.inr (.inl hroot))
  rw [if_neg hroot]
  obtain hsame | ⟨hnone, hdir, -⟩ :=
    FileTree.nodes_createDirs hdirs (FileTree.isDir_iff.mpr t.root) q
  · rw [hsame]
    simp only [hconfig, hroot, or_false]
  · rw [hnone, hdir]
    simp [hconfig, hroot]

theorem Committed.createDirs_iff (h : Committed disk (commitDir d name) t t') :
    (∃ t₁, t'.createDirs [] (imagesRoot d) = some t₁) ↔ RootFree d name t := by
  rw [← Option.isSome_iff_exists, FileTree.isSome_createDirs_iff (FileTree.isDir_iff.mpr t'.root)
    (plain_imagesRoot d)]
  refine forall_congr' fun k => ?_
  rw [List.nil_append]
  have hfile := h.file_iff ((imagesRoot d).take k)
  rw [← not_iff_not] at hfile
  simpa only [not_exists, not_or] using hfile

end Committed

/-! ## What the image is started from -/

section Ensure

variable {γ : Type} {d : DataDir} {name : String} {e : EnsureOutcome γ} {h : Host γ}

/-- The image is found without a registry, and its root file system is this disk. -/
def StartsFrom (d : DataDir) (name : String) (e : EnsureOutcome γ) (h : Host γ) (disk : γ) : Prop :=
  ∃ path h', (ensureImageLocally d name e).exec h = (.ok path, h') ∧
    h'.tree.find path = some (.file disk) ∧ h'.requests = h.requests

/-- The files of an image that hold a disk: the ext4 one, or if there is none the squashfs or
what it is converted to. -/
def Holds (e : EnsureOutcome γ) (ext4 sqfs : Option (Node γ)) (disk : γ) : Prop :=
  ext4 = some (.file disk) ∨
    ext4 = none ∧ sqfs.isSome = true ∧ e.converted = some disk ∨
    ext4 = none ∧ e.converted = none ∧ sqfs = some (.file disk)

/-- The requests that were made stay on record. -/
theorem frame_requests (n : ℕ) (store : List String) :
    Frame (fun s : Host γ => n < s.requests.length) store where
  touch _ _ hs := hs
  setTree _ _ hs := hs
  request _ _ hs := Nat.lt_succ_of_lt hs

theorem exists_result_iff {α : Type} {a : α} {h : Host γ} {P : α → Host γ → Prop} :
    (∃ b h', ((.ok a, h) : Except String α × Host γ) = (.ok b, h') ∧ P b h') ↔ P a h := by
  constructor
  · rintro ⟨b, h', heq, hP⟩
    cases heq
    exact hP
  · intro hP
    exact ⟨a, h, rfl, hP⟩

/-- An image that is not there is asked for at a registry. -/
theorem requests_pullImage {store : List String} {o : PullOutcome γ} {h h' : Host γ}
    (hok : (pullImage name store o).exec h = (.ok (), h')) :
    h.requests.length < h'.requests.length := by
  have hframe := frame_requests (γ := γ) h.requests.length store
  obtain ⟨_, h₁, hcreate, hrest⟩ := exec_bind_eq_ok_iff.mp hok
  obtain ⟨-, tree, -, rfl⟩ := createDirAll_eq_ok_iff.mp hcreate
  obtain ⟨_, h₂, hrequest, hrest'⟩ := exec_bind_eq_ok_iff.mp hrest
  cases hrequest
  exact (hframe.pullRest name o).of_exec (Nat.lt_succ_self _) hrest'

theorem startsFrom_iff {disk : γ} :
    StartsFrom d name e h disk ↔ e.createRoot = .ok () ∧
      (∃ tree, h.tree.createDirs [] (imagesRoot d) = some tree) ∧
      Holds e (h.tree.nodes (storeDir d name ++ ["rootfs.ext4"]))
        (h.tree.nodes (storeDir d name ++ ["rootfs.sqfs"])) disk := by
  by_cases hroot : e.createRoot = .ok () ∧
      ∃ tree, h.tree.createDirs [] (imagesRoot d) = some tree
  · obtain ⟨hcreate, tree, hmade⟩ := hroot
    rw [and_iff_right hcreate, and_iff_right ⟨tree, hmade⟩]
    obtain ⟨q, hensure⟩ := exec_ensureImageLocally name hcreate hmade
    have hwalk := walk_imageStorePath hmade name
    have hkept := nodes_createDirs_imagesRoot hmade name (show "rootfs.ext4" ≠ "images" by decide)
    have hkept' := nodes_createDirs_imagesRoot hmade name (show "rootfs.sqfs" ≠ "images" by decide)
    unfold StartsFrom
    rw [hensure]
    cases hext4 : h.tree.nodes (storeDir d name ++ ["rootfs.ext4"]) with
    | some node =>
      have hfound : tree.find (imageStorePath d name ++ ["rootfs.ext4"]) = some node := by
        rw [FileTree.find_append hwalk (by decide), hkept, hext4]
      obtain ⟨q', hnative⟩ := exec_nativeRootfs_ext4 (imageStorePath d name)
        { h with tree := tree, touched := q } e (by rw [hfound]; rfl)
      rw [Option.isSome_some, Bool.true_or, if_pos rfl, hnative, exists_result_iff]
      simp [Holds, hfound]
    | none =>
      cases hsqfs : h.tree.nodes (storeDir d name ++ ["rootfs.sqfs"]) with
      | some node =>
        obtain ⟨path, h', hnative, hrequests, hfound⟩ := exec_nativeRootfs_sqfs
          (h := { h with tree := tree, touched := q }) e hwalk (hkept.trans hext4)
          (hkept'.trans hsqfs)
        rw [Option.isSome_some, Bool.or_true, if_pos rfl, hnative, exists_result_iff, hfound]
        cases hconverted : e.converted with
        | none => simp [Holds, hconverted, hrequests]
        | some content => simp [Holds, hconverted, hrequests]
      | none =>
        refine iff_of_false ?_ (by simp [Holds])
        rintro ⟨path, h', hok, -, hrequests⟩
        obtain ⟨_, h₁, hpull, hnative⟩ := exec_bind_eq_ok_iff.mp hok
        have hpulled := requests_pullImage hpull
        have hgrown : Frame (fun s : Host γ => h.requests.length < s.requests.length)
            (imageStorePath d name) := frame_requests _ _
        have hmore := (hgrown.nativeRootfs e).of_exec hpulled hnative
        rw [hrequests] at hmore
        omega
  · refine iff_of_false ?_ fun hcond => hroot ⟨hcond.1, hcond.2.1⟩
    rintro ⟨path, h', hok, -⟩
    obtain ⟨_, h₁, hcreate, -⟩ := exec_bind_eq_ok_iff.mp hok
    obtain ⟨hok', tree, hmade, -⟩ := createDirAll_eq_ok_iff.mp hcreate
    exact hroot ⟨hok', tree, hmade⟩

end Ensure

/-- After a commit the image is started from the disk of the VM exactly if it was started
from the same disk before: a commit does not reach the files it is started from. -/
theorem committed_image_runs_iff {γ : Type} {state : Daemon} {devices : String → Except String γ}
    {d : DataDir} {vmId name message : String} {o : CommitOutcome γ} {h h' : Host γ}
    {vm : VmInstance} {disk : γ} (e : EnsureOutcome γ) (hvm : state.vms[vmId]? = some vm)
    (hdisk : devices ("/dev/mapper/" ++ vm.dmName) = .ok disk)
    (hok : (commitVm state devices d vmId name o).exec h = (.ok message, h')) :
    StartsFrom d name e h' disk ↔ e.createRoot = .ok () ∧ RootFree d name h.tree ∧
      Holds e (h.tree.nodes (storeDir d name ++ ["rootfs.ext4"]))
        (h.tree.nodes (storeDir d name ++ ["rootfs.sqfs"])) disk := by
  obtain ⟨hcommitted, -⟩ := commitVm_eq_ok hvm hdisk hok
  rw [startsFrom_iff, hcommitted.createDirs_iff,
    hcommitted.nodes_rootfs (by decide) (by decide) (by decide),
    hcommitted.nodes_rootfs (by decide) (by decide) (by decide)]

def vmDisk : List UInt8 := [0x53, 0xEF, 0x01]

def runningVm : VmInstance where
  id := "vm-1"
  status := .running
  chSocketPath := "/run/vyoma/vm-1.sock"
  dmName := "vyoma-vm-1"
  vcpu := 1
  memSizeMib := 512

def oneVm : Daemon :=
  { VmService.fresh with vms := (∅ : Std.ExtTreeMap String VmInstance).insert "vm-1" runningVm }

theorem oneVm_vms : oneVm.vms["vm-1"]? = some runningVm := Std.ExtTreeMap.getElem?_insert_self

def mapper (device : String) : Except String (List UInt8) :=
  if device = "/dev/mapper/vyoma-vm-1" then .ok vmDisk else .error noSuchFile

def smoothCommit : CommitOutcome (List UInt8) := ⟨.ok (), .done, .ok (), .ok (), .done [0x7B, 0x7D]⟩

/-- A commit to the name of an image that already holds the disk. -/
theorem committed_image_runs_again :
    StartsFrom homeDir "team/app:v1" smoothEnsure
      ((commitVm oneVm mapper homeDir "vm-1" "team/app:v1" smoothCommit).exec
        (hostWith homeDir "team/app:v1" vmDisk)).2 vmDisk := by
  have hok : ((commitVm oneVm mapper homeDir "vm-1" "team/app:v1" smoothCommit).exec
      (hostWith homeDir "team/app:v1" vmDisk)).1 =
      .ok "VM vm-1 committed to image team/app:v1" := by
    unfold commitVm
    rw [oneVm_vms]
    decide +kernel
  have hlength : (resolve (commitDir homeDir "team/app:v1")).length = 6 := by decide +kernel
  have hbelow : ∀ k file, (imagesRoot homeDir).take k ≠
      resolve (commitDir homeDir "team/app:v1") ++ [file] := by
    intro k file heq
    have hle := List.length_take_le' k (imagesRoot homeDir)
    rw [heq, List.length_append, hlength, List.length_singleton] at hle
    exact absurd hle (by decide)
  exact (committed_image_runs_iff smoothEnsure oneVm_vms (by decide) (Prod.ext hok rfl)).mpr
    ⟨rfl, fun k => ⟨nodes_take_hostWith homeDir "team/app:v1" vmDisk k, hbelow k _, hbelow k _⟩,
      .inl (nodes_hostWith homeDir "team/app:v1" vmDisk)⟩

/-- A commit of a VM to a new name leaves an image that is not found. -/
theorem committed_image_not_found :
    ((commitVm oneVm mapper homeDir "vm-1" "app" smoothCommit).exec
      (hostWith homeDir "alpine" [0x53, 0xEF])).1 = .ok "VM vm-1 committed to image app" ∧
    ¬ StartsFrom homeDir "app" smoothEnsure
      ((commitVm oneVm mapper homeDir "vm-1" "app" smoothCommit).exec
        (hostWith homeDir "alpine" [0x53, 0xEF])).2 vmDisk := by
  have hrun : ∃ x : Prog (Host (List UInt8)) String String,
      commitVm oneVm mapper homeDir "vm-1" "app" smoothCommit = x ∧
      (x.exec (hostWith homeDir "alpine" [0x53, 0xEF])).1 = .ok "VM vm-1 committed to image app" ∧
      (x.exec (hostWith homeDir "alpine" [0x53, 0xEF])).2.tree.nodes
        (storeDir homeDir "app" ++ ["rootfs.ext4"]) = none ∧
      (x.exec (hostWith homeDir "alpine" [0x53, 0xEF])).2.tree.nodes
        (storeDir homeDir "app" ++ ["rootfs.sqfs"]) = none := by
    unfold commitVm
    rw [oneVm_vms]
    exact ⟨_, rfl, by decide +kernel, by decide +kernel, by decide +kernel⟩
  obtain ⟨x, hx, hok, hext4, hsqfs⟩ := hrun
  rw [hx, startsFrom_iff, hext4, hsqfs]
  exact ⟨hok, fun h => by simp [Holds] at h⟩

end Vyoma.ImageStore
