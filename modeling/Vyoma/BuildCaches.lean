import Vyoma.CachedNames

/-!
# What a command of a build runs on

Several runners share a work directory, and their builds take turns. A `RUN` converts the
current root file system to an ext4 image, unless there is one already under the name that
belongs to its path. Neither a `COPY`, which rewrites the file behind the path, nor the
completion of an image looks at that name. The VM of a `RUN` powers off before its init
script writes the command to the disk, and runs the script that the tree holds already.
Beside each build stands the tree its next command should see. Commands see it in every run
in which no file is rewritten that was converted before or that another build stands on, and
in which every script that a VM finds does what the command would have done.
-/
namespace Vyoma.Build
open HostFiles Runs Prog

/-! ## What a build VM does -/

/-- The tree that an image file holds, if it is one, and the texts of the files in a tree. -/
structure Trees (γ τ : Type) where
  squashfs : γ → Option τ
  ext4 : γ → Option τ
  readFile : String → τ → Option String
  writeFile : String → String → τ → τ

section Boot

variable {γ τ : Type} (trees : Trees γ τ) (shell : String → τ → τ)

/-- A script in a tree, run by the shell of the tree. Without the script nothing happens. -/
def runScript (path : String) (tree : τ) : τ :=
  match trees.readFile path tree with
  | none => tree
  | some text => shell text tree

/-- What a VM with this init script leaves on a disk with this tree. -/
def boot : List InitLine → τ → τ
  | [], tree => tree
  | .prepare _ :: lines, tree => boot lines tree
  | .chroot script :: lines, tree => boot lines (runScript trees shell script tree)
  | .cat target text :: lines, tree => boot lines (trees.writeFile target text tree)
  | .poweroff :: _, tree => tree

/-- What comes after the first `poweroff` is never reached. -/
theorem boot_append_poweroff (lines rest : List InitLine) (tree : τ) :
    boot trees shell (lines ++ .poweroff :: rest) tree = boot trees shell lines tree := by
  induction lines generalizing tree with
  | nil => rfl
  | cons line lines ih => cases line <;> simp only [List.cons_append, boot, ih]

/-- The VM runs the script that is in the tree already, whatever the command. -/
theorem boot_buildInitScript (command : String) (tree : τ) :
    boot trees shell (buildInitScript command) tree =
      runScript trees shell "/vyoma-build.sh" tree :=
  -- ten lines that prepare the disk, and the first `chroot`
  boot_append_poweroff trees shell ((buildInitScript command).take 11) _ tree

/-- The script that is in the tree already does what the command would do. -/
def DoesCommand (command : String) (tree : τ) : Prop :=
  runScript trees shell "/vyoma-build.sh" tree = shell (buildScript command) tree

end Boot

/-! ## The runners and their builds -/

/-- The runners of one work directory, each with the build it is at. -/
structure Site (ρ γ τ : Type) where
  disk : Disk HostDir String γ
  ext4Cache : ρ → HashMap String HostPath
  progress : ρ → Option Progress
  expected : ρ → Option τ

/-- What one execution does to trees: the files that it copies, and the scripts that a shell
runs for it. -/
structure Effects (τ : Type) where
  copy : τ → τ
  shell : String → τ → τ

/-- A turn of one runner. -/
inductive BuildEvent (ρ γ τ : Type) where
  | start (i : ρ)
  | step (i : ρ) (step : Step γ) (effects : Effects τ)
  | finish (i : ρ) (imageName : String) (o : FinalizeOutcome γ)

section Model

variable {ρ γ τ : Type} [DecidableEq ρ]

/-- The runners share their work directory and differ in how they measure and sign. -/
def runnerAt (workDir : String) (settings : ρ → Bool × Option HostDir) (i : ρ) : BuildRunner :=
  ⟨workDir, (settings i).1, (settings i).2⟩

namespace Site

def work (s : Site ρ γ τ) (i : ρ) : Work γ := ⟨s.ext4Cache i, s.disk⟩

def setWork (s : Site ρ γ τ) (i : ρ) (w : Work γ) : Site ρ γ τ :=
  { s with disk := w.disk, ext4Cache := Function.update s.ext4Cache i w.ext4Cache }

def setProgress (s : Site ρ γ τ) (i : ρ) (p : Option Progress) : Site ρ γ τ :=
  { s with progress := Function.update s.progress i p }

def setExpected (s : Site ρ γ τ) (i : ρ) (tree : Option τ) : Site ρ γ τ :=
  { s with expected := Function.update s.expected i tree }

/-- The root file system the build of this runner stands on. -/
def rootfs (s : Site ρ γ τ) (i : ρ) : Option HostPath := (s.progress i).bind Progress.currentRootfs

/-- The tree in a squashfs file. -/
def treeAt (s : Site ρ γ τ) (trees : Trees γ τ) (p : HostPath) : Option τ :=
  (s.disk.files p).bind trees.squashfs

/-- The tree that belongs to a build after an instruction: that of the base image, with the
effects of the commands and copies since. -/
def expectedAfter (s : Site ρ γ τ) (trees : Trees γ τ) (i : ρ) (effects : Effects τ) :
    Step γ → Option τ
  | .«from» image => s.treeAt trees ⟨imageDir image, "rootfs.sqfs"⟩
  | .run command _ => (s.expected i).map (effects.shell (buildScript command))
  | .copy .. => (s.expected i).map effects.copy
  | _ => s.expected i

end Site

variable (workDir : String) (settings : ρ → Bool × Option HostDir) (trees : Trees γ τ)

def siteStep (s : Site ρ γ τ) : BuildEvent ρ γ τ → Site ρ γ τ
  | .start i => (s.setProgress i (some noProgress)).setExpected i none
  | .step i step effects =>
    match s.progress i with
    | none => s
    | some p =>
      match (processStep (runnerAt workDir settings i) p step).exec (s.work i) with
      | (.error _, w) => (s.setWork i w).setProgress i none
      | (.ok p', w) => ((s.setWork i w).setProgress i (some p')).setExpected i
          (s.expectedAfter trees i effects step)
  | .finish i imageName o =>
    match s.progress i with
    | none => s
    | some p =>
      match p.currentRootfs with
      | none => s.setProgress i none
      | some rootfs => (s.setWork i ((finalizeImage (runnerAt workDir settings i) rootfs imageName
          p.currentConfig o).exec (s.work i)).2).setProgress i none

/-- The state in which a `RUN` looks for its ext4 image: its build directory is there. -/
def atLookup (o : RunOutcome γ) (w : Work γ) : Work γ :=
  w.onDisk (Disk.createDir · (.build ("build-" ++ toString o.millis)))

/-- The content of the ext4 image that a `RUN` on this file uses. -/
def ext4Content (r : BuildRunner) (rootfs : HostPath) (o : RunOutcome γ) (w : Work γ) : Option γ :=
  match (ext4For r rootfs o).exec (atLookup o w) with
  | (.ok ext4, w') => w'.disk.files ext4
  | (.error _, _) => none

/-- The tools keep the tree in a conversion, and the new files hold what the VM or the copy
makes of it. -/
def ToolsWork (s : Site ρ γ τ) : BuildEvent ρ γ τ → Prop
  | .step i (.run command o) effects => ∀ rootfs, s.rootfs i = some rootfs →
      (∀ c, o.convert.left = some c → trees.ext4 c = s.treeAt trees rootfs) ∧
      ∀ c, o.layer = .done c → trees.squashfs c =
        ((ext4Content (runnerAt workDir settings i) rootfs o (s.work i)).bind trees.ext4).map
          (boot trees effects.shell (buildInitScript command))
  | .step i (.copy _ _ o) effects => ∀ rootfs, s.rootfs i = some rootfs →
      ∀ c, o.updated = some c → trees.squashfs c = (s.treeAt trees rootfs).map effects.copy
  | _ => True

/-- The image a command runs on holds the tree that belongs to its build. -/
def RunsOnExpected (s : Site ρ γ τ) : BuildEvent ρ γ τ → Prop
  | .step i (.run _ o) _ => ∀ rootfs, s.rootfs i = some rootfs → ∀ content,
      ext4Content (runnerAt workDir settings i) rootfs o (s.work i) = some content →
        trees.ext4 content = s.expected i
  | _ => True

/-- A root file system is written only while no conversion of it is cached and no other
build stands on it. Destinations stay in the unpacked tree, new layers have new names, and
image names are free of the character that the names of conversions do not keep apart. The
script that a VM finds does what its command would do. -/
def Undisturbed (s : Site ρ γ τ) : BuildEvent ρ γ τ → Prop
  | .step _ (.«from» image) _ => '\\' ∉ image.toList
  | .step i (.run command o) effects => ∀ rootfs, s.rootfs i = some rootfs →
      s.disk.files (layerPath o.nanos) = none ∧
      ∀ tree, s.treeAt trees rootfs = some tree → DoesCommand trees effects.shell command tree
  | .step i (.copy _ _ o) _ => ∀ rootfs, s.rootfs i = some rootfs →
      (o.injected.isSome = true → ∃ path, o.landing.dir = .other path) ∧
      (o.updated.isSome = true → s.disk.files (cachePath workDir rootfs) = none ∧
        ∀ j, j ≠ i → s.rootfs j ≠ some rootfs)
  | .finish i imageName _ => (s.rootfs i).isSome = true →
      s.disk.files (cachePath workDir ⟨imageDir imageName, "rootfs.sqfs"⟩) = none ∧
      ∀ j, j ≠ i → s.rootfs j ≠ some ⟨imageDir imageName, "rootfs.sqfs"⟩
  | _ => True

/-- A work directory before the first build. -/
def newSite (disk : Disk HostDir String γ) : Site ρ γ τ where
  disk := disk
  ext4Cache := fun _ => ∅
  progress := fun _ => none
  expected := fun _ => none

end Model

/-! ## The conversions that are there -/

section Conversions

variable {γ τ : Type} (workDir : String) (trees : Trees γ τ)

/-- Every conversion that a runner remembers is the one that belongs to the path. -/
def CachesOwn (ext4Cache : HashMap String HostPath) : Prop :=
  ∀ key path, ext4Cache.lookup key = some path → path = ext4PathOf key

/-- If there is a conversion of this file, it holds the tree of the file. -/
def Fresh (d : Disk HostDir String γ) (p : HostPath) : Prop :=
  ∀ c, d.files (cachePath workDir p) = some c →
    ∃ b, d.files p = some b ∧ trees.ext4 c = trees.squashfs b

/-- Since the disk was `d`, no root file system was rewritten except those that may be, and
those have no conversion. -/
structure Quiet (d : Disk HostDir String γ) (rewritten : HostPath → Prop) (w : Work γ) : Prop where
  caches : CachesOwn w.ext4Cache
  kept : ∀ q, IsRootfs q → ¬ rewritten q → w.disk.files q = d.files q
  fresh : ∀ q, IsRootfs q → Fresh workDir trees w.disk q
  unconverted : ∀ q, IsRootfs q → rewritten q → w.disk.files (cachePath workDir q) = none

variable {workDir trees} {d : Disk HostDir String γ} {rewritten : HostPath → Prop} {w w' : Work γ}

theorem cachesOwn_insert {m : HashMap String HostPath} (h : CachesOwn m) (key : String) :
    CachesOwn (m.insert key (ext4PathOf key)) := by
  intro key' path hpath
  rw [HashMap.lookup_insert] at hpath
  split_ifs at hpath with hkey
  · rw [← hkey]
    exact (Option.some.inj hpath).symm
  · exact h key' path hpath

/-- Work that leaves the conversions and the other root file systems alone. -/
theorem Quiet.of_files (h : Quiet workDir trees d rewritten w)
    (hcaches : w'.ext4Cache = w.ext4Cache)
    (hkept : ∀ q, IsRootfs q → ¬ rewritten q → w'.disk.files q = w.disk.files q)
    (hconv : ∀ q, IsRootfs q →
      w'.disk.files (cachePath workDir q) = w.disk.files (cachePath workDir q)) :
    Quiet workDir trees d rewritten w' where
  caches := by
    rw [hcaches]
    exact h.caches
  kept q hq hrw := (hkept q hq hrw).trans (h.kept q hq hrw)
  fresh q hq := by
    intro c hc
    rw [hconv q hq] at hc
    by_cases hrw : rewritten q
    · rw [h.unconverted q hq hrw] at hc
      cases hc
    · rw [hkept q hq hrw]
      exact h.fresh q hq c hc
  unconverted q hq hrw := (hconv q hq).trans (h.unconverted q hq hrw)

theorem Quiet.write {t : HostPath} (h : Quiet workDir trees d rewritten w)
    (ht : Spare rewritten t) (c : γ) :
    Quiet workDir trees d rewritten (w.onDisk (Disk.write · t c)) :=
  h.of_files rfl (fun q hq hrw => if_neg (ht.1 q hq hrw)) fun _ _ => if_neg (ht.2 _)

theorem Quiet.createDir (h : Quiet workDir trees d rewritten w) (dir : HostDir) :
    Quiet workDir trees d rewritten (w.onDisk (Disk.createDir · dir)) :=
  h.of_files rfl (fun _ _ _ => rfl) fun _ _ => rfl

theorem Quiet.removeDir (h : Quiet workDir trees d rewritten w) (id : String) :
    Quiet workDir trees d rewritten (w.onDisk (Disk.removeDir · (.build id))) := by
  refine h.of_files rfl (fun q hq _ => if_neg fun he => ?_) fun q _ => ?_
  · exact (dir_ne_of_isRootfs hq).2.1 id he.symm
  · have hdir : HostDir.build id ≠ (cachePath workDir q).dir := nofun
    exact (w.disk.files_removeDir _ _).trans (if_neg hdir)

theorem Quiet.rename {t : HostPath} (h : Quiet workDir trees d rewritten w)
    (ht : Spare rewritten t) (id file : String) :
    Quiet workDir trees d rewritten (w.onDisk (Disk.rename · ⟨.build id, file⟩ t)) := by
  have hsource : Spare rewritten ⟨.build id, file⟩ := spare_build id file
  cases hfile : w.disk.files ⟨.build id, file⟩ with
  | none =>
    have hsame : w.disk.rename ⟨.build id, file⟩ t = w.disk := by simp [Disk.rename, hfile]
    exact h.of_files rfl (fun q _ _ => by simp only [Work.onDisk, hsame])
      fun _ _ => by simp only [Work.onDisk, hsame]
  | some content =>
    have hrename := Disk.files_rename hfile t
    refine h.of_files rfl (fun q hq hrw => ?_) fun q hq => ?_
    · exact (hrename q).trans ((if_neg (ht.1 q hq hrw)).trans (if_neg (hsource.1 q hq hrw)))
    · exact (hrename _).trans ((if_neg (ht.2 _)).trans (if_neg (hsource.2 _)))

/-- A `RUN` on a root file system with a good conversion rewrites its own layer only. -/
theorem runFrame_quiet {rootfs : HostPath} {o : RunOutcome γ} {b : γ} (hroot : IsRootfs rootfs)
    (hne : rootfs ≠ layerPath o.nanos) (hb : d.files rootfs = some b)
    (hconvert : ∀ c, o.convert.left = some c → trees.ext4 c = trees.squashfs b) :
    RunFrame (Quiet workDir trees d (· = layerPath o.nanos))
      (BuildRunner.display ⟨workDir, false, none⟩ rootfs) o where
  createDir w dir h := h.createDir dir
  writeLayer w id c h := h.write (spare_build id _) c
  removeDir w id h := h.removeDir id
  rename w id h := h.rename (spare_of_rewritten rfl nofun) id _
  remember w h := ⟨cachesOwn_insert h.caches _, h.kept, h.fresh, h.unconverted⟩
  writeInitramfs w c h := h.write (spare_of_getLast (by decide) (by decide)) c
  convert w c hc h := by
    have hfile : ∀ q, IsRootfs q → cachePath workDir rootfs ≠ q :=
      fun q hq he => (dir_ne_of_isRootfs hq).1 (congrArg Path.dir he).symm
    have hother : ∀ q, IsRootfs q → q ≠ rootfs → cachePath workDir rootfs ≠ cachePath workDir q :=
      fun q hq hq' he => hq' (cachePath_injective hroot hq he).symm
    have hwrite : ∀ q, (w.disk.write (cachePath workDir rootfs) c).files q =
        if cachePath workDir rootfs = q then some c else w.disk.files q :=
      fun q => w.disk.files_write _ q c
    refine ⟨h.caches, fun q hq hrw => ?_, fun q hq c' hc' => ?_, fun q hq hrw => ?_⟩
    · exact (hwrite q).trans ((if_neg (hfile q hq)).trans (h.kept q hq hrw))
    · have hc'' := (hwrite _).symm.trans hc'
      by_cases hq' : q = rootfs
      · rw [hq', if_pos rfl] at hc''
        obtain rfl := Option.some.inj hc''
        have hbase := (hwrite rootfs).trans (if_neg (hfile rootfs hroot))
        rw [hq']
        exact ⟨b, hbase.trans ((h.kept rootfs hroot hne).trans hb), hconvert c hc⟩
      · rw [if_neg (hother q hq hq')] at hc''
        obtain ⟨b', hb', htree⟩ := h.fresh q hq c' hc''
        exact ⟨b', (hwrite q).trans ((if_neg (hfile q hq)).trans hb'), htree⟩
    · have hq' : q ≠ rootfs := fun he => hne (he.symm.trans hrw)
      exact (hwrite _).trans ((if_neg (hother q hq hq')).trans (h.unconverted q hq hrw))

end Conversions

/-! ## What a step that succeeds leaves -/

section Results

variable {γ : Type} {r : BuildRunner} {w w' : Work γ}

theorem createDirAll_ok {wrap : String → BuildError} {dir : HostDir} {result : Except String Unit}
    {u : Unit} (h : (createDirAll wrap dir result).exec w = (.ok u, w')) :
    w' = w.onDisk (Disk.createDir · dir) := by
  obtain ⟨_, v, hresult, hdir⟩ := exec_bind_eq_ok_iff.mp h
  have hv : v = w := (congrArg Prod.snd hresult).symm
  rw [← hv]
  exact (congrArg Prod.snd hdir).symm

theorem writeFile_ok {wrap : String → BuildError} {p : HostPath} {written : Written γ} {u : Unit}
    (h : (writeFile wrap p written).exec w = (.ok u, w')) :
    ∃ c, written = .done c ∧ w' = w.onDisk (Disk.write · p c) := by
  obtain ⟨_, v, hleave, hanswer⟩ := exec_bind_eq_ok_iff.mp h
  cases hleave
  cases written with
  | refused e => cases hanswer
  | broken e left => cases hanswer
  | done c =>
    cases hanswer
    exact ⟨c, rfl, rfl⟩

theorem isThere_ok {p : HostPath} {b : Bool} (h : (isThere p).exec w = (.ok b, w')) :
    b = (w.disk.files p).isSome ∧ w' = w := by
  cases h
  exact ⟨rfl, rfl⟩

theorem createCachedExt4_ok {cacheKey : String} {o : RunOutcome γ} {ext4 : HostPath}
    (h : (createCachedExt4 cacheKey o).exec w = (.ok ext4, w')) :
    ext4 = ext4PathOf cacheKey ∧ (w'.disk.files ext4).isSome = true := by
  obtain ⟨_, v, -, h⟩ := exec_bind_eq_ok_iff.mp h
  obtain ⟨there, v₁, hthere, h⟩ := exec_bind_eq_ok_iff.mp h
  obtain ⟨hthere, rfl⟩ := isThere_ok hthere
  cases there with
  | true =>
    cases h
    exact ⟨rfl, hthere.symm⟩
  | false =>
    obtain ⟨_, v₂, hwrite, h⟩ := exec_bind_eq_ok_iff.mp h
    obtain ⟨c, -, rfl⟩ := writeFile_ok hwrite
    obtain ⟨_, v₃, hinsert, h⟩ := exec_bind_eq_ok_iff.mp h
    cases hinsert
    cases h
    refine ⟨rfl, ?_⟩
    simp [Work.onDisk]

/-- A `RUN` uses the image under the name of its root file system. -/
theorem ext4For_ok {baseSquashfs : HostPath} {o : RunOutcome γ} {ext4 : HostPath}
    (hcaches : CachesOwn w.ext4Cache)
    (h : (ext4For r baseSquashfs o).exec w = (.ok ext4, w')) :
    ext4 = ext4PathOf (r.display baseSquashfs) ∧ (w'.disk.files ext4).isSome = true := by
  obtain ⟨cached, v, hcached, h⟩ := exec_bind_eq_ok_iff.mp h
  have hlookup : w.ext4Cache.lookup (r.display baseSquashfs) = cached :=
    Except.ok.inj (congrArg Prod.fst hcached)
  obtain rfl : w = v := congrArg Prod.snd hcached
  cases cached with
  | none => exact createCachedExt4_ok h
  | some cachedExt4 =>
    obtain ⟨there, v₁, hthere, h⟩ := exec_bind_eq_ok_iff.mp h
    obtain ⟨hthere, rfl⟩ := isThere_ok hthere
    cases there with
    | true =>
      cases h
      exact ⟨hcaches _ _ hlookup, hthere.symm⟩
    | false => exact createCachedExt4_ok h

theorem executeBuildInVm_ok {baseSquashfs layer : HostPath} {command : String}
    {buildDir : HostDir} {o : RunOutcome γ}
    (h : (executeBuildInVm r baseSquashfs command buildDir o).exec w = (.ok layer, w')) :
    layer = ⟨buildDir, "layer.sqfs"⟩ ∧
      (∃ ext4 v, (ext4For r baseSquashfs o).exec w = (.ok ext4, v)) ∧
      ∃ c, o.layer = .done c ∧ w'.disk.files layer = some c := by
  obtain ⟨ext4, v, hext4, h⟩ := exec_bind_eq_ok_iff.mp h
  obtain ⟨_, v₁, -, h⟩ := exec_bind_eq_ok_iff.mp h
  obtain ⟨code, v₂, -, h⟩ := exec_bind_eq_ok_iff.mp h
  split_ifs at h
  · obtain ⟨_, v₃, hlayer, h⟩ := exec_bind_eq_ok_iff.mp h
    obtain ⟨c, hc, rfl⟩ := writeFile_ok hlayer
    cases h
    refine ⟨rfl, ⟨ext4, v, hext4⟩, c, hc, ?_⟩
    simp [Work.onDisk]
  · cases h
  · cases h

/-- A `RUN` that succeeds moves the build to its new layer. -/
theorem handleRun_ok {rootfs newRootfs : HostPath} {command : String} {o : RunOutcome γ}
    (h : (handleRun r rootfs command o).exec w = (.ok newRootfs, w')) :
    newRootfs = layerPath o.nanos ∧
      (∃ ext4 v, (ext4For r rootfs o).exec (atLookup o w) = (.ok ext4, v)) ∧
      ∃ c, o.layer = .done c ∧ w'.disk.files newRootfs = some c := by
  obtain ⟨_, v, hdir, h⟩ := exec_bind_eq_ok_iff.mp h
  obtain rfl := createDirAll_ok hdir
  obtain ⟨result, v₁, hresult, h⟩ := exec_bind_eq_ok_iff.mp h
  rw [exec_attempt] at hresult
  obtain ⟨hanswer, rfl⟩ := Prod.mk.inj hresult
  cases result with
  | error e =>
    obtain ⟨_, v₂, -, h⟩ := exec_bind_eq_ok_iff.mp h
    cases h
  | ok layer =>
    obtain ⟨rfl, hext4, c, hc, hfile⟩ := executeBuildInVm_ok (Prod.ext (Except.ok.inj hanswer) rfl)
    cases hrename : o.rename with
    | error e =>
      rw [hrename] at h
      obtain ⟨_, v₂, -, h⟩ := exec_bind_eq_ok_iff.mp h
      cases h
    | ok _ =>
      rw [hrename] at h
      obtain ⟨_, v₂, hmove, h⟩ := exec_bind_eq_ok_iff.mp h
      obtain ⟨_, v₃, hclean, h⟩ := exec_bind_eq_ok_iff.mp h
      cases hmove
      cases hclean
      cases h
      refine ⟨rfl, hext4, c, hc, ?_⟩
      have hmoved := (Disk.files_rename hfile (layerPath o.nanos) (layerPath o.nanos)).trans
        (if_pos rfl)
      cases o.removeDir with
      | true => exact hmoved
      | false => exact hmoved

/-- A `COPY` that succeeds has updated the current root file system. -/
theorem handleCopy_ok {rootfs : HostPath} {src : String} {o : CopyOutcome γ} {u : Unit}
    (h : (handleCopy rootfs src o).exec w = (.ok u, w')) : ∃ c, o.updated = some c := by
  obtain ⟨createTempDir, extract, srcExists, landing, createParent, inject, seconds,
    createSquashfs, update⟩ := o
  cases createTempDir with
  | error e => cases h
  | ok _ =>
    cases extract with
    | error e => cases h
    | ok _ =>
      cases srcExists with
      | false => cases h
      | true =>
        cases createParent with
        | error e => cases h
        | ok _ =>
          cases inject with
          | refused e => cases h
          | broken e left => cases h
          | done content =>
            cases createSquashfs with
            | refused e => cases h
            | broken e left => cases h
            | done squashfs =>
              cases update with
              | refused e => cases h
              | broken e left => cases h
              | done => exact ⟨squashfs, rfl⟩

theorem handleFrom_ok {image : String} {rootfs : HostPath}
    (h : (handleFrom r image).exec w = (.ok rootfs, w')) :
    rootfs = ⟨imageDir image, "rootfs.sqfs"⟩ ∧ (w'.disk.files rootfs).isSome = true := by
  obtain ⟨there, v, hthere, h⟩ := exec_bind_eq_ok_iff.mp h
  obtain ⟨hthere, rfl⟩ := isThere_ok hthere
  cases there with
  | true =>
    cases h
    exact ⟨rfl, hthere.symm⟩
  | false => cases h

end Results

/-! ## What every turn keeps -/

section Turns

variable {ρ γ τ : Type}

/-- Every runner remembers its own conversions, every conversion holds the tree of its file,
and every build stands on a file with the tree that belongs to it. -/
structure Consistent (workDir : String) (trees : Trees γ τ) (s : Site ρ γ τ) : Prop where
  caches : ∀ i, CachesOwn (s.ext4Cache i)
  fresh : ∀ p, IsRootfs p → Fresh workDir trees s.disk p
  current : ∀ i p, s.rootfs i = some p → IsRootfs p ∧
    ∃ b, s.disk.files p = some b ∧ trees.squashfs b = s.expected i

variable {workDir : String} {settings : ρ → Bool × Option HostDir} {trees : Trees γ τ}
  {s : Site ρ γ τ} {i : ρ} {rewritten : HostPath → Prop}

theorem Consistent.quiet (h : Consistent workDir trees s) (rewritten : HostPath → Prop)
    (hfree : ∀ q, IsRootfs q → rewritten q → s.disk.files (cachePath workDir q) = none) (i : ρ) :
    Quiet workDir trees s.disk rewritten (s.work i) where
  caches := h.caches i
  kept _ _ _ := rfl
  fresh := h.fresh
  unconverted := hfree

variable [DecidableEq ρ]

/-- A turn that rewrites no file of another build. -/
theorem Consistent.move {w : Work γ} {p : Option Progress} {tree : Option τ}
    (h : Consistent workDir trees s) (hw : Quiet workDir trees s.disk rewritten w)
    (hothers : ∀ j, j ≠ i → ∀ q, s.rootfs j = some q → ¬ rewritten q)
    (hcurrent : ∀ q, p.bind Progress.currentRootfs = some q → IsRootfs q ∧
      ∃ b, w.disk.files q = some b ∧ trees.squashfs b = tree) :
    Consistent workDir trees (((s.setWork i w).setProgress i p).setExpected i tree) where
  caches j := by
    by_cases hj : j = i
    · simpa [Site.setWork, Site.setProgress, Site.setExpected, hj] using hw.caches
    · simpa [Site.setWork, Site.setProgress, Site.setExpected, hj] using h.caches j
  fresh := hw.fresh
  current j q hq := by
    by_cases hj : j = i
    · subst hj
      simp only [Site.rootfs, Site.setExpected, Site.setProgress, Function.update_self] at hq ⊢
      exact hcurrent q hq
    · simp only [Site.rootfs, Site.setExpected, Site.setProgress, Site.setWork,
        Function.update_of_ne hj] at hq ⊢
      obtain ⟨hroot, b, hb, htree⟩ := h.current j q hq
      exact ⟨hroot, b, (hw.kept q hroot (hothers j hj q hq)).trans hb, htree⟩

/-- The end of a build, successful or not. -/
theorem Consistent.stop {w : Work γ} (h : Consistent workDir trees s)
    (rewritten : HostPath → Prop) (hw : Quiet workDir trees s.disk rewritten w)
    (hothers : ∀ j, j ≠ i → ∀ q, s.rootfs j = some q → ¬ rewritten q) :
    Consistent workDir trees ((s.setWork i w).setProgress i none) := by
  have hexpected : (s.setWork i w).setProgress i none =
      ((s.setWork i w).setProgress i none).setExpected i (s.expected i) := by
    simp [Site.setExpected, Site.setProgress, Site.setWork]
  rw [hexpected]
  exact h.move hw hothers nofun

theorem Consistent.start (h : Consistent workDir trees s) (i : ρ) :
    Consistent workDir trees ((s.setProgress i (some noProgress)).setExpected i none) := by
  have hwork : s = s.setWork i (s.work i) := by simp [Site.setWork, Site.work]
  have hquiet : Quiet workDir trees s.disk (fun _ => False) (s.work i) :=
    h.quiet _ (fun _ _ hfalse => hfalse.elim) i
  have hmove : Consistent workDir trees (((s.setWork i (s.work i)).setProgress i
      (some noProgress)).setExpected i none) :=
    h.move hquiet (fun _ _ _ _ hfalse => hfalse) nofun
  rw [← hwork] at hmove
  exact hmove

/-- Without a build there is nothing to do. -/
theorem Consistent.turn {step : Step γ} {effects : Effects τ} (h : Consistent workDir trees s)
    (hbuild : ∀ p, s.progress i = some p →
      Consistent workDir trees (siteStep workDir settings trees s (.step i step effects))) :
    Consistent workDir trees (siteStep workDir settings trees s (.step i step effects)) := by
  cases hp : s.progress i with
  | none => simpa only [siteStep, hp] using h
  | some p => exact hbuild p hp

/-- An instruction that rewrites no file of another build, and leaves its own build on a
file with the tree that belongs to it. -/
theorem Consistent.step {p : Progress} {step : Step γ} {effects : Effects τ}
    (h : Consistent workDir trees s) (hp : s.progress i = some p) (rewritten : HostPath → Prop)
    (hw : Quiet workDir trees s.disk rewritten
      ((processStep (runnerAt workDir settings i) p step).exec (s.work i)).2)
    (hothers : ∀ j, j ≠ i → ∀ q, s.rootfs j = some q → ¬ rewritten q)
    (hcurrent : ∀ p' w, (processStep (runnerAt workDir settings i) p step).exec (s.work i) =
      (.ok p', w) → ∀ q, p'.currentRootfs = some q → IsRootfs q ∧
        ∃ b, w.disk.files q = some b ∧ trees.squashfs b = s.expectedAfter trees i effects step) :
    Consistent workDir trees (siteStep workDir settings trees s (.step i step effects)) := by
  simp only [siteStep, hp]
  generalize (processStep (runnerAt workDir settings i) p step).exec (s.work i) = out at hw hcurrent
  obtain ⟨result, w⟩ := out
  cases result with
  | error e => exact h.stop rewritten hw hothers
  | ok p' => exact h.move hw hothers (hcurrent p' w rfl)

/-- An instruction that touches no file. -/
theorem Consistent.idle {p : Progress} {step : Step γ} {effects : Effects τ}
    (h : Consistent workDir trees s) (hp : s.progress i = some p)
    (hsame : ((processStep (runnerAt workDir settings i) p step).exec (s.work i)).2 = s.work i)
    (hcurrent : ∀ p', ((processStep (runnerAt workDir settings i) p step).exec (s.work i)).1 =
      .ok p' → ∀ q, p'.currentRootfs = some q → IsRootfs q ∧
        ∃ b, s.disk.files q = some b ∧ trees.squashfs b = s.expectedAfter trees i effects step) :
    Consistent workDir trees (siteStep workDir settings trees s (.step i step effects)) := by
  refine h.step hp (fun _ => False) ?_ (fun _ _ _ _ hfalse => hfalse) fun p' w hok q hq => ?_
  · rw [hsame]
    exact h.quiet _ (fun _ _ hfalse => hfalse.elim) i
  · rw [hok] at hsame hcurrent
    obtain rfl : w = s.work i := hsame
    exact hcurrent p' rfl q hq

/-- An instruction that is refused. -/
theorem Consistent.refused {p : Progress} {step : Step γ} {effects : Effects τ} {e : BuildError}
    (h : Consistent workDir trees s) (hp : s.progress i = some p)
    (hfail : (processStep (runnerAt workDir settings i) p step).exec (s.work i) =
      (.error e, s.work i)) :
    Consistent workDir trees (siteStep workDir settings trees s (.step i step effects)) := by
  refine h.idle hp (congrArg Prod.snd hfail) fun p' hok => ?_
  rw [hfail] at hok
  cases hok

end Turns

/-! ## The instructions one by one -/

section Instructions

variable {ρ γ τ : Type} {workDir : String}
  {settings : ρ → Bool × Option HostDir} {trees : Trees γ τ} {s : Site ρ γ τ} {i : ρ}

theorem Site.rootfs_eq_some {p : Progress} {rootfs : HostPath} (hp : s.progress i = some p)
    (hroot : p.currentRootfs = some rootfs) : s.rootfs i = some rootfs := by
  simp [Site.rootfs, hp, hroot]

theorem Consistent.treeAt_rootfs {rootfs : HostPath} (h : Consistent workDir trees s)
    (hroot : s.rootfs i = some rootfs) : s.treeAt trees rootfs = s.expected i := by
  obtain ⟨-, b, hb, htree⟩ := h.current i rootfs hroot
  simp [Site.treeAt, hb, htree]

/-- A file that does not exist was not converted and is nobody's root file system. -/
theorem Consistent.newLayer (h : Consistent workDir trees s) {p : HostPath}
    (hnew : s.disk.files p = none) :
    (∀ q, IsRootfs q → q = p → s.disk.files (cachePath workDir q) = none) ∧
      ∀ j q, s.rootfs j = some q → q ≠ p := by
  constructor
  · intro q hq hqp
    cases hc : s.disk.files (cachePath workDir q) with
    | none => rfl
    | some c =>
      obtain ⟨b, hb, -⟩ := h.fresh q hq c hc
      rw [hqp, hnew] at hb
      cases hb
  · intro j q hj hqp
    obtain ⟨-, b, hb, -⟩ := h.current j q hj
    rw [hqp, hnew] at hb
    cases hb

section Run

variable {rootfs : HostPath} {o : RunOutcome γ}

theorem Consistent.runFrame (h : Consistent workDir trees s) (hroot : s.rootfs i = some rootfs)
    (hconvert : ∀ c, o.convert.left = some c → trees.ext4 c = s.treeAt trees rootfs)
    (hnew : s.disk.files (layerPath o.nanos) = none) :
    RunFrame (Quiet workDir trees s.disk (· = layerPath o.nanos))
      ((runnerAt workDir settings i).display rootfs) o := by
  obtain ⟨hrootfs, b, hb, -⟩ := h.current i rootfs hroot
  refine runFrame_quiet hrootfs ((h.newLayer hnew).2 i rootfs hroot) hb fun c hc => ?_
  rw [hconvert c hc, Site.treeAt, hb]
  rfl

/-- The image a `RUN` uses exists and holds the tree that belongs to the build. -/
theorem Consistent.ext4Content (h : Consistent workDir trees s)
    (hroot : s.rootfs i = some rootfs)
    (hconvert : ∀ c, o.convert.left = some c → trees.ext4 c = s.treeAt trees rootfs)
    (hnew : s.disk.files (layerPath o.nanos) = none) {ext4 : HostPath} {w : Work γ}
    (hext4 : (ext4For (runnerAt workDir settings i) rootfs o).exec (atLookup o (s.work i)) =
      (.ok ext4, w)) :
    ∃ c, w.disk.files ext4 = some c ∧ trees.ext4 c = s.expected i := by
  have hquiet : Quiet workDir trees s.disk (· = layerPath o.nanos) (atLookup o (s.work i)) :=
    (h.quiet _ (h.newLayer hnew).1 i).createDir _
  have hframe : RunFrame (Quiet workDir trees s.disk (· = layerPath o.nanos))
      ((runnerAt workDir settings i).display rootfs) o := h.runFrame hroot hconvert hnew
  have hafter := keeps_ext4For hframe _ hquiet
  rw [hext4] at hafter
  obtain ⟨hrootfs, b, hb, htree⟩ := h.current i rootfs hroot
  obtain ⟨hpath, hthere⟩ := ext4For_ok hquiet.caches hext4
  obtain ⟨c, hc⟩ := Option.isSome_iff_exists.mp hthere
  have hcached : w.disk.files (cachePath workDir rootfs) = some c := by
    rw [← hc, hpath]
    rfl
  obtain ⟨b', hb', hc'⟩ := hafter.fresh rootfs hrootfs c hcached
  have hsame := hafter.kept rootfs hrootfs ((h.newLayer hnew).2 i rootfs hroot)
  obtain rfl : b' = b := Option.some.inj (hb'.symm.trans (hsame.trans hb))
  exact ⟨c, hc, hc'.trans htree⟩

/-- A `RUN` that succeeds leaves its build on a layer with the effect of the command, if the
script in the tree has it. -/
theorem Consistent.tree_of_run {command : String} {effects : Effects τ}
    (h : Consistent workDir trees s) (hroot : s.rootfs i = some rootfs)
    (hw : ToolsWork workDir settings trees s (.step i (.run command o) effects))
    (hu : Undisturbed workDir trees s (.step i (.run command o) effects)) {newRootfs : HostPath}
    {w : Work γ} (hrun : (handleRun (runnerAt workDir settings i) rootfs command o).exec
      (s.work i) = (.ok newRootfs, w)) :
    IsRootfs newRootfs ∧ ∃ b, w.disk.files newRootfs = some b ∧
      trees.squashfs b = (s.expected i).map (effects.shell (buildScript command)) := by
  obtain ⟨hnew, hdoes⟩ := hu rootfs hroot
  obtain ⟨hconvert, hlayer⟩ := hw rootfs hroot
  obtain ⟨rfl, ⟨ext4, v, hext4⟩, b, hb, hfile⟩ := handleRun_ok hrun
  obtain ⟨content, hcontent, htree⟩ := h.ext4Content hroot hconvert hnew hext4
  have hused : Build.ext4Content (runnerAt workDir settings i) rootfs o (s.work i) =
      some content := by
    unfold Build.ext4Content
    rw [hext4]
    exact hcontent
  refine ⟨.layer o.nanos, b, hfile, ?_⟩
  rw [hlayer b hb, hused, Option.bind_some, htree]
  refine Option.map_congr fun tree hexpected => ?_
  rw [boot_buildInitScript]
  exact hdoes tree ((h.treeAt_rootfs hroot).trans hexpected)

end Run

theorem runsOnExpected_of_consistent (h : Consistent workDir trees s) (e : BuildEvent ρ γ τ)
    (hw : ToolsWork workDir settings trees s e) (hu : Undisturbed workDir trees s e) :
    RunsOnExpected workDir settings trees s e := by
  cases e with
  | start i => exact trivial
  | finish i imageName o => exact trivial
  | step i step effects =>
    cases step with
    | run command o =>
      intro rootfs hroot content hcontent
      obtain ⟨hnew, -⟩ := hu rootfs hroot
      unfold ext4Content at hcontent
      split at hcontent
      · rename_i ext4 w hext4
        obtain ⟨c, hc, htree⟩ := h.ext4Content hroot (hw rootfs hroot).1 hnew hext4
        obtain rfl : c = content := Option.some.inj (hc.symm.trans hcontent)
        exact htree
      · cases hcontent
    | _ => exact trivial

variable [DecidableEq ρ]

theorem consistent_run {command : String} {o : RunOutcome γ} {effects : Effects τ}
    (h : Consistent workDir trees s)
    (hw : ToolsWork workDir settings trees s (.step i (.run command o) effects))
    (hu : Undisturbed workDir trees s (.step i (.run command o) effects)) :
    Consistent workDir trees
      (siteStep workDir settings trees s (.step i (.run command o) effects)) := by
  refine h.turn fun p hp => ?_
  cases hcurrent : p.currentRootfs with
  | none =>
    have hfail : (processStep (runnerAt workDir settings i) p (.run command o)).exec (s.work i) =
        (.error (.executionError "RUN instruction without FROM"), s.work i) := by
      simp only [processStep, hcurrent]
      rfl
    exact h.refused hp hfail
  | some rootfs =>
    have hroot := Site.rootfs_eq_some hp hcurrent
    obtain ⟨hnew, -⟩ := hu rootfs hroot
    obtain ⟨hfree, hothers⟩ := h.newLayer hnew
    have hstep : processStep (runnerAt workDir settings i) p (.run command o) =
        handleRun (runnerAt workDir settings i) rootfs command o >>= fun newRootfs =>
          pure { p with currentRootfs := some newRootfs } := by
      simp only [processStep, hcurrent]
    refine h.step hp (· = layerPath o.nanos) ?_ (fun j _ q hq => hothers j q hq) ?_
    · rw [hstep, exec_bind_pure]
      exact keeps_handleRun (h.runFrame hroot (hw rootfs hroot).1 hnew) command _
        (h.quiet _ hfree i)
    · intro p' w hok q hq
      rw [hstep] at hok
      obtain ⟨newRootfs, v, hrun, hpure⟩ := exec_bind_eq_ok_iff.mp hok
      cases hpure
      obtain rfl := Option.some.inj hq
      exact h.tree_of_run hroot hw hu hrun

/-- A copy whose destination stays in the unpacked tree. -/
theorem quiet_handleCopy {d : Disk HostDir String γ} {rewritten : HostPath → Prop} {w : Work γ}
    {rootfs : HostPath} {o : CopyOutcome γ} (h : Quiet workDir trees d rewritten w)
    (hroot : IsRootfs rootfs) (hrw : o.updated.isSome = true → rewritten rootfs)
    (hlanding : o.injected.isSome = true → ∃ path, o.landing.dir = .other path) (src : String) :
    Quiet workDir trees d rewritten ((handleCopy rootfs src o).exec w).2 := by
  have hcaches : Keeps (fun v : Work γ => v.ext4Cache = w.ext4Cache) (handleCopy rootfs src o) := by
    refine (keeps_answer _).bind fun _ => (keeps_answer _).bind fun _ => .ite ?_ (keeps_throw _)
    exact (keeps_createDirAll (fun _ hv => hv) _ _).bind fun _ =>
      (keeps_writeFile (fun _ _ _ hv => hv) _).bind fun _ =>
      (keeps_writeFile (fun _ _ _ hv => hv) _).bind fun _ => keeps_copyFile (fun _ _ hv => hv) _ _ _
  refine h.of_files (hcaches w rfl) (fun q hq hnot => ?_) fun q hq => ?_
  · rw [files_handleCopy rootfs src o w (newSquashfsPath_ne o hq), files_leave_of_ne,
      files_leave_of_ne]
    · intro hin he
      obtain ⟨path, hpath⟩ := hlanding hin
      exact (dir_ne_of_isRootfs hq).2.2 path (he ▸ hpath)
    · exact fun hup he => hnot (he ▸ hrw hup)
  · have hlayer : o.newSquashfsPath ≠ cachePath workDir q := fun he => nomatch congrArg Path.dir he
    rw [files_handleCopy rootfs src o w hlayer, files_leave_of_ne, files_leave_of_ne]
    · intro hin he
      obtain ⟨path, hpath⟩ := hlanding hin
      rw [he] at hpath
      cases hpath
    · exact fun _ he => (dir_ne_of_isRootfs hroot).1 (congrArg Path.dir he)

theorem consistent_copy {src dst : String} {o : CopyOutcome γ} {effects : Effects τ}
    (h : Consistent workDir trees s)
    (hw : ToolsWork workDir settings trees s (.step i (.copy src dst o) effects))
    (hu : Undisturbed workDir trees s (.step i (.copy src dst o) effects)) :
    Consistent workDir trees
      (siteStep workDir settings trees s (.step i (.copy src dst o) effects)) := by
  refine h.turn fun p hp => ?_
  cases hcurrent : p.currentRootfs with
  | none =>
    have hfail : (processStep (runnerAt workDir settings i) p (.copy src dst o)).exec (s.work i) =
        (.error (.executionError "COPY instruction without FROM"), s.work i) := by
      simp only [processStep, hcurrent]
      rfl
    exact h.refused hp hfail
  | some rootfs =>
    have hroot := Site.rootfs_eq_some hp hcurrent
    obtain ⟨hlanding, hfree⟩ := hu rootfs hroot
    obtain ⟨hrootfs, -⟩ := h.current i rootfs hroot
    have hquiet : Quiet workDir trees s.disk (fun q => q = rootfs ∧ o.updated.isSome = true)
        (s.work i) := by
      refine h.quiet _ (fun q _ hrw => ?_) i
      rw [hrw.1]
      exact (hfree hrw.2).1
    have hstep : processStep (runnerAt workDir settings i) p (.copy src dst o) =
        handleCopy rootfs src o >>= fun _ => pure p := by
      simp only [processStep, hcurrent]
    refine h.step hp (fun q => q = rootfs ∧ o.updated.isSome = true) ?_
      (fun j hj q hq hrw => (hfree hrw.2).2 j hj (hrw.1 ▸ hq)) ?_
    · rw [hstep, exec_bind_pure]
      exact quiet_handleCopy hquiet hrootfs (fun hup => ⟨rfl, hup⟩) hlanding src
    · intro p' w hok q hq
      rw [hstep] at hok
      obtain ⟨_, v, hcopy, hpure⟩ := exec_bind_eq_ok_iff.mp hok
      cases hpure
      obtain rfl : rootfs = q := Option.some.inj (hcurrent.symm.trans hq)
      obtain ⟨c, hc⟩ := handleCopy_ok hcopy
      have hfiles := files_handleCopy rootfs src o (s.work i) (newSquashfsPath_ne o hrootfs)
      rw [hcopy, hc] at hfiles
      refine ⟨hrootfs, c, hfiles.trans (if_pos rfl), ?_⟩
      rw [hw rootfs hroot c hc, h.treeAt_rootfs hroot]
      rfl

theorem consistent_from {image : String} {effects : Effects τ} (h : Consistent workDir trees s)
    (hu : '\\' ∉ image.toList) :
    Consistent workDir trees
      (siteStep workDir settings trees s (.step i (.«from» image) effects)) := by
  refine h.turn fun p hp => ?_
  have hkeeps : Keeps (· = s.work i)
      (processStep (runnerAt workDir settings i) p (.«from» image)) :=
    ((keeps_read _).bind fun _ => .ite (keeps_pure _) (keeps_throw _)).bind fun _ => keeps_pure _
  have hsame := hkeeps (s.work i) rfl
  refine h.idle hp hsame fun p' hok q hq => ?_
  obtain ⟨rootfs, v, hfrom, hpure⟩ := exec_bind_eq_ok_iff.mp (Prod.ext hok hsame)
  obtain ⟨rfl, hthere⟩ := handleFrom_ok hfrom
  cases hpure
  obtain rfl := Option.some.inj hq
  obtain ⟨b, hb⟩ := Option.isSome_iff_exists.mp hthere
  have hdisk : s.disk.files ⟨imageDir image, "rootfs.sqfs"⟩ = some b := hb
  refine ⟨isRootfs_imageDir hu, b, hdisk, ?_⟩
  rw [Site.expectedAfter, Site.treeAt, hdisk]
  rfl

/-- An instruction that only changes the configuration. -/
theorem consistent_config {step : Step γ} {effects : Effects τ} {g : Progress → Progress}
    (h : Consistent workDir trees s)
    (hstep : ∀ r p, processStep (γ := γ) r p step = pure (g p))
    (hroot : ∀ p, (g p).currentRootfs = p.currentRootfs)
    (hexpected : s.expectedAfter trees i effects step = s.expected i) :
    Consistent workDir trees (siteStep workDir settings trees s (.step i step effects)) := by
  refine h.turn fun p hp => ?_
  refine h.idle hp (by rw [hstep]; rfl) fun p' hok q hq => ?_
  rw [hstep] at hok
  cases hok
  rw [hexpected]
  exact h.current i q (Site.rootfs_eq_some hp ((hroot p).symm.trans hq))

theorem consistent_finish {imageName : String} {o : FinalizeOutcome γ}
    (h : Consistent workDir trees s)
    (hu : Undisturbed workDir trees s (.finish (τ := τ) i imageName o)) :
    Consistent workDir trees (siteStep workDir settings trees s (.finish i imageName o)) := by
  cases hp : s.progress i with
  | none => simpa only [siteStep, hp] using h
  | some p =>
    cases hcurrent : p.currentRootfs with
    | none =>
      have hwork : s = s.setWork i (s.work i) := by simp [Site.setWork, Site.work]
      have hstop := h.stop (i := i) (fun _ => False)
        (h.quiet _ (fun _ _ hfalse => hfalse.elim) i) (fun _ _ _ _ hfalse => hfalse)
      rw [← hwork] at hstop
      simpa only [siteStep, hp, hcurrent] using hstop
    | some rootfs =>
      have hroot := Site.rootfs_eq_some hp hcurrent
      obtain ⟨hfree, hothers⟩ := hu (by rw [hroot]; rfl)
      have hquiet : Quiet workDir trees s.disk (· = ⟨imageDir imageName, "rootfs.sqfs"⟩)
          (s.work i) := by
        refine h.quiet _ (fun q _ hrw => ?_) i
        rw [hrw]
        exact hfree
      simp only [siteStep, hp, hcurrent]
      refine h.stop (· = ⟨imageDir imageName, "rootfs.sqfs"⟩) ?_
        fun j hj q hq hrw => hothers j hj (hrw ▸ hq)
      refine keeps_finalizeImage (fun w dir hw => hw.createDir dir) (fun w c file hfile hw => ?_) ?_
        rootfs p.currentConfig _ hquiet
      · refine hw.write ?_ c
        simp only [List.mem_cons, List.not_mem_nil, or_false] at hfile
        obtain rfl | rfl | rfl := hfile
        · exact spare_of_rewritten rfl nofun
        · exact spare_of_getLast (by decide) (by decide)
        · exact spare_of_getLast (by decide) (by decide)
      · refine keeps_resolveSigningKey _ _ (fun w dir hw => hw.createDir dir) ?_
        intro _ path _ _ v c file hfile hv
        refine hv.write ?_ c
        simp only [List.mem_cons, List.not_mem_nil, or_false] at hfile
        obtain rfl | rfl := hfile
        · exact spare_of_getLast (by decide) (by decide)
        · exact spare_of_getLast (by decide) (by decide)

/-- A turn in which the tools work and nothing is disturbed. -/
theorem consistent_siteStep (h : Consistent workDir trees s) (e : BuildEvent ρ γ τ)
    (hw : ToolsWork workDir settings trees s e) (hu : Undisturbed workDir trees s e) :
    Consistent workDir trees (siteStep workDir settings trees s e) := by
  cases e with
  | start i => exact h.start i
  | finish i imageName o => exact consistent_finish h hu
  | step i step effects =>
    cases step with
    | «from» image => exact consistent_from h hu
    | run command o => exact consistent_run h hw hu
    | copy src dst o => exact consistent_copy h hw hu
    | cmd args => exact consistent_config h (fun _ _ => rfl) (fun _ => rfl) rfl
    | entrypoint args => exact consistent_config h (fun _ _ => rfl) (fun _ => rfl) rfl
    | env key value => exact consistent_config h (fun _ _ => rfl) (fun _ => rfl) rfl
    | workdir path => exact consistent_config h (fun _ _ => rfl) (fun _ => rfl) rfl
    | vmMeasuredBoot => exact consistent_config h (fun _ _ => rfl) (fun _ => rfl) rfl

end Instructions

/-! ## Along any run -/

section Runs

variable {ρ γ τ : Type} {workDir : String} {settings : ρ → Bool × Option HostDir}
  {trees : Trees γ τ}

theorem consistent_newSite {disk : Disk HostDir String γ}
    (hcache : ∀ file, disk.files ⟨.ext4Cache, file⟩ = none) :
    Consistent workDir trees (newSite disk : Site ρ γ τ) where
  caches _ key path h := by
    rw [newSite, AList.lookup_empty] at h
    cases h
  fresh p _ c hc := by
    rw [newSite, cachePath, ext4PathOf, hcache] at hc
    cases hc
  current i p h := by cases h

variable [DecidableEq ρ]

end Runs

/-- The files of a tree with their texts. -/
abbrev Entries : Type := List (String × String)

/-- Image files that say which format they have, with the files of their tree. -/
def labelled : Trees (Bool × Entries) Entries where
  squashfs c := if c.1 then none else some c.2
  ext4 c := if c.1 then some c.2 else none
  readFile path tree := tree.lookup path
  writeFile path text tree := (path, text) :: tree

def alpineTree : Entries := [("/etc/alpine-release", "3.20.3")]

def alpineDisk : Disk HostDir String (Bool × Entries) :=
  alpineHost.disk.map fun _ => (false, alpineTree)

def goodRun (nanos : ℤ) (before after : Entries) : RunOutcome (Bool × Entries) :=
  { smoothRun.map (fun _ => (false, after)) with
    convert := .done (true, before)
    nanos := nanos }

def goodCopy (after : Entries) : CopyOutcome (Bool × Entries) :=
  smoothCopy.map fun _ => (false, after)

/-- Nothing is copied, and no script changes a file. -/
def noEffects : Effects Entries := ⟨id, fun _ => id⟩

def copies (entry : String × String) : Effects Entries := ⟨(entry :: ·), fun _ => id⟩

/-- Every script leaves a file, which says what the script was. -/
def leaves (path : String) : Effects Entries := ⟨id, fun text tree => (path, text) :: tree⟩

theorem toolsWork_goodRun {ρ : Type} {workDir : String} {settings : ρ → Bool × Option HostDir}
    {s : Site ρ (Bool × Entries) Entries} {i : ρ} {rootfs : HostPath} {nanos : ℤ}
    {before after : Entries} {effects : Effects Entries} {command : String}
    (hroot : s.rootfs i = some rootfs) (hbefore : s.treeAt labelled rootfs = some before)
    (hafter : ((ext4Content (runnerAt workDir settings i) rootfs (goodRun nanos before after)
      (s.work i)).bind labelled.ext4).map
        (boot labelled effects.shell (buildInitScript command)) = some after) :
    ToolsWork workDir settings labelled s
      (.step i (.run command (goodRun nanos before after)) effects) := by
  intro rootfs' hroot'
  obtain rfl : rootfs = rootfs' := Option.some.inj (hroot.symm.trans hroot')
  refine ⟨fun c hc => ?_, fun c hc => ?_⟩
  · obtain rfl : (true, before) = c := Option.some.inj hc
    exact hbefore.symm
  · obtain rfl : (false, after) = c := Written.done.inj hc
    exact hafter.symm

theorem toolsWork_goodCopy {ρ : Type} {workDir : String} {settings : ρ → Bool × Option HostDir}
    {s : Site ρ (Bool × Entries) Entries} {i : ρ} {rootfs : HostPath} {after : Entries}
    {effects : Effects Entries} (src dst : String) (hroot : s.rootfs i = some rootfs)
    (hafter : (s.treeAt labelled rootfs).map effects.copy = some after) :
    ToolsWork workDir settings labelled s
      (.step i (.copy src dst (goodCopy after)) effects) := by
  intro rootfs' hroot' c hc
  obtain rfl : rootfs = rootfs' := Option.some.inj (hroot.symm.trans hroot')
  obtain rfl : (false, after) = c := Option.some.inj hc
  exact hafter.symm

theorem undisturbed_goodRun {ρ : Type} [DecidableEq ρ] {workDir : String}
    {s : Site ρ (Bool × Entries) Entries} {i : ρ} {rootfs : HostPath} {nanos : ℤ}
    {before after : Entries} {effects : Effects Entries} {command : String}
    (hroot : s.rootfs i = some rootfs) (hbefore : s.treeAt labelled rootfs = some before)
    (hnew : s.disk.files (layerPath nanos) = none)
    (hdoes : DoesCommand labelled effects.shell command before) :
    Undisturbed workDir labelled s
      (.step i (.run command (goodRun nanos before after)) effects) := by
  intro rootfs' hroot'
  obtain rfl : rootfs = rootfs' := Option.some.inj (hroot.symm.trans hroot')
  refine ⟨hnew, fun tree htree => ?_⟩
  obtain rfl : before = tree := Option.some.inj (hbefore.symm.trans htree)
  exact hdoes

theorem undisturbed_goodCopy {workDir : String} {s : Site Bool (Bool × Entries) Entries}
    {rootfs : HostPath} {after : Entries} {effects : Effects Entries} (src dst : String)
    (hroot : s.rootfs false = some rootfs) (hother : s.rootfs true = none)
    (hconv : s.disk.files (cachePath workDir rootfs) = none) :
    Undisturbed workDir labelled s (.step false (.copy src dst (goodCopy after)) effects) := by
  intro rootfs' hroot'
  obtain rfl : rootfs = rootfs' := Option.some.inj (hroot.symm.trans hroot')
  refine ⟨fun _ => ⟨_, rfl⟩, fun _ => ⟨hconv, fun j hj hstands => ?_⟩⟩
  cases j with
  | false => exact hj rfl
  | true =>
    rw [hother] at hstands
    cases hstands

/-- The script of a command, as a file of a tree. -/
def curlScript : String × String := ("/vyoma-build.sh", buildScript "apk add curl")

def withScript : Entries := curlScript :: alpineTree

def withCurl : Entries := ("/usr/bin/curl", buildScript "apk add curl") :: withScript

def withApp : Entries := ("/app", "app") :: withCurl

/-- Copies and commands on the layers of the commands before. The script of the command is
copied to where the VM looks for it, and the command is repeated. -/
def layeredRun : List (BuildEvent Bool (Bool × Entries) Entries) :=
  [.start false, .step false (.«from» "alpine:latest") noEffects,
    .step false (.run "true" (goodRun 1 alpineTree alpineTree)) noEffects,
    .step false (.copy "vyoma-build.sh" "/vyoma-build.sh" (goodCopy withScript))
      (copies curlScript),
    .step false (.run "apk add curl" (goodRun 2 withScript withCurl)) (leaves "/usr/bin/curl"),
    .step false (.copy "app" "/app" (goodCopy withApp)) (copies ("/app", "app")),
    .step false (.run "apk add curl" (goodRun 3 withApp withApp)) noEffects]

/-- The tools work along the run, and some command does not run on the tree of its build. -/
def Misses (run : List (BuildEvent Bool (Bool × Entries) Entries)) : Prop :=
  Along (siteStep "/var/lib/vyoma" (fun _ => (false, none)) labelled)
      (ToolsWork "/var/lib/vyoma" (fun _ => (false, none)) labelled) (newSite alpineDisk) run ∧
    ¬ Along (siteStep "/var/lib/vyoma" (fun _ => (false, none)) labelled)
      (RunsOnExpected "/var/lib/vyoma" (fun _ => (false, none)) labelled) (newSite alpineDisk) run

/-- A command that makes a file, and one that looks for it. -/
def discardedRun : List (BuildEvent Bool (Bool × Entries) Entries) :=
  [.start false, .step false (.«from» "alpine:latest") noEffects,
    .step false (.run "touch /x" (goodRun 1 alpineTree alpineTree)) (leaves "/x"),
    .step false (.run "test -e /x" (goodRun 2 alpineTree alpineTree)) noEffects]

/-- The image of the first build is converted for its command. The second build copies into
that image before its own command. -/
def rewrittenRun : List (BuildEvent Bool (Bool × Entries) Entries) :=
  [.start false, .step false (.«from» "alpine:latest") noEffects,
    .step false (.run "true" (goodRun 1 alpineTree alpineTree)) noEffects,
    .start true, .step true (.«from» "alpine:latest") noEffects,
    .step true (.copy "app" "/app" (goodCopy (("/app", "app") :: alpineTree)))
      (copies ("/app", "app")),
    .step true (.run "true" (goodRun 2 (("/app", "app") :: alpineTree) alpineTree)) noEffects]

/-- The second command runs on the tree as it was before the first. -/
theorem misses_discardedRun : Misses discardedRun := by
  constructor
  · exact ⟨trivial, trivial, toolsWork_goodRun rfl rfl rfl, toolsWork_goodRun rfl rfl rfl, trivial⟩
  · intro h
    obtain ⟨-, -, -, hcommand, -⟩ := h
    have hseen := hcommand (layerPath 1) rfl (true, alpineTree) rfl
    have hmissing : some alpineTree = some (("/x", buildScript "touch /x") :: alpineTree) := hseen
    exact absurd (congrArg (Option.map List.length) hmissing) (by decide)

/-- The command of the second build does not see the copied file. -/
theorem misses_rewrittenRun : Misses rewrittenRun := by
  constructor
  · exact ⟨trivial, trivial, toolsWork_goodRun rfl rfl rfl, trivial, trivial,
      toolsWork_goodCopy _ _ rfl rfl, toolsWork_goodRun rfl rfl rfl, trivial⟩
  · intro h
    obtain ⟨-, -, -, -, -, -, hcommand, -⟩ := h
    have hseen := hcommand ⟨imageDir "alpine:latest", "rootfs.sqfs"⟩ rfl (true, alpineTree) rfl
    have hmissing : some alpineTree = some (("/app", "app") :: alpineTree) := hseen
    exact absurd (congrArg (Option.map List.length) hmissing) (by decide)

end Vyoma.Build
