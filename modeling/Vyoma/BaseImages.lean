import Vyoma.BuildRunner
import Vyoma.Runs

/-!
# What a build does to its base images

`RUN` leaves the image directories alone and moves the build to a layer of its own. `COPY`
writes the current root file system back in place, and before the first `RUN` that is the
file of the base image. It also follows `..` and symbolic links in the unpacked tree. Which
files a build writes does not depend on their contents: every answer is compared with the
answers of the same build on files without content.
-/
namespace Vyoma.Build
open HostFiles Runs

/-! ## The same course with other contents -/

section Contents

variable {γ γ' : Type}

def Copied.map (f : γ → γ') : Copied γ → Copied γ'
  | .refused error => .refused error
  | .broken error left => .broken error (f left)
  | .done => .done

def RunOutcome.map (f : γ → γ') (o : RunOutcome γ) : RunOutcome γ' where
  millis := o.millis
  createBuildDir := o.createBuildDir
  createCacheDir := o.createCacheDir
  convertError := o.convertError
  convert := o.convert.map f
  devices := o.devices
  kernelExists := o.kernelExists
  initramfs := o.initramfs.map fun image script => f (image script)
  vm := o.vm
  dmDeviceExists := o.dmDeviceExists
  layer := o.layer.map f
  nanos := o.nanos
  rename := o.rename
  removeDir := o.removeDir

def CopyOutcome.map (f : γ → γ') (o : CopyOutcome γ) : CopyOutcome γ' where
  createTempDir := o.createTempDir
  extract := o.extract
  srcExists := o.srcExists
  landing := o.landing
  createParent := o.createParent
  inject := o.inject.map f
  seconds := o.seconds
  createSquashfs := o.createSquashfs.map f
  update := o.update.map f

def Step.map (f : γ → γ') : Step γ → Step γ'
  | .«from» image => .«from» image
  | .run command o => .run command (o.map f)
  | .copy src dst o => .copy src dst (o.map f)
  | .cmd args => .cmd args
  | .entrypoint args => .entrypoint args
  | .env key value => .env key value
  | .workdir path => .workdir path
  | .vmMeasuredBoot => .vmMeasuredBoot

def Work.map (f : γ → γ') (w : Work γ) : Work γ' := ⟨w.ext4Cache, w.disk.map f⟩

/-- The two lists differ in the contents that files and tools supply, and in nothing else. -/
def SameCourse (steps steps' : List (Step γ)) : Prop :=
  steps.map (Step.map fun _ => ()) = steps'.map (Step.map fun _ => ())

theorem Copied.left_map (f : γ → γ') (source : Option γ) (c : Copied γ) :
    (c.map f).left (source.map f) = (c.left source).map f := by
  cases c <;> rfl

@[simp] theorem Copied.answer_map (f : γ → γ') (c : Copied γ) : (c.map f).answer = c.answer := by
  cases c <;> rfl

@[simp] theorem Step.map_map {γ'' : Type} (f : γ → γ') (g : γ' → γ'') (step : Step γ) :
    (step.map f).map g = step.map (g ∘ f) := by
  have hcopied : ∀ c : Copied γ, (c.map f).map g = c.map (g ∘ f) := fun c => by cases c <;> rfl
  cases step with
  | run command o => simp [Step.map, RunOutcome.map, Function.comp_def]
  | copy src dst o => simp [Step.map, CopyOutcome.map, hcopied]
  | _ => rfl

open Prog

variable (f : γ → γ')

theorem actsAs_isThere (p : HostPath) : ActsAs (Work.map f) (isThere p) (isThere p) :=
  actsAs_read fun w => by simp [Work.map]

theorem actsAs_onDisk {g : Disk HostDir String γ → Disk HostDir String γ}
    {g' : Disk HostDir String γ' → Disk HostDir String γ'} (hg : ∀ d, g' (d.map f) = (g d).map f) :
    ActsAs (Work.map f) (onDisk g) (onDisk g') :=
  actsAs_change fun w => by simp [Work.map, Work.onDisk, hg]

theorem actsAs_outside {α : Type} (wrap : String → BuildError) (r : Except String α) :
    ActsAs (Work.map f) (outside wrap r) (outside wrap r) := actsAs_answer _

theorem actsAs_createDirAll (wrap : String → BuildError) (dir : HostDir) (r : Except String Unit) :
    ActsAs (Work.map f) (createDirAll wrap dir r) (createDirAll wrap dir r) :=
  (actsAs_outside f wrap r).bind fun _ => actsAs_onDisk f fun d => d.map_createDir f dir

theorem map_leave (p : HostPath) (content : Option γ) (d : Disk HostDir String γ) :
    leave p (content.map f) (d.map f) = (leave p content d).map f := by
  cases content with
  | none => rfl
  | some content => exact (d.map_write f p content).symm

theorem actsAs_writeFile (wrap : String → BuildError) (p : HostPath) (w : Written γ) :
    ActsAs (Work.map f) (writeFile wrap p w) (writeFile wrap p (w.map f)) := by
  refine (actsAs_onDisk f fun d => ?_).bind fun _ => ?_
  · rw [Written.left_map]
    exact map_leave f p w.left d
  · rw [Written.answer_map]
    exact actsAs_outside f wrap w.answer

theorem actsAs_copyFile (wrap : String → BuildError) (source target : HostPath) (c : Copied γ) :
    ActsAs (Work.map f) (copyFile wrap source target c)
      (copyFile wrap source target (c.map f)) := by
  refine (actsAs_onDisk f fun d => ?_).bind fun _ => ?_
  · rw [Disk.files_map, Copied.left_map]
    exact map_leave f target _ d
  · rw [Copied.answer_map]
    exact actsAs_outside f wrap c.answer

theorem actsAs_handleFrom (r : BuildRunner) (image : String) :
    ActsAs (Work.map f) (handleFrom r image) (handleFrom r image) :=
  (actsAs_isThere f _).bind fun _ => .ite (actsAs_pure _) (actsAs_throw _)

theorem actsAs_createCachedExt4 (cacheKey : String) (o : RunOutcome γ) :
    ActsAs (Work.map f) (createCachedExt4 cacheKey o) (createCachedExt4 cacheKey (o.map f)) := by
  refine (actsAs_createDirAll f _ _ _).bind fun _ => (actsAs_isThere f _).bind fun _ => .ite ?_ ?_
  · exact actsAs_pure _
  · refine (actsAs_writeFile f _ _ _).bind fun _ => ActsAs.bind ?_ fun _ => actsAs_pure _
    exact actsAs_change fun _ => rfl

theorem actsAs_ext4For (r : BuildRunner) (baseSquashfs : HostPath) (o : RunOutcome γ) :
    ActsAs (Work.map f) (ext4For r baseSquashfs o) (ext4For r baseSquashfs (o.map f)) := by
  refine ActsAs.bind (actsAs_read fun _ => rfl) fun cached => ?_
  cases cached with
  | none => exact actsAs_createCachedExt4 f _ o
  | some cachedExt4 =>
    exact (actsAs_isThere f _).bind fun _ => .ite (actsAs_pure _) (actsAs_createCachedExt4 f _ o)

theorem actsAs_prepareBoot (command : String) (o : RunOutcome γ) :
    ActsAs (Work.map f) (prepareBoot command o) (prepareBoot command (o.map f)) := by
  have hkernel : ActsAs (Work.map f) (findKernelPath o) (findKernelPath (o.map f)) :=
    .ite (actsAs_pure _) (actsAs_throw _)
  refine hkernel.bind fun _ => ?_
  have himage : ((o.map f).initramfs.map fun image => image (buildInitScript command)) =
      (o.initramfs.map fun image => image (buildInitScript command)).map f := by
    simp only [RunOutcome.map, Written.map_map]
    rfl
  unfold createBuildInitramfs
  rw [himage]
  exact actsAs_writeFile f _ _ _

theorem actsAs_executeBuildInVm (r : BuildRunner) (baseSquashfs : HostPath) (command : String)
    (buildDir : HostDir) (o : RunOutcome γ) :
    ActsAs (Work.map f) (executeBuildInVm r baseSquashfs command buildDir o)
      (executeBuildInVm r baseSquashfs command buildDir (o.map f)) := by
  refine (actsAs_ext4For f r baseSquashfs o).bind fun _ => (actsAs_answer _).bind fun _ =>
    ((actsAs_prepareBoot f command o).bind fun _ => actsAs_answer _).bind fun _ =>
      .ite (.ite ?_ (actsAs_throw _)) (actsAs_throw _)
  exact (actsAs_writeFile f _ _ _).bind fun _ => actsAs_pure _

theorem actsAs_handleRun (r : BuildRunner) (rootfsPath : HostPath) (command : String)
    (o : RunOutcome γ) :
    ActsAs (Work.map f) (handleRun r rootfsPath command o)
      (handleRun r rootfsPath command (o.map f)) := by
  have hcleanUp : ActsAs (Work.map f)
      (onDisk fun d => if o.removeDir then d.removeDir (.build ("build-" ++ toString o.millis))
        else d)
      (onDisk fun d => if o.removeDir then d.removeDir (.build ("build-" ++ toString o.millis))
        else d) := by
    refine actsAs_onDisk f fun d => ?_
    split_ifs
    · exact (d.map_removeDir f _).symm
    · rfl
  refine (actsAs_createDirAll f _ _ _).bind fun _ =>
    (actsAs_executeBuildInVm f r rootfsPath command _ o).attempt.bind fun result => ?_
  cases result with
  | error e => exact hcleanUp.bind fun _ => actsAs_throw _
  | ok layerPath =>
    simp only [RunOutcome.map]
    cases o.rename with
    | error e => exact hcleanUp.bind fun _ => actsAs_throw _
    | ok _ =>
      refine (actsAs_onDisk f fun d => ?_).bind fun _ => hcleanUp.bind fun _ => actsAs_pure _
      exact (d.map_rename f _ _).symm

theorem actsAs_handleCopy (rootfsPath : HostPath) (src : String) (o : CopyOutcome γ) :
    ActsAs (Work.map f) (handleCopy rootfsPath src o) (handleCopy rootfsPath src (o.map f)) := by
  refine (actsAs_outside f _ _).bind fun _ => (actsAs_outside f _ _).bind fun _ =>
    .ite ?_ (actsAs_throw _)
  exact (actsAs_createDirAll f _ _ _).bind fun _ => (actsAs_writeFile f _ _ _).bind fun _ =>
    (actsAs_writeFile f _ _ _).bind fun _ => actsAs_copyFile f _ _ _ _

theorem actsAs_processStep (r : BuildRunner) (p : Progress) (step : Step γ) :
    ActsAs (Work.map f) (processStep r p step) (processStep r p (step.map f)) := by
  cases step with
  | «from» image => exact (actsAs_handleFrom f r image).bind fun _ => actsAs_pure _
  | run command o =>
    simp only [processStep, Step.map]
    cases p.currentRootfs with
    | none => exact actsAs_throw _
    | some rootfs => exact (actsAs_handleRun f r rootfs command o).bind fun _ => actsAs_pure _
  | copy src dst o =>
    simp only [processStep, Step.map]
    cases p.currentRootfs with
    | none => exact actsAs_throw _
    | some rootfs => exact (actsAs_handleCopy f rootfs src o).bind fun _ => actsAs_pure _
  | _ => exact actsAs_pure _

end Contents

/-! ## The files a step writes -/

/-- What holds of a disk and outlives everything outside the image directories. -/
structure ImageFrame {γ : Type} (I : Disk HostDir String γ → Prop) : Prop where
  createDir : ∀ d dir, I d → I (d.createDir dir)
  write : ∀ d p content, (∀ name, p.dir ≠ .image name) → I d → I (d.write p content)
  removeDir : ∀ d id, I d → I (d.removeDir (.build id))
  rename : ∀ d id file target, (∀ name, target.dir ≠ .image name) → I d →
    I (d.rename ⟨.build id, file⟩ target)

section Frame

open Prog

variable {γ : Type} {I : Work γ → Prop}

/-- What holds of the work of a runner and outlives a `RUN` on the file with this key. -/
structure RunFrame (I : Work γ → Prop) (cacheKey : String) (o : RunOutcome γ) : Prop where
  createDir : ∀ w dir, I w → I (w.onDisk (Disk.createDir · dir))
  convert : ∀ w c, o.convert.left = some c → I w →
    I (w.onDisk (Disk.write · (ext4PathOf cacheKey) c))
  remember : ∀ w, I w →
    I { w with ext4Cache := w.ext4Cache.insert cacheKey (ext4PathOf cacheKey) }
  writeInitramfs : ∀ w c, I w → I (w.onDisk (Disk.write · initramfsPath c))
  writeLayer : ∀ w id c, I w → I (w.onDisk (Disk.write · ⟨.build id, "layer.sqfs"⟩ c))
  removeDir : ∀ w id, I w → I (w.onDisk (Disk.removeDir · (.build id)))
  rename : ∀ w id, I w → I (w.onDisk (Disk.rename · ⟨.build id, "layer.sqfs"⟩
    ⟨.temp, "layer_" ++ toString o.nanos ++ ".sqfs"⟩))

theorem ImageFrame.runFrame {I : Disk HostDir String γ → Prop} (hI : ImageFrame I)
    (cacheKey : String) (o : RunOutcome γ) :
    RunFrame (fun w : Work γ => I w.disk) cacheKey o where
  createDir w dir h := hI.createDir w.disk dir h
  convert w c _ h := hI.write w.disk _ c (fun _ => by simp [ext4PathOf]) h
  remember w h := h
  writeInitramfs w c h := hI.write w.disk _ c (fun _ => by simp [initramfsPath]) h
  writeLayer w id c h := hI.write w.disk _ c (fun _ => by simp) h
  removeDir w id h := hI.removeDir w.disk id h
  rename w id h := hI.rename w.disk id _ _ (fun _ => by simp) h

theorem files_leave_of_ne {p q : HostPath} {content : Option γ}
    (h : content.isSome = true → p ≠ q) (d : Disk HostDir String γ) :
    (leave p content d).files q = d.files q := by
  cases content with
  | none => rfl
  | some c => exact if_neg (h rfl)

theorem keeps_createDirAll {dir : HostDir} (hI : ∀ w, I w → I (w.onDisk (Disk.createDir · dir)))
    (wrap : String → BuildError) (r : Except String Unit) : Keeps I (createDirAll wrap dir r) :=
  (keeps_answer _).bind fun _ => keeps_change hI

theorem keeps_leave {p : HostPath} {content : Option γ}
    (hI : ∀ w c, content = some c → I w → I (w.onDisk (Disk.write · p c))) (w : Work γ) (h : I w) :
    I (w.onDisk (leave p content)) := by
  cases content with
  | none => exact h
  | some c => exact hI w c rfl h

theorem keeps_writeFile {p : HostPath} {written : Written γ}
    (hI : ∀ w c, written.left = some c → I w → I (w.onDisk (Disk.write · p c)))
    (wrap : String → BuildError) : Keeps I (writeFile wrap p written) :=
  (keeps_change fun w h => keeps_leave hI w h).bind fun _ => keeps_answer _

theorem keeps_copyFile {target : HostPath}
    (hI : ∀ w c, I w → I (w.onDisk (Disk.write · target c))) (wrap : String → BuildError)
    (source : HostPath) (copied : Copied γ) : Keeps I (copyFile wrap source target copied) :=
  (keeps_change fun w h => keeps_leave (fun v c _ hv => hI v c hv) w h).bind fun _ =>
    keeps_answer _

theorem keeps_ext4For {r : BuildRunner} {baseSquashfs : HostPath} {o : RunOutcome γ}
    (hI : RunFrame I (r.display baseSquashfs) o) : Keeps I (ext4For r baseSquashfs o) := by
  have hcreate : Keeps I (createCachedExt4 (r.display baseSquashfs) o) := by
    refine (keeps_createDirAll (fun w h => hI.createDir w _ h) _ _).bind fun _ =>
      (keeps_read _).bind fun _ => .ite (keeps_pure _) ?_
    refine (keeps_writeFile hI.convert _).bind fun _ => Keeps.bind ?_ fun _ => keeps_pure _
    exact keeps_change hI.remember
  refine (keeps_read _).bind fun cached => ?_
  cases cached with
  | none => exact hcreate
  | some cachedExt4 => exact (keeps_read _).bind fun _ => .ite (keeps_pure _) hcreate

theorem keeps_prepareBoot {cacheKey : String} {o : RunOutcome γ} (hI : RunFrame I cacheKey o)
    (command : String) : Keeps I (prepareBoot command o) :=
  Keeps.bind (.ite (keeps_pure _) (keeps_throw _)) fun _ =>
    keeps_writeFile (fun w c _ h => hI.writeInitramfs w c h) _

theorem keeps_executeBuildInVm {r : BuildRunner} {baseSquashfs : HostPath} {o : RunOutcome γ}
    (hI : RunFrame I (r.display baseSquashfs) o) (command id : String) :
    Keeps I (executeBuildInVm r baseSquashfs command (.build id) o) := by
  refine (keeps_ext4For hI).bind fun _ => (keeps_answer _).bind fun _ =>
    ((keeps_prepareBoot hI command).bind fun _ => keeps_answer _).bind fun _ =>
      .ite (.ite ?_ (keeps_throw _)) (keeps_throw _)
  refine Keeps.bind ?_ fun _ => keeps_pure _
  exact keeps_writeFile (fun w c _ h => hI.writeLayer w id c h) _

theorem yields_executeBuildInVm (r : BuildRunner) (baseSquashfs : HostPath) (command : String)
    (buildDir : HostDir) (o : RunOutcome γ) : Yields (fun layer => layer = ⟨buildDir, "layer.sqfs"⟩)
      (executeBuildInVm r baseSquashfs command buildDir o) :=
  .bind _ fun _ => .bind _ fun _ => .bind _ fun _ =>
    .ite (.ite (.bind _ fun _ => yields_pure rfl) (yields_throw _)) (yields_throw _)

/-- A `RUN` writes its conversion, its boot image, its layer and nothing else. -/
theorem keeps_handleRun {r : BuildRunner} {rootfsPath : HostPath} {o : RunOutcome γ}
    (hI : RunFrame I (r.display rootfsPath) o) (command : String) :
    Keeps I (handleRun r rootfsPath command o) := by
  have hcleanUp : Keeps I (onDisk fun d =>
      if o.removeDir then d.removeDir (.build ("build-" ++ toString o.millis)) else d) := by
    refine keeps_change fun w h => ?_
    cases o.removeDir with
    | true => exact hI.removeDir w _ h
    | false => exact h
  refine (keeps_createDirAll (fun w h => hI.createDir w _ h) _ _).bind fun _ =>
    (keeps_executeBuildInVm hI command _).attempt.bind_of_yields
      (yields_executeBuildInVm r rootfsPath command _ o).attempt fun result hresult => ?_
  cases result with
  | error e => exact hcleanUp.bind fun _ => keeps_throw _
  | ok layerPath =>
    cases o.rename with
    | error e => exact hcleanUp.bind fun _ => keeps_throw _
    | ok _ =>
      refine Keeps.bind (keeps_change fun w h => ?_) fun _ => hcleanUp.bind fun _ => keeps_pure _
      rw [hresult layerPath rfl]
      exact hI.rename w _ h

end Frame

section Copy

variable {γ γ' : Type}

/-- The copy gets as far as opening the destination. -/
def CopyOutcome.unpacks (o : CopyOutcome γ) : Bool :=
  o.createTempDir.isOk && o.extract.isOk && o.srcExists && o.createParent.isOk

/-- What the copy leaves where its destination leads. -/
def CopyOutcome.injected (o : CopyOutcome γ) : Option γ :=
  if o.unpacks then o.inject.left else none

/-- What the copy leaves in the current root file system. -/
def CopyOutcome.updated (o : CopyOutcome γ) : Option γ :=
  if o.unpacks && o.inject.answer.isOk && o.createSquashfs.answer.isOk then
    o.update.left o.createSquashfs.left
  else none

theorem CopyOutcome.injected_map (f : γ → γ') (o : CopyOutcome γ) :
    (o.map f).injected = o.injected.map f := by
  have hunpacks : (o.map f).unpacks = o.unpacks := rfl
  unfold injected
  rw [hunpacks]
  split_ifs
  · exact Written.left_map f o.inject
  · rfl

theorem CopyOutcome.updated_map (f : γ → γ') (o : CopyOutcome γ) :
    (o.map f).updated = o.updated.map f := by
  have hreached : ((o.map f).unpacks && (o.map f).inject.answer.isOk &&
      (o.map f).createSquashfs.answer.isOk) =
      (o.unpacks && o.inject.answer.isOk && o.createSquashfs.answer.isOk) := by
    simp [CopyOutcome.map, unpacks]
  unfold updated
  rw [hreached]
  split_ifs
  · simp only [CopyOutcome.map, Written.left_map, Copied.left_map]
  · rfl

/-- The last two writes of a `COPY`: the new squashfs, and its copy over the old one. -/
theorem files_update {layer p : HostPath} (hlayer : layer ≠ p) {d d' : Disk HostDir String γ}
    (hfiles : d.files = d'.files) (rootfsPath : HostPath) (squashfs : γ) (update : Copied γ) :
    (leave rootfsPath (update.left ((d.write layer squashfs).files layer))
      (d.write layer squashfs)).files p =
      (leave rootfsPath (update.left (some squashfs)) d').files p := by
  rw [Disk.files_write, if_pos rfl]
  cases update.left (some squashfs) with
  | none => simp only [leave, Disk.files_write, if_neg hlayer, hfiles]
  | some content => simp only [leave, Disk.files_write, if_neg hlayer, hfiles]

/-- The file the copy makes among the layers. -/
def CopyOutcome.newSquashfsPath (o : CopyOutcome γ) : HostPath :=
  ⟨.temp, "layer_" ++ toString o.seconds ++ "_injected.sqfs"⟩

/-- Besides its own file among the layers, a `COPY` writes where its destination leads and
then the current root file system. -/
theorem files_handleCopy (rootfsPath : HostPath) (src : String) (o : CopyOutcome γ) (w : Work γ)
    {p : HostPath} (hlayer : o.newSquashfsPath ≠ p) :
    ((handleCopy rootfsPath src o).exec w).2.disk.files p =
      (leave rootfsPath o.updated (leave o.landing o.injected w.disk)).files p := by
  obtain ⟨createTempDir, extract, srcExists, landing, createParent, inject, seconds,
    createSquashfs, update⟩ := o
  cases createTempDir with
  | error e => rfl
  | ok _ =>
    cases extract with
    | error e => rfl
    | ok _ =>
      cases srcExists with
      | false => rfl
      | true =>
        cases createParent with
        | error e => rfl
        | ok _ =>
          cases inject with
          | refused e => rfl
          | broken e left => rfl
          | done content =>
            cases createSquashfs with
            | refused e => rfl
            | broken e left => exact if_neg hlayer
            | done squashfs =>
              have hfiles : ((w.disk.createDir landing.dir).write landing content).files =
                  (w.disk.write landing content).files := rfl
              exact files_update hlayer hfiles rootfsPath squashfs update

end Copy

/-! ## The image that is made -/

section Finalize

open Prog

variable {γ : Type}

/-- The file has this content, and its directory exists. -/
def Holds (p : HostPath) (content : Option γ) (d : Disk HostDir String γ) : Prop :=
  d.files p = content ∧ d.hasDir p.dir = true

variable {p : HostPath} {content : Option γ}

theorem Holds.createDir {d : Disk HostDir String γ} (h : Holds p content d) (dir : HostDir) :
    Holds p content (d.createDir dir) :=
  ⟨h.1, by simp [Disk.createDir, h.2]⟩

theorem Holds.write {d : Disk HostDir String γ} (h : Holds p content d) {q : HostPath}
    (hq : q ≠ p) (c : γ) : Holds p content (d.write q c) := by
  refine ⟨?_, by simp [Disk.write, h.2]⟩
  rw [Disk.files_write, if_neg hq]
  exact h.1

theorem keeps_standardKey {I : Work γ → Prop} (o : KeyOutcome γ) : Keeps I (standardKey o) :=
  (keeps_read _).bind fun _ => (keeps_read _).bind fun _ =>
    .ite ((keeps_answer _).bind fun _ => keeps_pure _) (keeps_pure _)

/-- New keys are written to a directory that does not exist yet. -/
theorem keeps_resolveSigningKey {I : Work γ → Prop} (r : BuildRunner) (o : KeyOutcome γ)
    (hdir : ∀ w dir, I w → I (w.onDisk (Disk.createDir · dir)))
    (hkeys : ∀ w path, I w → w.disk.hasDir path = false → ∀ v c,
      ∀ file ∈ ["build_signing_key.pub", "build_signing_key"], I v →
        I (v.onDisk (Disk.write · ⟨path, file⟩ c))) :
    Keeps I (resolveSigningKey r o) := by
  unfold resolveSigningKey
  cases r.signingKeyPath with
  | none => exact keeps_standardKey o
  | some path =>
    refine keeps_read_bind fun w h => ?_
    cases hpath : w.disk.hasDir path with
    | true =>
      refine Keeps.bind (keeps_read _)
        (fun _ => (keeps_read _).bind fun _ => .ite ?_ (keeps_standardKey o)) w h
      exact (keeps_answer _).bind fun _ => keeps_pure _
    | false =>
      have hwrite := hkeys w path h hpath
      refine Keeps.bind (keeps_createDirAll (fun v hv => hdir v _ hv) _ _) (fun _ => ?_) w h
      refine (keeps_writeFile (fun v c _ hv => hwrite v c _ (by simp) hv) _).bind fun _ => ?_
      refine (keeps_writeFile (fun v c _ hv => hwrite v c _ (by simp) hv) _).bind fun _ => ?_
      exact keeps_pure _

/-- The new image is written to its own directory. -/
theorem keeps_finalizeImage {I : Work γ → Prop} {r : BuildRunner} {imageName : String}
    {o : FinalizeOutcome γ} (hdir : ∀ w dir, I w → I (w.onDisk (Disk.createDir · dir)))
    (hwrite : ∀ w c, ∀ file ∈ ["rootfs.sqfs", "vyoma.toml", "vyoma.toml.sig"], I w →
      I (w.onDisk (Disk.write · ⟨imageDir imageName, file⟩ c)))
    (hkeys : Keeps I (resolveSigningKey r o.keys)) (rootfsPath : HostPath)
    (config : Image.OciImageConfig) :
    Keeps I (finalizeImage r rootfsPath imageName config o) := by
  refine (keeps_createDirAll (fun w h => hdir w _ h) _ _).bind fun _ => ?_
  refine (keeps_copyFile (fun w c h => hwrite w c _ (by simp) h) _ _ _).bind fun _ => ?_
  refine (keeps_answer _).bind fun _ => Keeps.bind ?_ fun _ => ?_
  · exact .ite ((keeps_answer _).bind fun _ => keeps_pure _) (keeps_pure _)
  · refine (keeps_answer _).bind fun _ => (keeps_answer _).bind fun _ => ?_
    refine (keeps_writeFile (fun w c _ h => hwrite w c _ (by simp) h) _).bind fun _ => ?_
    refine hkeys.bind fun signed => ?_
    refine Keeps.bind (.ite ?_ (keeps_pure _)) fun _ => keeps_pure _
    exact (keeps_answer _).bind fun _ =>
      keeps_writeFile (fun w c _ h => hwrite w c _ (by simp) h) _

/-- The directory of an existing file is not that of new keys. -/
theorem keeps_finalizeImage_holds (r : BuildRunner) (rootfsPath : HostPath) {imageName : String}
    (config : Image.OciImageConfig) (o : FinalizeOutcome γ) (hp : imageDir imageName ≠ p.dir) :
    Keeps (fun w : Work γ => Holds p content w.disk)
      (finalizeImage r rootfsPath imageName config o) := by
  have hdir : ∀ (w : Work γ) (dir : HostDir), Holds p content w.disk →
      Holds p content (w.onDisk (Disk.createDir · dir)).disk := fun w dir h => h.createDir dir
  refine keeps_finalizeImage hdir (fun w c file _ h => ?_) ?_ rootfsPath config
  · exact h.write (fun he => hp (congrArg Path.dir he)) c
  · refine keeps_resolveSigningKey r o.keys hdir fun w path h hpath v c file _ hv => ?_
    refine hv.write (fun he => ?_) c
    have hsame : path = p.dir := congrArg Path.dir he
    rw [hsame, h.2] at hpath
    cases hpath

end Finalize

/-! ## Along the instructions -/

/-- A build between two instructions; one that failed stays where it stopped. -/
structure Stage (γ : Type) where
  work : Work γ
  progress : Except BuildError Progress

section Stages

open Prog

variable {γ γ' : Type}

def stageStep (r : BuildRunner) (s : Stage γ) (step : Step γ) : Stage γ :=
  match s.progress with
  | .error _ => s
  | .ok p => ⟨((processStep r p step).exec s.work).2, ((processStep r p step).exec s.work).1⟩

def Stage.map (f : γ → γ') (s : Stage γ) : Stage γ' := ⟨s.work.map f, s.progress⟩

/-- The copy this step carries out, with the root file system it stands on. -/
def carriedOut (s : Stage γ) : Step γ → Option (HostPath × CopyOutcome γ)
  | .copy _ _ o =>
    match s.progress with
    | .error _ => none
    | .ok p => p.currentRootfs.map fun rootfs => (rootfs, o)
  | _ => none

def fromImages (steps : List (Step γ)) : List String :=
  steps.filterMap fun
    | .«from» image => some image
    | _ => none

/-- A copy that gets as far as writing stands on a file outside the directories of these
images, and its destination does not lead into them. -/
def SparesBase (images : List String) (s : Stage γ) (step : Step γ) : Prop :=
  ∀ rootfs o, carriedOut s step = some (rootfs, o) →
    (o.injected.isSome = true → o.landing.dir ∉ images.map imageDir) ∧
    (o.updated.isSome = true → rootfs.dir ∉ images.map imageDir)

/-- Every file in the directories of these images is as it was. -/
def ImagesKept (images : List String) (d d' : Disk HostDir String γ) : Prop :=
  ∀ image ∈ images, ∀ file, d'.files ⟨imageDir image, file⟩ = d.files ⟨imageDir image, file⟩

theorem exec_stopped (r : BuildRunner) (w : Work γ) (e : BuildError) (steps : List (Step γ)) :
    Runs.exec (stageStep r) ⟨w, .error e⟩ steps = ⟨w, .error e⟩ := by
  induction steps with
  | nil => rfl
  | cons step steps ih => exact ih

/-- The instructions of a build are the steps of a run of stages. -/
theorem exec_processSteps (r : BuildRunner) (p : Progress) (steps : List (Step γ)) (w : Work γ) :
    (processSteps r p steps).exec w =
      ((Runs.exec (stageStep r) ⟨w, .ok p⟩ steps).progress,
        (Runs.exec (stageStep r) ⟨w, .ok p⟩ steps).work) := by
  induction steps generalizing p w with
  | nil => rfl
  | cons step steps ih =>
    have hstep : stageStep r ⟨w, .ok p⟩ step =
        ⟨((processStep r p step).exec w).2, ((processStep r p step).exec w).1⟩ := rfl
    rw [processSteps, exec_bind, exec_cons, hstep]
    generalize (processStep r p step).exec w = out
    obtain ⟨result, w'⟩ := out
    cases result with
    | error e => rw [exec_stopped]
    | ok p' => exact ih p' w'

theorem map_stageStep (f : γ → γ') (r : BuildRunner) (s : Stage γ) (step : Step γ) :
    (stageStep r s step).map f = stageStep r (s.map f) (step.map f) := by
  obtain ⟨w, progress⟩ := s
  cases progress with
  | error e => rfl
  | ok p =>
    simp only [stageStep, Stage.map]
    rw [actsAs_processStep f r p step w]

theorem map_exec_stageStep (f : γ → γ') (r : BuildRunner) (s : Stage γ) (steps : List (Step γ)) :
    (Runs.exec (stageStep r) s steps).map f =
      Runs.exec (stageStep r) (s.map f) (steps.map (Step.map f)) := by
  induction steps generalizing s with
  | nil => rfl
  | cons step steps ih =>
    rw [exec_cons, ih, map_stageStep, List.map_cons, exec_cons]

/-- Which copy is carried out does not depend on contents. -/
theorem carriedOut_map (f : γ → γ') {s : Stage γ} {s' : Stage γ'} (h : s'.progress = s.progress)
    (step : Step γ) : carriedOut s' (step.map f) =
      (carriedOut s step).map fun c => (c.1, c.2.map f) := by
  cases step with
  | copy src dst o =>
    simp only [carriedOut, Step.map, h]
    cases s.progress with
    | error e => rfl
    | ok p =>
      simp only [Option.map_map]
      rfl
  | _ => rfl

/-! ## The image directories along a run -/

theorem imageFrame_files {name : String} {p : HostPath} (hp : p.dir = .image name)
    (content : Option γ) :
    ImageFrame fun d : Disk HostDir String γ => d.files p = content where
  createDir d dir h := h
  write d q c hq h := by
    have hne : q ≠ p := fun he => hq name (he ▸ hp)
    rw [Disk.files_write, if_neg hne]
    exact h
  removeDir d id h := by
    rw [Disk.files_removeDir, if_neg (by simp [hp])]
    exact h
  rename d id file target htarget h := by
    have htarget' : target ≠ p := fun he => htarget name (he ▸ hp)
    have hsource : (⟨.build id, file⟩ : HostPath) ≠ p := by
      intro he
      rw [← he] at hp
      cases hp
    cases hfile : d.files ⟨.build id, file⟩ with
    | none => simpa [Disk.rename, hfile] using h
    | some c =>
      rw [Disk.files_rename hfile, if_neg htarget', if_neg hsource]
      exact h

theorem imageFrame_hasDir (name : String) :
    ImageFrame fun d : Disk HostDir String γ => d.hasDir (.image name) = true where
  createDir d dir h := by simp [Disk.createDir, h]
  write d p c hp h := by simp [Disk.write, h]
  removeDir d id h := by simp [Disk.removeDir, h]
  rename d id file target htarget h := by
    unfold Disk.rename
    split
    · exact h
    · simp [Disk.write, h]

variable {r : BuildRunner} {s : Stage γ} {step : Step γ}

theorem files_stageStep_of_none (h : carriedOut s step = none) {name : String} {p : HostPath}
    (hp : p.dir = .image name) : (stageStep r s step).work.disk.files p = s.work.disk.files p := by
  obtain ⟨w, progress⟩ := s
  cases progress with
  | error e => rfl
  | ok pr =>
    cases step with
    | «from» image =>
      exact Keeps.bind (I := fun v : Work γ => v.disk.files p = w.disk.files p)
        ((keeps_read _).bind fun _ => .ite (keeps_pure _) (keeps_throw _))
        (fun _ => keeps_pure _) w rfl
    | run command o =>
      simp only [stageStep, processStep]
      cases pr.currentRootfs with
      | none => rfl
      | some rootfs =>
        exact Keeps.bind (keeps_handleRun ((imageFrame_files hp _).runFrame _ o) command)
          (fun _ => keeps_pure _) w rfl
    | copy src dst o =>
      simp only [stageStep, processStep]
      cases hroot : pr.currentRootfs with
      | none => rfl
      | some rootfs => simp [carriedOut, hroot] at h
    | _ => rfl

theorem files_stageStep_of_some {rootfs : HostPath} {o : CopyOutcome γ}
    (h : carriedOut s step = some (rootfs, o)) {name : String} {p : HostPath}
    (hp : p.dir = .image name) : (stageStep r s step).work.disk.files p =
      (leave rootfs o.updated (leave o.landing o.injected s.work.disk)).files p := by
  obtain ⟨w, progress⟩ := s
  cases progress with
  | error e => cases step <;> cases h
  | ok pr =>
    cases step with
    | copy src dst o' =>
      cases hroot : pr.currentRootfs with
      | none => simp [carriedOut, hroot] at h
      | some rootfs' =>
        obtain ⟨rfl, rfl⟩ : rootfs' = rootfs ∧ o' = o := by simpa [carriedOut, hroot] using h
        have hlayer : o'.newSquashfsPath ≠ p := by
          intro he
          rw [← he] at hp
          cases hp
        simp only [stageStep, processStep, hroot]
        rw [exec_bind_pure]
        exact files_handleCopy rootfs' src o' w hlayer
    | _ => cases h

theorem imageDir_eq (image : String) : ∃ name, imageDir image = .image name := ⟨_, rfl⟩

/-- A step that spares the base images leaves every file in their directories. -/
theorem files_stageStep_of_spares {images : List String} (h : SparesBase images s step)
    {p : HostPath} (hp : p.dir ∈ images.map imageDir) :
    (stageStep r s step).work.disk.files p = s.work.disk.files p := by
  obtain ⟨image, -, hdir⟩ := List.mem_map.mp hp
  obtain ⟨name, hname⟩ := imageDir_eq image
  have hname : p.dir = .image name := hdir.symm.trans hname
  cases hcopy : carriedOut s step with
  | none => exact files_stageStep_of_none hcopy hname
  | some c =>
    obtain ⟨rootfs, o⟩ := c
    obtain ⟨hinjected, hupdated⟩ := h rootfs o hcopy
    rw [files_stageStep_of_some hcopy hname, files_leave_of_ne, files_leave_of_ne]
    · exact fun hin he => hinjected hin (he ▸ hp)
    · exact fun hup he => hupdated hup (he ▸ hp)

/-- A copy writes at the same places when its tools supply other contents. -/
theorem files_stageStep_map (f : γ → γ) {s' : Stage γ} (hprogress : s'.progress = s.progress)
    {rootfs : HostPath} {o : CopyOutcome γ} (h : carriedOut s step = some (rootfs, o))
    {name : String} {p : HostPath} (hp : p.dir = .image name) :
    (stageStep r s' (step.map f)).work.disk.files p =
      (leave rootfs (o.updated.map f) (leave o.landing (o.injected.map f) s'.work.disk)).files
        p := by
  have hmap : carriedOut s' (step.map f) = some (rootfs, o.map f) := by
    rw [carriedOut_map f hprogress, h]
    rfl
  rw [files_stageStep_of_some hmap hp, CopyOutcome.updated_map, CopyOutcome.injected_map]
  rfl

theorem leave_filled (x : γ) (p q : HostPath) (content : Option γ) (d : Disk HostDir String γ) :
    (leave q (content.map fun _ => x) d).files p = d.files p ∨
      (leave q (content.map fun _ => x) d).files p = some x := by
  cases content with
  | none => exact .inl rfl
  | some c =>
    by_cases hq : q = p
    · exact .inr (if_pos hq)
    · exact .inl (if_neg hq)

/-- A build whose tools all supply the same content can only put that into an image file. -/
theorem files_stageStep_filled (x : γ) {name : String} {p : HostPath} (hp : p.dir = .image name) :
    (stageStep r s (step.map fun _ => x)).work.disk.files p = s.work.disk.files p ∨
      (stageStep r s (step.map fun _ => x)).work.disk.files p = some x := by
  cases hcopy : carriedOut s step with
  | none =>
    have hmap : carriedOut s (step.map fun _ => x) = none := by
      rw [carriedOut_map _ rfl, hcopy]
      rfl
    exact .inl (files_stageStep_of_none hmap hp)
  | some c =>
    obtain ⟨rootfs, o⟩ := c
    rw [files_stageStep_map _ rfl hcopy hp]
    obtain hsame | hx := leave_filled x p rootfs o.updated
      (leave o.landing (o.injected.map fun _ => x) s.work.disk)
    · rw [hsame]
      exact leave_filled x p o.landing o.injected s.work.disk
    · exact .inr hx

/-- A step that does not spare the base images puts into one of their files whatever its
tools supply. -/
theorem exists_written_of_not_spares {images : List String} (h : ¬ SparesBase images s step) :
    ∃ p : HostPath, p.dir ∈ images.map imageDir ∧ ∀ (x : γ) (s' : Stage γ),
      s'.progress = s.progress →
        (stageStep r s' (step.map fun _ => x)).work.disk.files p = some x := by
  simp only [SparesBase, not_forall] at h
  obtain ⟨rootfs, o, hcopy, hwritten⟩ := h
  have hfiles : ∀ (x : γ) (s' : Stage γ), s'.progress = s.progress → ∀ p : HostPath,
      p.dir ∈ images.map imageDir → (stageStep r s' (step.map fun _ => x)).work.disk.files p =
        (leave rootfs (o.updated.map fun _ => x)
          (leave o.landing (o.injected.map fun _ => x) s'.work.disk)).files p := by
    intro x s' hprogress p hp
    obtain ⟨image, -, hdir⟩ := List.mem_map.mp hp
    obtain ⟨name, hname⟩ := imageDir_eq image
    exact files_stageStep_map _ hprogress hcopy (hdir.symm.trans hname)
  by_cases hupdated : o.updated.isSome = true ∧ rootfs.dir ∈ images.map imageDir
  · refine ⟨rootfs, hupdated.2, fun x s' hprogress => ?_⟩
    obtain ⟨c, hc⟩ := Option.isSome_iff_exists.mp hupdated.1
    rw [hfiles x s' hprogress rootfs hupdated.2, hc]
    exact if_pos rfl
  · have hinjected : o.injected.isSome = true ∧ o.landing.dir ∈ images.map imageDir := by
      by_contra hnot
      exact hwritten ⟨fun hin hdir => hnot ⟨hin, hdir⟩, fun hup hdir => hupdated ⟨hup, hdir⟩⟩
    refine ⟨o.landing, hinjected.2, fun x s' hprogress => ?_⟩
    obtain ⟨c, hc⟩ := Option.isSome_iff_exists.mp hinjected.1
    rw [hfiles x s' hprogress o.landing hinjected.2, hc]
    have hlanding : (leave o.landing (some x) s'.work.disk).files o.landing = some x := if_pos rfl
    obtain hsame | hx := leave_filled x o.landing rootfs o.updated
      (leave o.landing (some x) s'.work.disk)
    · exact hsame.trans hlanding
    · exact hx

/-! ## The directories of the base images exist to the end -/

theorem hasDir_stageStep {name : String} (h : s.work.disk.hasDir (.image name) = true) :
    (stageStep r s step).work.disk.hasDir (.image name) = true := by
  have hI := imageFrame_hasDir (γ := γ) name
  have hwrite : ∀ (p : HostPath) (d : Disk HostDir String γ) (c : γ),
      d.hasDir (.image name) = true → (d.write p c).hasDir (.image name) = true :=
    fun p d c hd => by simp [Disk.write, hd]
  obtain ⟨w, progress⟩ := s
  cases progress with
  | error e => exact h
  | ok pr =>
    cases step with
    | «from» image =>
      exact Keeps.bind (I := fun v : Work γ => v.disk.hasDir (.image name) = true)
        ((keeps_read _).bind fun _ => .ite (keeps_pure _) (keeps_throw _))
        (fun _ => keeps_pure _) w h
    | run command o =>
      simp only [stageStep, processStep]
      cases pr.currentRootfs with
      | none => exact h
      | some rootfs =>
        exact Keeps.bind (keeps_handleRun (hI.runFrame _ o) command) (fun _ => keeps_pure _) w h
    | copy src dst o =>
      simp only [stageStep, processStep]
      cases pr.currentRootfs with
      | none => exact h
      | some rootfs =>
        refine Keeps.bind (I := fun v : Work γ => v.disk.hasDir (.image name) = true) ?_
          (fun _ => keeps_pure _) w h
        refine (keeps_answer _).bind fun _ => (keeps_answer _).bind fun _ =>
          .ite ?_ (keeps_throw _)
        refine (keeps_createDirAll (fun v hv => hI.createDir v.disk _ hv) _ _).bind fun _ =>
          (keeps_writeFile (fun v c _ hv => hwrite _ v.disk c hv) _).bind fun _ =>
          (keeps_writeFile (fun v c _ hv => hwrite _ v.disk c hv) _).bind fun _ =>
          keeps_copyFile (fun v c hv => hwrite _ v.disk c hv) _ _ _
    | _ => exact h

theorem hasDir_exec {name : String} (steps : List (Step γ))
    (h : s.work.disk.hasDir (.image name) = true) :
    (Runs.exec (stageStep r) s steps).work.disk.hasDir (.image name) = true :=
  exec_of_invariant (Q := fun s : Stage γ => s.work.disk.hasDir (.image name) = true) h
    (fun _ _ hs => hasDir_stageStep hs) steps

/-- A `FROM` that succeeds finds the file of its image. -/
theorem hasDir_handleFrom {image : String} {w : Work γ} {rootfs : HostPath}
    (h : ((handleFrom r image).exec w).1 = .ok rootfs) :
    w.disk.hasDir (imageDir image) = true := by
  cases hfile : w.disk.files ⟨imageDir image, "rootfs.sqfs"⟩ with
  | some content => exact w.disk.inDir ⟨imageDir image, "rootfs.sqfs"⟩ (by simp [hfile])
  | none =>
    unfold handleFrom isThere at h
    rw [exec_bind_ok (exec_read _ w), hfile] at h
    cases h

/-- A build that has not failed found all its base images. -/
theorem hasDir_fromImages {steps : List (Step γ)} {p : Progress}
    (hok : (Runs.exec (stageStep r) s steps).progress = .ok p) {image : String}
    (himage : image ∈ fromImages steps) :
    (Runs.exec (stageStep r) s steps).work.disk.hasDir (imageDir image) = true := by
  induction steps generalizing s with
  | nil => cases himage
  | cons step steps ih =>
    rw [exec_cons] at hok ⊢
    by_cases hrest : image ∈ fromImages steps
    · exact ih hok hrest
    · -- the image is that of the first instruction, which did not fail
      have hstep : step = .«from» image := by
        cases step with
        | «from» image' =>
          obtain rfl | hmem := List.mem_cons.mp himage
          · rfl
          · exact absurd hmem hrest
        | _ => exact absurd himage hrest
      subst hstep
      refine hasDir_exec steps ?_
      obtain ⟨w, progress⟩ := s
      cases progress with
      | error e =>
        rw [stageStep, exec_stopped] at hok
        cases hok
      | ok pr =>
        cases hfrom : ((handleFrom r image).exec w).1 with
        | ok rootfs => exact hasDir_stageStep (s := ⟨w, .ok pr⟩) (hasDir_handleFrom hfrom)
        | error e =>
          have hout : (handleFrom r image).exec w = (.error e, ((handleFrom r image).exec w).2) :=
            Prod.ext hfrom rfl
          simp only [stageStep, processStep] at hok
          rw [exec_bind_error hout, exec_stopped] at hok
          cases hok

/-- Once the instructions are through, the base images are left alone. -/
theorem files_build {steps : List (Step γ)} {imageName : String}
    (hname : ∀ image ∈ fromImages steps, imageDir imageName ≠ imageDir image)
    (o : FinalizeOutcome γ) (w : Work γ) {p : HostPath}
    (hp : p.dir ∈ (fromImages steps).map imageDir) :
    ((build r (.ok steps) imageName o).exec w).2.disk.files p =
      (Runs.exec (stageStep r) ⟨w, .ok noProgress⟩ steps).work.disk.files p := by
  obtain ⟨image, himage, hdir⟩ := List.mem_map.mp hp
  have hparsed : (outside (γ := γ) .parseError (.ok steps)).exec w = (.ok steps, w) := rfl
  rw [build, exec_bind_ok hparsed, exec_bind, exec_processSteps]
  cases hprogress : (Runs.exec (stageStep r) ⟨w, .ok noProgress⟩ steps).progress with
  | error e => rfl
  | ok pr =>
    have hthere := hasDir_fromImages hprogress himage
    dsimp only
    cases pr.currentRootfs with
    | none => rfl
    | some rootfs =>
      have hother : imageDir imageName ≠ p.dir := fun he => hname image himage (he.trans hdir.symm)
      have hholds : Holds p ((Runs.exec (stageStep r) ⟨w, .ok noProgress⟩ steps).work.disk.files p)
          (Runs.exec (stageStep r) ⟨w, .ok noProgress⟩ steps).work.disk :=
        ⟨rfl, hdir ▸ hthere⟩
      exact (keeps_finalizeImage_holds r rootfs pr.currentConfig o hother _ hholds).1

end Stages

theorem fromImages_map {γ γ' : Type} (f : γ → γ') (steps : List (Step γ)) :
    fromImages (steps.map (Step.map f)) = fromImages steps := by
  induction steps with
  | nil => rfl
  | cons step steps ih =>
    cases step with
    | «from» image => exact congrArg (image :: ·) ih
    | _ => exact ih

theorem SameCourse.fromImages_eq {γ : Type} {steps steps' : List (Step γ)}
    (h : SameCourse steps steps') : fromImages steps' = fromImages steps := by
  rw [← fromImages_map (fun _ => ()) steps', ← h, fromImages_map]

theorem sparesBase_map {γ γ' : Type} (f : γ → γ') (images : List String) (s : Stage γ)
    (step : Step γ) : SparesBase images (s.map f) (step.map f) ↔ SparesBase images s step := by
  have hcopy := carriedOut_map f (rfl : (s.map f).progress = s.progress) step
  unfold SparesBase
  rw [hcopy]
  cases carriedOut s step with
  | none => simp
  | some c =>
    obtain ⟨rootfs, o⟩ := c
    have hlanding : (o.map f).landing = o.landing := rfl
    simp [CopyOutcome.injected_map, CopyOutcome.updated_map, hlanding]

theorem SameCourse.along_iff {γ : Type} {r : BuildRunner} {images : List String} {s : Stage γ}
    {steps steps' : List (Step γ)} (h : SameCourse steps steps') :
    Along (stageStep r) (SparesBase images) s steps ↔
      Along (stageStep r) (SparesBase images) s steps' := by
  rw [← along_view_iff (Stage.map fun _ => ()) (Step.map fun _ => ()) (map_stageStep _ r)
      (sparesBase_map _ images) s steps, show steps.map (Step.map fun _ => ()) = _ from h,
    along_view_iff (Stage.map fun _ => ()) (Step.map fun _ => ()) (map_stageStep _ r)
      (sparesBase_map _ images) s steps']

theorem files_exec_of_spares {γ : Type} {r : BuildRunner} {images : List String} {s : Stage γ}
    {steps : List (Step γ)} (h : Along (stageStep r) (SparesBase images) s steps) {p : HostPath}
    (hp : p.dir ∈ images.map imageDir) :
    (exec (stageStep r) s steps).work.disk.files p = s.work.disk.files p := by
  induction steps generalizing s with
  | nil => rfl
  | cons step steps ih =>
    obtain ⟨hstep, hrest⟩ := h
    exact (ih hrest).trans (files_stageStep_of_spares hstep hp)

theorem files_exec_filled {γ : Type} {r : BuildRunner} {x : γ} {s : Stage γ} {name : String}
    {p : HostPath} (hp : p.dir = .image name) (h : s.work.disk.files p = some x)
    (steps : List (Step γ)) :
    (exec (stageStep r) s (steps.map (Step.map fun _ => x))).work.disk.files p = some x := by
  induction steps generalizing s with
  | nil => exact h
  | cons step steps ih =>
    refine ih ?_
    obtain hsame | hx := files_stageStep_filled x hp
    · exact hsame.trans h
    · exact hx

/-- A build whose tools supply one content leaves it in a file of a base image, if one of
its copies writes there. -/
theorem exists_filled_of_not_spares {γ : Type} {r : BuildRunner} {w : Work γ}
    {images : List String} {pre : List (Step γ)} {step : Step γ}
    (h : ¬ SparesBase images (exec (stageStep r) ⟨w, .ok noProgress⟩ pre) step)
    (post : List (Step γ)) :
    ∃ p : HostPath, p.dir ∈ images.map imageDir ∧ ∀ x : γ,
      (exec (stageStep r) ⟨w, .ok noProgress⟩
        ((pre ++ step :: post).map (Step.map fun _ => x))).work.disk.files p = some x := by
  obtain ⟨p, hp, hwritten⟩ := exists_written_of_not_spares (r := r) h
  refine ⟨p, hp, fun x => ?_⟩
  obtain ⟨image, -, hdir⟩ := List.mem_map.mp hp
  obtain ⟨name, hname⟩ := imageDir_eq image
  -- up to the copy, the build with other contents has made the same progress
  have hprogress : (exec (stageStep r) ⟨w, .ok noProgress⟩
      (pre.map (Step.map fun _ => x))).progress =
      (exec (stageStep r) ⟨w, .ok noProgress⟩ pre).progress := by
    have hview := map_exec_stageStep (fun _ : γ => ()) r ⟨w, .ok noProgress⟩ pre
    have hview' := map_exec_stageStep (fun _ : γ => ()) r ⟨w, .ok noProgress⟩
      (pre.map (Step.map fun _ => x))
    rw [List.map_map, show (Step.map fun _ : γ => ()) ∘ (Step.map fun _ => x) =
      Step.map fun _ => () from funext fun step => Step.map_map _ _ step, ← hview] at hview'
    exact congrArg (fun s : Stage Unit => s.progress) hview'
  rw [List.map_append, List.map_cons, exec_append, exec_cons]
  exact files_exec_filled (hdir.symm.trans hname) (hwritten x _ hprogress) post

/-- Whatever contents the context and the tools supply, a build leaves the files of its
base images as they were, exactly if no copy that is carried out writes to them. -/
theorem build_keeps_base_images_iff (r : BuildRunner) (w : Work (List UInt8))
    (steps : List (Step (List UInt8))) {imageName : String} (o : FinalizeOutcome (List UInt8))
    (hname : ∀ image ∈ fromImages steps, imageDir imageName ≠ imageDir image) :
    (∀ steps', SameCourse steps steps' → ImagesKept (fromImages steps) w.disk
      ((build r (.ok steps') imageName o).exec w).2.disk) ↔
    Along (stageStep r) (SparesBase (fromImages steps)) ⟨w, .ok noProgress⟩ steps := by
  constructor
  · intro h
    rw [along_iff]
    intro pre step post hsteps
    by_contra hnot
    obtain ⟨p, hp, hfilled⟩ := exists_filled_of_not_spares hnot post
    rw [← hsteps] at hfilled
    obtain ⟨x, hx⟩ : ∃ x, some x ≠ w.disk.files p := by
      cases w.disk.files p with
      | none => exact ⟨[], by simp⟩
      | some content => exact ⟨0 :: content, by simp⟩
    have hcourse : SameCourse steps (steps.map (Step.map fun _ => x)) := by
      simp [SameCourse, Function.comp_def]
    have himages := hcourse.fromImages_eq
    obtain ⟨image, himage, hdir⟩ := List.mem_map.mp hp
    have hkept := h _ hcourse image himage p.file
    have hpath : (⟨imageDir image, p.file⟩ : HostPath) = p := by rw [hdir]
    rw [hpath, files_build (himages.symm ▸ hname) o w (himages.symm ▸ hp), hfilled x] at hkept
    exact hx hkept
  · intro h steps' hcourse image himage file
    have hp : (⟨imageDir image, file⟩ : HostPath).dir ∈ (fromImages steps).map imageDir :=
      List.mem_map_of_mem himage
    have himages := hcourse.fromImages_eq
    rw [files_build (himages.symm ▸ hname) o w (himages.symm ▸ hp)]
    exact files_exec_of_spares (hcourse.along_iff.mp h) hp

/-- A host with one local image. -/
def alpineHost : Work (List UInt8) where
  ext4Cache := ∅
  disk :=
    { hasDir := fun dir => dir = imageDir "alpine:latest"
      files := fun p => if p = ⟨imageDir "alpine:latest", "rootfs.sqfs"⟩ then
        some [0x68, 0x73, 0x71, 0x73] else none
      inDir := by
        intro p h
        split_ifs at h with hp
        · simp [hp]
        · cases h }

/-- A copy in which every tool works, into a tree without links. -/
def smoothCopy : CopyOutcome (List UInt8) where
  createTempDir := .ok ()
  extract := .ok ()
  srcExists := true
  landing := ⟨.other "/tmp/.tmpXw3k1f", "app"⟩
  createParent := .ok ()
  inject := .done [0x7F, 0x45, 0x4C, 0x46]
  seconds := 1
  createSquashfs := .done [0x68, 0x73, 0x71, 0x73, 0x01]
  update := .done

def smoothRun : RunOutcome (List UInt8) where
  millis := 1
  createBuildDir := .ok ()
  createCacheDir := .ok ()
  convertError := .executionError
  convert := .done [0x53, 0xEF]
  devices := .ok ()
  kernelExists := true
  initramfs := .done fun _ => [0x1F, 0x8B]
  vm := .ok 0
  dmDeviceExists := true
  layer := .done [0x68, 0x73, 0x71, 0x73, 0x02]
  nanos := 1
  rename := .ok ()
  removeDir := true

def smoothFinalize : FinalizeOutcome (List UInt8) where
  createDir := .ok ()
  copyRootfs := .done
  hash := .ok ()
  measure := .ok ∅
  metadata := .ok ()
  toToml := .ok ()
  writeManifest := .done [0x5B]
  keys := ⟨.ok (), .ok (), .done [0x01], .done [0x02]⟩
  sign := .ok ()
  saveSigned := .done [0x03]

/-- A copy after a command changes a layer of the build. -/
theorem copy_after_run_keeps_base :
    imageDir "app" ≠ imageDir "alpine:latest" ∧
    ImagesKept ["alpine:latest"] alpineHost.disk
      ((build ⟨"/var/lib/vyoma", false, none⟩ (.ok [.«from» "alpine:latest",
        .run "apk add curl" smoothRun, .copy "app" "/app" smoothCopy]) "app" smoothFinalize).exec
        alpineHost).2.disk := by
  have hname : imageDir "app" ≠ imageDir "alpine:latest" := by decide
  refine ⟨hname, ?_⟩
  refine (build_keeps_base_images_iff ⟨"/var/lib/vyoma", false, none⟩ alpineHost
    [.«from» "alpine:latest", .run "apk add curl" smoothRun, .copy "app" "/app" smoothCopy]
    smoothFinalize ?_).mpr ⟨?_, ?_, ?_, trivial⟩ _ rfl
  · intro image himage
    obtain rfl := List.mem_singleton.mp himage
    exact hname
  · exact fun _ _ h => nomatch h
  · exact fun _ _ h => nomatch h
  · intro rootfs o h
    obtain ⟨rfl, rfl⟩ : (⟨.temp, "layer_1.sqfs"⟩ : HostPath) = rootfs ∧ smoothCopy = o :=
      Prod.mk.inj (Option.some.inj h)
    decide

/-- A copy right after `FROM` rewrites the image it started from. -/
theorem copy_after_from_changes_base :
    imageDir "app" ≠ imageDir "alpine:latest" ∧
    ¬ ImagesKept ["alpine:latest"] alpineHost.disk
      ((build ⟨"/var/lib/vyoma", false, none⟩ (.ok [.«from» "alpine:latest",
        .copy "app" "/app" smoothCopy]) "app" smoothFinalize).exec alpineHost).2.disk := by
  refine ⟨by decide, fun h => ?_⟩
  have hchanged : ((build ⟨"/var/lib/vyoma", false, none⟩ (.ok [.«from» "alpine:latest",
      .copy "app" "/app" smoothCopy]) "app" smoothFinalize).exec alpineHost).2.disk.files
      ⟨imageDir "alpine:latest", "rootfs.sqfs"⟩ = some [0x68, 0x73, 0x71, 0x73, 0x01] := by rfl
  have hkept := h "alpine:latest" List.mem_cons_self "rootfs.sqfs"
  rw [hchanged] at hkept
  cases hkept

end Vyoma.Build
