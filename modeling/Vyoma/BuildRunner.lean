import Vyoma.HostFiles
import Vyoma.VmifManifest

/-!
# The build runner

A build carries the path of the current root file system through the instructions of a
Vyomafile. `FROM` takes the file of a local image, `RUN` converts the current file to a
cached ext4 image, boots a VM on a snapshot of it and makes a new layer, and `COPY`
unpacks the current file, adds to it and writes it back in place. What the external tools
and the operating system answer is part of each instruction; contents of files are of any
type.
-/
namespace Vyoma.Build
open HostFiles
open Image (OciImageConfig)

inductive Instruction where
  | «from» (image : String)
  | run (command : String)
  | copy (src dst : String)
  | cmd (args : List String)
  | entrypoint (args : List String)
  | env (key value : String)
  | workdir (path : String)
  | vmMeasuredBoot
  deriving DecidableEq, Repr

inductive BuildError where
  | parseError (message : String)
  | executionError (message : String)
  | vmError (message : String)
  | injectionError (message : String)
  | layerError (message : String)
  | io (message : String)
  deriving DecidableEq, Repr

/-- The directories a build deals with: those of images, the one for layers, one for each
`RUN`, the one of cached conversions, the work directory, and any other of the host. -/
inductive HostDir where
  | image (name : String)
  | temp
  | build (id : String)
  | ext4Cache
  | work
  | other (path : String)
  deriving DecidableEq, Repr

abbrev HostPath : Type := Path HostDir String

/-- `str::replace` of one character by another. -/
def replace (old new : Char) (s : String) : String :=
  String.ofList (s.toList.map fun c => if c = old then new else c)

/-- The directory of an image under `.vyoma/images`; an empty name is that directory itself. -/
def imageDir (image : String) : HostDir :=
  let name := replace ':' '_' (replace '/' '_' image)
  .image (if name = "" then "." else name)

structure BuildRunner where
  workDir : String
  measured : Bool := false
  signingKeyPath : Option HostDir := none

def BuildRunner.display (r : BuildRunner) (p : HostPath) : String :=
  match p.dir with
  | .image name => r.workDir ++ "/.vyoma/images/" ++ name ++ "/" ++ p.file
  | .temp => r.workDir ++ "/temp/" ++ p.file
  | .build id => r.workDir ++ "/temp/" ++ id ++ "/" ++ p.file
  | .ext4Cache => r.workDir ++ "/ext4-cache/" ++ p.file
  | .work => r.workDir ++ "/" ++ p.file
  | .other path => path ++ "/" ++ p.file

/-- What a runner works on: its own cache of conversions, and the disk it shares. -/
structure Work (γ : Type) where
  ext4Cache : HashMap String HostPath
  disk : Disk HostDir String γ

abbrev BuildM (γ : Type) : Type → Type := Prog (Work γ) BuildError

/-- How the copying of a file ends; a copy that is done holds what the source holds. -/
inductive Copied (γ : Type) where
  | refused (error : String)
  | broken (error : String) (left : γ)
  | done
  deriving Repr

def Copied.answer {γ : Type} : Copied γ → Except String Unit
  | .refused error => .error error
  | .broken error _ => .error error
  | .done => .ok ()

section Files

variable {γ : Type}

def Work.onDisk (f : Disk HostDir String γ → Disk HostDir String γ) (w : Work γ) : Work γ :=
  { w with disk := f w.disk }

def isThere (p : HostPath) : BuildM γ Bool := Prog.read fun w => (w.disk.files p).isSome

def dirIsThere (dir : HostDir) : BuildM γ Bool := Prog.read fun w => w.disk.hasDir dir

def onDisk (f : Disk HostDir String γ → Disk HostDir String γ) : BuildM γ Unit :=
  Prog.change (Work.onDisk f)

/-- An answer of the operating system, with its error as the code wraps it. -/
def outside {α : Type} (wrap : String → BuildError) (r : Except String α) : BuildM γ α :=
  Prog.answer (r.mapError wrap)

def createDirAll (wrap : String → BuildError) (dir : HostDir) (r : Except String Unit) :
    BuildM γ Unit := do
  outside wrap r
  onDisk (Disk.createDir · dir)

def leave (p : HostPath) : Option γ → Disk HostDir String γ → Disk HostDir String γ
  | none, d => d
  | some content, d => d.write p content

/-- A tool writes this file. -/
def writeFile (wrap : String → BuildError) (p : HostPath) (w : Written γ) : BuildM γ Unit := do
  onDisk (leave p w.left)
  outside wrap w.answer

/-- What a copy leaves in its target. -/
def Copied.left (source : Option γ) : Copied γ → Option γ
  | .refused _ => none
  | .broken _ left => some left
  | .done => source

def copyFile (wrap : String → BuildError) (source target : HostPath) (c : Copied γ) :
    BuildM γ Unit := do
  onDisk fun d => leave target (c.left (d.files source)) d
  outside wrap c.answer

end Files

/-! ## FROM -/

def handleFrom {γ : Type} (r : BuildRunner) (image : String) : BuildM γ HostPath := do
  let rootfsPath : HostPath := ⟨imageDir image, "rootfs.sqfs"⟩
  if ← isThere rootfsPath then return rootfsPath
  else throw (.executionError
    ("Base image " ++ image ++ " not found at \"" ++ r.display rootfsPath ++ "\""))

/-! ## RUN -/

/-- A line of the init script of a build VM. Lines that `prepare` mount file systems, wait
for the disk, which is there in time, or write messages. -/
inductive InitLine where
  | prepare (line : String)
  | chroot (script : String)
  | cat (target text : String)
  | poweroff
  deriving DecidableEq, Repr

/-- The script with the command of a `RUN`. -/
def buildScript (command : String) : String := "#!/bin/sh\nset -e\n" ++ command ++ "\n"

/-- The init script of a build VM. Paths are those of the disk, mounted at `/mnt/root`. -/
def buildInitScript (command : String) : List InitLine :=
  [.prepare "mount -t proc proc /proc",
    .prepare "mount -t sysfs sys /sys",
    .prepare "mount -t devtmpfs dev /dev",
    .prepare "while [ ! -b /dev/vda ]",
    .prepare "mkdir -p /mnt/root",
    .prepare "mount /dev/vda /mnt/root",
    .prepare "mount -t proc proc /mnt/root/proc",
    .prepare "mount -t sysfs sys /mnt/root/sys",
    .prepare "mount --bind /dev /mnt/root/dev",
    .prepare "mount -t devpts pts /mnt/root/dev/pts",
    .chroot "/vyoma-build.sh",
    .poweroff,
    .prepare "echo \"Build VM: Executing command...\"",
    .cat "/vyoma-build.sh" (buildScript command),
    .prepare "chmod +x /mnt/root/vyoma-build.sh",
    .chroot "/vyoma-build.sh",
    .prepare "echo \"Build VM: Command completed with exit code: $exit_code\"",
    .prepare "umount /mnt/root/proc",
    .prepare "umount /mnt/root/sys",
    .prepare "umount /mnt/root/dev",
    .prepare "umount /mnt/root",
    .prepare "sync",
    .poweroff]

/-- What a `RUN` meets. `convert` is what `squashfs_to_ext4` leaves, `devices` the copy-on-write
file, the loop devices and the snapshot, `initramfs` what `create_initramfs` makes of an init
script, `vm` the process of the VM, and `layer` what `ext4_to_squashfs` leaves. -/
structure RunOutcome (γ : Type) where
  millis : ℤ
  createBuildDir : Except String Unit
  createCacheDir : Except String Unit
  convertError : String → BuildError
  convert : Written γ
  devices : Except BuildError Unit
  kernelExists : Bool
  initramfs : Written (List InitLine → γ)
  vm : Except BuildError ℤ
  dmDeviceExists : Bool
  layer : Written γ
  nanos : ℤ
  rename : Except String Unit
  removeDir : Bool

/-- The file name under which the conversion of a path is cached. -/
def ext4PathOf (cacheKey : String) : HostPath :=
  ⟨.ext4Cache, replace '\\' '_' (replace ':' '_' (replace '/' '_' cacheKey)) ++ ".ext4"⟩

def createCachedExt4 {γ : Type} (cacheKey : String) (o : RunOutcome γ) : BuildM γ HostPath := do
  createDirAll (fun e => .executionError ("Failed to create cache dir: " ++ e)) .ext4Cache
    o.createCacheDir
  let ext4Path := ext4PathOf cacheKey
  if ← isThere ext4Path then return ext4Path
  else
    writeFile o.convertError ext4Path o.convert
    Prog.change fun w => { w with ext4Cache := w.ext4Cache.insert cacheKey ext4Path }
    return ext4Path

/-- The ext4 image a command runs on: what the runner remembers if it still exists. -/
def ext4For {γ : Type} (r : BuildRunner) (baseSquashfs : HostPath) (o : RunOutcome γ) :
    BuildM γ HostPath := do
  let cacheKey := r.display baseSquashfs
  match ← Prog.read fun w => w.ext4Cache.lookup cacheKey with
  | some cachedExt4 =>
    if ← isThere cachedExt4 then return cachedExt4
    else createCachedExt4 cacheKey o
  | none => createCachedExt4 cacheKey o

def findKernelPath {γ : Type} (o : RunOutcome γ) : BuildM γ Unit :=
  if o.kernelExists then pure ()
  else throw (.vmError "Kernel not found at /usr/lib/vyoma/vmlinux or local bin")

def initramfsPath : HostPath := ⟨.temp, "build-initramfs.cpio.gz"⟩

def createBuildInitramfs {γ : Type} (command : String) (o : RunOutcome γ) : BuildM γ Unit :=
  writeFile (fun e => .vmError ("Failed to create build initramfs: " ++ e)) initramfsPath
    (o.initramfs.map fun image => image (buildInitScript command))

/-- What `run_command_in_ch` does before it starts the VM. -/
def prepareBoot {γ : Type} (command : String) (o : RunOutcome γ) : BuildM γ Unit := do
  findKernelPath o
  createBuildInitramfs command o

/-- The command reaches the VM in its boot image only. -/
def runCommandInCh {γ : Type} (command : String) (o : RunOutcome γ) : BuildM γ ℤ := do
  prepareBoot command o
  Prog.answer o.vm

def executeBuildInVm {γ : Type} (r : BuildRunner) (baseSquashfs : HostPath) (command : String)
    (buildDir : HostDir) (o : RunOutcome γ) : BuildM γ HostPath := do
  let _ ← ext4For r baseSquashfs o
  let newLayerPath : HostPath := ⟨buildDir, "layer.sqfs"⟩
  Prog.answer o.devices
  let code ← runCommandInCh command o
  if code = 0 then
    if o.dmDeviceExists then
      writeFile .executionError newLayerPath o.layer
      return newLayerPath
    else throw (.executionError "DM device not found for layer creation")
  else throw (.executionError ("Build command failed with exit code " ++ toString code))

def handleRun {γ : Type} (r : BuildRunner) (rootfsPath : HostPath) (command : String)
    (o : RunOutcome γ) : BuildM γ HostPath := do
  let buildDir : HostDir := .build ("build-" ++ toString o.millis)
  createDirAll (fun e => .executionError ("Failed to create build dir: " ++ e)) buildDir
    o.createBuildDir
  let result ← (executeBuildInVm r rootfsPath command buildDir o).attempt
  let cleanUp : BuildM γ Unit := onDisk fun d => if o.removeDir then d.removeDir buildDir else d
  match result with
  | .ok layerPath =>
    let finalLayer : HostPath := ⟨.temp, "layer_" ++ toString o.nanos ++ ".sqfs"⟩
    match o.rename with
    | .error e =>
      cleanUp
      throw (.executionError ("Failed to preserve layer: " ++ e))
    | .ok () =>
      onDisk (Disk.rename · layerPath finalLayer)
      cleanUp
      return finalLayer
  | .error e =>
    cleanUp
    throw e

/-! ## COPY -/

/-- What a `COPY` meets. The destination is looked up in the unpacked tree, where `..` and
symbolic links count, so it can lead to any file of the host. -/
structure CopyOutcome (γ : Type) where
  createTempDir : Except String Unit
  extract : Except String Unit
  srcExists : Bool
  landing : HostPath
  createParent : Except String Unit
  inject : Written γ
  seconds : ℤ
  createSquashfs : Written γ
  update : Copied γ

def handleCopy {γ : Type} (rootfsPath : HostPath) (src : String) (o : CopyOutcome γ) :
    BuildM γ Unit := do
  outside (fun e => .injectionError ("Failed to create temp dir: " ++ e)) o.createTempDir
  outside .injectionError o.extract
  if o.srcExists then
    createDirAll (fun e => .injectionError ("Failed to create dest dir: " ++ e)) o.landing.dir
      o.createParent
    writeFile (fun e => .injectionError ("Failed to copy file: " ++ e)) o.landing o.inject
    let newSquashfsPath : HostPath := ⟨.temp, "layer_" ++ toString o.seconds ++ "_injected.sqfs"⟩
    writeFile (fun e => .injectionError ("Failed to create new squashfs: " ++ e)) newSquashfsPath
      o.createSquashfs
    copyFile (fun e => .injectionError ("Failed to update rootfs: " ++ e)) newSquashfsPath
      rootfsPath o.update
  else throw (.injectionError ("Source path " ++ src ++ " does not exist"))

/-! ## The image that is made -/

/-- What the key files meet: their reading, and the making of a new pair. -/
structure KeyOutcome (γ : Type) where
  load : Except String Unit
  createDir : Except String Unit
  writePublic : Written γ
  writeSecret : Written γ

def standardKey {γ : Type} (o : KeyOutcome γ) : BuildM γ Bool := do
  let secretKey ← isThere ⟨.work, "build_signing_key"⟩
  let publicKey ← isThere ⟨.work, "build_signing_key.pub"⟩
  if secretKey && publicKey then
    outside .executionError o.load
    return true
  else return false

/-- Whether there is a key to sign with. A configured directory that does not exist is
created with a new pair of keys. -/
def resolveSigningKey {γ : Type} (r : BuildRunner) (o : KeyOutcome γ) : BuildM γ Bool := do
  match r.signingKeyPath with
  | none => standardKey o
  | some path =>
    if ← dirIsThere path then
      let secretKey ← isThere ⟨path, "build_signing_key"⟩
      let publicKey ← isThere ⟨path, "build_signing_key.pub"⟩
      if secretKey && publicKey then
        outside .executionError o.load
        return true
      else standardKey o
    else
      createDirAll (fun e => .executionError ("Failed to create key dir: " ++ e)) path o.createDir
      writeFile (fun e => .executionError ("Failed to save public key: " ++ e))
        ⟨path, "build_signing_key.pub"⟩ o.writePublic
      writeFile (fun e => .executionError ("Failed to save signing key: " ++ e))
        ⟨path, "build_signing_key"⟩ o.writeSecret
      return true

structure BuildResult where
  imageName : String
  rootfsPath : HostPath
  manifestPath : HostPath
  config : OciImageConfig
  pcrPolicy : Option (HashMap UInt32 String)
  manifestSigned : Bool

structure FinalizeOutcome (γ : Type) where
  createDir : Except String Unit
  copyRootfs : Copied γ
  hash : Except String Unit
  measure : Except BuildError (HashMap UInt32 String)
  metadata : Except String Unit
  toToml : Except String Unit
  writeManifest : Written γ
  keys : KeyOutcome γ
  sign : Except String Unit
  saveSigned : Written γ

/-- The PCR values of a measured build. -/
def measuredPcrs {γ : Type} (r : BuildRunner) (o : FinalizeOutcome γ) :
    BuildM γ (Option (HashMap UInt32 String)) :=
  if r.measured then do
    let pcrs ← Prog.answer o.measure
    return some pcrs
  else return none

def saveSignature {γ : Type} (outputDir : HostDir) (o : FinalizeOutcome γ) (signed : Bool) :
    BuildM γ Unit :=
  if signed then do
    outside (fun e => .executionError ("Failed to sign manifest: " ++ e)) o.sign
    writeFile (fun e => .executionError ("Failed to save signed manifest: " ++ e))
      ⟨outputDir, "vyoma.toml.sig"⟩ o.saveSigned
  else return ()

def finalizeImage {γ : Type} (r : BuildRunner) (rootfsPath : HostPath) (imageName : String)
    (config : OciImageConfig) (o : FinalizeOutcome γ) : BuildM γ BuildResult := do
  let outputDir := imageDir imageName
  createDirAll .io outputDir o.createDir
  let finalRootfs : HostPath := ⟨outputDir, "rootfs.sqfs"⟩
  copyFile .io rootfsPath finalRootfs o.copyRootfs
  let manifestPath : HostPath := ⟨outputDir, "vyoma.toml"⟩
  outside (fun e => .executionError ("Failed to compute hash: " ++ e)) o.hash
  let pcrPolicy ← measuredPcrs r o
  outside .io o.metadata
  outside .executionError o.toToml
  writeFile .io manifestPath o.writeManifest
  let signed ← resolveSigningKey r o.keys
  saveSignature outputDir o signed
  return ⟨imageName, finalRootfs, manifestPath, config, pcrPolicy, signed⟩

/-! ## The whole build -/

/-- An instruction with what it meets. -/
inductive Step (γ : Type) where
  | «from» (image : String)
  | run (command : String) (o : RunOutcome γ)
  | copy (src dst : String) (o : CopyOutcome γ)
  | cmd (args : List String)
  | entrypoint (args : List String)
  | env (key value : String)
  | workdir (path : String)
  | vmMeasuredBoot

def Step.instruction {γ : Type} : Step γ → Instruction
  | .«from» image => .«from» image
  | .run command _ => .run command
  | .copy src dst _ => .copy src dst
  | .cmd args => .cmd args
  | .entrypoint args => .entrypoint args
  | .env key value => .env key value
  | .workdir path => .workdir path
  | .vmMeasuredBoot => .vmMeasuredBoot

/-- What a build carries from one instruction to the next. -/
structure Progress where
  currentRootfs : Option HostPath
  currentConfig : OciImageConfig

def addEnv (config : OciImageConfig) (key value : String) : OciImageConfig :=
  { config with env := some (config.env.getD [] ++ [key ++ "=" ++ value]) }

def processStep {γ : Type} (r : BuildRunner) (p : Progress) : Step γ → BuildM γ Progress
  | .«from» image => do
    let rootfs ← handleFrom r image
    return { p with currentRootfs := some rootfs }
  | .run command o =>
    match p.currentRootfs with
    | none => throw (.executionError "RUN instruction without FROM")
    | some rootfs => do
      let newRootfs ← handleRun r rootfs command o
      return { p with currentRootfs := some newRootfs }
  | .copy src _ o =>
    match p.currentRootfs with
    | none => throw (.executionError "COPY instruction without FROM")
    | some rootfs => do
      handleCopy rootfs src o
      return p
  | .cmd args => return { p with currentConfig := { p.currentConfig with cmd := some args } }
  | .entrypoint args =>
    return { p with currentConfig := { p.currentConfig with entrypoint := some args } }
  | .env key value => return { p with currentConfig := addEnv p.currentConfig key value }
  | .workdir path =>
    return { p with currentConfig := { p.currentConfig with workingDir := some path } }
  | .vmMeasuredBoot => return p

def processSteps {γ : Type} (r : BuildRunner) : Progress → List (Step γ) → BuildM γ Progress
  | p, [] => return p
  | p, step :: steps => do
    let p ← processStep r p step
    processSteps r p steps

/-- A build starts without a root file system. -/
def noProgress : Progress where
  currentRootfs := none
  currentConfig := { env := some [] }

/-- `build`, given what parsing the Vyomafile ends with. -/
def build {γ : Type} (r : BuildRunner) (parsed : Except String (List (Step γ))) (imageName : String)
    (o : FinalizeOutcome γ) : BuildM γ BuildResult := do
  let steps ← outside .parseError parsed
  let p ← processSteps r noProgress steps
  match p.currentRootfs with
  | none => throw (.executionError "No FROM instruction found")
  | some finalRootfs => finalizeImage r finalRootfs imageName p.currentConfig o

end Vyoma.Build
