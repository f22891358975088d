import Vyoma.CommittedImages
import Vyoma.ManifestTrust
import Vyoma.VmCreation

/-!
# The image that is attested

`run_vm` takes the root file system of a VM from the directory of the requested image. The
check of the new VM looks for its manifest under another name: the one in a label of the
manifest beside the root file system, or without one the identifier of the VM. A check that is
asked for later takes the name of the directory of the root file system.
-/
namespace Vyoma.ImageStore
open FileTrees HostFiles HostFiles.Prog
open Image (ImageTree VmifManifest)
open VmService (findImageDir RunOutcomes)

def nameLabel (manifest : Option VmifManifest) : Option String :=
  manifest.bind fun m => m.labels.lookup "vyoma.image.name"

/-- The name that `run_vm` hands to the attestation of a new VM. -/
def attestationImageName (prepared : PreparedImage) (vmId : String) : String :=
  (nameLabel prepared.manifest).getD vmId

/-- `resolve_image_name_from_path`: the name of the directory that holds the file. -/
def resolveImageNameFromPath (baseImagePath : List String) : String :=
  let parent := (baseImagePath.filter fun c => c ≠ "" ∧ c ≠ ".").dropLast
  match parent.getLast? with
  | some name => if name = ".." then "/".intercalate ("" :: baseImagePath) else name
  | none => "/".intercalate ("" :: baseImagePath)

/-- What the stages of `run_vm` use of a prepared image. -/
def PreparedImage.summary (prepared : PreparedImage) : VmService.PreparedImage :=
  ⟨"/".intercalate ("" :: prepared.rootfsSqfsPath), nameLabel prepared.manifest⟩

theorem imageName_eq {run : RunOutcomes} {prepared : PreparedImage}
    (h : run.image = .ok prepared.summary) :
    run.imageName = attestationImageName prepared run.vmId := by
  unfold RunOutcomes.imageName
  rw [h]
  rfl

/-! ## The manifest beside the root file system -/

section Boot

variable {γ : Type} {decode : Decoders γ} {d : DataDir} {image : String}

/-- The manifest file an image is started with: the one of the store, or if there is no root
file system in the store the one of the pull. -/
def manifestFile (d : DataDir) (image : String) (h : Host γ) (o : EnsureOutcome γ) :
    Option (Node γ) :=
  if (h.tree.nodes (storeDir d image ++ ["rootfs.ext4"])).isSome ||
      (h.tree.nodes (storeDir d image ++ ["rootfs.sqfs"])).isSome then
    h.tree.nodes (storeDir d image ++ ["vyoma.toml"])
  else match o.pull.convert.writeManifest with
    | .done content => some (.file content)
    | _ => none

def decodeManifest (decode : Decoders γ) (r : Except String Unit) :
    Option (Node γ) → Option VmifManifest
  | some (.file content) => if r.isOk then (decode.manifest content).toOption else none
  | _ => none

def bootManifest (decode : Decoders γ) (d : DataDir) (image : String) (h : Host γ)
    (o : PrepareOutcome γ) : Option VmifManifest :=
  decodeManifest decode o.readManifest (manifestFile d image h o.ensure)

/-- A file of the directory that is not the root file system. -/
def Unchanged (store : List String) (file : String) (node : Option (Node γ)) (h : Host γ) : Prop :=
  h.tree.find (store ++ [file]) = node

variable {store : List String} {file : String} {node : Option (Node γ)}

theorem keeps_touch {ε : Type} (path : List String) :
    Keeps (Unchanged store file node) (touch path : Prog (Host γ) ε Unit) :=
  keeps_change fun _ h => h

theorem keeps_isThere {ε : Type} (path : List String) :
    Keeps (Unchanged store file node) (isThere path : Prog (Host γ) ε Bool) :=
  (keeps_touch path).bind fun _ => keeps_read _

theorem keeps_runTool {ε : Type} {other : String} (hplain : Plain file) (hne : file ≠ other)
    (left : Option γ) :
    Keeps (Unchanged store file node) (runTool store other left : Prog (Host γ) ε Unit) := by
  have hleave : Keeps (Unchanged store file node)
      (leave store other left : Prog (Host γ) ε Bool) := by
    cases left with
    | none => exact keeps_pure _
    | some content =>
      refine keeps_read_bind fun h hh => ?_
      cases hmade : h.tree.write store other content with
      | none => exact hh
      | some tree => exact (FileTree.find_write_of_ne hplain hne hmade).trans hh
  exact (keeps_touch _).bind fun _ => hleave.bind fun _ => keeps_pure _

theorem keeps_nativeRootfs (hplain : Plain file) (hne : file ≠ "rootfs.ext4")
    (o : EnsureOutcome γ) : Keeps (Unchanged store file node) (nativeRootfs store o) := by
  have hlast : Keeps (Unchanged store file node) (do
      if ← (isThere (store ++ ["rootfs.ext4"]) : Prog (Host γ) String Bool) then
        return store ++ ["rootfs.ext4"]
      else return store ++ ["rootfs.sqfs"]) :=
    (keeps_isThere _).bind fun _ => .ite (keeps_pure _) (keeps_pure _)
  refine (keeps_isThere _).bind fun _ => .ite (keeps_pure _) ?_
  refine (keeps_isThere _).bind fun _ => .ite (.ite ?_ hlast) (keeps_pure _)
  exact (keeps_touch _).bind fun _ => (keeps_runTool hplain hne _).bind fun _ => hlast

theorem keeps_extractOciConfig (path : List String) (r : Except String Unit) :
    Keeps (Unchanged store file node) (extractOciConfig decode path r) := by
  have hread : Keeps (Unchanged store file node)
      (readFile (fun _ => "Failed to read config") (path.dropLast ++ ["vyoma-config.json"]) r :
        Prog (Host γ) String γ) := by
    refine (keeps_touch _).bind fun _ => (keeps_answer _).bind fun _ =>
      (keeps_read _).bind fun found => ?_
    split
    · exact keeps_pure _
    · exact keeps_throw _
  exact (keeps_isThere _).bind fun _ => .ite (hread.bind fun _ => keeps_answer _) (keeps_pure _)

/-- A pull that succeeds leaves its manifest. -/
theorem establishes_pullImage (imageName : String) (o : PullOutcome γ) :
    Establishes (fun h => ∃ content, o.convert.writeManifest = .done content ∧
      h.tree.find (store ++ ["vyoma.toml"]) = some (.file content))
      (pullImage imageName store o) := by
  have hwrite : Establishes (fun h => ∃ content, o.convert.writeManifest = .done content ∧
      h.tree.find (store ++ ["vyoma.toml"]) = some (.file content))
      (writeFile id store "vyoma.toml" o.convert.writeManifest : Prog (Host γ) String Unit) := by
    intro h _ h' hok
    obtain ⟨content, tree, hdone, hmade, htree, -⟩ := writeFile_eq_ok hok
    exact ⟨content, hdone, htree ▸ FileTree.find_write (by decide) hmade⟩
  have hconvert := Establishes.bind (createDirAll id store o.convert.createDir) fun _ =>
    .bind (writeFile id store "rootfs.sqfs" o.convert.createSquashfs) fun _ =>
    .bind (readFile id (store ++ ["rootfs.sqfs"]) o.convert.hash) fun _ =>
    .bind (outside id o.convert.metadata) fun _ => .bind (outside id o.convert.toToml) fun _ =>
    hwrite
  exact .bind _ fun _ => .bind _ fun _ => .bind _ fun _ => .bind _ fun _ => .bind _ fun _ =>
    .bind _ fun _ => .bind _ fun _ => .bind _ fun _ => hconvert.mapError _

/-- An image at hand comes with the manifest file of the store or of the pull. -/
theorem unchanged_of_ensureImageLocally {o : EnsureOutcome γ} {h h' : Host γ} {path : List String}
    (hok : (ensureImageLocally d image o).exec h = (.ok path, h')) :
    Unchanged (imageStorePath d image) "vyoma.toml" (manifestFile d image h o) h' := by
  obtain ⟨_, h₁, hcreate, -⟩ := exec_bind_eq_ok_iff.mp hok
  obtain ⟨hroot, tree, hmade, -⟩ := createDirAll_eq_ok_iff.mp hcreate
  obtain ⟨q, hensure⟩ := exec_ensureImageLocally image hroot hmade
  rw [hensure] at hok
  unfold manifestFile
  split_ifs at hok ⊢ with hlocal
  · have hfound : Unchanged (imageStorePath d image) "vyoma.toml"
        (h.tree.nodes (storeDir d image ++ ["vyoma.toml"])) { h with tree := tree, touched := q } :=
      find_of_createDirs_imagesRoot hmade image (by decide) (by decide)
    exact (keeps_nativeRootfs (by decide) (by decide) o).of_exec hfound hok
  · obtain ⟨_, h₂, hpull, hnative⟩ := exec_bind_eq_ok_iff.mp hok
    obtain ⟨content, hdone, hfound⟩ := establishes_pullImage image o.pull _ _ _ hpull
    rw [hdone]
    exact (keeps_nativeRootfs (by decide) (by decide) o).of_exec hfound hnative

theorem exec_readFile {ε : Type} (wrap : String → ε) {path : List String} {h : Host γ}
    (hfound : h.tree.find path = node) :
    ((readFile wrap path (.ok ())).exec h).1 =
      match node with
      | some (.file content) => .ok content
      | _ => .error (wrap noSuchFile) := by
  have hread : (Prog.read fun h : Host γ => h.tree.find path : Prog (Host γ) ε _).exec
      { h with touched := resolve path :: h.touched } = (.ok node, _) :=
    (exec_read _ _).trans (by rw [← hfound])
  have hanswer : (outside wrap (.ok ()) : Prog (Host γ) ε Unit).exec
      { h with touched := resolve path :: h.touched } = (.ok (), _) := rfl
  unfold readFile touch
  rw [exec_bind_ok (exec_change _ _), exec_bind_ok hanswer, exec_bind_ok hread]
  obtain _ | _ | content := node
  · rfl
  · rfl
  · rfl

/-- What is loaded as the manifest is what the manifest file decodes to. -/
theorem toOption_loadVmifManifest {r : Except String Unit} {h : Host γ}
    (hfile : Unchanged (imageStorePath d image) "vyoma.toml" node h) :
    ((loadVmifManifest decode d image r).exec h).1.toOption = decodeManifest decode r node := by
  cases r with
  | error e =>
    obtain _ | _ | content := node
    · rfl
    · rfl
    · rfl
  | ok _ =>
    have hread := exec_readFile (fun _ => "Failed to load VMIF manifest") hfile
    unfold loadVmifManifest
    rw [exec_bind]
    generalize (readFile (fun _ => "Failed to load VMIF manifest")
      (imageStorePath d image ++ ["vyoma.toml"]) (.ok ())).exec h = out at hread ⊢
    obtain ⟨answer, h₁⟩ := out
    obtain _ | _ | content := node
    · cases hread
      rfl
    · cases hread
      rfl
    · cases hread
      show ((decode.manifest content).mapError _).toOption = (decode.manifest content).toOption
      cases decode.manifest content <;> rfl

/-- A prepared image is one of the directory of the request, with the manifest beside it. -/
theorem prepareImage_eq_ok {o : PrepareOutcome γ} {h h' : Host γ} {prepared : PreparedImage}
    (hok : (prepareImage decode d image o).exec h = (.ok prepared, h')) :
    (∃ file, Plain file ∧ prepared.rootfsSqfsPath = imageStorePath d image ++ [file]) ∧
      prepared.manifest = bootManifest decode d image h o := by
  obtain ⟨imagePath, h₁, hensure, hok⟩ := exec_bind_eq_ok_iff.mp hok
  obtain ⟨config, h₂, hconfig, hok⟩ := exec_bind_eq_ok_iff.mp hok
  obtain ⟨manifest, h₃, hmanifest, hok⟩ := exec_bind_eq_ok_iff.mp hok
  obtain ⟨rfl, -⟩ := exec_pure_eq_ok_iff.mp hok
  refine ⟨yields_rootfs o.ensure h imagePath (congrArg Prod.fst hensure), ?_⟩
  have hfile := (keeps_extractOciConfig imagePath o.readConfig).of_exec
    (unchanged_of_ensureImageLocally hensure) hconfig
  cases hmanifest
  exact toOption_loadVmifManifest hfile

end Boot

/-! ## The directory that is judged -/

section Attested

variable {decode : Decoders (List UInt8)} {d : DataDir} {image vmId : String}
  {o : PrepareOutcome (List UInt8)} {h h' : Host (List UInt8)} {prepared : PreparedImage}
  {t : ImageTree}

theorem findImageDir_eq_ok_iff {name : String} {dir : List String} :
    findImageDir d t name = .ok dir ↔
      Image.isThere t (imageStorePath d name) = true ∧ imageStorePath d name = dir := by
  unfold findImageDir
  by_cases hthere : Image.isThere t (imageStorePath d name) = true
  · simp [hthere]
  · simp [hthere]

/-- The attestation of the new VM finds the directory that holds its root file system. -/
def JudgesBooted (d : DataDir) (t : ImageTree) (prepared : PreparedImage) (vmId : String) : Prop :=
  ∃ dir, findImageDir d t (attestationImageName prepared vmId) = .ok dir ∧
    resolve dir = resolve prepared.rootfsSqfsPath.dropLast

/-- The image that was booted is judged exactly if the manifest beside its root file system
names it, or the VM is named as it. -/
theorem judges_booted_iff
    (hok : (prepareImage decode d image o).exec h = (.ok prepared, h')) :
    JudgesBooted d t prepared vmId ↔
      let name := (nameLabel (bootManifest decode d image h o)).getD vmId
      Image.isThere t (imageStorePath d name) = true ∧ storeDir d name = storeDir d image := by
  obtain ⟨⟨file, -, hpath⟩, hmanifest⟩ := prepareImage_eq_ok hok
  have hname : attestationImageName prepared vmId =
      (nameLabel (bootManifest decode d image h o)).getD vmId := by
    rw [attestationImageName, hmanifest]
  unfold JudgesBooted
  rw [hname, hpath, List.dropLast_concat]
  constructor
  · rintro ⟨dir, hdir, hsame⟩
    obtain ⟨hthere, rfl⟩ := findImageDir_eq_ok_iff.mp hdir
    exact ⟨hthere, hsame⟩
  · rintro ⟨hthere, hsame⟩
    exact ⟨_, findImageDir_eq_ok_iff.mpr ⟨hthere, rfl⟩, hsame⟩

theorem safeImageName_safeImageName (image : String) :
    safeImageName (safeImageName image) = safeImageName image := by
  refine String.toList_injective ?_
  rw [toList_safeImageName, toList_safeImageName, List.map_map]
  refine List.map_congr_left fun c _ => ?_
  by_cases hsep : c = '/' ∨ c = ':'
  · simp [flat, hsep]
  · simp [flat, hsep]

/-- The directory of a file is found by its name. -/
theorem resolveImageNameFromPath_rootfs {file : String} (himage : Plain image)
    (hfile : Plain file) :
    resolveImageNameFromPath (imageStorePath d image ++ [file]) = safeImageName image := by
  have hplain : ∀ c ∈ imageStorePath d image ++ [file], Plain c := by
    intro c hc
    obtain hstore | hlast := List.mem_append.mp hc
    · obtain hroot | hname := List.mem_append.mp hstore
      · exact plain_imagesRoot d c hroot
      · exact List.mem_singleton.mp hname ▸ plain_safeImageName_iff.mpr himage
    · exact List.mem_singleton.mp hlast ▸ hfile
  have hkept : (imageStorePath d image ++ [file]).filter (fun c => c ≠ "" ∧ c ≠ ".") =
      imageStorePath d image ++ [file] := by
    refine List.filter_eq_self.mpr fun c hc => ?_
    obtain ⟨hempty, hdot, -⟩ := hplain c hc
    exact decide_eq_true ⟨hempty, hdot⟩
  have hnot : safeImageName image ≠ ".." := (plain_safeImageName_iff.mpr himage).2.2
  unfold resolveImageNameFromPath
  dsimp only
  rw [hkept, List.dropLast_concat, imageStorePath, List.getLast?_concat]
  exact if_neg hnot

/-- A later check of the VM takes the name of the directory, and so judges what was booted. -/
theorem findImageDir_resolveImageName (himage : Plain image)
    (hok : (prepareImage decode d image o).exec h = (.ok prepared, h'))
    (hthere : Image.isThere t (imageStorePath d image) = true) :
    findImageDir d t (resolveImageNameFromPath prepared.rootfsSqfsPath) =
      .ok prepared.rootfsSqfsPath.dropLast := by
  obtain ⟨⟨file, hfile, hpath⟩, -⟩ := prepareImage_eq_ok hok
  have hplace : imageStorePath d (safeImageName image) = imageStorePath d image := by
    rw [imageStorePath, safeImageName_safeImageName, imageStorePath]
  rw [findImageDir_eq_ok_iff, hpath, resolveImageNameFromPath_rootfs himage hfile,
    List.dropLast_concat, hplace]
  exact ⟨hthere, rfl⟩

end Attested

/-! ## Two images -/

/-- A host on which an image is at hand, with the text of its manifest. -/
def appHost (text : String) : Host (List UInt8) :=
  ⟨FileTree.ofFiles [(["home", "vyoma", ".vyoma", "images", "app", "rootfs.ext4"], vmDisk),
    (["home", "vyoma", ".vyoma", "images", "app", "vyoma.toml"], RustText.utf8 text)], [], []⟩

/-- The decoders on one text. -/
def decodersOf (text : String) (m : VmifManifest) : Decoders (List UInt8) where
  manifest content := if content = RustText.utf8 text then .ok m else .error "expected a value"
  config _ := .error "expected value at line 1 column 1"

def smoothPrepare : PrepareOutcome (List UInt8) := ⟨smoothEnsure, .ok (), .ok ()⟩

def newVmId : String := "7c9e6679-7425-40de-944b-e07fc1f90ae7"

theorem appHost_prepared (text : String) (m : VmifManifest) : ∃ prepared h',
    (prepareImage (decodersOf text m) homeDir "app" smoothPrepare).exec (appHost text) =
      (.ok prepared, h') ∧
    Image.isThere h'.tree (imageStorePath homeDir "app") = true ∧
    Image.isThere h'.tree (imageStorePath homeDir newVmId) = false := by
  have hok : ((prepareImage (decodersOf text m) homeDir "app" smoothPrepare).exec
      (appHost text)).1.isOk = true := rfl
  have hthere : Image.isThere ((prepareImage (decodersOf text m) homeDir "app"
      smoothPrepare).exec (appHost text)).2.tree (imageStorePath homeDir "app") = true := rfl
  have hnot : Image.isThere ((prepareImage (decodersOf text m) homeDir "app"
      smoothPrepare).exec (appHost text)).2.tree (imageStorePath homeDir newVmId) = false := rfl
  generalize (prepareImage (decodersOf text m) homeDir "app" smoothPrepare).exec
    (appHost text) = out at hok hthere hnot ⊢
  obtain ⟨_ | prepared, h'⟩ := out
  · cases hok
  · exact ⟨prepared, h', rfl, hthere, hnot⟩

theorem appHost_manifest (text : String) (m : VmifManifest) :
    bootManifest (decodersOf text m) homeDir "app" (appHost text) smoothPrepare = some m := by
  have hfile : manifestFile homeDir "app" (appHost text) smoothPrepare.ensure =
      some (.file (RustText.utf8 text)) := rfl
  unfold bootManifest
  rw [hfile]
  simp [decodeManifest, decodersOf, smoothPrepare, Except.isOk, Except.toBool, Except.toOption]

def namedToml (name : String) : String :=
  Image.plainToml ++ "\"vyoma.image.name\" = \"" ++ name ++ "\"\n"

def namedManifest (name : String) : VmifManifest :=
  { Image.plainManifest with labels := AList.singleton "vyoma.image.name" name }

theorem nameLabel_namedManifest (name : String) :
    nameLabel (some (namedManifest name)) = some name := rfl

/-- An image that names itself in a label is judged. -/
theorem named_image_judged : ∃ prepared h',
    (prepareImage (decodersOf (namedToml "app") (namedManifest "app")) homeDir "app"
      smoothPrepare).exec (appHost (namedToml "app")) = (.ok prepared, h') ∧
    JudgesBooted homeDir h'.tree prepared newVmId := by
  obtain ⟨prepared, h', hok, hthere, -⟩ := appHost_prepared (namedToml "app") (namedManifest "app")
  refine ⟨prepared, h', hok, (judges_booted_iff hok).mpr ?_⟩
  rw [appHost_manifest, nameLabel_namedManifest]
  exact ⟨hthere, rfl⟩

/-- An image without labels, as every build and every pull makes it, is booted, but its
attestation looks for an image with the name of the VM. -/
theorem unlabelled_image_not_judged : ∃ prepared h',
    (prepareImage (decodersOf Image.plainToml Image.plainManifest) homeDir "app"
      smoothPrepare).exec (appHost Image.plainToml) = (.ok prepared, h') ∧
    findImageDir homeDir h'.tree (attestationImageName prepared newVmId) =
      .error ("Image directory not found for image: " ++ newVmId) ∧
    ¬ JudgesBooted homeDir h'.tree prepared newVmId := by
  obtain ⟨prepared, h', hok, -, hnot⟩ := appHost_prepared Image.plainToml Image.plainManifest
  have hname : attestationImageName prepared newVmId = newVmId := by
    rw [attestationImageName, (prepareImage_eq_ok hok).2, appHost_manifest]
    rfl
  have hdir : findImageDir homeDir h'.tree newVmId =
      .error ("Image directory not found for image: " ++ newVmId) := by
    unfold findImageDir
    simp [hnot]
  refine ⟨prepared, h', hok, hname.symm ▸ hdir, ?_⟩
  rintro ⟨dir, hfound, -⟩
  rw [hname, hdir] at hfound
  cases hfound

end Vyoma.ImageStore
