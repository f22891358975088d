import Vyoma.BuildRunner
import Vyoma.FileTrees

/-!
# The image store

An image has a directory under `.vyoma/images` of the data directory. The daemon looks there
for a root file system before it pulls one, and a build takes its base image from there and
puts its own image there. Each of them finds the directory by a name in which slashes and
colons are replaced. What registries, tools and the operating system answer is an argument;
every program keeps a record of the places it touched and of the registries it asked. The
texts of the operating system's own errors are not told apart.
-/
namespace Vyoma.ImageStore
open FileTrees HostFiles
open Build (replace Copied BuildError FinalizeOutcome)
open Image (OciImageConfig VmifManifest)

/-- The data directory, by its place. -/
structure DataDir where
  place : List String
  plain : ∀ c ∈ place, Plain c

/-- Files, with a record of the places that were touched and of the registry requests. -/
structure Host (γ : Type) where
  tree : FileTree γ
  touched : List (List String)
  requests : List String

/-! ## Access to files -/

section Files

variable {γ ε : Type}

def touch (path : List String) : Prog (Host γ) ε Unit :=
  Prog.change fun h => { h with touched := resolve path :: h.touched }

def outside {α : Type} (wrap : String → ε) (r : Except String α) : Prog (Host γ) ε α :=
  Prog.answer (r.mapError wrap)

def request (image : String) : Prog (Host γ) ε Unit :=
  Prog.change fun h => { h with requests := image :: h.requests }

def setTree (tree : FileTree γ) : Prog (Host γ) ε Unit :=
  Prog.change fun h => { h with tree := tree }

def noSuchFile : String := "No such file or directory (os error 2)"

/-- `Path::exists`. -/
def isThere (path : List String) : Prog (Host γ) ε Bool := do
  touch path
  Prog.read fun h => (h.tree.find path).isSome

/-- `std::fs::read`, of a file that is there. -/
def readFile (wrap : String → ε) (path : List String) (r : Except String Unit) :
    Prog (Host γ) ε γ := do
  touch path
  outside wrap r
  match ← Prog.read fun h => h.tree.find path with
  | some (.file content) => return content
  | _ => throw (wrap noSuchFile)

/-- `std::fs::create_dir_all`, which may touch every directory on the way. -/
def createDirAll (wrap : String → ε) (path : List String) (r : Except String Unit) :
    Prog (Host γ) ε Unit := do
  Prog.change fun h => { h with touched := path.inits.map resolve ++ h.touched }
  outside wrap r
  match ← Prog.read fun h => h.tree.createDirs [] path with
  | some tree => setTree tree
  | none => throw (wrap noSuchFile)

/-- Something is left in a file, unless there can be no file. -/
def leave (dir : List String) (file : String) : Option γ → Prog (Host γ) ε Bool
  | none => return true
  | some content => do
    match ← Prog.read fun h => h.tree.write dir file content with
    | some tree =>
      setTree tree
      return true
    | none => return false

def writeFile (wrap : String → ε) (dir : List String) (file : String) (w : Written γ) :
    Prog (Host γ) ε Unit := do
  touch (dir ++ [file])
  if ← leave dir file w.left then outside wrap w.answer else throw (wrap noSuchFile)

/-- `std::fs::copy`; a copy that is done holds what the source holds. -/
def copyFile (wrap : String → ε) (source dir : List String) (file : String) (c : Copied γ) :
    Prog (Host γ) ε Unit := do
  touch source
  match ← Prog.read fun h => h.tree.find source with
  | some (.file content) =>
    touch (dir ++ [file])
    if ← leave dir file (c.left (some content)) then outside wrap c.answer
    else throw (wrap noSuchFile)
  | _ => throw (wrap noSuchFile)

/-- A tool whose success nobody asks for writes a file, or does not. -/
def runTool (dir : List String) (file : String) (left : Option γ) : Prog (Host γ) ε Unit := do
  touch (dir ++ [file])
  let _ ← leave dir file left

theorem exec_isThere (path : List String) (h : Host γ) :
    (isThere path : Prog (Host γ) ε Bool).exec h =
      (.ok (h.tree.find path).isSome, { h with touched := resolve path :: h.touched }) := rfl

end Files

/-! ## Where an image is -/

def imagesRoot (d : DataDir) : List String := d.place ++ [".vyoma", "images"]

/-- The name of the directory of an image, as `image_name.replace('/', "_").replace(':', "_")`. -/
def safeImageName (image : String) : String := replace ':' '_' (replace '/' '_' image)

def imageStorePath (d : DataDir) (image : String) : List String :=
  imagesRoot d ++ [safeImageName image]

/-! ## Pulling -/

structure ConvertOutcome (γ : Type) where
  createDir : Except String Unit
  createSquashfs : Written γ
  hash : Except String Unit
  metadata : Except String Unit
  toToml : Except String Unit
  writeManifest : Written γ

/-- `VmifConverter::convert_directory_to_vmif` without a signing key. -/
def convertDirectoryToVmif {γ : Type} (destDir : List String) (o : ConvertOutcome γ) :
    Prog (Host γ) String Unit := do
  createDirAll id destDir o.createDir
  writeFile id destDir "rootfs.sqfs" o.createSquashfs
  let _ ← readFile id (destDir ++ ["rootfs.sqfs"]) o.hash
  outside id o.metadata
  outside id o.toToml
  writeFile id destDir "vyoma.toml" o.writeManifest

structure PullOutcome (γ : Type) where
  createStore : Except String Unit
  pullManifest : Except String Unit
  parseLayers : Except String (List String)
  parseConfigDigest : Except String String
  pullConfigBlob : Except String Unit
  configJson : Except String Unit
  writeConfig : Written γ
  createTempDir : Except String Unit
  pullLayer : String → Except String Unit
  unpackLayer : String → Except String Unit
  mke2fs : Option γ
  convert : ConvertOutcome γ

/-- The OCI configuration is saved beside the image if it can be had. -/
def pullConfig {γ : Type} (imageName : String) (store : List String) (o : PullOutcome γ) :
    Prog (Host γ) String Unit :=
  match o.parseConfigDigest with
  | .error _ => return ()
  | .ok _ => do
    request imageName
    match o.pullConfigBlob, o.configJson with
    | .ok (), .ok () =>
      let _ ← (writeFile id store "vyoma-config.json" o.writeConfig).attempt
    | _, _ => return ()

/-- The layers go to a new temporary directory, one over the other. -/
def pullLayers {γ : Type} (imageName : String) (o : PullOutcome γ) :
    List String → Prog (Host γ) String Unit
  | [] => return ()
  | digest :: layers => do
    request imageName
    outside (fun _ => "Failed layer " ++ digest) (o.pullLayer digest)
    outside (fun _ => "Unpack failed") (o.unpackLayer digest)
    pullLayers imageName o layers

def pullImage {γ : Type} (imageName : String) (store : List String) (o : PullOutcome γ) :
    Prog (Host γ) String Unit := do
  createDirAll id store o.createStore
  request imageName
  outside (fun _ => "Pull manifest failed") o.pullManifest
  let layers ← outside (fun _ => "Parse layers failed") o.parseLayers
  pullConfig imageName store o
  outside (fun _ => "Failed to create temp dir") o.createTempDir
  pullLayers imageName o layers
  runTool store "rootfs.ext4" o.mke2fs
  (convertDirectoryToVmif store o.convert).mapError fun _ => "VMIF conversion failed"

/-! ## Images at hand -/

structure EnsureOutcome (γ : Type) where
  createRoot : Except String Unit
  pull : PullOutcome γ
  tempDir : Bool
  mke2fs : Option γ

/-- The file that is booted: an ext4 one if there is one or can be made of the squashfs. -/
def nativeRootfs {γ : Type} (store : List String) (o : EnsureOutcome γ) :
    Prog (Host γ) String (List String) := do
  let rootfsExt4Path := store ++ ["rootfs.ext4"]
  let rootfsSqfsPath := store ++ ["rootfs.sqfs"]
  if ← isThere rootfsExt4Path then return rootfsExt4Path
  else if ← isThere rootfsSqfsPath then
    if o.tempDir then
      touch rootfsSqfsPath
      runTool store "rootfs.ext4" o.mke2fs
    if ← isThere rootfsExt4Path then return rootfsExt4Path else return rootfsSqfsPath
  else return rootfsSqfsPath

def hasRootfs {γ : Type} (store : List String) : Prog (Host γ) String Bool := do
  if ← isThere (store ++ ["rootfs.ext4"]) then return true
  else isThere (store ++ ["rootfs.sqfs"])

def ensureImageLocally {γ : Type} (d : DataDir) (imageName : String) (o : EnsureOutcome γ) :
    Prog (Host γ) String (List String) := do
  createDirAll id (imagesRoot d) o.createRoot
  let store := imageStorePath d imageName
  if ← hasRootfs store then nativeRootfs store o
  else
    pullImage imageName store o.pull
    nativeRootfs store o

/-! ## Preparing an image -/

/-- How the files of an image are decoded. -/
structure Decoders (γ : Type) where
  manifest : γ → Except String VmifManifest
  config : γ → Except String OciImageConfig

structure PrepareOutcome (γ : Type) where
  ensure : EnsureOutcome γ
  readConfig : Except String Unit
  readManifest : Except String Unit

structure PreparedImage where
  rootfsSqfsPath : List String
  manifest : Option VmifManifest
  config : OciImageConfig

section Prepare

variable {γ : Type} (decode : Decoders γ)

/-- `load_vmif_manifest`; the decoder validates the manifest too. -/
def loadVmifManifest (d : DataDir) (imageName : String) (r : Except String Unit) :
    Prog (Host γ) String VmifManifest := do
  let content ← readFile (fun _ => "Failed to load VMIF manifest")
    (imageStorePath d imageName ++ ["vyoma.toml"]) r
  outside (fun _ => "Failed to load VMIF manifest") (decode.manifest content)

/-- The configuration beside a root file system. -/
def extractOciConfig (imagePath : List String) (r : Except String Unit) :
    Prog (Host γ) String OciImageConfig := do
  let configPath := imagePath.dropLast ++ ["vyoma-config.json"]
  if ← isThere configPath then
    let content ← readFile (fun _ => "Failed to read config") configPath r
    outside (fun _ => "Failed to parse OCI config") (decode.config content)
  else return {}

/-- `prepare_image_with_provider`, by how the provider fetches the image. -/
def prepareImageWithProvider (d : DataDir) (imageName : String)
    (fetchImage : Prog (Host γ) String (List String)) (o : PrepareOutcome γ) :
    Prog (Host γ) String PreparedImage := do
  let imagePath ← fetchImage
  let config ← extractOciConfig decode imagePath o.readConfig
  let manifest ← (loadVmifManifest decode d imageName o.readManifest).attempt
  return ⟨imagePath, manifest.toOption, config⟩

def prepareImage (d : DataDir) (imageName : String) (o : PrepareOutcome γ) :
    Prog (Host γ) String PreparedImage :=
  prepareImageWithProvider decode d imageName (ensureImageLocally d imageName o.ensure) o

/-- `CachedImageProvider::get_cached_path`, which replaces the colons first. -/
def getCachedPath (d : DataDir) (imageName : String) :
    Prog (Host γ) String (Option (List String)) := do
  let imageDir := imagesRoot d ++ [replace '/' '_' (replace ':' '_' imageName)]
  if ← isThere (imageDir ++ ["rootfs.sqfs"]) then
    if ← isThere (imageDir ++ ["vyoma.toml"]) then return some (imageDir ++ ["rootfs.sqfs"])
    else return none
  else return none

def cachedFetchImage (d : DataDir) (imageName : String) (o : EnsureOutcome γ) :
    Prog (Host γ) String (List String) := do
  match ← getCachedPath d imageName with
  | some cached => return cached
  | none => ensureImageLocally d imageName o

/-- An image prepared by a new `CachedImageProvider`. -/
def prepareCachedImage (d : DataDir) (imageName : String) (createCache : Except String Unit)
    (o : PrepareOutcome γ) : Prog (Host γ) String PreparedImage := do
  createDirAll id (imagesRoot d) createCache
  prepareImageWithProvider decode d imageName (cachedFetchImage d imageName o.ensure) o

end Prepare

/-! ## Images of a build -/

section Builds

variable {γ : Type}

def handleFrom (d : DataDir) (image : String) : Prog (Host γ) BuildError (List String) := do
  let rootfsPath := imageStorePath d image ++ ["rootfs.sqfs"]
  if ← isThere rootfsPath then return rootfsPath
  else throw (.executionError ("Base image " ++ image ++ " not found at \"" ++
    "/".intercalate ("" :: rootfsPath) ++ "\""))

/-- What `finalize_image` does in the image store. Whether there is a key to sign with is
found elsewhere. -/
def finalizeImage (d : DataDir) (measured : Bool) (signingKey : Except BuildError Bool)
    (rootfsPath : List String) (imageName : String) (o : FinalizeOutcome γ) :
    Prog (Host γ) BuildError Unit := do
  let outputDir := imageStorePath d imageName
  let finalRootfs := outputDir ++ ["rootfs.sqfs"]
  createDirAll .io outputDir o.createDir
  copyFile .io rootfsPath outputDir "rootfs.sqfs" o.copyRootfs
  let _ ← readFile (fun e => .executionError ("Failed to compute hash: " ++ e)) finalRootfs o.hash
  if measured then
    touch finalRootfs
    let _ ← Prog.answer o.measure
  touch finalRootfs
  outside .io o.metadata
  outside .executionError o.toToml
  writeFile .io outputDir "vyoma.toml" o.writeManifest
  let signed ← Prog.answer signingKey
  if signed then
    outside (fun e => .executionError ("Failed to sign manifest: " ++ e)) o.sign
    writeFile (fun e => .executionError ("Failed to save signed manifest: " ++ e)) outputDir
      "vyoma.toml.sig" o.saveSigned

end Builds

/-! ## The names of the directories -/

def separators : List Char := ['/', ':', '_']

/-- What becomes of a character in the name of a directory. -/
def flat (c : Char) : Char := if c = '/' ∨ c = ':' then '_' else c

theorem toList_safeImageName (image : String) :
    (safeImageName image).toList = image.toList.map flat := by
  rw [safeImageName, Build.replace, Build.replace, String.toList_ofList, String.toList_ofList,
    List.map_map]
  refine List.map_congr_left fun c _ => ?_
  by_cases hslash : c = '/'
  · simp [flat, hslash]
  · simp [flat, hslash]

/-- The order of the two replacements does not matter. -/
theorem replace_slash_colon (image : String) :
    replace '/' '_' (replace ':' '_' image) = safeImageName image := by
  refine String.toList_injective ?_
  rw [toList_safeImageName, Build.replace, Build.replace, String.toList_ofList,
    String.toList_ofList, List.map_map]
  refine List.map_congr_left fun c _ => ?_
  by_cases hcolon : c = ':'
  · simp [flat, hcolon]
  · simp [flat, hcolon]

theorem flat_eq_flat_iff {x y : Char} :
    flat x = flat y ↔ x = y ∨ x ∈ separators ∧ y ∈ separators := by
  unfold flat separators
  by_cases hx : x = '/' ∨ x = ':' <;> by_cases hy : y = '/' ∨ y = ':' <;>
    simp only [hx, hy, if_true, if_false, List.mem_cons, List.not_mem_nil, or_false] <;> grind

theorem slash_notMem_safeImageName (image : String) : '/' ∉ (safeImageName image).toList := by
  rw [toList_safeImageName]
  intro h
  obtain ⟨c, -, hc⟩ := List.mem_map.mp h
  unfold flat at hc
  split_ifs at hc with hsep
  · cases hc
  · exact hsep (.inl hc)

/-- A directory name without underscores is the name of its image. -/
theorem eq_of_safeImageName {image name : String} (h : safeImageName image = name)
    (hname : '_' ∉ name.toList) : image = name := by
  refine String.toList_injective ?_
  rw [← h, toList_safeImageName] at hname ⊢
  refine (List.map_id _).symm.trans (List.map_congr_left fun c hc => ?_)
  have hflat : flat c ≠ '_' := fun he => hname (List.mem_map.mpr ⟨c, hc, he⟩)
  unfold flat at hflat ⊢
  split_ifs at hflat ⊢ with hsep
  · exact absurd rfl hflat
  · rfl

theorem plain_safeImageName_iff {image : String} : Plain (safeImageName image) ↔ Plain image := by
  have hback : ∀ name : String, '_' ∉ name.toList → safeImageName name = name →
      (safeImageName image = name ↔ image = name) := by
    intro name hname hfix
    refine ⟨fun h => eq_of_safeImageName h hname, ?_⟩
    rintro rfl
    exact hfix
  unfold Plain
  rw [Ne, Ne, Ne, hback "" (by decide) (by decide), hback "." (by decide) (by decide),
    hback ".." (by decide) (by decide)]

/-- Two names with different directories: of other lengths, or different somewhere and not
only in their separators. -/
def Distinguished (a b : String) : Prop :=
  a.toList.length ≠ b.toList.length ∨
    ∃ (i : ℕ) (x y : Char), a.toList[i]? = some x ∧ b.toList[i]? = some y ∧ x ≠ y ∧
      ¬ (x ∈ separators ∧ y ∈ separators)

theorem safeImageName_ne_iff {a b : String} :
    safeImageName a ≠ safeImageName b ↔ Distinguished a b := by
  rw [Ne, ← String.toList_inj, toList_safeImageName, toList_safeImageName]
  constructor
  · intro hne
    by_cases hlength : a.toList.length = b.toList.length
    · by_contra hnot
      refine hne (List.ext_getElem? fun i => ?_)
      rw [List.getElem?_map, List.getElem?_map]
      by_cases hi : i < a.toList.length
      · have hj : i < b.toList.length := hlength ▸ hi
        rw [List.getElem?_eq_getElem hi, List.getElem?_eq_getElem hj, Option.map_some,
          Option.map_some, Option.some.injEq, flat_eq_flat_iff]
        by_contra hchars
        obtain ⟨hxy, hsep⟩ := not_or.mp hchars
        exact hnot (.inr ⟨i, _, _, List.getElem?_eq_getElem hi, List.getElem?_eq_getElem hj,
          hxy, hsep⟩)
      · rw [List.getElem?_eq_none (by omega), List.getElem?_eq_none (by omega)]
    · exact .inl hlength
  · rintro (hlength | ⟨i, x, y, hx, hy, hxy, hsep⟩) heq
    · exact hlength (by simpa using congrArg List.length heq)
    · have hi := congrArg (fun cs => cs[i]?) heq
      simp only [List.getElem?_map, hx, hy, Option.map_some, Option.some.injEq] at hi
      obtain h | h := flat_eq_flat_iff.mp hi
      · exact hxy h
      · exact hsep h

/-- The directory of an image, by its place. -/
def storeDir (d : DataDir) (image : String) : List String := resolve (imageStorePath d image)

theorem plain_imagesRoot (d : DataDir) : ∀ c ∈ imagesRoot d, Plain c := by
  intro c hc
  obtain hplace | hroot := List.mem_append.mp hc
  · exact d.plain c hplace
  · obtain rfl | hc := List.mem_cons.mp hroot
    · decide
    · obtain rfl := List.mem_singleton.mp hc
      decide

theorem resolve_plain {path : List String} (h : ∀ c ∈ path, Plain c) : resolve path = path := by
  rw [resolve, foldl_enter_plain h, List.nil_append]

theorem storeDir_eq (d : DataDir) (image : String) :
    storeDir d image = enter (imagesRoot d) (safeImageName image) := by
  rw [storeDir, imageStorePath, resolve_append, resolve_plain (plain_imagesRoot d),
    List.foldl_cons, List.foldl_nil]

theorem resolve_file (d : DataDir) (image : String) {file : String} (h : Plain file) :
    resolve (imageStorePath d image ++ [file]) = storeDir d image ++ [file] := by
  rw [resolve_append, List.foldl_cons, List.foldl_nil, enter_plain h, storeDir]

/-- The directories above the images are not files of an image. -/
theorem take_imagesRoot_ne (d : DataDir) (image : String) {file : String} (hfile : file ≠ "images")
    (k : ℕ) : (imagesRoot d).take k ≠ storeDir d image ++ [file] := by
  intro hq
  rw [storeDir_eq] at hq
  have hlength := congrArg List.length hq
  rw [List.length_append, List.length_singleton, List.length_take] at hlength
  unfold enter at hq hlength
  split_ifs at hq hlength
  · omega
  · -- the file would be the images directory itself
    rw [List.length_dropLast] at hlength
    have hroot : 0 < (imagesRoot d).length := by simp [imagesRoot]
    rw [List.take_of_length_le (by omega)] at hq
    have hlast := congrArg List.getLast? hq
    rw [List.getLast?_concat, imagesRoot, List.getLast?_append_cons] at hlast
    exact hfile (Option.some.inj hlast).symm
  · rw [List.length_append, List.length_singleton] at hlength
    omega

theorem nodes_createDirs_imagesRoot {γ : Type} {t t' : FileTree γ} {d : DataDir}
    (h : t.createDirs [] (imagesRoot d) = some t') (image : String) {file : String}
    (hfile : file ≠ "images") :
    t'.nodes (storeDir d image ++ [file]) = t.nodes (storeDir d image ++ [file]) := by
  obtain hsame | ⟨-, -, k, hk, hq⟩ :=
    FileTree.nodes_createDirs h (FileTree.isDir_iff.mpr t.root) (storeDir d image ++ [file])
  · exact hsame
  · rw [foldl_enter_plain fun c hc => plain_imagesRoot d c (List.mem_of_mem_take hc),
      List.nil_append] at hq
    exact absurd hq.symm (take_imagesRoot_ne d image hfile (k + 1))

/-- Once the images directory is made, the path of an image leads to its directory. -/
theorem walk_imageStorePath {γ : Type} {t t' : FileTree γ} {d : DataDir}
    (h : t.createDirs [] (imagesRoot d) = some t') (image : String) :
    t'.walk [] (imageStorePath d image) = some (storeDir d image) := by
  obtain ⟨hwalk, hdir⟩ := FileTree.walk_createDirs h (FileTree.isDir_iff.mpr t.root)
  rw [storeDir, imageStorePath, FileTree.walk_append hwalk, FileTree.walk, if_pos hdir,
    FileTree.walk, resolve, List.foldl_append, List.foldl_cons, List.foldl_nil]

theorem find_of_createDirs_imagesRoot {γ : Type} {t t' : FileTree γ} {d : DataDir}
    (h : t.createDirs [] (imagesRoot d) = some t') (image : String) {file : String}
    (hplain : Plain file) (hfile : file ≠ "images") :
    t'.find (imageStorePath d image ++ [file]) = t.nodes (storeDir d image ++ [file]) := by
  rw [FileTree.find_append (walk_imageStorePath h image) hplain,
    nodes_createDirs_imagesRoot h image hfile]

/-! ## What an image that is at hand is started from -/

section Specs

variable {γ : Type} {d : DataDir} {image : String}

theorem exec_createDirAll {ε : Type} (wrap : String → ε) {path : List String} {h : Host γ}
    {tree : FileTree γ} (hmade : h.tree.createDirs [] path = some tree) :
    (createDirAll wrap path (.ok ())).exec h =
      (.ok (), { h with tree := tree, touched := path.inits.map resolve ++ h.touched }) := by
  have hread : (Prog.read fun h : Host γ => h.tree.createDirs [] path : Prog (Host γ) ε _).exec
      { h with touched := path.inits.map resolve ++ h.touched } = (.ok (some tree), _) :=
    (Prog.exec_read _ _).trans (by rw [hmade])
  exact (Prog.exec_bind_ok (Prog.exec_change _ _) _).trans
    ((Prog.exec_bind_ok (Prog.exec_answer _ _) _).trans (Prog.exec_bind_ok hread _))

theorem createDirAll_eq_ok_iff {ε : Type} {wrap : String → ε} {path : List String}
    {r : Except String Unit} {h h' : Host γ} :
    (createDirAll wrap path r).exec h = (.ok (), h') ↔
      r = .ok () ∧ ∃ tree, h.tree.createDirs [] path = some tree ∧
        h' = { h with tree := tree, touched := path.inits.map resolve ++ h.touched } := by
  constructor
  · intro hok
    obtain ⟨_, h₁, hchange, hok⟩ := Prog.exec_bind_eq_ok_iff.mp hok
    obtain ⟨_, h₂, hanswer, hok⟩ := Prog.exec_bind_eq_ok_iff.mp hok
    obtain ⟨made, h₃, hread, hok⟩ := Prog.exec_bind_eq_ok_iff.mp hok
    rw [Prog.exec_change] at hchange
    rw [outside, Prog.exec_answer] at hanswer
    rw [Prog.exec_read] at hread
    cases r with
    | error e => cases hanswer
    | ok u =>
      cases hchange
      cases hanswer
      cases hread
      refine ⟨rfl, ?_⟩
      dsimp only at hok
      cases hmade : h.tree.createDirs [] path with
      | none =>
        rw [hmade] at hok
        cases hok
      | some tree =>
        rw [hmade] at hok
        cases hok
        exact ⟨tree, rfl, rfl⟩
  · rintro ⟨rfl, tree, hmade, rfl⟩
    exact exec_createDirAll wrap hmade

theorem exec_hasRootfs (store : List String) (h : Host γ) :
    ∃ q, (hasRootfs store).exec h =
      (.ok ((h.tree.find (store ++ ["rootfs.ext4"])).isSome ||
        (h.tree.find (store ++ ["rootfs.sqfs"])).isSome), { h with touched := q }) := by
  unfold hasRootfs
  rw [Prog.exec_bind_ok (exec_isThere _ _)]
  cases (h.tree.find (store ++ ["rootfs.ext4"])).isSome with
  | true => exact ⟨_, rfl⟩
  | false => exact ⟨_, exec_isThere _ _⟩

theorem exec_nativeRootfs_ext4 (store : List String) (h : Host γ) (o : EnsureOutcome γ)
    (hext4 : (h.tree.find (store ++ ["rootfs.ext4"])).isSome = true) :
    ∃ q, (nativeRootfs store o).exec h =
      (.ok (store ++ ["rootfs.ext4"]), { h with touched := q }) := by
  unfold nativeRootfs
  rw [Prog.exec_bind_ok (exec_isThere _ _), hext4]
  exact ⟨_, rfl⟩

theorem exec_runTool {ε : Type} {dir : List String} {file : String} {content : γ} {h : Host γ}
    {tree : FileTree γ} (hwrite : h.tree.write dir file content = some tree) :
    (runTool dir file (some content) : Prog (Host γ) ε Unit).exec h =
      (.ok (), { h with tree := tree, touched := resolve (dir ++ [file]) :: h.touched }) := by
  have hread : (Prog.read fun h : Host γ => h.tree.write dir file content : Prog (Host γ) ε _).exec
      { h with touched := resolve (dir ++ [file]) :: h.touched } = (.ok (some tree), _) :=
    (Prog.exec_read _ _).trans (by rw [hwrite])
  exact (Prog.exec_bind_ok (Prog.exec_change _ _) _).trans
    (Prog.exec_bind_ok ((Prog.exec_bind_ok hread _).trans rfl) _)

/-- Once the images directory is made, it depends on what is there. -/
theorem exec_ensureImageLocally (image : String) {o : EnsureOutcome γ} {h : Host γ}
    {tree : FileTree γ} (hcreate : o.createRoot = .ok ())
    (hmade : h.tree.createDirs [] (imagesRoot d) = some tree) :
    ∃ q, (ensureImageLocally d image o).exec h =
      (if (h.tree.nodes (storeDir d image ++ ["rootfs.ext4"])).isSome ||
          (h.tree.nodes (storeDir d image ++ ["rootfs.sqfs"])).isSome then
        nativeRootfs (imageStorePath d image) o
      else do
        pullImage image (imageStorePath d image) o.pull
        nativeRootfs (imageStorePath d image) o).exec { h with tree := tree, touched := q } := by
  obtain ⟨q, hhas⟩ := exec_hasRootfs (imageStorePath d image)
    { h with tree := tree, touched := (imagesRoot d).inits.map resolve ++ h.touched }
  dsimp only at hhas
  rw [find_of_createDirs_imagesRoot hmade image (by decide) (by decide),
    find_of_createDirs_imagesRoot hmade image (by decide) (by decide)] at hhas
  unfold ensureImageLocally
  rw [hcreate, Prog.exec_bind_ok (exec_createDirAll id hmade), Prog.exec_bind_ok hhas]
  exact ⟨q, rfl⟩

/-- What the squashfs is converted to, if the conversion leaves anything. -/
def EnsureOutcome.converted (o : EnsureOutcome γ) : Option γ := if o.tempDir then o.mke2fs else none

/-- Only a squashfs is there: what it is converted to, or itself. -/
theorem exec_nativeRootfs_sqfs {store place : List String} {h : Host γ} (o : EnsureOutcome γ)
    (hwalk : h.tree.walk [] store = some place)
    (hext4 : h.tree.nodes (place ++ ["rootfs.ext4"]) = none) {node : Node γ}
    (hsqfs : h.tree.nodes (place ++ ["rootfs.sqfs"]) = some node) :
    ∃ path h', (nativeRootfs store o).exec h = (.ok path, h') ∧ h'.requests = h.requests ∧
      h'.tree.find path = some (o.converted.elim node .file) := by
  have hnone : h.tree.find (store ++ ["rootfs.ext4"]) = none := by
    rw [FileTree.find_append hwalk (by decide), hext4]
  have hsome : h.tree.find (store ++ ["rootfs.sqfs"]) = some node := by
    rw [FileTree.find_append hwalk (by decide), hsqfs]
  have hlast : ∀ h₁ : Host γ, h₁.tree.find (store ++ ["rootfs.ext4"]) = none →
      (do
        if ← isThere (store ++ ["rootfs.ext4"]) then return store ++ ["rootfs.ext4"]
        else return store ++ ["rootfs.sqfs"] : Prog (Host γ) String (List String)).exec h₁ =
      (.ok (store ++ ["rootfs.sqfs"]), { h₁ with
        touched := resolve (store ++ ["rootfs.ext4"]) :: h₁.touched }) := by
    intro h₁ hnone₁
    rw [Prog.exec_bind_ok (exec_isThere _ _), hnone₁]
    rfl
  unfold nativeRootfs
  rw [Prog.exec_bind_ok (exec_isThere _ _), hnone]
  simp only [Option.isSome_none, Bool.false_eq_true, if_false]
  rw [Prog.exec_bind_ok (exec_isThere _ _)]
  simp only [hsome, Option.isSome_some, if_true]
  unfold EnsureOutcome.converted
  cases o.tempDir with
  | false => exact ⟨_, _, hlast _ hnone, rfl, hsome⟩
  | true =>
    simp only [if_true]
    rw [touch, Prog.exec_bind_ok (Prog.exec_change _ _)]
    cases o.mke2fs with
    | none => exact ⟨_, _, hlast _ hnone, rfl, hsome⟩
    | some content =>
      have hdir : h.tree.isDir place = true := by
        refine FileTree.isDir_iff.mpr (h.tree.parents place "rootfs.sqfs" ?_)
        rw [hsqfs]
        rfl
      have hfree : h.tree.isDir (place ++ ["rootfs.ext4"]) = false := by
        rw [FileTree.isDir, hext4]
      obtain ⟨tree, hwrite⟩ := FileTree.exists_write hwalk hdir hfree content
      have hfound := FileTree.find_write (by decide) hwrite
      have hrun : ∀ h₁ : Host γ, h₁.tree = h.tree → h₁.requests = h.requests → ∃ path h',
          (do
            runTool store "rootfs.ext4" (some content)
            if ← isThere (store ++ ["rootfs.ext4"]) then return store ++ ["rootfs.ext4"]
            else return store ++ ["rootfs.sqfs"] : Prog (Host γ) String (List String)).exec h₁ =
          (.ok path, h') ∧ h'.requests = h.requests ∧
            h'.tree.find path = some (.file content) := by
        intro h₁ htree hrequests
        rw [← htree] at hwrite
        rw [Prog.exec_bind_ok (exec_runTool hwrite), Prog.exec_bind_ok (exec_isThere _ _), hfound]
        exact ⟨_, _, rfl, hrequests, hfound⟩
      exact hrun _ rfl rfl

end Specs

end Vyoma.ImageStore
