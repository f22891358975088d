import Vyoma.StoreFrames

/-!
# The entries of two images

Whether running, caching or building with one image can touch the directory of another. Every
path of these programs is the directory of the image, a file in it, or on the way to it, so
the directories decide: they are apart unless one is inside the other.
-/
namespace Vyoma.ImageStore
open FileTrees HostFiles HostFiles.Prog
open Build (BuildError FinalizeOutcome)

/-! ## Staying out of a directory -/

/-- Nothing in the directory was touched. -/
def Avoids {γ : Type} (dir : List String) (h : Host γ) : Prop := ∀ q ∈ h.touched, ¬ dir <+: q

/-- The way to a directory, and the files in it, are outside another one. -/
structure Apart (dir store : List String) : Prop where
  way : ∀ p, p <+: store → ¬ dir <+: resolve p
  files : ∀ file, Plain file → ¬ dir <+: resolve (store ++ [file])

theorem avoids_touch {γ : Type} {dir path : List String} (hpath : ¬ dir <+: resolve path)
    (h : Host γ) (hh : Avoids dir h) :
    Avoids dir { h with touched := resolve path :: h.touched } := by
  intro q hq
  obtain rfl | hold := List.mem_cons.mp hq
  · exact hpath
  · exact hh q hold

theorem Apart.frame {γ : Type} {dir store : List String} (h : Apart dir store) :
    Frame (Avoids (γ := γ) dir) store where
  touch := by
    rintro p (hway | ⟨file, hfile, rfl⟩)
    · exact avoids_touch (h.way p hway)
    · exact avoids_touch (h.files file hfile)
  setTree _ _ hh := hh
  request _ _ hh := hh

/-! ## Uses of an image -/

/-- What is done with an image: it is run, with a cache or without one, it is the base of a
build, or it is made by a build from its last layer. -/
inductive StoreUse (γ : Type) where
  | run (decode : Decoders γ) (o : PrepareOutcome γ)
  | runCached (decode : Decoders γ) (createCache : Except String Unit) (o : PrepareOutcome γ)
  | buildFrom
  | finalize (measured : Bool) (signingKey : Except BuildError Bool) (nanos : ℤ)
      (o : FinalizeOutcome γ)

/-- The places a program touches. -/
def touchedBy {γ ε α : Type} (x : Prog (Host γ) ε α) (h : Host γ) : List (List String) :=
  (x.exec { h with touched := [] }).2.touched

/-- The layer a `RUN` leaves in the directory of the builds. -/
def layerPath (d : DataDir) (nanos : ℤ) : List String :=
  d.place ++ ["temp", "layer_" ++ toString nanos ++ ".sqfs"]

def StoreUse.touched {γ : Type} (d : DataDir) (image : String) (h : Host γ) :
    StoreUse γ → List (List String)
  | run decode o => touchedBy (prepareImage decode d image o) h
  | runCached decode createCache o => touchedBy (prepareCachedImage decode d image createCache o) h
  | buildFrom => touchedBy (handleFrom d image) h
  | finalize measured signingKey nanos o =>
    touchedBy (finalizeImage d measured signingKey (layerPath d nanos) image o) h

/-- No use of the one image, on any host, touches the directory of the other. -/
def NeverTouches (γ : Type) (d : DataDir) (a b : String) : Prop :=
  ∀ (use : StoreUse γ) (h : Host γ), ∀ q ∈ use.touched d a h, ¬ storeDir d b <+: q

section Apart

variable {γ : Type} {d : DataDir} {a b : String}

theorem storeDir_plain (h : Plain a) : storeDir d a = imagesRoot d ++ [safeImageName a] := by
  rw [storeDir_eq, enter_plain (plain_safeImageName_iff.mpr h)]

theorem apart_of_ne (ha : Plain a) (hb : Plain b) (hne : safeImageName a ≠ safeImageName b) :
    Apart (storeDir d b) (imageStorePath d a) := by
  have hplain : ∀ c ∈ imageStorePath d a, Plain c := by
    intro c hc
    obtain hroot | hlast := List.mem_append.mp hc
    · exact plain_imagesRoot d c hroot
    · rw [List.mem_singleton.mp hlast]
      exact plain_safeImageName_iff.mpr ha
  -- directories of one depth are prefixes of a common place only if they are the same
  have hapart : ∀ q, imageStorePath d a <+: q → ¬ storeDir d b <+: q := by
    intro q hq hb'
    rw [storeDir_plain hb] at hb'
    have hsame := (List.prefix_of_prefix_length_le hq hb' (by simp [imageStorePath])).eq_of_length
      (by simp [imageStorePath])
    obtain ⟨-, hlast⟩ := List.append_inj hsame rfl
    exact hne (List.singleton_inj.mp hlast)
  constructor
  · intro p hp hb'
    rw [resolve_plain fun c hc => hplain c (hp.subset hc)] at hb'
    exact hapart _ List.prefix_rfl (hb'.trans hp)
  · intro file hfile
    rw [resolve_append, resolve_plain hplain, List.foldl_cons, List.foldl_nil, enter_plain hfile]
    exact hapart _ (List.prefix_append _ _)

/-- The layers are not among the images. -/
theorem layerPath_apart (hb : Plain b) (nanos : ℤ) :
    ¬ storeDir d b <+: resolve (layerPath d nanos) := by
  intro h
  have hle := h.length_le
  have hlayer := length_foldl_enter_le (layerPath d nanos) []
  rw [storeDir_plain hb] at hle
  simp only [resolve, imagesRoot, layerPath, List.length_append, List.length_cons,
    List.length_nil] at hle hlayer
  omega

theorem neverTouches_of_ne (ha : Plain a) (hb : Plain b)
    (hne : safeImageName a ≠ safeImageName b) : NeverTouches γ d a b := by
  have h : Frame (Avoids (γ := γ) (storeDir d b)) (imageStorePath d a) :=
    (apart_of_ne ha hb hne).frame
  have hrun : ∀ {ε α : Type} {x : Prog (Host γ) ε α}, Keeps (Avoids (storeDir d b)) x →
      ∀ host : Host γ, ∀ q ∈ touchedBy x host, ¬ storeDir d b <+: q :=
    fun hx host => hx { host with touched := [] } nofun
  intro use host
  cases use with
  | run decode o =>
    exact hrun (h.prepareImageWithProvider decode (h.ensureImageLocally _)
      (yields_ensureImageLocally _) o) host
  | runCached decode createCache o =>
    exact hrun ((h.createDirAll id (List.prefix_append _ _) _).bind fun _ =>
      h.prepareImageWithProvider decode (h.cachedFetchImage _) (yields_cachedFetchImage _) o) host
  | buildFrom => exact hrun h.handleFrom host
  | finalize measured signingKey nanos o =>
    exact hrun (h.finalizeImage measured signingKey (avoids_touch (layerPath_apart hb nanos)) o)
      host

/-- A build looks for the file of its base image. -/
theorem mem_touched_buildFrom (d : DataDir) (image : String) (h : Host γ) :
    storeDir d image ++ ["rootfs.sqfs"] ∈ (StoreUse.buildFrom : StoreUse γ).touched d image h := by
  have hfile := resolve_file d image (show Plain "rootfs.sqfs" by decide)
  show _ ∈ touchedBy (handleFrom d image) h
  unfold touchedBy handleFrom
  rw [exec_bind_ok (exec_isThere _ _)]
  split_ifs
  · exact List.mem_cons.mpr (.inl hfile.symm)
  · exact List.mem_cons.mpr (.inl hfile.symm)

theorem not_neverTouches_of_prefix (host : Host γ) (h : storeDir d b <+: storeDir d a) :
    ¬ NeverTouches γ d a b := by
  intro hnever
  exact hnever .buildFrom host _ (mem_touched_buildFrom d a host)
    (h.trans (List.prefix_append _ _))

/-- A name that is not plain stands for the images directory or the one above it. -/
theorem prefix_or_prefix_of_not_plain (ha : ¬ Plain a) (b : String) :
    storeDir d a <+: storeDir d b ∨ storeDir d b <+: storeDir d a := by
  rw [← plain_safeImageName_iff] at ha
  rw [storeDir_eq, storeDir_eq]
  generalize safeImageName a = x at ha
  generalize safeImageName b = y
  have hup := List.dropLast_prefix (imagesRoot d)
  by_cases hx : x = "" ∨ x = "."
  · rw [show enter (imagesRoot d) x = imagesRoot d from if_pos hx]
    unfold enter
    split_ifs
    · exact .inl List.prefix_rfl
    · exact .inr hup
    · exact .inl (List.prefix_append _ _)
  · have hparent : x = ".." := by
      by_contra hne
      exact ha ⟨fun h => hx (.inl h), fun h => hx (.inr h), hne⟩
    rw [show enter (imagesRoot d) x = (imagesRoot d).dropLast from
      (if_neg hx).trans (if_pos hparent)]
    unfold enter
    split_ifs
    · exact .inl hup
    · exact .inl List.prefix_rfl
    · exact .inl (hup.trans (List.prefix_append _ _))

end Apart

/-! ## References -/

/-- There is a host on which the image is found or pulled. -/
def Accepted (d : DataDir) (image : String) : Prop :=
  ∃ (o : EnsureOutcome (List UInt8)) (h : Host (List UInt8)) (path : List String),
    ((ensureImageLocally d image o).exec h).1 = .ok path

/-- A registry that has the image, and tools that work. -/
def smoothPull : PullOutcome (List UInt8) where
  createStore := .ok ()
  pullManifest := .ok ()
  parseLayers := .ok ["sha256:1f3e46996e29"]
  parseConfigDigest := .ok "sha256:8ca4688f4f35"
  pullConfigBlob := .ok ()
  configJson := .ok ()
  writeConfig := .done [0x7B, 0x7D]
  createTempDir := .ok ()
  pullLayer := fun _ => .ok ()
  unpackLayer := fun _ => .ok ()
  mke2fs := some [0x53, 0xEF]
  convert := ⟨.ok (), .done [0x68, 0x73, 0x71, 0x73], .ok (), .ok (), .ok (), .done [0x5B]⟩

def smoothEnsure : EnsureOutcome (List UInt8) := ⟨.ok (), smoothPull, true, some [0x53, 0xEF]⟩

/-- A host on which an image is at hand. -/
def hostWith (d : DataDir) (image : String) (rootfs : List UInt8) : Host (List UInt8) :=
  ⟨FileTree.ofFiles [(storeDir d image ++ ["rootfs.ext4"], rootfs)], [], []⟩

theorem nodes_hostWith (d : DataDir) (image : String) (rootfs : List UInt8) :
    (hostWith d image rootfs).tree.nodes (storeDir d image ++ ["rootfs.ext4"]) =
      some (.file rootfs) := FileTree.nodes_ofFiles_single _ _ _

theorem nodes_take_hostWith (d : DataDir) (image : String) (rootfs : List UInt8) (k : ℕ)
    (content : List UInt8) :
    (hostWith d image rootfs).tree.nodes ((imagesRoot d).take k) ≠ some (.file content) := by
  intro hfile
  have hlookup := FileTree.lookup_of_nodes_ofFiles hfile
  have hne := take_imagesRoot_ne d image (show "rootfs.ext4" ≠ "images" by decide) k
  rw [List.lookup_cons, beq_eq_false_iff_ne.mpr hne] at hlookup
  cases hlookup

theorem createDirs_hostWith (d : DataDir) (image : String) (rootfs : List UInt8) :
    ∃ tree, (hostWith d image rootfs).tree.createDirs [] (imagesRoot d) = some tree :=
  Option.isSome_iff_exists.mp
    ((FileTree.isSome_createDirs_iff (FileTree.isDir_iff.mpr (FileTree.root _))
      (plain_imagesRoot d)).mpr (nodes_take_hostWith d image rootfs))

/-- No reference is refused for its form. -/
theorem accepted (d : DataDir) (image : String) : Accepted d image := by
  refine ⟨smoothEnsure, hostWith d image [], imageStorePath d image ++ ["rootfs.ext4"], ?_⟩
  obtain ⟨tree, hmade⟩ := createDirs_hostWith d image []
  have hfound := find_of_createDirs_imagesRoot hmade image (show Plain "rootfs.ext4" by decide)
    (by decide)
  rw [nodes_hostWith] at hfound
  obtain ⟨q, hensure⟩ := exec_ensureImageLocally image (o := smoothEnsure) rfl hmade
  obtain ⟨q', hnative⟩ := exec_nativeRootfs_ext4 (imageStorePath d image)
    { hostWith d image [] with tree := tree, touched := q } smoothEnsure (by rw [hfound]; rfl)
  rw [hensure, nodes_hostWith, Option.isSome_some, Bool.true_or, if_pos rfl, hnative]

/-- Whatever is done with one of two accepted references, the directory of the other is not
touched. -/
def SeparateEntries (d : DataDir) (a b : String) : Prop :=
  Accepted d a → Accepted d b →
    NeverTouches (List UInt8) d a b ∧ NeverTouches (List UInt8) d b a

/-- The uses of two images keep out of each other's directories exactly if both names are
names of entries and they differ somewhere other than in their separators. -/
theorem separate_entries_iff (d : DataDir) (a b : String) :
    SeparateEntries d a b ↔ Plain a ∧ Plain b ∧ Distinguished a b := by
  constructor
  · intro h
    obtain ⟨hab, hba⟩ := h (accepted d a) (accepted d b)
    have host := hostWith d a []
    have hcross : ¬ (storeDir d a <+: storeDir d b ∨ storeDir d b <+: storeDir d a) := by
      rintro (h | h)
      · exact not_neverTouches_of_prefix host h hba
      · exact not_neverTouches_of_prefix host h hab
    refine ⟨?_, ?_, ?_⟩
    · by_contra ha
      exact hcross (prefix_or_prefix_of_not_plain ha b)
    · by_contra hb
      exact hcross (prefix_or_prefix_of_not_plain hb a).symm
    · rw [← safeImageName_ne_iff]
      intro heq
      rw [storeDir_eq, storeDir_eq, heq] at hcross
      exact hcross (.inl List.prefix_rfl)
  · rintro ⟨ha, hb, hdiff⟩ - -
    have hne := safeImageName_ne_iff.mpr hdiff
    exact ⟨neverTouches_of_ne ha hb hne, neverTouches_of_ne hb ha hne.symm⟩

/-- The data directory of a user. -/
def homeDir : DataDir := ⟨["home", "vyoma"], by decide⟩

/-- One image is started from the root file system of another, and no registry is asked. -/
theorem images_share_entry :
    "team/app:v1" ≠ "team/app_v1" ∧
    (((ensureImageLocally homeDir "team/app:v1" smoothEnsure).exec
      (hostWith homeDir "team/app_v1" [0x53, 0xEF])).1 =
        .ok (imageStorePath homeDir "team/app_v1" ++ ["rootfs.ext4"])) ∧
    ¬ SeparateEntries homeDir "team/app:v1" "team/app_v1" := by
  have hsame : storeDir homeDir "team/app:v1" = storeDir homeDir "team/app_v1" := by decide +kernel
  refine ⟨by decide, by decide +kernel, fun h => ?_⟩
  have hinside : storeDir homeDir "team/app_v1" <+: storeDir homeDir "team/app:v1" := by
    rw [hsame]
  exact not_neverTouches_of_prefix (hostWith homeDir "team/app_v1" []) hinside
    (h (accepted _ _) (accepted _ _)).1

end Vyoma.ImageStore
