import Vyoma.ImageStore
import Mathlib.Data.List.Infix

/-!
# What the programs on the image store keep

A program on an image touches its directory, the files in it and the way to it, changes the
files of the host and asks registries. An invariant that none of these breaks is kept by the
program, whether it fails or not.
-/
namespace Vyoma.ImageStore
open FileTrees HostFiles HostFiles.Prog
open Build (BuildError FinalizeOutcome)

/-- An invariant of programs that work in a directory. -/
structure Frame {γ : Type} (I : Host γ → Prop) (store : List String) : Prop where
  touch : ∀ {p}, (p <+: store ∨ ∃ file, Plain file ∧ p = store ++ [file]) →
    ∀ h, I h → I { h with touched := resolve p :: h.touched }
  setTree : ∀ tree h, I h → I { h with tree := tree }
  request : ∀ image h, I h → I { h with requests := image :: h.requests }

section Keeps

variable {γ ε : Type} {I : Host γ → Prop} {store : List String}

theorem keeps_outside {α : Type} (wrap : String → ε) (r : Except String α) :
    Keeps I (outside wrap r : Prog (Host γ) ε α) := keeps_answer _

namespace Frame

variable (hI : Frame I store)

include hI

theorem touchFile {file : String} (hfile : Plain file) :
    Keeps I (ImageStore.touch (store ++ [file]) : Prog (Host γ) ε Unit) :=
  keeps_change (hI.touch (.inr ⟨file, hfile, rfl⟩))

theorem isThere {file : String} (hfile : Plain file) :
    Keeps I (ImageStore.isThere (store ++ [file]) : Prog (Host γ) ε Bool) :=
  (hI.touchFile hfile).bind fun _ => keeps_read _

theorem readFile (wrap : String → ε) {file : String} (hfile : Plain file)
    (r : Except String Unit) :
    Keeps I (ImageStore.readFile wrap (store ++ [file]) r : Prog (Host γ) ε γ) := by
  refine (hI.touchFile hfile).bind fun _ => (keeps_outside wrap r).bind fun _ =>
    (keeps_read _).bind fun node => ?_
  split
  · exact keeps_pure _
  · exact keeps_throw _

theorem createDirAll (wrap : String → ε) {path : List String} (hpath : path <+: store)
    (r : Except String Unit) :
    Keeps I (ImageStore.createDirAll wrap path r : Prog (Host γ) ε Unit) := by
  have htouch : ∀ ps : List (List String), (∀ p ∈ ps, p <+: store) → ∀ h : Host γ, I h →
      I { h with touched := ps.map resolve ++ h.touched } := by
    intro ps hps h hh
    induction ps with
    | nil => exact hh
    | cons p ps ih =>
      exact hI.touch (.inl (hps p List.mem_cons_self)) _
        (ih fun q hq => hps q (List.mem_cons_of_mem _ hq))
  refine (keeps_change (htouch path.inits fun p hp =>
    ((List.mem_inits p path).mp hp).trans hpath)).bind fun _ =>
    (keeps_outside wrap r).bind fun _ => (keeps_read _).bind fun made => ?_
  split
  · exact keeps_change (hI.setTree _)
  · exact keeps_throw _

theorem leave (dir : List String) (file : String) (left : Option γ) :
    Keeps I (ImageStore.leave dir file left : Prog (Host γ) ε Bool) := by
  cases left with
  | none => exact keeps_pure _
  | some content =>
    refine (keeps_read _).bind fun made => ?_
    split
    · exact (keeps_change (hI.setTree _)).bind fun _ => keeps_pure _
    · exact keeps_pure _

theorem writeFile (wrap : String → ε) {file : String} (hfile : Plain file) (w : Written γ) :
    Keeps I (ImageStore.writeFile wrap store file w : Prog (Host γ) ε Unit) :=
  (hI.touchFile hfile).bind fun _ => (hI.leave store file _).bind fun _ =>
    .ite (keeps_outside wrap _) (keeps_throw _)

theorem runTool {file : String} (hfile : Plain file) (left : Option γ) :
    Keeps I (ImageStore.runTool store file left : Prog (Host γ) ε Unit) :=
  (hI.touchFile hfile).bind fun _ => (hI.leave store file left).bind fun _ => keeps_pure _

theorem copyFile (wrap : String → ε) {source : List String}
    (hsource : ∀ h, I h → I { h with touched := resolve source :: h.touched }) {file : String}
    (hfile : Plain file) (c : Build.Copied γ) :
    Keeps I (ImageStore.copyFile wrap source store file c : Prog (Host γ) ε Unit) := by
  refine (keeps_change hsource).bind fun _ => (keeps_read _).bind fun node => ?_
  split
  · exact (hI.touchFile hfile).bind fun _ => (hI.leave store file _).bind fun _ =>
      .ite (keeps_outside wrap _) (keeps_throw _)
  · exact keeps_throw _

/-! ## The programs of the daemon and of a build -/

theorem convertDirectoryToVmif (o : ConvertOutcome γ) :
    Keeps I (ImageStore.convertDirectoryToVmif store o) :=
  (hI.createDirAll id List.prefix_rfl o.createDir).bind fun _ =>
    (hI.writeFile id (by decide) _).bind fun _ => (hI.readFile id (by decide) _).bind fun _ =>
    (keeps_outside id _).bind fun _ => (keeps_outside id _).bind fun _ =>
    hI.writeFile id (by decide) _

theorem pullConfig (imageName : String) (o : PullOutcome γ) :
    Keeps I (ImageStore.pullConfig imageName store o) := by
  unfold ImageStore.pullConfig
  split
  · exact keeps_pure _
  · refine (keeps_change (hI.request imageName)).bind fun _ => ?_
    split
    · exact (hI.writeFile id (by decide) _).attempt.bind fun _ => keeps_pure _
    · exact keeps_pure _

theorem pullLayers (imageName : String) (o : PullOutcome γ) (layers : List String) :
    Keeps I (ImageStore.pullLayers imageName o layers) := by
  induction layers with
  | nil => exact keeps_pure _
  | cons digest layers ih =>
    exact (keeps_change (hI.request imageName)).bind fun _ => (keeps_outside _ _).bind fun _ =>
      (keeps_outside _ _).bind fun _ => ih

/-- What is done once the registry has been asked for the manifest. -/
theorem pullRest (imageName : String) (o : PullOutcome γ) :
    Keeps I (do
      outside (fun _ => "Pull manifest failed") o.pullManifest
      let layers ← outside (fun _ => "Parse layers failed") o.parseLayers
      ImageStore.pullConfig imageName store o
      outside (fun _ => "Failed to create temp dir") o.createTempDir
      ImageStore.pullLayers imageName o layers
      ImageStore.runTool store "rootfs.ext4" o.mke2fs
      (ImageStore.convertDirectoryToVmif store o.convert).mapError fun _ =>
        "VMIF conversion failed") :=
  (keeps_outside _ _).bind fun _ => (keeps_outside _ _).bind fun layers =>
    (hI.pullConfig imageName o).bind fun _ => (keeps_outside _ _).bind fun _ =>
    (hI.pullLayers imageName o layers).bind fun _ => (hI.runTool (by decide) _).bind fun _ =>
    (hI.convertDirectoryToVmif _).mapError _

theorem pullImage (imageName : String) (o : PullOutcome γ) :
    Keeps I (ImageStore.pullImage imageName store o) :=
  (hI.createDirAll id List.prefix_rfl _).bind fun _ =>
    (keeps_change (hI.request imageName)).bind fun _ => hI.pullRest imageName o

theorem nativeRootfs (o : EnsureOutcome γ) : Keeps I (ImageStore.nativeRootfs store o) := by
  have hlast : Keeps I (do
      if ← (ImageStore.isThere (store ++ ["rootfs.ext4"]) : Prog (Host γ) String Bool) then
        return store ++ ["rootfs.ext4"]
      else return store ++ ["rootfs.sqfs"]) :=
    (hI.isThere (by decide)).bind fun _ => .ite (keeps_pure _) (keeps_pure _)
  refine (hI.isThere (by decide)).bind fun _ => .ite (keeps_pure _) ?_
  refine (hI.isThere (by decide)).bind fun _ => .ite (.ite ?_ hlast) (keeps_pure _)
  exact (hI.touchFile (by decide)).bind fun _ => (hI.runTool (by decide) _).bind fun _ => hlast

theorem hasRootfs : Keeps I (ImageStore.hasRootfs store : Prog (Host γ) String Bool) :=
  (hI.isThere (by decide)).bind fun _ => .ite (keeps_pure _) (hI.isThere (by decide))

theorem extractOciConfig (decode : Decoders γ) {path : List String} (hpath : path.dropLast = store)
    (r : Except String Unit) : Keeps I (ImageStore.extractOciConfig decode path r) := by
  unfold ImageStore.extractOciConfig
  rw [hpath]
  exact (hI.isThere (by decide)).bind fun _ =>
    .ite ((hI.readFile _ (by decide) r).bind fun _ => keeps_outside _ _) (keeps_pure _)

end Frame

section Images

variable {d : DataDir} {image : String} (hI : Frame I (imageStorePath d image))

include hI

theorem Frame.ensureImageLocally (o : EnsureOutcome γ) :
    Keeps I (ImageStore.ensureImageLocally d image o) :=
  (hI.createDirAll id (List.prefix_append _ _) _).bind fun _ => hI.hasRootfs.bind fun _ =>
    .ite (hI.nativeRootfs o) ((hI.pullImage image o.pull).bind fun _ => hI.nativeRootfs o)

theorem Frame.cachedFetchImage (o : EnsureOutcome γ) :
    Keeps I (ImageStore.cachedFetchImage d image o) := by
  have hcached : Keeps I (getCachedPath d image : Prog (Host γ) String (Option (List String))) := by
    unfold getCachedPath
    rw [replace_slash_colon]
    exact (hI.isThere (by decide)).bind fun _ =>
      .ite ((hI.isThere (by decide)).bind fun _ => .ite (keeps_pure _) (keeps_pure _))
        (keeps_pure _)
  refine hcached.bind fun r => ?_
  cases r with
  | none => exact hI.ensureImageLocally o
  | some cached => exact keeps_pure _

theorem Frame.prepareImageWithProvider (decode : Decoders γ)
    {fetchImage : Prog (Host γ) String (List String)} (hfetch : Keeps I fetchImage)
    (hpath : Yields (fun p => p.dropLast = imageStorePath d image) fetchImage)
    (o : PrepareOutcome γ) :
    Keeps I (ImageStore.prepareImageWithProvider decode d image fetchImage o) :=
  hfetch.bind_of_yields hpath fun _ hp => (hI.extractOciConfig decode hp _).bind fun _ =>
    ((hI.readFile _ (by decide) _).bind fun _ => keeps_outside _ _).attempt.bind
      fun _ => keeps_pure _

theorem Frame.handleFrom :
    Keeps I (ImageStore.handleFrom d image : Prog (Host γ) BuildError (List String)) :=
  (hI.isThere (by decide)).bind fun _ => .ite (keeps_pure _) (keeps_throw _)

theorem Frame.finalizeImage (measured : Bool) (signingKey : Except BuildError Bool)
    {rootfsPath : List String}
    (hrootfs : ∀ h, I h → I { h with touched := resolve rootfsPath :: h.touched })
    (o : FinalizeOutcome γ) :
    Keeps I (ImageStore.finalizeImage d measured signingKey rootfsPath image o) := by
  have hmanifest : Keeps I (do
      ImageStore.touch (imageStorePath d image ++ ["rootfs.sqfs"])
      outside .io o.metadata
      outside .executionError o.toToml
      ImageStore.writeFile .io (imageStorePath d image) "vyoma.toml" o.writeManifest
      let signed ← Prog.answer signingKey
      if signed then
        outside (fun e => .executionError ("Failed to sign manifest: " ++ e)) o.sign
        ImageStore.writeFile (fun e => .executionError ("Failed to save signed manifest: " ++ e))
          (imageStorePath d image) "vyoma.toml.sig" o.saveSigned : Prog (Host γ) BuildError Unit) :=
    (hI.touchFile (by decide)).bind fun _ => (keeps_outside _ _).bind fun _ =>
      (keeps_outside _ _).bind fun _ => (hI.writeFile _ (by decide) _).bind fun _ =>
      (keeps_answer _).bind fun _ =>
      .ite ((keeps_outside _ _).bind fun _ => hI.writeFile _ (by decide) _) (keeps_pure _)
  refine (hI.createDirAll _ List.prefix_rfl _).bind fun _ =>
    (hI.copyFile _ hrootfs (by decide) _).bind fun _ =>
    (hI.readFile _ (by decide) _).bind fun _ => .ite ?_ hmanifest
  exact (hI.touchFile (by decide)).bind fun _ => (keeps_answer _).bind fun _ => hmanifest

end Images

end Keeps

/-! ## Where the root file system is -/

section Yields

variable {γ : Type} {d : DataDir} {image : String}

theorem yields_nativeRootfs (store : List String) (o : EnsureOutcome γ) :
    Yields (fun p => ∃ file, Plain file ∧ p = store ++ [file]) (nativeRootfs store o) := by
  have hext4 : Yields (fun p => ∃ file, Plain file ∧ p = store ++ [file])
      (pure (store ++ ["rootfs.ext4"]) : Prog (Host γ) String (List String)) :=
    yields_pure ⟨_, by decide, rfl⟩
  have hsqfs : Yields (fun p => ∃ file, Plain file ∧ p = store ++ [file])
      (pure (store ++ ["rootfs.sqfs"]) : Prog (Host γ) String (List String)) :=
    yields_pure ⟨_, by decide, rfl⟩
  refine Yields.bind _ fun _ => .ite hext4 ?_
  refine Yields.bind _ fun _ => .ite (.ite ?_ ?_) hsqfs
  · exact Yields.bind _ fun _ => Yields.bind _ fun _ => Yields.bind _ fun _ => .ite hext4 hsqfs
  · exact Yields.bind _ fun _ => .ite hext4 hsqfs

/-- The root file system is a file in the directory of the image. -/
theorem yields_rootfs (o : EnsureOutcome γ) :
    Yields (fun p => ∃ file, Plain file ∧ p = imageStorePath d image ++ [file])
      (ensureImageLocally d image o) :=
  Yields.bind _ fun _ => Yields.bind _ fun _ => .ite (yields_nativeRootfs _ o)
    (Yields.bind _ fun _ => yields_nativeRootfs _ o)

theorem yields_ensureImageLocally (o : EnsureOutcome γ) :
    Yields (fun p => p.dropLast = imageStorePath d image) (ensureImageLocally d image o) :=
  (yields_rootfs o).imp fun _ ⟨_, _, hp⟩ => hp ▸ List.dropLast_concat

theorem yields_cachedFetchImage (o : EnsureOutcome γ) :
    Yields (fun p => p.dropLast = imageStorePath d image) (cachedFetchImage d image o) := by
  have hcached : Yields (fun r => ∀ p ∈ r, p.dropLast = imageStorePath d image)
      (getCachedPath d image : Prog (Host γ) String (Option (List String))) := by
    refine Yields.bind _ fun _ => .ite (Yields.bind _ fun _ => .ite ?_ ?_) ?_
    · refine yields_pure fun p hp => ?_
      cases hp
      rw [List.dropLast_concat, replace_slash_colon, imageStorePath]
    · exact yields_pure fun p hp => absurd hp (Option.not_mem_none p)
    · exact yields_pure fun p hp => absurd hp (Option.not_mem_none p)
  refine yields_of_eq_ok fun s p s' h => ?_
  obtain ⟨r, s₁, hr, hrest⟩ := exec_bind_eq_ok_iff.mp h
  cases r with
  | none => exact yields_ensureImageLocally o s₁ p (congrArg Prod.fst hrest)
  | some cached =>
    obtain ⟨rfl, -⟩ := exec_pure_eq_ok_iff.mp hrest
    exact hcached s (some p) (congrArg Prod.fst hr) p rfl

end Yields

end Vyoma.ImageStore
