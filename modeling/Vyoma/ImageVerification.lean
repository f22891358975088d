import Vyoma.FileTrees
import Vyoma.ManifestSigning
import Vyoma.RustText

/-!
# Checking an image directory

`verify_image` loads the manifest of an image and compares the hash of the root file system
with the one it names. Then it looks at the signature file, if there is one, and says what it
found in the log; the image it returns is the same whatever it found. The TOML parser, the
hash and the answers of the operating system are parameters.
-/
namespace Vyoma.Image
open Excepts FileTrees RustText

inductive VmifError where
  | invalidSchemaVersion (version : UInt32)
  | missingField (field : String)
  deriving DecidableEq, Repr

def VmifError.display : VmifError → String
  | invalidSchemaVersion version => "Invalid schema version: " ++ toString version.toNat
  | missingField field => "Missing required field: " ++ field

def VmifManifest.validate (m : VmifManifest) : Except VmifError Unit :=
  if m.schemaVersion ≠ 1 then .error (.invalidSchemaVersion m.schemaVersion)
  else if m.rootfs = "" then .error (.missingField "rootfs")
  else if m.arch = "" then .error (.missingField "arch")
  else .ok ()

def SigningError.display : SigningError → String
  | signError message => "Signing failed: " ++ message
  | verifyError message => "Verification failed: " ++ message
  | keyError message => "Key error: " ++ message

/-- The errors of reading a signed manifest: those of the file, and those of signing. -/
inductive SignedFileError where
  | io (message : String)
  | signing (e : SigningError)
  deriving DecidableEq, Repr

def SignedFileError.display : SignedFileError → String
  | io message => "IO error: " ++ message
  | signing e => e.display

inductive ConverterError where
  | squashfsError (message : String)
  | hashError (message : String)
  | signingError (e : SignedFileError)
  | io (message : String)
  | toml (message : String)
  | vmifError (e : VmifError)
  deriving DecidableEq, Repr

def ConverterError.display : ConverterError → String
  | squashfsError message => "Failed to create squashfs: " ++ message
  | hashError message => "Failed to compute rootfs hash: " ++ message
  | signingError e => "Signing error: " ++ e.display
  | io message => "IO error: " ++ message
  | toml message => "TOML error: " ++ message
  | vmifError e => "VMIF error: " ++ e.display

structure VmifImage where
  manifest : VmifManifest
  rootfsPath : List String
  kernelPath : Option (List String)
  initrdPath : Option (List String)

/-- The libraries an image is decoded with. Reading builds new maps, in the given orders. -/
structure Codec where
  toml : MapOrders → String → Except String VmifManifest
  json : SerdeJson
  sha256 : List UInt8 → String

abbrev ImageTree : Type := FileTree (List UInt8)

def isThere (t : ImageTree) (path : List String) : Bool := (t.find path).isSome

/-- `std::fs::read`, given whether the operating system lets it. -/
def readFile (t : ImageTree) (path : List String) (r : Except String Unit) :
    Except String (List UInt8) := do
  r
  match t.find path with
  | some (.file content) => return content
  | _ => .error "No such file or directory (os error 2)"

def readToString (t : ImageTree) (path : List String) (r : Except String Unit) :
    Except String String := do
  let content ← readFile t path r
  match String.fromUTF8? content.toByteArray with
  | some s => return s
  | none => .error "stream did not contain valid UTF-8"

def loadManifest (codec : Codec) (t : ImageTree) (manifestPath : List String)
    (r : Except String Unit) (orders : MapOrders) : Except ConverterError VmifManifest := do
  let content ← (readToString t manifestPath r).mapError .io
  let manifest ← (codec.toml orders content).mapError .toml
  manifest.validate.mapError .vmifError
  return manifest

def loadSignedManifest (codec : Codec) (t : ImageTree) (sigPath : List String)
    (r : Except String Unit) (orders : MapOrders) : Except ConverterError SignedManifest := do
  let data ← (readFile t sigPath r).mapError fun e => .signingError (.io e)
  (SignedManifest.fromBytes codec.json orders data).mapError fun e => .signingError (.signing e)

def computeSquashfsHash (codec : Codec) (t : ImageTree) (squashfsPath : List String)
    (r : Except String Unit) : Except ConverterError String := do
  let data ← (readFile t squashfsPath r).mapError .io
  return codec.sha256 data

/-- What the reading of an image meets. -/
structure ReadOutcomes where
  manifest : Except String Unit
  manifestOrders : MapOrders
  rootfs : Except String Unit
  signature : Except String Unit
  signatureOrders : MapOrders

def display (path : List String) : String := "\"/" ++ "/".intercalate path ++ "\""

/-- What is logged of the signature file. -/
def signatureNotice (codec : Codec) (t : ImageTree) (destDir : List String) (o : ReadOutcomes)
    (image : VmifImage) : Option String :=
  let sigPath := destDir ++ ["vyoma.toml.sig"]
  if isThere t sigPath then
    match loadSignedManifest codec t sigPath o.signature o.signatureOrders with
    | .ok signed =>
      if signed.manifest.arch = image.manifest.arch ∧
          signed.manifest.rootfs = image.manifest.rootfs ∧
          signed.manifest.kernel = image.manifest.kernel then
        some "Signed manifest verified successfully"
      else none
    | .error _ => some "Failed to load signed manifest"
  else none

/-- `VmifConverter::verify_image`, with what it logs of the signature file. -/
def verifyImage (codec : Codec) (t : ImageTree) (destDir : List String) (o : ReadOutcomes) :
    Except ConverterError (VmifImage × Option String) := do
  let rootfsSqfsPath := destDir ++ ["rootfs.sqfs"]
  let manifestPath := destDir ++ ["vyoma.toml"]
  if !isThere t rootfsSqfsPath then
    .error (.squashfsError ("rootfs.sqfs not found at " ++ display rootfsSqfsPath))
  else if !isThere t manifestPath then
    .error (.squashfsError ("vyoma.toml not found at " ++ display manifestPath))
  else
    let manifest ← loadManifest codec t manifestPath o.manifest o.manifestOrders
    let expectedHash := trimStartMatches "sha256:" manifest.rootfs
    let actualHash ← computeSquashfsHash codec t rootfsSqfsPath o.rootfs
    if expectedHash ≠ actualHash then
      .error (.hashError
        ("Rootfs hash mismatch: expected " ++ expectedHash ++ ", got " ++ actualHash))
    else
      let vmifImage : VmifImage := ⟨manifest, rootfsSqfsPath, none, none⟩
      return (vmifImage, signatureNotice codec t destDir o vmifImage)

/-! ## What the files of an image say -/

/-- The signature of a manifest is one of its own key over the manifest. -/
structure SignedManifest.Valid (ed : Ed25519) (serde : SerdeJson) (signed : SignedManifest) :
    Prop where
  length : signed.publicKey.length = 32
  key : ed.keyFromBytes signed.publicKey = .ok ()
  signature : ed.signatureFromSlice signed.signature = .ok ()
  verifies : ∃ bytes, serde.manifestToVec signed.manifest = .ok bytes ∧
    ed.verify signed.publicKey bytes signed.signature = .ok ()

/-- Equal manifests, whose maps may be in different orders. -/
def VmifManifest.Same (m m' : VmifManifest) : Prop := ∃ orders, m' = m.reorder orders

section Verify

variable (ed : Ed25519) (codec : Codec) (t : ImageTree) (destDir : List String) (o : ReadOutcomes)

/-- The manifest of the directory is valid and names the hash of the root file system. -/
structure Intact (manifest : VmifManifest) : Prop where
  loaded : loadManifest codec t (destDir ++ ["vyoma.toml"]) o.manifest o.manifestOrders =
    .ok manifest
  hash : computeSquashfsHash codec t (destDir ++ ["rootfs.sqfs"]) o.rootfs =
    .ok (trimStartMatches "sha256:" manifest.rootfs)

/-- The signature file holds a valid signature of the manifest. -/
def SignedBy (manifest : VmifManifest) : Prop :=
  ∃ signed, loadSignedManifest codec t (destDir ++ ["vyoma.toml.sig"]) o.signature
    o.signatureOrders = .ok signed ∧ signed.Valid ed codec.json ∧
    manifest.Same signed.manifest

end Verify

section Verify

variable {ed : Ed25519} {codec : Codec} {t : ImageTree} {destDir : List String} {o : ReadOutcomes}

theorem find_of_readFile {path : List String} {r : Except String Unit} {content : List UInt8}
    (h : readFile t path r = .ok content) : t.find path = some (.file content) := by
  obtain ⟨_, -, hnode⟩ := bind_eq_ok_iff.mp h
  split at hnode
  · next content' hfile =>
    cases hnode
    exact hfile
  · cases hnode

theorem isThere_of_readFile {path : List String} {r : Except String Unit} {content : List UInt8}
    (h : readFile t path r = .ok content) : isThere t path = true := by
  rw [isThere, find_of_readFile h]
  rfl

theorem readToString_utf8 {path : List String} {r : Except String Unit} {s : String}
    (h : readFile t path r = .ok (utf8 s)) : readToString t path r = .ok s := by
  unfold readToString
  rw [h]
  show (match String.fromUTF8? (utf8 s).toByteArray with
    | some s => pure s
    | none => .error "stream did not contain valid UTF-8" : Except String String) = .ok s
  rw [fromUTF8?_utf8]
  rfl

theorem loadManifest_eq_ok {path : List String} {r : Except String Unit} {orders : MapOrders}
    {s : String} {m : VmifManifest} (hread : readToString t path r = .ok s)
    (htoml : codec.toml orders s = .ok m) (hvalid : m.validate = .ok ()) :
    loadManifest codec t path r orders = .ok m := by
  unfold loadManifest
  rw [hread]
  show (codec.toml orders s).mapError ConverterError.toml >>= _ = _
  rw [htoml]
  show m.validate.mapError ConverterError.vmifError >>= _ = _
  rw [hvalid]
  rfl

/-- A manifest that is loaded is there. -/
theorem isThere_of_loadManifest {path : List String} {r : Except String Unit} {orders : MapOrders}
    {manifest : VmifManifest} (h : loadManifest codec t path r orders = .ok manifest) :
    isThere t path = true := by
  obtain ⟨content, hread, -⟩ := bind_eq_ok_iff.mp h
  obtain ⟨bytes, hbytes, -⟩ := bind_eq_ok_iff.mp (mapError_eq_ok_iff.mp hread)
  exact isThere_of_readFile hbytes

theorem isThere_of_computeSquashfsHash {path : List String} {r : Except String Unit}
    {hash : String} (h : computeSquashfsHash codec t path r = .ok hash) :
    isThere t path = true := by
  obtain ⟨data, hread, -⟩ := bind_eq_ok_iff.mp h
  exact isThere_of_readFile (mapError_eq_ok_iff.mp hread)

/-- An image is returned exactly if it is intact; the signature file is not asked. -/
theorem verifyImage_eq_ok_iff {image : VmifImage} {notice : Option String} :
    verifyImage codec t destDir o = .ok (image, notice) ↔
      Intact codec t destDir o image.manifest ∧
        image = ⟨image.manifest, destDir ++ ["rootfs.sqfs"], none, none⟩ ∧
        notice = signatureNotice codec t destDir o image := by
  constructor
  · intro h
    unfold verifyImage at h
    dsimp only at h
    split_ifs at h
    obtain ⟨manifest, hload, hrest⟩ := bind_eq_ok_iff.mp h
    obtain ⟨actual, hhash, hcompared⟩ := bind_eq_ok_iff.mp hrest
    split_ifs at hcompared with hsame
    cases hcompared
    exact ⟨⟨hload, (not_not.mp hsame).symm ▸ hhash⟩, rfl, rfl⟩
  · rintro ⟨hintact, himage, rfl⟩
    have hrootfs := isThere_of_computeSquashfsHash hintact.hash
    have hmanifest := isThere_of_loadManifest hintact.loaded
    unfold verifyImage
    dsimp only
    rw [hrootfs, hmanifest, hintact.loaded]
    simp only [Bool.not_true, Bool.false_eq_true, if_false]
    show (computeSquashfsHash codec t (destDir ++ ["rootfs.sqfs"]) o.rootfs >>= _) = _
    rw [hintact.hash]
    refine (if_neg (not_not.mpr rfl)).trans ?_
    rw [← himage]
    rfl

/-- The check of an image with a signature file is one of the signature too. -/
def HonoursSignature (ed : Ed25519) (codec : Codec) (t : ImageTree) (destDir : List String)
    (o : ReadOutcomes) : Prop :=
  isThere t (destDir ++ ["vyoma.toml.sig"]) = true →
    ∀ image notice, verifyImage codec t destDir o = .ok (image, notice) →
      Intact codec t destDir o image.manifest ∧ SignedBy ed codec t destDir o image.manifest

/-- The signature file counts exactly where it agrees by itself with an image that is
otherwise intact. -/
theorem honours_signature_iff (ed : Ed25519) (codec : Codec) (t : ImageTree)
    (destDir : List String) (o : ReadOutcomes) :
    HonoursSignature ed codec t destDir o ↔
      (isThere t (destDir ++ ["vyoma.toml.sig"]) = true →
        ∀ manifest, Intact codec t destDir o manifest →
          SignedBy ed codec t destDir o manifest) := by
  constructor
  · intro h hsig manifest hintact
    have hok : verifyImage codec t destDir o =
        .ok (⟨manifest, destDir ++ ["rootfs.sqfs"], none, none⟩, _) :=
      verifyImage_eq_ok_iff.mpr ⟨hintact, rfl, rfl⟩
    exact (h hsig _ _ hok).2
  · intro h hsig image notice hok
    obtain ⟨hintact, -, -⟩ := verifyImage_eq_ok_iff.mp hok
    exact ⟨hintact, h hsig image.manifest hintact⟩

end Verify

def squashfs : List UInt8 := [0x68, 0x73, 0x71, 0x73]

def squashfsHash : String := "53bff6664974960b06bcb260bd4b83494c04c71a62623bcadd7986c4d4adf3a1"

def plainManifest : VmifManifest :=
  .new "2026-01-01T00:00:00+00:00" "amd64" none none ("sha256:" ++ squashfsHash) {} 4

def plainToml : String :=
  "schema_version = 1\ncreated = \"2026-01-01T00:00:00+00:00\"\narch = \"amd64\"\n" ++
    "rootfs = \"sha256:" ++ squashfsHash ++ "\"\nsize_bytes = 4\n\n[config]\n\n[labels]\n"

/-- The libraries on the files of one image, whose signature file is not JSON. -/
def plainCodec : Codec where
  toml _ text := if text = plainToml then .ok plainManifest else .error "expected a value"
  json :=
    { manifestToVec := fun m => .ok (manifestText m)
      signedToVec := fun signed => .ok (signedText signed)
      signedFromSlice := fun _ _ => .error "expected value at line 1 column 1" }
  sha256 data := if data = squashfs then squashfsHash else ""

/-- An image with a signature file of other text. -/
def unsignedImage : ImageTree :=
  FileTree.ofFiles [(["image", "rootfs.sqfs"], squashfs), (["image", "vyoma.toml"], utf8 plainToml),
    (["image", "vyoma.toml.sig"], utf8 "tampered")]

def smoothReads : ReadOutcomes where
  manifest := .ok ()
  manifestOrders := ⟨.inOrder _ _, .inOrder _ _, .inOrder _ _⟩
  rootfs := .ok ()
  signature := .ok ()
  signatureOrders := ⟨.inOrder _ _, .inOrder _ _, .inOrder _ _⟩

theorem readFile_of_find {t : ImageTree} {path : List String} {content : List UInt8}
    (h : t.find path = some (.file content)) : readFile t path (.ok ()) = .ok content := by
  unfold readFile
  rw [h]
  rfl

theorem unsignedImage_find : unsignedImage.find ["image", "rootfs.sqfs"] = some (.file squashfs) ∧
    unsignedImage.find ["image", "vyoma.toml"] = some (.file (utf8 plainToml)) ∧
    unsignedImage.find ["image", "vyoma.toml.sig"] = some (.file (utf8 "tampered")) :=
  ⟨rfl, rfl, rfl⟩

theorem unsignedImage_intact : Intact plainCodec unsignedImage ["image"] smoothReads plainManifest
    where
  loaded := by
    have htext : readToString unsignedImage ["image", "vyoma.toml"] (.ok ()) = .ok plainToml :=
      readToString_utf8 (readFile_of_find unsignedImage_find.2.1)
    have htoml : plainCodec.toml smoothReads.manifestOrders plainToml = .ok plainManifest := by
      simp [plainCodec]
    have hvalid : plainManifest.validate = .ok () := by
      unfold VmifManifest.validate
      rw [if_neg (by decide), if_neg (by decide), if_neg (by decide)]
    exact loadManifest_eq_ok htext htoml hvalid
  hash := by
    have hread : readFile unsignedImage (["image"] ++ ["rootfs.sqfs"]) smoothReads.rootfs =
        .ok squashfs := readFile_of_find unsignedImage_find.1
    unfold computeSquashfsHash
    rw [hread]
    rfl

/-- An image passes although its signature file cannot be read. -/
theorem undecodable_signature_passes :
    isThere unsignedImage ["image", "vyoma.toml.sig"] = true ∧
    verifyImage plainCodec unsignedImage ["image"] smoothReads =
      .ok (⟨plainManifest, ["image", "rootfs.sqfs"], none, none⟩,
        some "Failed to load signed manifest") ∧
    ¬ HonoursSignature carryingEd25519 plainCodec unsignedImage ["image"] smoothReads := by
  have hsig : isThere unsignedImage ["image", "vyoma.toml.sig"] = true := by
    rw [isThere, unsignedImage_find.2.2]
    rfl
  have hfile : loadSignedManifest plainCodec unsignedImage (["image"] ++ ["vyoma.toml.sig"])
      smoothReads.signature smoothReads.signatureOrders =
      .error (.signingError (.signing (.verifyError "expected value at line 1 column 1"))) := by
    have hread : readFile unsignedImage (["image"] ++ ["vyoma.toml.sig"]) smoothReads.signature =
        .ok (utf8 "tampered") := readFile_of_find unsignedImage_find.2.2
    unfold loadSignedManifest
    rw [hread]
    rfl
  have hnotice : signatureNotice plainCodec unsignedImage ["image"] smoothReads
      ⟨plainManifest, ["image", "rootfs.sqfs"], none, none⟩ =
      some "Failed to load signed manifest" := by
    unfold signatureNotice
    dsimp only
    rw [if_pos (show isThere unsignedImage (["image"] ++ ["vyoma.toml.sig"]) = true from hsig),
      hfile]
  have hok : verifyImage plainCodec unsignedImage ["image"] smoothReads =
      .ok (⟨plainManifest, ["image", "rootfs.sqfs"], none, none⟩,
        some "Failed to load signed manifest") :=
    verifyImage_eq_ok_iff.mpr ⟨unsignedImage_intact, rfl, hnotice.symm⟩
  refine ⟨hsig, hok, fun h => ?_⟩
  obtain ⟨-, signed, hsigned, -⟩ := h hsig _ _ hok
  rw [hfile] at hsigned
  cases hsigned

end Vyoma.Image
