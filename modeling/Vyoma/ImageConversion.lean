import Vyoma.HostFiles
import Vyoma.ImageVerification

/-!
# Making an image directory

`convert_directory_to_vmif` packs a directory into a file system, names its hash in a manifest
and signs the manifest if there is a key. It can stop at every step and cleans nothing up. The
image is checked again with `verify_image`, from the files alone.
-/
namespace Vyoma.Image
open Excepts FileTrees HostFiles RustText

/-- The errors of a conversion, with those that checking an image does not have. -/
inductive ConvertError where
  | mksquashfsNotFound
  | squashfsFailed (code : Int32)
  | other (e : ConverterError)
  deriving DecidableEq

/-- How `mksquashfs` ends. One that fails may leave a file behind. -/
inductive Mksquashfs where
  | missing
  | notRun (e : String)
  | failed (code : Option Int32) (left : Option (List UInt8))
  | done (content : List UInt8)

/-- How the writing of given bytes ends. -/
inductive Stored where
  | refused (e : String)
  | broken (e : String) (left : List UInt8)
  | done

structure ConvertOutcomes where
  createDir : Except String Unit
  sourceThere : Bool
  mksquashfs : Mksquashfs
  rootfs : Except String Unit
  metadata : Except String Unit
  created : String
  manifest : Stored
  signature : Stored

/-! ## Steps -/

def noEntry : String := "No such file or directory (os error 2)"

/-- Something is left in a file of the directory. -/
def leave (dir : List String) (file : String) (content : List UInt8)
    (wrap : String → ConvertError) : Prog ImageTree ConvertError Unit := do
  match ← Prog.read fun t => t.write dir file content with
  | some t => Prog.change fun _ => t
  | none => throw (wrap noEntry)

/-- `std::fs::write`. -/
def store (dir : List String) (file : String) (content : List UInt8) (o : Stored)
    (wrap : String → ConvertError) : Prog ImageTree ConvertError Unit :=
  match o with
  | .refused e => throw (wrap e)
  | .broken e left => do
    leave dir file left wrap
    throw (wrap e)
  | .done => leave dir file content wrap

def ioError (e : String) : ConvertError := .other (.io e)

def createDestDir (destDir : List String) (r : Except String Unit) :
    Prog ImageTree ConvertError Unit := do
  Prog.answer (r.mapError ioError)
  match ← Prog.read fun t => t.createDirs [] destDir with
  | some t => Prog.change fun _ => t
  | none => throw (ioError noEntry)

def createSquashfs (sourceDir destDir : List String) (sourceThere : Bool) (o : Mksquashfs) :
    Prog ImageTree ConvertError Unit :=
  if !sourceThere then
    throw (.other (.squashfsError ("Source directory does not exist: " ++ display sourceDir)))
  else
    match o with
    | .missing => throw .mksquashfsNotFound
    | .notRun e => throw (.other (.squashfsError e))
    | .failed code left => do
      left.elim (pure ()) fun content => leave destDir "rootfs.sqfs" content ioError
      throw (.squashfsFailed (code.getD (-1)))
    | .done content => leave destDir "rootfs.sqfs" content ioError

/-- What is in the directory once its files, but for the signature, have been written. -/
def writeImage (codec : Codec) (render : VmifManifest → Except String String)
    (sourceDir destDir : List String) (arch : String) (ociConfig : OciImageConfig)
    (kernelRef initrdRef : Option String) (o : ConvertOutcomes) :
    Prog ImageTree ConvertError VmifManifest := do
  createDestDir destDir o.createDir
  createSquashfs sourceDir destDir o.sourceThere o.mksquashfs
  let data ← Prog.read fun t => (readFile t (destDir ++ ["rootfs.sqfs"]) o.rootfs).mapError ioError
  let data ← Prog.answer data
  Prog.answer (o.metadata.mapError ioError)
  let manifest := VmifManifest.new o.created arch kernelRef initrdRef
    ("sha256:" ++ codec.sha256 data) ociConfig (UInt64.ofNat data.length)
  let content ← Prog.answer ((render manifest).mapError fun e => .other (.toml e))
  store destDir "vyoma.toml" (utf8 content) o.manifest ioError
  return manifest

def signingError (e : SignedFileError) : ConvertError := .other (.signingError e)

def signImage {ed : Ed25519} (codec : Codec) (signingKey : Option (SigningKeyPair ed))
    (destDir : List String) (manifest : VmifManifest) (o : Stored) :
    Prog ImageTree ConvertError Unit := do
  match signingKey with
  | none => return ()
  | some key =>
    let signed ← Prog.answer ((key.signManifest codec.json manifest).mapError fun e =>
      signingError (.signing e))
    let data ← Prog.answer ((signed.toBytes codec.json).mapError fun e => signingError (.signing e))
    store destDir "vyoma.toml.sig" data o fun e => signingError (.io e)

def convertDirectoryToVmif {ed : Ed25519} (codec : Codec)
    (render : VmifManifest → Except String String) (signingKey : Option (SigningKeyPair ed))
    (sourceDir destDir : List String) (arch : String) (ociConfig : OciImageConfig)
    (kernelRef initrdRef : Option String) (o : ConvertOutcomes) :
    Prog ImageTree ConvertError VmifImage := do
  let manifest ← writeImage codec render sourceDir destDir arch ociConfig kernelRef initrdRef o
  signImage codec signingKey destDir manifest o.signature
  return ⟨manifest, destDir ++ ["rootfs.sqfs"], none, none⟩

/-! ## What the steps leave -/

theorem exec_leave (dir : List String) (file : String) (content : List UInt8)
    (wrap : String → ConvertError) (t : ImageTree) :
    (leave dir file content wrap).exec t =
      match t.write dir file content with
      | some t' => (.ok (), t')
      | none => (.error (wrap noEntry), t) := by
  unfold leave
  rw [Prog.exec_bind, Prog.exec_read]
  dsimp only
  cases t.write dir file content <;> rfl

theorem exec_leave_eq_ok {dir : List String} {file : String} {content : List UInt8}
    {wrap : String → ConvertError} {t t' : ImageTree} {u : Unit}
    (h : (leave dir file content wrap).exec t = (.ok u, t')) :
    t.write dir file content = some t' := by
  rw [exec_leave] at h
  split at h
  · next hwrite =>
    rw [hwrite, (Prod.mk.inj h).2]
  · cases h

/-- Other files of the directory are left alone, whatever the writing comes to. -/
theorem find_leave {dir : List String} {file other : String} (hplain : Plain other)
    (hne : other ≠ file) (content : List UInt8) (wrap : String → ConvertError) (t : ImageTree) :
    ((leave dir file content wrap).exec t).2.find (dir ++ [other]) = t.find (dir ++ [other]) := by
  rw [exec_leave]
  split
  · next hwrite => exact FileTree.find_write_of_ne hplain hne hwrite
  · rfl

theorem find_store {dir : List String} {file other : String} (hplain : Plain other)
    (hne : other ≠ file) (content : List UInt8) (o : Stored) (wrap : String → ConvertError)
    (t : ImageTree) :
    ((store dir file content o wrap).exec t).2.find (dir ++ [other]) =
      t.find (dir ++ [other]) := by
  cases o with
  | refused e => rfl
  | broken e left =>
    have hleft : ((leave dir file left wrap).exec t).2.find (dir ++ [other]) =
      t.find (dir ++ [other]) := find_leave hplain hne left wrap t
    unfold store
    rw [Prog.exec_bind]
    generalize (leave dir file left wrap).exec t = out at hleft ⊢
    obtain ⟨r, t'⟩ := out
    cases r <;> exact hleft
  | done => exact find_leave hplain hne content wrap t

theorem exec_store_eq_ok {dir : List String} {file : String} {content : List UInt8} {o : Stored}
    {wrap : String → ConvertError} {t t' : ImageTree} {u : Unit}
    (h : (store dir file content o wrap).exec t = (.ok u, t')) :
    t.write dir file content = some t' := by
  cases o with
  | refused e => cases h
  | broken e left =>
    obtain ⟨-, t₁, -, hthrow⟩ := Prog.exec_bind_eq_ok_iff.mp h
    cases hthrow
  | done => exact exec_leave_eq_ok h

/-- The file system and the manifest, as they are once the manifest has been written. -/
theorem exec_writeImage_eq_ok {codec : Codec} {render : VmifManifest → Except String String}
    {sourceDir destDir : List String} {arch : String} {ociConfig : OciImageConfig}
    {kernelRef initrdRef : Option String} {o : ConvertOutcomes} {t t' : ImageTree}
    {manifest : VmifManifest}
    (h : (writeImage codec render sourceDir destDir arch ociConfig kernelRef initrdRef o).exec t =
      (.ok manifest, t')) :
    ∃ data text, t'.find (destDir ++ ["rootfs.sqfs"]) = some (.file data) ∧
      t'.find (destDir ++ ["vyoma.toml"]) = some (.file (utf8 text)) ∧
      render manifest = .ok text ∧ manifest = .new o.created arch kernelRef initrdRef
        ("sha256:" ++ codec.sha256 data) ociConfig (UInt64.ofNat data.length) := by
  unfold writeImage at h
  obtain ⟨-, t₁, -, h₁⟩ := Prog.exec_bind_eq_ok_iff.mp h
  obtain ⟨-, t₂, -, h₂⟩ := Prog.exec_bind_eq_ok_iff.mp h₁
  obtain ⟨r, t₃, hread, h₃⟩ := Prog.exec_bind_eq_ok_iff.mp h₂
  cases hread
  obtain ⟨data, t₄, hdata, h₄⟩ := Prog.exec_bind_eq_ok_iff.mp h₃
  obtain ⟨hread, rfl⟩ := Prog.exec_answer_eq_ok_iff.mp hdata
  obtain ⟨_, t₅, hmetadata, h₅⟩ := Prog.exec_bind_eq_ok_iff.mp h₄
  obtain ⟨-, rfl⟩ := Prog.exec_answer_eq_ok_iff.mp hmetadata
  obtain ⟨text, t₆, htext, h₆⟩ := Prog.exec_bind_eq_ok_iff.mp h₅
  obtain ⟨hrender, rfl⟩ := Prog.exec_answer_eq_ok_iff.mp htext
  obtain ⟨_, t₇, hstore, h₇⟩ := Prog.exec_bind_eq_ok_iff.mp h₆
  obtain ⟨rfl, rfl⟩ := Prog.exec_pure_eq_ok_iff.mp h₇
  have hwrite := exec_store_eq_ok hstore
  refine ⟨data, text, ?_, ?_, mapError_eq_ok_iff.mp hrender, rfl⟩
  · rw [FileTree.find_write_of_ne (by decide) (by decide) hwrite]
    exact find_of_readFile (mapError_eq_ok_iff.mp hread)
  · exact FileTree.find_write (by decide) hwrite

/-- The signing leaves the file system and the manifest alone, however it ends. -/
theorem find_signImage {ed : Ed25519} {codec : Codec} {signingKey : Option (SigningKeyPair ed)}
    {destDir : List String} {manifest : VmifManifest} {o : Stored} {t : ImageTree} {other : String}
    (hplain : Plain other) (hne : other ≠ "vyoma.toml.sig") :
    ((signImage codec signingKey destDir manifest o).exec t).2.find (destDir ++ [other]) =
      t.find (destDir ++ [other]) := by
  unfold signImage
  cases signingKey with
  | none => rfl
  | some key =>
    dsimp only
    rw [Prog.exec_bind, Prog.exec_answer]
    cases key.signManifest codec.json manifest with
    | error e => rfl
    | ok signed =>
      show (Prog.exec (_ >>= _) t).2.find _ = _
      rw [Prog.exec_bind, Prog.exec_answer]
      cases signed.toBytes codec.json with
      | error e => rfl
      | ok data => exact find_store hplain hne data o _ _

theorem exec_signImage_eq_ok {ed : Ed25519} {codec : Codec} {key : SigningKeyPair ed}
    {destDir : List String} {manifest : VmifManifest} {o : Stored} {t t' : ImageTree} {u : Unit}
    (h : (signImage codec (some key) destDir manifest o).exec t = (.ok u, t')) :
    ∃ signed data, key.signManifest codec.json manifest = .ok signed ∧
      signed.toBytes codec.json = .ok data ∧
      t'.find (destDir ++ ["vyoma.toml.sig"]) = some (.file data) := by
  obtain ⟨signed, t₁, hsigned, h₁⟩ := Prog.exec_bind_eq_ok_iff.mp h
  obtain ⟨hsign, rfl⟩ := Prog.exec_answer_eq_ok_iff.mp hsigned
  obtain ⟨data, t₂, hdata, h₂⟩ := Prog.exec_bind_eq_ok_iff.mp h₁
  obtain ⟨hbytes, rfl⟩ := Prog.exec_answer_eq_ok_iff.mp hdata
  exact ⟨signed, data, mapError_eq_ok_iff.mp hsign, mapError_eq_ok_iff.mp hbytes,
    FileTree.find_write (by decide) (exec_store_eq_ok h₂)⟩

/-! ## Images that have been made -/

/-- What is documented of the libraries, for one manifest and the key it is signed with: texts are
read back up to the orders of the new maps, and a hash is written in hexadecimal digits. -/
structure Codec.Documented {ed : Ed25519} (codec : Codec)
    (render : VmifManifest → Except String String) (signingKey : Option (SigningKeyPair ed))
    (manifest : VmifManifest) : Prop where
  toml : ∀ text, render manifest = .ok text →
    ∀ orders, codec.toml orders text = .ok (manifest.reorder orders)
  json : ∀ key ∈ signingKey, ∀ signed, key.signManifest codec.json manifest = .ok signed →
    ∀ data, codec.json.signedToVec signed = .ok data →
      ∀ orders, codec.json.signedFromSlice orders data = .ok (signed.reorder orders)
  hex : ∀ data, ∀ c ∈ (codec.sha256 data).toList, c ∈ "0123456789abcdef".toList

theorem Codec.Documented.trim {ed : Ed25519} {codec : Codec}
    {render : VmifManifest → Except String String} {signingKey : Option (SigningKeyPair ed)}
    {manifest : VmifManifest} (h : codec.Documented render signingKey manifest)
    (data : List UInt8) :
    trimStartMatches "sha256:" ("sha256:" ++ codec.sha256 data) = codec.sha256 data := by
  refine trimStartMatches_append (by decide) fun hscheme => ?_
  exact absurd (h.hex data 's' (hscheme.subset (by decide))) (by decide)

theorem validate_new (created : String) {arch : String} (kernel initrd : Option String)
    {rootfs : String} (hrootfs : rootfs ≠ "") (config : OciImageConfig) (sizeBytes : UInt64)
    (orders : MapOrders) :
    ((VmifManifest.new created arch kernel initrd rootfs config sizeBytes).reorder
        orders).validate =
      if arch = "" then .error (.missingField "arch") else .ok () := by
  unfold VmifManifest.validate VmifManifest.reorder VmifManifest.new
  dsimp only
  rw [if_neg (by decide), if_neg hrootfs]

/-- The image that is read from the files. -/
def readBack (manifest : VmifManifest) (destDir : List String) (reads : ReadOutcomes) : VmifImage :=
  ⟨manifest.reorder reads.manifestOrders, destDir ++ ["rootfs.sqfs"], none, none⟩

section Converted

variable {ed : Ed25519} {codec : Codec} {render : VmifManifest → Except String String}
  {sourceDir destDir : List String} {arch : String} {ociConfig : OciImageConfig}
  {kernelRef initrdRef : Option String} {o : ConvertOutcomes} {t t₁ : ImageTree}
  {manifest : VmifManifest} {signingKey : Option (SigningKeyPair ed)}

/-- Files with a file system and the manifest that was made for it are checked by the manifest. -/
theorem verifyImage_of_files {t : ImageTree} {data : List UInt8} {text created : String}
    {sizeBytes : UInt64}
    (hmanifest : manifest = .new created arch kernelRef initrdRef ("sha256:" ++ codec.sha256 data)
      ociConfig sizeBytes)
    (hrootfs : t.find (destDir ++ ["rootfs.sqfs"]) = some (.file data))
    (htoml : t.find (destDir ++ ["vyoma.toml"]) = some (.file (utf8 text)))
    (hrender : render manifest = .ok text)
    (hcodec : codec.Documented render signingKey manifest)
    {reads : ReadOutcomes} (hread : reads.manifest = .ok ()) (hread' : reads.rootfs = .ok ()) :
    verifyImage codec t destDir reads =
      if arch = "" then .error (.vmifError (.missingField "arch"))
      else .ok (readBack manifest destDir reads,
        signatureNotice codec t destDir reads (readBack manifest destDir reads)) := by
  have htext : readToString t (destDir ++ ["vyoma.toml"]) reads.manifest = .ok text := by
    rw [hread]
    exact readToString_utf8 (readFile_of_find htoml)
  have hload := hcodec.toml text hrender reads.manifestOrders
  have hscheme : "sha256:" ++ codec.sha256 data ≠ "" := by
    intro hempty
    have hlist := congrArg String.toList hempty
    rw [String.toList_append] at hlist
    cases hlist
  have hvalid : (manifest.reorder reads.manifestOrders).validate =
      if arch = "" then .error (.missingField "arch") else .ok () := by
    rw [hmanifest]
    exact validate_new created kernelRef initrdRef hscheme ociConfig sizeBytes _
  split_ifs with harch
  · rw [if_pos harch] at hvalid
    have hfailed : loadManifest codec t (destDir ++ ["vyoma.toml"]) reads.manifest
        reads.manifestOrders = .error (.vmifError (.missingField "arch")) := by
      unfold loadManifest
      rw [htext]
      show (codec.toml _ text).mapError ConverterError.toml >>= _ = _
      rw [hload]
      show (VmifManifest.validate _).mapError ConverterError.vmifError >>= _ = _
      rw [hvalid]
      rfl
    unfold verifyImage isThere
    dsimp only
    rw [hrootfs, htoml, hfailed]
    rfl
  · rw [if_neg harch] at hvalid
    refine verifyImage_eq_ok_iff.mpr ⟨⟨loadManifest_eq_ok htext hload hvalid, ?_⟩, rfl, rfl⟩
    have hname : (manifest.reorder reads.manifestOrders).rootfs =
        "sha256:" ++ codec.sha256 data := by
      rw [hmanifest]
      rfl
    unfold computeSquashfsHash
    rw [hread', readFile_of_find hrootfs]
    show Except.ok (codec.sha256 data) = .ok (trimStartMatches "sha256:"
      (manifest.reorder reads.manifestOrders).rootfs)
    rw [hname, hcodec.trim]

/-- A signature that has been written is found to be one of the manifest. -/
theorem signatureNotice_of_signed {key : SigningKeyPair ed} {t : ImageTree}
    {signed : SignedManifest} {data : List UInt8}
    (hsigned : key.signManifest codec.json manifest = .ok signed)
    (hdata : signed.toBytes codec.json = .ok data)
    (hfile : t.find (destDir ++ ["vyoma.toml.sig"]) = some (.file data))
    (hcodec : codec.Documented render (some key) manifest) {reads : ReadOutcomes}
    (hread : reads.signature = .ok ()) :
    signatureNotice codec t destDir reads (readBack manifest destDir reads) =
      some "Signed manifest verified successfully" := by
  have hsame : signed.manifest = manifest := by
    obtain ⟨bytes, -, hbytes⟩ := bind_eq_ok_iff.mp hsigned
    cases hbytes
    rfl
  have hloaded : loadSignedManifest codec t (destDir ++ ["vyoma.toml.sig"]) reads.signature
      reads.signatureOrders = .ok (signed.reorder reads.signatureOrders) := by
    unfold loadSignedManifest
    rw [hread, readFile_of_find hfile]
    show (SignedManifest.fromBytes codec.json reads.signatureOrders data).mapError _ = _
    rw [SignedManifest.fromBytes, hcodec.json key rfl signed hsigned data
      (mapError_eq_ok_iff.mp hdata)]
    rfl
  have hthere : isThere t (destDir ++ ["vyoma.toml.sig"]) = true := by
    rw [isThere, hfile]
    rfl
  unfold signatureNotice
  dsimp only
  rw [hthere, if_pos rfl, hloaded]
  dsimp only
  rw [SignedManifest.reorder, hsame]
  exact if_pos ⟨rfl, rfl, rfl⟩

/-- An image is checked by what was made of it: once its manifest has been written, it passes if
and only if it names an architecture, and it is the image that was made, up to the orders of its
maps. That holds of an image that could not be signed too. If it was to be signed and the
conversion came to its end, the signature is found to be one of the manifest. -/
theorem converted_image_verified
    (hwritten : (writeImage codec render sourceDir destDir arch ociConfig kernelRef initrdRef
      o).exec t = (.ok manifest, t₁)) (hcodec : codec.Documented render signingKey manifest)
    {reads : ReadOutcomes} (hmanifest : reads.manifest = .ok ()) (hrootfs : reads.rootfs = .ok ())
    {r : Except ConvertError VmifImage} {t' : ImageTree}
    (hconvert : (convertDirectoryToVmif codec render signingKey sourceDir destDir arch ociConfig
      kernelRef initrdRef o).exec t = (r, t')) :
    (∀ image, r = .ok image → image = ⟨manifest, destDir ++ ["rootfs.sqfs"], none, none⟩) ∧
    verifyImage codec t' destDir reads =
      (if arch = "" then .error (.vmifError (.missingField "arch"))
      else .ok (readBack manifest destDir reads,
        signatureNotice codec t' destDir reads (readBack manifest destDir reads))) ∧
    (∀ image, r = .ok image → signingKey.isSome = true → reads.signature = .ok () →
      signatureNotice codec t' destDir reads (readBack manifest destDir reads) =
        some "Signed manifest verified successfully") := by
  obtain ⟨data, text, hdata, htext, hrender, hnew⟩ := exec_writeImage_eq_ok hwritten
  unfold convertDirectoryToVmif at hconvert
  rw [Prog.exec_bind_ok hwritten] at hconvert
  have htree : t' = ((signImage codec signingKey destDir manifest o.signature).exec t₁).2 := by
    rw [← Prog.exec_bind_pure _ (fun _ => (⟨manifest, destDir ++ ["rootfs.sqfs"], none, none⟩ :
      VmifImage)), hconvert]
  refine ⟨?_, ?_, ?_⟩
  · rintro image rfl
    obtain ⟨_, t₂, -, hpure⟩ := Prog.exec_bind_eq_ok_iff.mp hconvert
    exact (Prog.exec_pure_eq_ok_iff.mp hpure).1
  · refine verifyImage_of_files hnew ?_ ?_ hrender hcodec hmanifest hrootfs
    · rw [htree, find_signImage (by decide) (by decide)]
      exact hdata
    · rw [htree, find_signImage (by decide) (by decide)]
      exact htext
  · rintro image rfl hkey hsignature
    obtain ⟨key, rfl⟩ := Option.isSome_iff_exists.mp hkey
    obtain ⟨_, t₂, hsign, hpure⟩ := Prog.exec_bind_eq_ok_iff.mp hconvert
    obtain ⟨-, rfl⟩ := Prog.exec_pure_eq_ok_iff.mp hpure
    obtain ⟨signed, bytes, hsigned, hbytes, hfile⟩ := exec_signImage_eq_ok hsign
    exact signatureNotice_of_signed hsigned hbytes hfile hcodec hsignature

end Converted

def convertedToml : String :=
  plainToml ++ "\n[firmware]\nfirmware_type = \"\"\nsecure_boot_enabled = false\n\n" ++
    "[measured_boot]\n\n[confidential_computing]\nenabled = false\ntechnology = \"\"\n"

def convertedJson : List UInt8 :=
  ascii ("\x7b\"schema_version\":1,\"created\":\"2026-01-01T00:00:00+00:00\"," ++
    "\"arch\":\"amd64\",\"kernel\":null,\"initrd\":null,\"rootfs\":\"sha256:" ++
    squashfsHash ++ "\",\"config\":\x7b\"Entrypoint\":null,\"Cmd\":null,\"Env\":null," ++
    "\"WorkingDir\":null,\"ExposedPorts\":null,\"User\":null\x7d,\"labels\":\x7b\x7d," ++
    "\"size_bytes\":4,\"kernel_profile\":null,\"kernel_cmdline\":null," ++
    "\"firmware\":\x7b\"firmware_type\":\"\",\"firmware_path\":null," ++
    "\"secure_boot_enabled\":false,\"signature\":null\x7d," ++
    "\"measured_boot\":\x7b\"pcr_policy\":null,\"kernel_signature\":null," ++
    "\"initrd_signature\":null,\"rootfs_hash\":null,\"trust_policy_key\":null\x7d," ++
    "\"confidential_computing\":\x7b\"enabled\":false,\"technology\":\"\"," ++
    "\"amd_sev_snp\":null,\"intel_tdx\":null\x7d\x7d")

def convertedSigned : SignedManifest := ⟨plainManifest, convertedJson, keyPair.verifyingKey⟩

def convertedSignedJson (signed : SignedManifest) : List UInt8 :=
  ascii "\x7b\"manifest\":" ++ convertedJson ++ ascii ",\"signature\":" ++
    numbersText signed.signature ++ ascii ",\"public_key\":" ++ numbersText signed.publicKey ++
    ascii "\x7d"

/-- The libraries on the files of one image, signed with one key. -/
def convertedCodec : Codec where
  toml orders text :=
    if text = convertedToml then .ok (plainManifest.reorder orders) else .error "expected a value"
  json :=
    { manifestToVec := fun _ => .ok convertedJson
      signedToVec := fun signed => .ok (convertedSignedJson signed)
      signedFromSlice := fun orders data =>
        if data = convertedSignedJson convertedSigned then .ok (convertedSigned.reorder orders)
        else .error "expected value at line 1 column 1" }
  sha256 data := if data = squashfs then squashfsHash else ""

def renderConverted (_ : VmifManifest) : Except String String := .ok convertedToml

theorem keyPair_signs (serde : SerdeJson) {m : VmifManifest} {bytes : List UInt8}
    (h : serde.manifestToVec m = .ok bytes) :
    keyPair.signManifest serde m = .ok ⟨m, bytes, keyPair.verifyingKey⟩ := by
  unfold SigningKeyPair.signManifest
  rw [h]
  rfl

theorem convertedCodec_documented :
    convertedCodec.Documented renderConverted (some keyPair) plainManifest where
  toml text htext orders := by
    cases htext
    unfold convertedCodec
    dsimp only
    rw [if_pos rfl]
  json key hkey signed hsigned data hdata orders := by
    cases hkey
    have hsame : convertedSigned = signed :=
      Except.ok.inj ((keyPair_signs convertedCodec.json rfl).symm.trans hsigned)
    rw [← hsame] at hdata ⊢
    cases hdata
    unfold convertedCodec
    dsimp only
    rw [if_pos rfl]
  hex data := by
    have hhash : ∀ c ∈ squashfsHash.toList, c ∈ "0123456789abcdef".toList := by decide
    unfold convertedCodec
    dsimp only
    split_ifs
    · exact hhash
    · exact fun c hc => nomatch hc

def smoothConversion : ConvertOutcomes where
  createDir := .ok ()
  sourceThere := true
  mksquashfs := .done squashfs
  rootfs := .ok ()
  metadata := .ok ()
  created := "2026-01-01T00:00:00+00:00"
  manifest := .done
  signature := .done

def emptyDisk : ImageTree := FileTree.ofFiles []

/-- The files of the image before it is signed, and in the end. -/
def writtenDisk : ImageTree :=
  ((writeImage convertedCodec renderConverted ["src"] ["image"] "amd64" {} none none
    smoothConversion).exec emptyDisk).2

def convertedDisk : ImageTree :=
  ((convertDirectoryToVmif convertedCodec renderConverted (some keyPair) ["src"] ["image"] "amd64"
    {} none none smoothConversion).exec emptyDisk).2

theorem plainImage_written :
    (writeImage convertedCodec renderConverted ["src"] ["image"] "amd64" {} none none
      smoothConversion).exec emptyDisk = (.ok plainManifest, writtenDisk) := Prod.ext rfl rfl

theorem plainImage_converted :
    (convertDirectoryToVmif convertedCodec renderConverted (some keyPair) ["src"] ["image"]
      "amd64" {} none none smoothConversion).exec emptyDisk =
      (.ok ⟨plainManifest, ["image", "rootfs.sqfs"], none, none⟩, convertedDisk) :=
  Prod.ext rfl rfl

theorem plainImage_verified :
    (∀ image, (.ok ⟨plainManifest, ["image", "rootfs.sqfs"], none, none⟩ :
      Except ConvertError VmifImage) = .ok image →
        image = ⟨plainManifest, ["image"] ++ ["rootfs.sqfs"], none, none⟩) ∧
    verifyImage convertedCodec convertedDisk ["image"] smoothReads =
      (if "amd64" = "" then .error (.vmifError (.missingField "arch"))
      else .ok (readBack plainManifest ["image"] smoothReads, signatureNotice convertedCodec
        convertedDisk ["image"] smoothReads (readBack plainManifest ["image"] smoothReads))) ∧
    (∀ image, (.ok ⟨plainManifest, ["image", "rootfs.sqfs"], none, none⟩ :
      Except ConvertError VmifImage) = .ok image → (some keyPair).isSome = true →
        smoothReads.signature = .ok () →
      signatureNotice convertedCodec convertedDisk ["image"] smoothReads
        (readBack plainManifest ["image"] smoothReads) =
        some "Signed manifest verified successfully") :=
  converted_image_verified plainImage_written convertedCodec_documented rfl rfl
    plainImage_converted

end Vyoma.Image
