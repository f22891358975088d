import Vyoma.AttestationIsolation
import Vyoma.ImageStore
import Vyoma.ImageVerification
import Vyoma.VmLifecycle

/-!
# The manifest an attestation relies on

A check takes the expected registers from the manifest of the image, which it looks for by the
name of the image in the home directory. If the configuration asks for it, the manifest must
be signed by a key that is trusted, that is, whose bytes are those of a `.pub` file in a
directory. The registers that are compared are those of the manifest.
-/
namespace Vyoma.VmService
open Attest Excepts FileTrees Image
open ImageStore (DataDir imageStorePath)

/-- How attestation is carried out. -/
structure MeasuredBootConfig where
  pcrSelection : List UInt32 := [0, 1, 4, 5, 7, 9, 10, 14]
  verificationTimeoutSecs : UInt64 := 30
  blockOnFailure : Bool := true
  requireSignedManifest : Bool := true
  trustedKeysDir : Option (List String) := none
  deriving DecidableEq, Repr

/-- `~/.vyoma/keys/trusted`. -/
def defaultKeysDir (home : DataDir) : List String := home.place ++ [".vyoma", "keys", "trusted"]

/-- `build_attestation_config`; a relative path starts from the working directory. -/
def buildAttestationConfig (cwd : List String) (home : Option DataDir) (policy : PolicyConfig) :
    MeasuredBootConfig where
  pcrSelection := policy.measuredBoot.pcrSelection
  verificationTimeoutSecs := policy.measuredBoot.verificationTimeoutSecs
  blockOnFailure := policy.measuredBoot.blockOnFailure
  requireSignedManifest := true
  trustedKeysDir :=
    ((policy.measuredBoot.trustedKeysDir.map (join cwd)).or
      (policy.measuredBoot.buildSigningKeyPath.map (join cwd))).or (home.map defaultKeysDir)

/-- What reading the files of an image and the trusted keys meets. The directory of the keys
is listed by the names of its entries. -/
structure TrustOutcomes where
  readSig : Except String Unit
  sigOrders : MapOrders
  readKeysDir : Except String (List (Except String String))
  readKey : String → Except String Unit
  readManifest : Except String Unit
  manifestOrders : MapOrders

/-- `find_image_dir`, which tries one place twice. -/
def findImageDir (home : DataDir) (t : ImageTree) (imageName : String) :
    Except String (List String) :=
  let imageDir := imageStorePath home imageName
  if isThere t imageDir then .ok imageDir
  else if isThere t imageDir then .ok imageDir
  else .error ("Image directory not found for image: " ++ imageName)

def loadKeys (t : ImageTree) (dir : List String) (o : TrustOutcomes) (policy : TrustPolicy) :
    List (Except String String) → Except SignedFileError TrustPolicy
  | [] => .ok policy
  | entry :: entries => do
    let name ← entry.mapError .io
    if extension name = some "pub" then
      let keyData ← (readFile t (dir ++ [name]) (o.readKey name)).mapError .io
      loadKeys t dir o (policy.addTrustedKey keyData) entries
    else loadKeys t dir o policy entries

def loadTrustedKeysFromDir (t : ImageTree) (policy : TrustPolicy) (dir : List String)
    (o : TrustOutcomes) : Except SignedFileError TrustPolicy :=
  if !isThere t dir then .ok policy
  else do
    let entries ← o.readKeysDir.mapError .io
    loadKeys t dir o policy entries

def trustedKeysDir (home : DataDir) (config : MeasuredBootConfig) : List String :=
  config.trustedKeysDir.getD (defaultKeysDir home)

section Manifest

variable (codec : Codec) (ed : Ed25519)

/-- The check of a signed manifest that the configuration asks for. Without it a failed check
is only logged. -/
def requireTrusted (home : DataDir) (t : ImageTree) (config : MeasuredBootConfig)
    (o : TrustOutcomes) (signed : SignedManifest) : Except String Unit :=
  if config.requireSignedManifest then do
    let policy ← (loadTrustedKeysFromDir t (TrustPolicy.new true) (trustedKeysDir home config)
      o).mapError ("Failed to load trusted keys: " ++ ·.display)
    (policy.verify codec.json ed signed).mapError
      ("Manifest signature verification failed: " ++ ·.display)
  else .ok ()

/-- A manifest without a signature, where none is asked for. -/
def loadUnsigned (t : ImageTree) (imageDir : List String) (imageName : String)
    (config : MeasuredBootConfig) (o : TrustOutcomes) : Except String SignedManifest :=
  let manifestPath := imageDir ++ ["vyoma.toml"]
  if !isThere t manifestPath then
    .error ("Neither signed manifest (vyoma.toml.sig) nor unsigned manifest (vyoma.toml) found in "
      ++ display imageDir)
  else if config.requireSignedManifest then
    .error ("Image " ++ imageName ++ " has no signed manifest (vyoma.toml.sig) - signed " ++
      "manifest required by policy. Build the image with --measured flag to generate a signed " ++
      "manifest.")
  else do
    let manifest ← (loadManifest codec t manifestPath o.readManifest o.manifestOrders).mapError
      ("Failed to load unsigned manifest: " ++ ·.display)
    return ⟨manifest, [], []⟩

/-- `load_and_verify_manifest`. -/
def loadAndVerifyManifest (home : Option DataDir) (t : ImageTree) (imageName : String)
    (config : MeasuredBootConfig) (o : TrustOutcomes) : Except String SignedManifest :=
  match home with
  | none => .error "No home directory"
  | some home => do
    let imageDir ← findImageDir home t imageName
    let sigPath := imageDir ++ ["vyoma.toml.sig"]
    if isThere t sigPath then
      let signed ← (loadSignedManifest codec t sigPath o.readSig o.sigOrders).mapError
        ("Failed to load signed manifest: " ++ ·.display)
      requireTrusted codec ed home t config o signed
      return signed
    else loadUnsigned codec t imageDir imageName config o

end Manifest

/-! ## The manifest is signed by a trusted key -/

section Trust

variable {codec : Codec} {ed : Ed25519} {home : DataDir} {t : ImageTree} {o : TrustOutcomes}
  {config : MeasuredBootConfig}

/-- These are the bytes of a `.pub` file that the directory lists. -/
def TrustedKey (t : ImageTree) (dir : List String) (o : TrustOutcomes) (key : List UInt8) : Prop :=
  ∃ entries name, o.readKeysDir = .ok entries ∧ .ok name ∈ entries ∧
    extension name = some "pub" ∧ t.find (dir ++ [name]) = some (.file key)

/-- One entry of the directory: a key that is added, or a file that is passed over. -/
theorem loadKeys_cons {dir : List String} {policy policy' : TrustPolicy}
    {entry : Except String String} {entries : List (Except String String)}
    (h : loadKeys t dir o policy (entry :: entries) = .ok policy') :
    ∃ name, entry = .ok name ∧
      ((extension name = some "pub" ∧ ∃ key, t.find (dir ++ [name]) = some (.file key) ∧
          loadKeys t dir o (policy.addTrustedKey key) entries = .ok policy') ∨
        loadKeys t dir o policy entries = .ok policy') := by
  obtain ⟨name, hentry, hrest⟩ := bind_eq_ok_iff.mp h
  refine ⟨name, mapError_eq_ok_iff.mp hentry, ?_⟩
  by_cases hpub : extension name = some "pub"
  · obtain ⟨key, hread, hadded⟩ := bind_eq_ok_iff.mp ((if_pos hpub).symm.trans hrest)
    exact .inl ⟨hpub, key, find_of_readFile (mapError_eq_ok_iff.mp hread), hadded⟩
  · exact .inr ((if_neg hpub).symm.trans hrest)

theorem mem_trustedKeys_loadKeys {dir : List String} {policy policy' : TrustPolicy}
    {entries : List (Except String String)} (h : loadKeys t dir o policy entries = .ok policy')
    {key : List UInt8} (hkey : key ∈ policy'.trustedKeys) :
    key ∈ policy.trustedKeys ∨ ∃ name, .ok name ∈ entries ∧ extension name = some "pub" ∧
      t.find (dir ++ [name]) = some (.file key) := by
  induction entries generalizing policy with
  | nil =>
    cases h
    exact .inl hkey
  | cons entry entries ih =>
    obtain ⟨name, rfl, ⟨hpub, key', hfile, hrest⟩ | hrest⟩ := loadKeys_cons h
    · obtain hnew | ⟨name', hmem, hlisted⟩ := ih hrest
      · obtain rfl | hold := List.mem_cons.mp hnew
        · exact .inr ⟨name, List.mem_cons_self, hpub, hfile⟩
        · exact .inl hold
      · exact .inr ⟨name', List.mem_cons_of_mem _ hmem, hlisted⟩
    · obtain hold | ⟨name', hmem, hlisted⟩ := ih hrest
      · exact .inl hold
      · exact .inr ⟨name', List.mem_cons_of_mem _ hmem, hlisted⟩

theorem requireSigned_loadKeys {dir : List String} {policy policy' : TrustPolicy}
    {entries : List (Except String String)} (h : loadKeys t dir o policy entries = .ok policy') :
    policy'.requireSigned = policy.requireSigned := by
  induction entries generalizing policy with
  | nil =>
    cases h
    rfl
  | cons entry entries ih =>
    obtain ⟨name, rfl, ⟨-, key, -, hrest⟩ | hrest⟩ := loadKeys_cons h
    · exact (ih hrest).trans rfl
    · exact ih hrest

/-- The keys of a new policy are those of the directory. -/
theorem trustedKey_of_load {dir : List String} {policy : TrustPolicy} {required : Bool}
    (h : loadTrustedKeysFromDir t (TrustPolicy.new required) dir o = .ok policy) :
    policy.requireSigned = required ∧ ∀ key ∈ policy.trustedKeys, TrustedKey t dir o key := by
  unfold loadTrustedKeysFromDir at h
  split_ifs at h
  · cases h
    exact ⟨rfl, nofun⟩
  · obtain ⟨entries, hentries, hload⟩ := bind_eq_ok_iff.mp h
    refine ⟨requireSigned_loadKeys hload, fun key hkey => ?_⟩
    obtain hnew | ⟨name, hname, hpub, hfile⟩ := mem_trustedKeys_loadKeys hload hkey
    · cases hnew
    · exact ⟨entries, name, mapError_eq_ok_iff.mp hentries, hname, hpub, hfile⟩

/-- A policy that requires signatures accepts only valid ones of its keys. -/
theorem valid_of_verify {policy : TrustPolicy} {signed : SignedManifest}
    (hrequired : policy.requireSigned = true)
    (h : policy.verify codec.json ed signed = .ok ()) :
    signed.publicKey ∈ policy.trustedKeys ∧ signed.Valid ed codec.json := by
  unfold TrustPolicy.verify at h
  split_ifs at h with hnone hempty hkey hlength
  · exact absurd ⟨hrequired, hempty⟩ hnone
  · refine ⟨hkey, ?_⟩
    obtain ⟨_, hvalid, hrest⟩ := bind_eq_ok_iff.mp h
    obtain ⟨bytes, hbytes, hrest'⟩ := bind_eq_ok_iff.mp hrest
    obtain ⟨_, hsignature, hverifies⟩ := bind_eq_ok_iff.mp hrest'
    exact ⟨not_not.mp hlength, mapError_eq_ok_iff.mp hvalid, mapError_eq_ok_iff.mp hsignature,
      bytes, mapError_eq_ok_iff.mp hbytes, mapError_eq_ok_iff.mp hverifies⟩

/-- Where a signature is required, the manifest has a valid one of a trusted key. -/
theorem trusted_of_loadAndVerify {home : Option DataDir} {imageName : String}
    {signed : SignedManifest} (hrequired : config.requireSignedManifest = true)
    (h : loadAndVerifyManifest codec ed home t imageName config o = .ok signed) :
    signed.Valid ed codec.json ∧ ∃ home', home = some home' ∧
      TrustedKey t (trustedKeysDir home' config) o signed.publicKey := by
  unfold loadAndVerifyManifest at h
  cases home with
  | none => cases h
  | some home =>
    obtain ⟨imageDir, -, hfound⟩ := bind_eq_ok_iff.mp h
    dsimp only at hfound
    split_ifs at hfound
    · obtain ⟨loaded, -, hchecked⟩ := bind_eq_ok_iff.mp hfound
      obtain ⟨_, htrusted, hreturn⟩ := bind_eq_ok_iff.mp hchecked
      cases hreturn
      obtain ⟨policy, hload, hverify⟩ := bind_eq_ok_iff.mp ((if_pos hrequired).symm.trans htrusted)
      obtain ⟨hnew, hkeys⟩ := trustedKey_of_load (mapError_eq_ok_iff.mp hload)
      obtain ⟨hkey, hvalid⟩ := valid_of_verify hnew (mapError_eq_ok_iff.mp hverify)
      exact ⟨hvalid, home, rfl, hkeys _ hkey⟩
    · -- without a signature file there is no manifest to rely on
      unfold loadUnsigned at hfound
      dsimp only at hfound
      split_ifs at hfound

end Trust

/-! ## What a verdict of true says -/

/-- The live registers hold every one of a policy, with its value. -/
def Matches (livePcrs policy : HashMap UInt32 String) : Prop :=
  ∀ index expected, policy.lookup index = some expected → livePcrs.lookup index = some expected

theorem directCheck_eq_none_iff {livePcrs policy : HashMap UInt32 String} :
    directCheck livePcrs policy = none ↔ Matches livePcrs policy := by
  unfold directCheck
  rw [List.findSome?_eq_none_iff]
  constructor
  · intro h index expected hexpected
    have hindex := h (index, expected) (HashMap.mem_pairs.mpr hexpected)
    cases hlive : livePcrs.lookup index with
    | none => simp [hlive] at hindex
    | some actual =>
      simp only [hlive, ite_eq_right_iff, reduceCtorEq, imp_false, ne_eq, not_not] at hindex
      rw [hindex]
  · rintro h ⟨index, expected⟩ hmem
    have hlive := h index expected (HashMap.mem_pairs.mp hmem)
    simp [hlive]

/-- A quote that matches is accepted by the verifier. -/
theorem accepted_of_matches {livePcrs policy : HashMap UInt32 String} (imageName : String)
    (quoteData : List UInt8) (hmatches : Matches livePcrs policy) (hempty : livePcrs.entries ≠ []) :
    Accepted ⟨imageName, true, some ⟨quoteData, [], livePcrs, ""⟩, ∅, none⟩ policy
      ⟨quoteData, [], livePcrs, ""⟩ := by
  refine ⟨rfl, rfl, hempty, fun index expected actual hexpected hactual => ?_⟩
  exact Option.some.inj (hactual.symm.trans (hmatches index expected hexpected))

/-- A quote is judged good exactly if there is a manifest with a policy that it matches. -/
theorem compareWithManifest_verified_iff {check : Check} {quoteData : List UInt8}
    {livePcrs : HashMap UInt32 String} :
    (∃ result, check.compareWithManifest quoteData livePcrs = .ok result ∧
      result.verified = true) ↔
      ∃ signed policy, check.manifest = .ok signed ∧
        signed.manifest.measuredBoot.pcrPolicy = some policy ∧ livePcrs.entries ≠ [] ∧
        Matches livePcrs policy := by
  constructor
  · rintro ⟨result, hok, hverified⟩
    obtain ⟨signed, hsigned, hrest⟩ := bind_eq_ok_iff.mp hok
    cases hpolicy : signed.manifest.measuredBoot.pcrPolicy with
    | none =>
      rw [hpolicy] at hrest
      cases hrest
    | some policy =>
      rw [hpolicy] at hrest
      obtain ⟨response, hresponse, hdirect⟩ := bind_eq_ok_iff.mp hrest
      obtain ⟨_, hverify, -⟩ := bind_eq_ok_iff.mp (mapError_eq_ok_iff.mp hresponse)
      obtain ⟨quote, hquote⟩ := accepted_of_verify hverify
      have hlive := hquote.quoted
      cases hlive
      refine ⟨signed, policy, hsigned, hpolicy, hquote.notEmpty, ?_⟩
      -- whatever the verifier passes over, the direct check does not
      split_ifs at hdirect
      · cases hdirect
        cases hverified
      · split at hdirect
        · cases hdirect
          cases hverified
        · next hnone => exact directCheck_eq_none_iff.mp hnone
  · rintro ⟨signed, policy, hsigned, hpolicy, hempty, hmatches⟩
    refine ⟨⟨true, policy.pairs.map fun p =>
      ⟨p.1, p.2, (livePcrs.lookup p.1).getD "", (livePcrs.lookup p.1).getD "" == p.2⟩, true, none⟩,
      bind_eq_ok_iff.mpr ⟨signed, hsigned, ?_⟩, rfl⟩
    rw [hpolicy]
    refine bind_eq_ok_iff.mpr ⟨_, mapError_eq_ok_iff.mpr (verifyTpmAttestation_of_accepted
      (accepted_of_matches check.imageName quoteData hmatches hempty)), ?_⟩
    simp only [directCheck_eq_none_iff.mpr hmatches]
    rfl

/-- What a verdict of true rests on: a quote that was taken and read, a manifest with a policy,
and registers that match it. -/
structure Grounds (check : Check) (livePcrs : HashMap UInt32 String) (signed : SignedManifest)
    (policy : HashMap UInt32 String) : Prop where
  quoted : ∃ quote, check.quoteRun = .wrote quote ∧ parsePcrValues quote = .ok livePcrs
  readable : check.readError = none
  loaded : check.manifest = .ok signed
  recorded : signed.manifest.measuredBoot.pcrPolicy = some policy
  notEmpty : livePcrs.entries ≠ []
  registers : Matches livePcrs policy

/-- There is one manifest, and one policy in it. -/
theorem Grounds.policy_eq {check : Check} {signed signed' : SignedManifest}
    {livePcrs livePcrs' policy policy' : HashMap UInt32 String}
    (h : Grounds check livePcrs signed policy) (h' : Grounds check livePcrs' signed' policy') :
    policy = policy' := by
  have hsigned : signed = signed' := Except.ok.inj (h.loaded.symm.trans h'.loaded)
  subst hsigned
  exact Option.some.inj (h.recorded.symm.trans h'.recorded)

theorem verifyAttestation_verified_iff {check : Check} {files : Files} :
    (∃ result, (check.verifyAttestationFromManifest files).2 = .ok result ∧
      result.verified = true) ↔ ∃ livePcrs signed policy, Grounds check livePcrs signed policy := by
  have hnot : (∀ quote, check.quoteRun ≠ .wrote quote) →
      ¬ ∃ livePcrs signed policy, Grounds check livePcrs signed policy := by
    rintro hnone ⟨_, _, _, hgrounds⟩
    obtain ⟨quote, hquote, -⟩ := hgrounds.quoted
    exact hnone quote hquote
  unfold Check.verifyAttestationFromManifest
  cases hrun : check.quoteRun with
  | notStarted e => exact iff_of_false (by rintro ⟨_, ⟨⟩, _⟩) (hnot (by simp [hrun]))
  | failed stderr => exact iff_of_false (by rintro ⟨_, ⟨⟩, _⟩) (hnot (by simp [hrun]))
  | wrote quote =>
    have hfile : (files.insert (quotePath "attest") quote)[quotePath "attest"]? = some quote :=
      Std.ExtTreeMap.getElem?_insert_self
    constructor
    · rintro ⟨result, hok, hverified⟩
      obtain ⟨quoteData, hread, hrest⟩ := bind_eq_ok_iff.mp hok
      obtain ⟨livePcrs, hparse, hcompared⟩ := bind_eq_ok_iff.mp hrest
      have hread' := mapError_eq_ok_iff.mp hread
      cases herror : check.readError with
      | some e =>
        rw [readQuote.eq_def, herror] at hread'
        cases hread'
      | none =>
        rw [readQuote.eq_def, herror, hfile] at hread'
        cases hread'
        obtain ⟨signed, policy, hloaded, hpolicy, hempty, hmatches⟩ :=
          compareWithManifest_verified_iff.mp ⟨result, hcompared, hverified⟩
        exact ⟨livePcrs, signed, policy, ⟨quote, hrun, mapError_eq_ok_iff.mp hparse⟩, herror,
          hloaded, hpolicy, hempty, hmatches⟩
    · rintro ⟨livePcrs, signed, policy, hgrounds⟩
      obtain ⟨quote', hquote, hparse⟩ := hgrounds.quoted
      rw [hrun] at hquote
      cases hquote
      obtain ⟨result, hcompared, hverified⟩ := compareWithManifest_verified_iff.mpr
        ⟨signed, policy, hgrounds.loaded, hgrounds.recorded, hgrounds.notEmpty, hgrounds.registers⟩
      refine ⟨result, bind_eq_ok_iff.mpr ⟨quote, mapError_eq_ok_iff.mpr ?_, bind_eq_ok_iff.mpr
        ⟨livePcrs, mapError_eq_ok_iff.mpr hparse, hcompared⟩⟩, hverified⟩
      rw [readQuote.eq_def, hgrounds.readable, hfile]

/-- The check of an image, with what it finds of the manifest. -/
def attestationCheck (codec : Codec) (ed : Ed25519) (home : Option DataDir) (t : ImageTree)
    (config : MeasuredBootConfig) (o : TrustOutcomes) (imageName : String) (quoteRun : QuoteRun)
    (readError : Option String) (order : HashMap.Traversal UInt32 Bool) : Check :=
  ⟨imageName, quoteRun, readError, loadAndVerifyManifest codec ed home t imageName config o, order⟩

section Attestation

variable {codec : Codec} {ed : Ed25519} {home : Option DataDir} {t : ImageTree}
  {config : MeasuredBootConfig} {o : TrustOutcomes} {imageName : String} {quoteRun : QuoteRun}
  {readError : Option String} {order : HashMap.Traversal UInt32 Bool} {files : Files}

/-- Where a signed manifest is required, a verdict of true rests on a manifest that a trusted
key has signed, and on registers that have its values. -/
theorem attestation_verdict_sound (hrequired : config.requireSignedManifest = true)
    {result : AttestationResult}
    (hok : ((attestationCheck codec ed home t config o imageName quoteRun readError
      order).verifyAttestationFromManifest files).2 = .ok result)
    (hverified : result.verified = true) :
    ∃ home' livePcrs signed policy, home = some home' ∧
      Grounds (attestationCheck codec ed home t config o imageName quoteRun readError order)
        livePcrs signed policy ∧
      signed.Valid ed codec.json ∧
      TrustedKey t (trustedKeysDir home' config) o signed.publicKey := by
  obtain ⟨livePcrs, signed, policy, hgrounds⟩ :=
    verifyAttestation_verified_iff.mp ⟨result, hok, hverified⟩
  obtain ⟨hvalid, home', hhome, hkey⟩ := trusted_of_loadAndVerify hrequired hgrounds.loaded
  exact ⟨home', livePcrs, signed, policy, hhome, hgrounds, hvalid, hkey⟩

end Attestation

/-- A verdict of true covers the registers that the configuration selects. -/
def CoversSelection (config : MeasuredBootConfig) (check : Check) (files : Files) : Prop :=
  ∀ result, (check.verifyAttestationFromManifest files).2 = .ok result → result.verified = true →
    ∃ livePcrs signed policy, Grounds check livePcrs signed policy ∧
      ∀ index ∈ config.pcrSelection, ∃ expected, policy.lookup index = some expected ∧
        livePcrs.lookup index = some expected

/-- The selection is covered exactly if the manifest happens to have a value for each of its
registers; nothing else of a check depends on the selection. -/
theorem covers_selection_iff (codec : Codec) (ed : Ed25519) (cwd : List String)
    (home : Option DataDir) (policyConfig : PolicyConfig) (t : ImageTree) (o : TrustOutcomes)
    (imageName : String) (quoteRun : QuoteRun) (readError : Option String)
    (order : HashMap.Traversal UInt32 Bool) (files : Files) :
    let config := buildAttestationConfig cwd home policyConfig
    let check := attestationCheck codec ed home t config o imageName quoteRun readError order
    CoversSelection config check files ↔
      ∀ livePcrs signed policy, Grounds check livePcrs signed policy →
        ∀ index ∈ policyConfig.measuredBoot.pcrSelection, index ∈ policy := by
  intro config check
  constructor
  · intro h livePcrs signed policy hgrounds index hindex
    obtain ⟨result, hok, hverified⟩ : ∃ result,
        (check.verifyAttestationFromManifest files).2 = .ok result ∧ result.verified = true :=
      verifyAttestation_verified_iff.mpr ⟨livePcrs, signed, policy, hgrounds⟩
    obtain ⟨livePcrs', signed', policy', hgrounds', hcovered⟩ := h result hok hverified
    obtain rfl := hgrounds.policy_eq hgrounds'
    obtain ⟨expected, hexpected, -⟩ := hcovered index hindex
    exact AList.lookup_isSome.mp (by rw [hexpected]; rfl)
  · intro h result hok hverified
    obtain ⟨livePcrs, signed, policy, hgrounds⟩ :=
      verifyAttestation_verified_iff.mp ⟨result, hok, hverified⟩
    refine ⟨livePcrs, signed, policy, hgrounds, fun index hindex => ?_⟩
    obtain ⟨expected, hexpected⟩ := Option.isSome_iff_exists.mp
      (AList.lookup_isSome.mpr (h livePcrs signed policy hgrounds index hindex))
    exact ⟨expected, hexpected, hgrounds.registers index expected hexpected⟩

/-! ## An image with one register -/

def firmwareManifest : VmifManifest :=
  { labelled ∅ with measuredBoot := { pcrPolicy := some (AList.singleton 0 "a") } }

def firmwareText : List UInt8 :=
  ascii ("\x7b\"schema_version\":1,\"created\":\"2026-01-01T00:00:00+00:00\"," ++
    "\"arch\":\"amd64\",\"kernel\":null,\"initrd\":null,\"rootfs\":\"sha256:abc123\"," ++
    "\"config\":\x7b\"Entrypoint\":null,\"Cmd\":null,\"Env\":null,\"WorkingDir\":null," ++
    "\"ExposedPorts\":null,\"User\":null\x7d,\"labels\":\x7b\x7d,\"size_bytes\":1024000," ++
    "\"kernel_profile\":null,\"kernel_cmdline\":null," ++
    "\"firmware\":\x7b\"firmware_type\":\"\",\"firmware_path\":null," ++
    "\"secure_boot_enabled\":false,\"signature\":null\x7d," ++
    "\"measured_boot\":\x7b\"pcr_policy\":\x7b\"0\":\"a\"\x7d,\"kernel_signature\":null," ++
    "\"initrd_signature\":null,\"rootfs_hash\":null,\"trust_policy_key\":null\x7d," ++
    "\"confidential_computing\":\x7b\"enabled\":false,\"technology\":\"\"," ++
    "\"amd_sev_snp\":null,\"intel_tdx\":null\x7d\x7d")

def firmwareSigned : SignedManifest := ⟨firmwareManifest, firmwareText, keyPair.verifyingKey⟩

def firmwareFile : List UInt8 :=
  ascii "\x7b\"manifest\":" ++ firmwareText ++ ascii ",\"signature\":" ++
    numbersText firmwareText ++ ascii ",\"public_key\":" ++ numbersText keyPair.verifyingKey ++
    ascii "\x7d"

/-- The libraries on this one manifest. -/
def firmwareCodec : Codec where
  toml _ _ := .error "expected a value"
  json :=
    { manifestToVec := fun _ => .ok firmwareText
      signedToVec := fun _ => .ok firmwareFile
      signedFromSlice := fun orders data =>
        if data = firmwareFile then .ok (firmwareSigned.reorder orders)
        else .error "expected value at line 1 column 1" }
  sha256 _ := ""

def rootHome : DataDir := ⟨["root"], by decide⟩

/-- The signed manifest of an image, and the key it is signed with among the trusted ones. -/
def trustedImage : ImageTree :=
  FileTree.ofFiles [(["root", ".vyoma", "images", "web", "vyoma.toml.sig"], firmwareFile),
    (["root", ".vyoma", "keys", "trusted", "build.pub"], keyPair.verifyingKey)]

def smoothTrust : TrustOutcomes where
  readSig := .ok ()
  sigOrders := ⟨.inOrder _ _, .inOrder _ _, .inOrder _ _⟩
  readKeysDir := .ok [.ok "build.pub"]
  readKey _ := .ok ()
  readManifest := .ok ()
  manifestOrders := ⟨.inOrder _ _, .inOrder _ _, .inOrder _ _⟩

/-- The check of the image, when register 0 is quoted as `a`. -/
def trustedCheck : Check :=
  attestationCheck firmwareCodec carryingEd25519 (some rootHome) trustedImage
    (buildAttestationConfig [] (some rootHome) {}) smoothTrust "web" (.wrote [48, 58, 97]) none
    (.inOrder _ _)

theorem firmwareFile_loaded : loadSignedManifest firmwareCodec trustedImage
    ["root", ".vyoma", "images", "web", "vyoma.toml.sig"] smoothTrust.readSig
    smoothTrust.sigOrders = .ok firmwareSigned := by
  have hread : readFile trustedImage ["root", ".vyoma", "images", "web", "vyoma.toml.sig"]
      smoothTrust.readSig = .ok firmwareFile := readFile_of_find rfl
  have hjson : firmwareCodec.json.signedFromSlice smoothTrust.sigOrders firmwareFile =
      .ok firmwareSigned := by
    have hmaps : SingletonMaps firmwareManifest := by
      refine ⟨by decide, fun p hp => ?_, nofun⟩
      cases hp
      decide
    have hkept : firmwareSigned.reorder smoothTrust.sigOrders = firmwareSigned := by
      rw [SignedManifest.reorder, firmwareSigned, (reorder_eq_self_iff firmwareManifest).mpr hmaps]
    simp only [firmwareCodec, if_true, hkept]
  exact bind_eq_ok_iff.mpr ⟨firmwareFile, mapError_eq_ok_iff.mpr hread,
    mapError_eq_ok_iff.mpr (mapError_eq_ok_iff.mpr hjson)⟩

theorem trustedKeys_loaded : loadTrustedKeysFromDir trustedImage (TrustPolicy.new true)
    ["root", ".vyoma", "keys", "trusted"] smoothTrust =
      .ok ((TrustPolicy.new true).addTrustedKey keyPair.verifyingKey) := by
  have hthere : isThere trustedImage ["root", ".vyoma", "keys", "trusted"] = true := rfl
  have hread : readFile trustedImage (["root", ".vyoma", "keys", "trusted"] ++ ["build.pub"])
      (smoothTrust.readKey "build.pub") = .ok keyPair.verifyingKey := readFile_of_find rfl
  unfold loadTrustedKeysFromDir
  rw [hthere]
  refine bind_eq_ok_iff.mpr ⟨_, rfl, bind_eq_ok_iff.mpr ⟨"build.pub", rfl, ?_⟩⟩
  refine (if_pos (by decide)).trans (bind_eq_ok_iff.mpr ⟨_, mapError_eq_ok_iff.mpr hread, rfl⟩)

theorem firmwareSigned_verified :
    ((TrustPolicy.new true).addTrustedKey keyPair.verifyingKey).verify firmwareCodec.json
      carryingEd25519 firmwareSigned = .ok () := by
  have hbytes : firmwareCodec.json.manifestToVec firmwareManifest = .ok firmwareText := by
    rw [firmwareCodec]
  have hcarried : carryingEd25519.sign keyPair.signingKey firmwareText = firmwareText := by
    simp only [carryingEd25519]
  have htrust : keyPair.verifyingKey ∈
      ((TrustPolicy.new true).addTrustedKey keyPair.verifyingKey).trustedKeys :=
    List.mem_cons_self
  rw [firmwareSigned, ← hcarried]
  exact (verify_eq_ok_iff carryingEd25519_documented htrust hbytes).mpr
    (carryingEd25519_documented.accepts _ _)

theorem trustedCheck_loaded : trustedCheck.manifest = .ok firmwareSigned := by
  have hdir : findImageDir rootHome trustedImage "web" =
      .ok ["root", ".vyoma", "images", "web"] := by
    have hplace : imageStorePath rootHome "web" = ["root", ".vyoma", "images", "web"] := by decide
    unfold findImageDir
    rw [hplace]
    exact if_pos (show isThere trustedImage ["root", ".vyoma", "images", "web"] = true from rfl)
  have hsig : isThere trustedImage ["root", ".vyoma", "images", "web", "vyoma.toml.sig"] = true :=
    rfl
  refine bind_eq_ok_iff.mpr ⟨_, hdir, (if_pos hsig).trans (bind_eq_ok_iff.mpr
    ⟨firmwareSigned, mapError_eq_ok_iff.mpr firmwareFile_loaded, bind_eq_ok_iff.mpr ⟨(), ?_, rfl⟩⟩)⟩
  exact bind_eq_ok_iff.mpr ⟨_, mapError_eq_ok_iff.mpr trustedKeys_loaded,
    mapError_eq_ok_iff.mpr firmwareSigned_verified⟩

theorem trustedCheck_grounds :
    Grounds trustedCheck (AList.singleton 0 "a") firmwareSigned (AList.singleton 0 "a") where
  quoted := ⟨[48, 58, 97], rfl, rfl⟩
  readable := rfl
  loaded := trustedCheck_loaded
  recorded := rfl
  notEmpty := by decide
  registers _ _ h := h

/-- An image with a trusted signature is attested. -/
theorem trusted_image_attested :
    (∃ result, (trustedCheck.verifyAttestationFromManifest ∅).2 = .ok result ∧
      result.verified = true) ∧
    ∃ home' livePcrs signed policy, some rootHome = some home' ∧
      Grounds trustedCheck livePcrs signed policy ∧
      signed.Valid carryingEd25519 firmwareCodec.json ∧
      TrustedKey trustedImage (trustedKeysDir home' (buildAttestationConfig [] (some rootHome) {}))
        smoothTrust signed.publicKey := by
  obtain ⟨result, hok, hverified⟩ : ∃ result,
      (trustedCheck.verifyAttestationFromManifest ∅).2 = .ok result ∧ result.verified = true :=
    verifyAttestation_verified_iff.mpr ⟨_, _, _, trustedCheck_grounds⟩
  exact ⟨⟨result, hok, hverified⟩, attestation_verdict_sound rfl hok hverified⟩

/-- Under the default policy this image is attested, although its manifest has no value for
the registers 7, 9 and 10 that the policy selects. -/
theorem unselected_register_attested :
    (buildAttestationConfig [] (some rootHome) {}).pcrSelection = [7, 9, 10] ∧
    (∃ result, (trustedCheck.verifyAttestationFromManifest ∅).2 = .ok result ∧
      result.verified = true) ∧
    ¬ CoversSelection (buildAttestationConfig [] (some rootHome) {}) trustedCheck ∅ := by
  have hattested : ∃ result, (trustedCheck.verifyAttestationFromManifest ∅).2 = .ok result ∧
      result.verified = true := verifyAttestation_verified_iff.mpr ⟨_, _, _, trustedCheck_grounds⟩
  refine ⟨rfl, hattested, fun h => ?_⟩
  obtain ⟨result, hok, hverified⟩ := hattested
  obtain ⟨livePcrs, signed, policy, hgrounds, hcovered⟩ := h result hok hverified
  obtain ⟨expected, hexpected, -⟩ := hcovered 7 (by decide)
  obtain rfl := trustedCheck_grounds.policy_eq hgrounds
  have hnone : (AList.singleton 0 "a" : HashMap UInt32 String).lookup 7 = none := by decide
  rw [hnone] at hexpected
  cases hexpected

end Vyoma.VmService
