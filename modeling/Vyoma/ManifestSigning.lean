import Mathlib.Data.List.Permutation
import Vyoma.Excepts
import Vyoma.VmifManifest

/-!
# Signing manifests and verifying stored ones

A manifest is signed over its JSON bytes, stored with its signature and key, and
verified after reading by serialising it again. Serialisation writes map entries in
iteration order, so the second serialisation repeats the first only if the maps that
were read back are in the order of the ones that were signed. The JSON and ed25519
libraries are parameters, with their documented behaviour as hypotheses.
-/
namespace Vyoma.Image
open Excepts

inductive SigningError where
  | signError (message : String)
  | verifyError (message : String)
  | keyError (message : String)
  deriving DecidableEq, Repr

structure SignedManifest where
  manifest : VmifManifest
  signature : List UInt8
  publicKey : List UInt8

def SignedManifest.reorder (orders : MapOrders) (signed : SignedManifest) : SignedManifest :=
  { signed with manifest := signed.manifest.reorder orders }

/-- `serde_json` at the two types that are stored. Reading builds new maps, in the
given orders. -/
structure SerdeJson where
  manifestToVec : VmifManifest → Except String (List UInt8)
  signedToVec : SignedManifest → Except String (List UInt8)
  signedFromSlice : MapOrders → List UInt8 → Except String SignedManifest

/-- What is documented of `serde_json`, for one value and its orders: writing
succeeds, bytes tell the order of the entries, and reading gives the value back up to
the orders of the new maps. -/
structure SerdeJson.Documented (serde : SerdeJson) (signed : SignedManifest) : Prop where
  writes : ∀ orders, ∃ bytes, serde.manifestToVec (signed.manifest.reorder orders) = .ok bytes
  in_order : ∀ orders, serde.manifestToVec (signed.manifest.reorder orders) =
    serde.manifestToVec signed.manifest → signed.manifest.reorder orders = signed.manifest
  round_trip : ∃ bytes, serde.signedToVec signed = .ok bytes ∧
    ∀ orders, serde.signedFromSlice orders bytes = .ok (signed.reorder orders)

/-- The ed25519 library: keys, signatures and verification over bytes. -/
structure Ed25519 where
  publicKey : List UInt8 → List UInt8
  sign : List UInt8 → List UInt8 → List UInt8
  keyFromBytes : List UInt8 → Except String Unit
  signatureFromSlice : List UInt8 → Except String Unit
  verify : List UInt8 → List UInt8 → List UInt8 → Except String Unit

/-- What is documented of ed25519: its own keys and signatures decode, and a signature
is accepted for the bytes that were signed. -/
structure Ed25519.Documented (ed : Ed25519) : Prop where
  key_length : ∀ seed, (ed.publicKey seed).length = 32
  key_valid : ∀ seed, ed.keyFromBytes (ed.publicKey seed) = .ok ()
  signature_valid : ∀ seed message, ed.signatureFromSlice (ed.sign seed message) = .ok ()
  accepts : ∀ seed message,
    ed.verify (ed.publicKey seed) message (ed.sign seed message) = .ok ()

/-- A signature over the text of this manifest is not accepted for another text of it. -/
def Ed25519.Binding (ed : Ed25519) (seed : List UInt8) (serde : SerdeJson) (m : VmifManifest) :
    Prop :=
  ∀ orders message message', serde.manifestToVec m = .ok message →
    serde.manifestToVec (m.reorder orders) = .ok message' →
    ed.verify (ed.publicKey seed) message' (ed.sign seed message) = .ok () → message' = message

/-- A key pair, whose public half is the one derived from the seed. -/
structure SigningKeyPair (ed : Ed25519) where
  signingKey : List UInt8
  verifyingKey : List UInt8
  derived : verifyingKey = ed.publicKey signingKey

namespace SigningKeyPair

variable {ed : Ed25519}

def signManifest (k : SigningKeyPair ed) (serde : SerdeJson) (manifest : VmifManifest) :
    Except SigningError SignedManifest := do
  let manifestBytes ← (serde.manifestToVec manifest).mapError .signError
  return ⟨manifest, ed.sign k.signingKey manifestBytes, k.verifyingKey⟩

end SigningKeyPair

structure TrustPolicy where
  requireSigned : Bool
  trustedKeys : List (List UInt8)

namespace TrustPolicy

def new (requireSigned : Bool) : TrustPolicy := ⟨requireSigned, []⟩

def addTrustedKey (policy : TrustPolicy) (key : List UInt8) : TrustPolicy :=
  { policy with trustedKeys := key :: policy.trustedKeys }

def verify (policy : TrustPolicy) (serde : SerdeJson) (ed : Ed25519) (signed : SignedManifest) :
    Except SigningError Unit :=
  if policy.requireSigned ∧ policy.trustedKeys = [] then
    .error (.verifyError "No trusted keys configured but require_signed is true")
  else if policy.trustedKeys = [] then .ok ()
  else if signed.publicKey ∉ policy.trustedKeys then
    .error (.verifyError "Public key not in trusted keys")
  else if signed.publicKey.length ≠ 32 then .error (.verifyError "Invalid public key")
  else do
    (ed.keyFromBytes signed.publicKey).mapError fun e => .verifyError ("Invalid key: " ++ e)
    let manifestBytes ← (serde.manifestToVec signed.manifest).mapError .verifyError
    (ed.signatureFromSlice signed.signature).mapError .verifyError
    (ed.verify signed.publicKey manifestBytes signed.signature).mapError .verifyError

end TrustPolicy

namespace SignedManifest

def toBytes (signed : SignedManifest) (serde : SerdeJson) : Except SigningError (List UInt8) :=
  (serde.signedToVec signed).mapError .signError

def fromBytes (serde : SerdeJson) (orders : MapOrders) (data : List UInt8) :
    Except SigningError SignedManifest :=
  (serde.signedFromSlice orders data).mapError .verifyError

/-- Store a signed manifest, read it back and verify it. -/
def verifyStored (signed : SignedManifest) (serde : SerdeJson) (ed : Ed25519)
    (policy : TrustPolicy) (orders : MapOrders) : Except SigningError Unit := do
  let stored ← signed.toBytes serde
  let loaded ← fromBytes serde orders stored
  policy.verify serde ed loaded

end SignedManifest

section Verification

variable {serde : SerdeJson} {ed : Ed25519} {policy : TrustPolicy}

/-- Under a trusted key that decodes, verification comes down to the recomputed bytes. -/
theorem verify_eq_ok_iff (hed : ed.Documented) {k : SigningKeyPair ed}
    (htrust : k.verifyingKey ∈ policy.trustedKeys) {m : VmifManifest} {message bytes : List UInt8}
    (hbytes : serde.manifestToVec m = .ok bytes) :
    policy.verify serde ed ⟨m, ed.sign k.signingKey message, k.verifyingKey⟩ = .ok () ↔
      ed.verify (ed.publicKey k.signingKey) bytes (ed.sign k.signingKey message) = .ok () := by
  have hkeys : policy.trustedKeys ≠ [] := List.ne_nil_of_mem htrust
  have hlength : k.verifyingKey.length = 32 := by rw [k.derived, hed.key_length]
  have hvalid : ed.keyFromBytes k.verifyingKey = .ok () := by rw [k.derived, hed.key_valid]
  unfold TrustPolicy.verify
  rw [if_neg (fun h => hkeys h.2), if_neg hkeys, if_neg (not_not.mpr htrust),
    if_neg (not_not.mpr hlength), hvalid, hbytes, hed.signature_valid]
  rw [← k.derived]
  exact mapError_eq_ok_iff

theorem signManifest_eq_ok {k : SigningKeyPair ed} {m : VmifManifest} {signed : SignedManifest}
    (h : k.signManifest serde m = .ok signed) : ∃ bytes, serde.manifestToVec m = .ok bytes ∧
      signed = ⟨m, ed.sign k.signingKey bytes, k.verifyingKey⟩ := by
  unfold SigningKeyPair.signManifest at h
  cases hbytes : serde.manifestToVec m with
  | error e =>
    rw [hbytes] at h
    cases h
  | ok bytes =>
    rw [hbytes] at h
    cases h
    exact ⟨bytes, rfl, rfl⟩

/-- A stored signature verifies exactly when the maps come back in their old order. -/
theorem verifyStored_eq_ok_iff (hed : ed.Documented) {k : SigningKeyPair ed}
    (htrust : k.verifyingKey ∈ policy.trustedKeys) {m : VmifManifest} {signed : SignedManifest}
    (hsigned : k.signManifest serde m = .ok signed) (hserde : serde.Documented signed)
    (hbinding : ed.Binding k.signingKey serde m) (orders : MapOrders) :
    signed.verifyStored serde ed policy orders = .ok () ↔ m.reorder orders = m := by
  obtain ⟨bytes, hbytes, rfl⟩ := signManifest_eq_ok hsigned
  obtain ⟨stored, hstored, hread⟩ := hserde.round_trip
  obtain ⟨bytes', hbytes'⟩ := hserde.writes orders
  have hloaded : SignedManifest.verifyStored ⟨m, ed.sign k.signingKey bytes, k.verifyingKey⟩
      serde ed policy orders = policy.verify serde ed
        ⟨m.reorder orders, ed.sign k.signingKey bytes, k.verifyingKey⟩ := by
    unfold SignedManifest.verifyStored SignedManifest.toBytes SignedManifest.fromBytes
    rw [hstored]
    show ((serde.signedFromSlice orders stored).mapError SigningError.verifyError >>=
      fun loaded => policy.verify serde ed loaded) = _
    rw [hread orders]
    rfl
  rw [hloaded, verify_eq_ok_iff hed htrust hbytes']
  constructor
  · intro haccepted
    have hsame : bytes' = bytes := hbinding orders bytes bytes' hbytes hbytes' haccepted
    have hequal : serde.manifestToVec (m.reorder orders) = serde.manifestToVec m := by
      rw [hbytes, ← hsame]
      exact hbytes'
    exact hserde.in_order orders hequal
  · intro hkept
    have hequal : serde.manifestToVec (m.reorder orders) = serde.manifestToVec m :=
      congrArg serde.manifestToVec hkept
    rw [hbytes] at hequal
    have hsame : bytes' = bytes := Except.ok.inj (hbytes'.symm.trans hequal)
    rw [hsame]
    exact hed.accepts k.signingKey bytes

/-- Under a policy that trusts the key, a stored manifest verifies whatever orders its
maps are read back in, exactly when none of its maps has two entries. -/
theorem stored_signature_verifies_iff (serde : SerdeJson) (ed : Ed25519) (hed : ed.Documented)
    (k : SigningKeyPair ed) (policy : TrustPolicy) (htrust : k.verifyingKey ∈ policy.trustedKeys)
    (m : VmifManifest) (signed : SignedManifest) (hsigned : k.signManifest serde m = .ok signed)
    (hserde : serde.Documented signed) (hbinding : ed.Binding k.signingKey serde m) :
    (∀ orders, signed.verifyStored serde ed policy orders = .ok ()) ↔ SingletonMaps m := by
  rw [← reorder_eq_self_iff]
  exact forall_congr' (verifyStored_eq_ok_iff hed htrust hsigned hserde hbinding)

end Verification

section Labelled

/-- The manifest of a small image with the given labels. -/
def labelled (labels : HashMap String String) : VmifManifest :=
  { VmifManifest.new "2026-01-01T00:00:00+00:00" "amd64" none none "sha256:abc123" {} 1024000 with
    labels := labels }

def ascii (s : String) : List UInt8 := s.toList.map fun c => c.toNat.toUInt8

def separated : List (List UInt8) → List UInt8
  | [] => []
  | [item] => item
  | item :: items => item ++ ascii "," ++ separated items

/-- The members of the JSON object for labels that need no escapes. -/
def labelsText (labels : HashMap String String) : List UInt8 :=
  separated (labels.pairs.map fun e => ascii ("\"" ++ e.1 ++ "\":\"" ++ e.2 ++ "\""))

/-- The JSON text of a `labelled` manifest, field by field. -/
def manifestText (m : VmifManifest) : List UInt8 :=
  ascii ("\x7b\"schema_version\":1,\"created\":\"2026-01-01T00:00:00+00:00\"," ++
    "\"arch\":\"amd64\",\"kernel\":null,\"initrd\":null,\"rootfs\":\"sha256:abc123\"," ++
    "\"config\":\x7b\"Entrypoint\":null,\"Cmd\":null,\"Env\":null,\"WorkingDir\":null," ++
    "\"ExposedPorts\":null,\"User\":null\x7d,\"labels\":\x7b") ++ labelsText m.labels ++
  ascii ("\x7d,\"size_bytes\":1024000,\"kernel_profile\":null,\"kernel_cmdline\":null," ++
    "\"firmware\":\x7b\"firmware_type\":\"\",\"firmware_path\":null," ++
    "\"secure_boot_enabled\":false,\"signature\":null\x7d," ++
    "\"measured_boot\":\x7b\"pcr_policy\":null,\"kernel_signature\":null," ++
    "\"initrd_signature\":null,\"rootfs_hash\":null,\"trust_policy_key\":null\x7d," ++
    "\"confidential_computing\":\x7b\"enabled\":false,\"technology\":\"\"," ++
    "\"amd_sev_snp\":null,\"intel_tdx\":null\x7d\x7d")

def numbersText (bytes : List UInt8) : List UInt8 :=
  ascii "[" ++ separated (bytes.map fun b => ascii (toString b)) ++ ascii "]"

def signedText (signed : SignedManifest) : List UInt8 :=
  ascii "\x7b\"manifest\":" ++ manifestText signed.manifest ++ ascii ",\"signature\":" ++
    numbersText signed.signature ++ ascii ",\"public_key\":" ++ numbersText signed.publicKey ++
    ascii "\x7d"

/-- JSON at `labelled` manifests, reading back the one signed manifest given. -/
def labelledSerde (signed : SignedManifest) : SerdeJson where
  manifestToVec m := .ok (manifestText m)
  signedToVec s := .ok (signedText s)
  signedFromSlice orders data :=
    if data = signedText signed then .ok (signed.reorder orders)
    else .error "expected value at line 1 column 1"

/-- Signatures that carry the signed bytes, accepted for these bytes only. -/
def carryingEd25519 : Ed25519 where
  publicKey seed := (seed ++ List.replicate 32 0).take 32
  sign _ message := message
  keyFromBytes key := if key.length = 32 then .ok () else .error "signature error"
  signatureFromSlice _ := .ok ()
  verify _ message signature := if message = signature then .ok () else .error "signature error"

theorem carryingEd25519_documented : carryingEd25519.Documented where
  key_length seed := by simp [carryingEd25519]
  key_valid seed := by simp [carryingEd25519]
  signature_valid _ _ := rfl
  accepts _ message := by simp [carryingEd25519]

theorem carryingEd25519_binding (seed : List UInt8) (serde : SerdeJson) (m : VmifManifest) :
    carryingEd25519.Binding seed serde m := by
  intro orders message message' _ _ haccepted
  by_contra hne
  simp [carryingEd25519, hne] at haccepted

def keyPair : SigningKeyPair carryingEd25519 where
  signingKey := List.replicate 32 1
  verifyingKey := List.replicate 32 1
  derived := by decide

def labelledSigned (labels : HashMap String String) : SignedManifest :=
  ⟨labelled labels, manifestText (labelled labels), keyPair.verifyingKey⟩

theorem manifestText_eq_iff {m m' : VmifManifest} :
    manifestText m = manifestText m' ↔ labelsText m.labels = labelsText m'.labels := by
  unfold manifestText
  rw [List.append_left_inj, List.append_right_inj]

theorem labelledSerde_documented {labels : HashMap String String}
    (hinj : ∀ order : HashMap.Traversal String String,
      labelsText (order.visit labels) = labelsText labels → order.visit labels = labels) :
    (labelledSerde (labelledSigned labels)).Documented (labelledSigned labels) := by
  obtain ⟨signed, hsigned⟩ : ∃ signed, signed = labelledSigned labels := ⟨_, rfl⟩
  have hmanifest : signed.manifest = labelled labels := by rw [hsigned]; rfl
  rw [← hsigned]
  refine ⟨fun orders => ⟨manifestText (signed.manifest.reorder orders), rfl⟩, fun orders h => ?_,
    ⟨signedText signed, rfl, fun orders => by simp [labelledSerde]⟩⟩
  have htext : manifestText (signed.manifest.reorder orders) = manifestText signed.manifest :=
    Except.ok.inj h
  have hlabels := manifestText_eq_iff.mp htext
  rw [hmanifest] at hlabels ⊢
  exact congrArg labelled (hinj orders.labels hlabels)

theorem labelledSigned_signed (labels : HashMap String String) (signed : SignedManifest) :
    keyPair.signManifest (labelledSerde signed) (labelled labels) = .ok (labelledSigned labels) :=
  rfl

def oneLabel : HashMap String String := AList.singleton "version" "1.0"

/-- An image with one label verifies after storage, in whatever order it is read back. -/
theorem stored_signature_verifies_one_label :
    SingletonMaps (labelled oneLabel) ∧
      ∀ orders, (labelledSigned oneLabel).verifyStored (labelledSerde (labelledSigned oneLabel))
        carryingEd25519 ((TrustPolicy.new true).addTrustedKey keyPair.verifyingKey) orders =
          .ok () := by
  have hone : ∀ order : HashMap.Traversal String String, order.visit oneLabel = oneLabel :=
    fun order => HashMap.visit_eq_self order (by simp [oneLabel])
  have hmaps : SingletonMaps (labelled oneLabel) := by
    refine ⟨by simp [labelled, oneLabel], fun p hp => ?_, fun p hp => ?_⟩
    · cases hp
    · cases hp
  refine ⟨hmaps, ?_⟩
  exact (stored_signature_verifies_iff (labelledSerde (labelledSigned oneLabel)) carryingEd25519
    carryingEd25519_documented keyPair _ List.mem_cons_self (labelled oneLabel) _
    (labelledSigned_signed oneLabel _) (labelledSerde_documented fun order _ => hone order)
    (carryingEd25519_binding _ _ _)).mpr hmaps

def twoLabels : HashMap String String where
  entries := [⟨"maintainer", "ops"⟩, ⟨"version", "1.0"⟩]
  nodupKeys := by simp [List.nodupKeys_cons]

theorem twoLabels_order (order : HashMap.Traversal String String)
    (h : labelsText (order.visit twoLabels) = labelsText twoLabels) :
    order.visit twoLabels = twoLabels := by
  apply AList.ext
  obtain hkept | hswapped := List.perm_pair.mp (order.sameContents twoLabels)
  · exact hkept
  · have hpairs : (order.visit twoLabels).pairs = [("version", "1.0"), ("maintainer", "ops")] := by
      rw [HashMap.pairs, hswapped]
      rfl
    rw [labelsText, hpairs] at h
    exact absurd h (by decide)

/-- With two labels, a stored manifest read back with the labels in the other order is
rejected under the very key that signed it. -/
theorem stored_signature_rejected_two_labels :
    let signed := labelledSigned twoLabels
    let serde := labelledSerde signed
    let policy := (TrustPolicy.new true).addTrustedKey keyPair.verifyingKey
    carryingEd25519.Documented ∧ serde.Documented signed ∧
      carryingEd25519.Binding keyPair.signingKey serde (labelled twoLabels) ∧
      keyPair.signManifest serde (labelled twoLabels) = .ok signed ∧
      ¬ ∀ orders, signed.verifyStored serde carryingEd25519 policy orders = .ok () := by
  intro signed serde policy
  have hserde : serde.Documented signed := labelledSerde_documented twoLabels_order
  have hsigned : keyPair.signManifest serde (labelled twoLabels) = .ok signed :=
    labelledSigned_signed twoLabels signed
  have hbinding := carryingEd25519_binding keyPair.signingKey serde (labelled twoLabels)
  refine ⟨carryingEd25519_documented, hserde, hbinding, hsigned, fun hall => ?_⟩
  have hkept := (verifyStored_eq_ok_iff carryingEd25519_documented List.mem_cons_self hsigned
    hserde hbinding ⟨.reversed _ _, .inOrder _ _, .inOrder _ _⟩).mp (hall _)
  exact HashMap.reversed_visit_ne (m := twoLabels) (by decide) (congrArg VmifManifest.labels hkept)

end Labelled

end Vyoma.Image
