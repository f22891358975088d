import Vyoma.HashMaps

/-!
# The manifest of a VM image

The manifest lists everything an image is started with. Three of its fields are hash
maps: the labels, the PCR policy and the exposed ports. Reading a manifest back
rebuilds these maps, and each rebuilt map has an iteration order of its own.
-/
namespace Vyoma.Image

/-- A JSON value, with numbers as their literals and objects sorted by key. -/
inductive JsonValue where
  | null
  | bool (b : Bool)
  | number (literal : String)
  | string (s : String)
  | array (items : List JsonValue)
  | object (fields : List (String × JsonValue))

structure OciImageConfig where
  entrypoint : Option (List String) := none
  cmd : Option (List String) := none
  env : Option (List String) := none
  workingDir : Option String := none
  exposedPorts : Option (HashMap String JsonValue) := none
  user : Option String := none

structure FirmwareInfo where
  firmwareType : String := ""
  firmwarePath : Option String := none
  secureBootEnabled : Bool := false
  signature : Option (List UInt8) := none

structure MeasuredBootInfo where
  pcrPolicy : Option (HashMap UInt32 String) := none
  kernelSignature : Option (List UInt8) := none
  initrdSignature : Option (List UInt8) := none
  rootfsHash : Option String := none
  trustPolicyKey : Option (List UInt8) := none

structure SevSnpInfo where
  enabled : Bool
  policy : Option String
  expectedMeasurement : Option String
  certificatePath : Option String
  amdRootKey : Option (List UInt8)
  amdAuthorKey : Option (List UInt8)

structure TdxInfo where
  enabled : Bool
  expectedMrtd : Option String
  expectedRtmr0 : Option String
  expectedRtmr1 : Option String
  expectedRtmr2 : Option String
  expectedRtmr3 : Option String

structure ConfidentialComputingInfo where
  enabled : Bool := false
  technology : String := ""
  amdSevSnp : Option SevSnpInfo := none
  intelTdx : Option TdxInfo := none

structure VmifManifest where
  schemaVersion : UInt32
  created : String
  arch : String
  kernel : Option String
  initrd : Option String
  rootfs : String
  config : OciImageConfig
  labels : HashMap String String
  sizeBytes : UInt64
  kernelProfile : Option String
  kernelCmdline : Option (List String)
  firmware : FirmwareInfo
  measuredBoot : MeasuredBootInfo
  confidentialComputing : ConfidentialComputingInfo

/-- `VmifManifest::new`, with the time of creation as an argument. -/
def VmifManifest.new (created arch : String) (kernel initrd : Option String) (rootfs : String)
    (config : OciImageConfig) (sizeBytes : UInt64) : VmifManifest where
  schemaVersion := 1
  created := created
  arch := arch
  kernel := kernel
  initrd := initrd
  rootfs := rootfs
  config := config
  labels := ∅
  sizeBytes := sizeBytes
  kernelProfile := none
  kernelCmdline := none
  firmware := {}
  measuredBoot := {}
  confidentialComputing := {}

/-- The orders that the three maps of a rebuilt manifest happen to have. -/
structure MapOrders where
  labels : HashMap.Traversal String String
  pcrPolicy : HashMap.Traversal UInt32 String
  exposedPorts : HashMap.Traversal String JsonValue

/-- The same values, with the maps in the given orders. -/
def VmifManifest.reorder (orders : MapOrders) (m : VmifManifest) : VmifManifest :=
  { m with
    labels := orders.labels.visit m.labels
    measuredBoot := { m.measuredBoot with
      pcrPolicy := m.measuredBoot.pcrPolicy.map orders.pcrPolicy.visit }
    config := { m.config with
      exposedPorts := m.config.exposedPorts.map orders.exposedPorts.visit } }

/-- No map of the manifest has two entries. -/
structure SingletonMaps (m : VmifManifest) : Prop where
  labels : m.labels.entries.length ≤ 1
  pcrPolicy : ∀ p ∈ m.measuredBoot.pcrPolicy, p.entries.length ≤ 1
  exposedPorts : ∀ p ∈ m.config.exposedPorts, p.entries.length ≤ 1

theorem map_visit_eq_self {κ ν : Type} {order : HashMap.Traversal κ ν}
    {m : Option (HashMap κ ν)} (h : ∀ p ∈ m, p.entries.length ≤ 1) : m.map order.visit = m := by
  cases m with
  | none => rfl
  | some p => rw [Option.map_some, HashMap.visit_eq_self order (h p rfl)]

/-- Every choice of orders leaves the manifest as it is exactly when no map has two entries. -/
theorem reorder_eq_self_iff (m : VmifManifest) :
    (∀ orders, m.reorder orders = m) ↔ SingletonMaps m := by
  constructor
  · intro h
    have hrev := h ⟨.reversed _ _, .reversed _ _, .reversed _ _⟩
    refine ⟨?_, fun p hp => ?_, fun p hp => ?_⟩
    · by_contra hlong
      exact HashMap.reversed_visit_ne (by omega) (congrArg VmifManifest.labels hrev)
    · by_contra hlong
      have hpolicy := congrArg (fun m : VmifManifest => m.measuredBoot.pcrPolicy) hrev
      simp only [VmifManifest.reorder, Option.mem_def.mp hp, Option.map_some,
        Option.some.injEq] at hpolicy
      exact HashMap.reversed_visit_ne (by omega) hpolicy
    · by_contra hlong
      have hports := congrArg (fun m : VmifManifest => m.config.exposedPorts) hrev
      simp only [VmifManifest.reorder, Option.mem_def.mp hp, Option.map_some,
        Option.some.injEq] at hports
      exact HashMap.reversed_visit_ne (by omega) hports
  · intro h orders
    unfold VmifManifest.reorder
    rw [HashMap.visit_eq_self orders.labels h.labels, map_visit_eq_self h.pcrPolicy,
      map_visit_eq_self h.exposedPorts]

end Vyoma.Image
