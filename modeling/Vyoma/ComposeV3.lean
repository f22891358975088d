import Vyoma.ResourceLimits
import Vyoma.StackDown
import Vyoma.VmRequests

/-!
# Compose files of version 3

`to_v3` rewrites a compose file of version 1, `validate` checks a file of version 3 and
`translate` turns it into the requests that create its VMs. The maps that `to_v3` builds are
hash maps of their own, so that their entries come in any order.
-/
namespace Vyoma.Compose
open RustText
open Grpc (CreateVmRequest VolumeMapping)

inductive CommandEntry where
  | string (s : String)
  | list (l : List String)

structure PortLong where
  target : UInt16
  published : Option UInt16
  protocol : Option String
  mode : Option String

inductive PortEntry where
  | short (s : String)
  | long (l : PortLong)

structure VolumeLong where
  type : String
  source : Option String
  target : String
  readOnly : Option Bool

inductive VolumeEntry where
  | short (s : String)
  | long (l : VolumeLong)

structure DependsOnCondition where
  condition : String

structure ServiceV3 where
  image : Option String := none
  ports : List PortEntry := []
  volumes : List VolumeEntry := []
  environment : HashMap String String := ∅
  dependsOn : HashMap String DependsOnCondition := ∅
  deploy : Option DeployConfig := none
  networks : List String := []
  command : Option CommandEntry := none

structure NetworkV3 where
  driver : Option String
  external : Option Bool

structure VolumeV3 where
  driver : Option String
  external : Option Bool

structure ComposeV3 where
  version : Option String
  services : HashMap String ServiceV3
  networks : HashMap String NetworkV3
  volumes : HashMap String VolumeV3

/-! ## Entries -/

/-- `str::split(':')`. -/
def parts (s : String) : List String := (s.toList.splitOn ':').map String.ofList

/-- The host port for which a conflict is looked for. -/
def PortEntry.published : PortEntry → Option ℕ
  | short s =>
    match parts s with
    | [host, _] => parseUnsigned 16 host
    | [_, host, _] => parseUnsigned 16 host
    | _ => none
  | long l => l.published.map UInt16.toNat

/-- A pair of numbers, when both are. -/
def portPair (host vm : String) : Option Grpc.PortMapping :=
  match parseUnsigned 32 host, parseUnsigned 32 vm with
  | some h, some v => some ⟨UInt32.ofNat h, UInt32.ofNat v⟩
  | _, _ => none

/-- The mapping that an entry becomes. -/
def PortEntry.translate : PortEntry → Option Grpc.PortMapping
  | short s =>
    match parts s with
    | [host, vm] => portPair host vm
    | [_, host, vm] => portPair host vm
    | _ => none
  | long l => l.published.map fun published => ⟨published.toUInt32, l.target.toUInt32⟩

def VolumeEntry.translate : VolumeEntry → Option VolumeMapping
  | short s =>
    match parts s with
    | host :: vm :: _ => some ⟨host, vm⟩
    | _ => none
  | long l => l.source.map fun source => ⟨source, l.target⟩

/-! ## Validation -/

def dependencyMessage (name dep : String) : String :=
  "Service '" ++ name ++ "' depends on undefined service '" ++ dep ++ "'"

def networkMessage (name net : String) : String :=
  "Service '" ++ name ++ "' references undefined network '" ++ net ++ "'"

def conflictMessage (port : ℕ) : String :=
  "Port conflict: Host port " ++ toString port ++ " is published multiple times"

/-- The ports published so far, and the errors. -/
structure Check where
  published : Finset ℕ
  errors : List String

/-- The entries of a service for ports. -/
def checkPort (check : Check) (port : PortEntry) : Check :=
  match port.published with
  | none => check
  | some p =>
    if p ∈ check.published then { check with errors := check.errors ++ [conflictMessage p] }
    else { check with published := insert p check.published }

namespace ComposeV3

variable (compose : ComposeV3)

def dependencyErrors (name : String) (service : ServiceV3) : List String :=
  (service.dependsOn.keys.filter fun dep => dep ∉ compose.services).map (dependencyMessage name)

def networkErrors (name : String) (service : ServiceV3) : List String :=
  (service.networks.filter fun net => net ≠ "default" ∧ net ∉ compose.networks).map
    (networkMessage name)

def checkService (check : Check) (entry : String × ServiceV3) : Check :=
  let errors := compose.dependencyErrors entry.1 entry.2 ++ compose.networkErrors entry.1 entry.2
  entry.2.ports.foldl checkPort { check with errors := check.errors ++ errors }

def check : Check := (HashMap.pairs compose.services).foldl compose.checkService ⟨∅, []⟩

def validate : Except String Unit :=
  if compose.check.errors = [] then .ok ()
  else .error ("Validation failed:\n" ++ "\n".intercalate compose.check.errors)

end ComposeV3

/-! ## What is valid -/

/-- The host ports of a service that are looked at. -/
def ServiceV3.publishedPorts (service : ServiceV3) : List ℕ :=
  service.ports.filterMap PortEntry.published

theorem published_foldl_checkPort (ports : List PortEntry) (check : Check) :
    (ports.foldl checkPort check).published =
      check.published ∪ (ports.filterMap PortEntry.published).toFinset := by
  induction ports generalizing check with
  | nil => simp
  | cons port ports ih =>
    rw [List.foldl_cons, ih, checkPort]
    cases hport : port.published with
    | none => simp [hport]
    | some p =>
      rw [List.filterMap_cons_some hport, List.toFinset_cons]
      dsimp only
      split_ifs with hmem
      · simp [hmem]
      · simp

/-- No conflict is found exactly where the ports differ from each other and from those before. -/
theorem errors_foldl_checkPort (ports : List PortEntry) (check : Check) :
    (ports.foldl checkPort check).errors = [] ↔ check.errors = [] ∧
      (ports.filterMap PortEntry.published).Nodup ∧
      ∀ p ∈ ports.filterMap PortEntry.published, p ∉ check.published := by
  induction ports generalizing check with
  | nil => simp
  | cons port ports ih =>
    rw [List.foldl_cons, ih, checkPort]
    cases hport : port.published with
    | none => simp [hport]
    | some p =>
      rw [List.filterMap_cons_some hport, List.nodup_cons]
      dsimp only
      split_ifs with hmem
      · simp [hmem]
      · simp only [Finset.mem_insert, List.forall_mem_cons, hmem, not_false_eq_true, true_and]
        grind

namespace ComposeV3

variable (compose : ComposeV3)

/-- What is wrong with the names that a service refers to. -/
def nameErrors (e : String × ServiceV3) : List String :=
  compose.dependencyErrors e.1 e.2 ++ compose.networkErrors e.1 e.2

theorem errors_foldl_checkService (services : List (String × ServiceV3)) (check : Check) :
    (services.foldl compose.checkService check).errors = [] ↔ check.errors = [] ∧
      (∀ e ∈ services, compose.nameErrors e = []) ∧
      (services.flatMap fun e => e.2.publishedPorts).Nodup ∧
      ∀ p ∈ services.flatMap fun e => e.2.publishedPorts, p ∉ check.published := by
  induction services generalizing check with
  | nil => simp
  | cons e services ih =>
    rw [List.foldl_cons, ih, checkService, errors_foldl_checkPort, published_foldl_checkPort,
      List.flatMap_cons, List.nodup_append, List.forall_mem_cons, ServiceV3.publishedPorts]
    simp only [nameErrors, List.append_eq_nil_iff, Finset.mem_union, List.mem_toFinset, not_or,
      List.mem_append]
    grind

theorem dependencyErrors_eq_nil_iff {name : String} {service : ServiceV3} :
    compose.dependencyErrors name service = [] ↔
      ∀ dep ∈ service.dependsOn, dep ∈ compose.services := by
  simp [dependencyErrors, List.filter_eq_nil_iff, AList.mem_keys]

theorem networkErrors_eq_nil_iff {name : String} {service : ServiceV3} :
    compose.networkErrors name service = [] ↔
      ∀ net ∈ service.networks, net = "default" ∨ net ∈ compose.networks := by
  simp only [networkErrors, List.map_eq_nil_iff, List.filter_eq_nil_iff, decide_eq_true_eq, ne_eq]
  grind

/-- A valid file names services and networks that it has, and publishes no host port twice. -/
structure Valid : Prop where
  dependencies : ∀ name service, compose.services.lookup name = some service →
    ∀ dep ∈ service.dependsOn, dep ∈ compose.services
  networks : ∀ name service, compose.services.lookup name = some service →
    ∀ net ∈ service.networks, net = "default" ∨ net ∈ compose.networks
  ports : ((HashMap.pairs compose.services).flatMap fun e => e.2.publishedPorts).Nodup

theorem validate_ok_iff : compose.validate = .ok () ↔ compose.Valid := by
  have hvalidate : compose.validate = .ok () ↔ compose.check.errors = [] := by
    unfold validate
    split_ifs with h <;> simp [h]
  have hnames : (∀ e ∈ HashMap.pairs compose.services, compose.nameErrors e = []) ↔
      ∀ name service, compose.services.lookup name = some service →
        (∀ dep ∈ service.dependsOn, dep ∈ compose.services) ∧
          ∀ net ∈ service.networks, net = "default" ∨ net ∈ compose.networks := by
    simp only [nameErrors, List.append_eq_nil_iff, dependencyErrors_eq_nil_iff,
      networkErrors_eq_nil_iff, Prod.forall, HashMap.mem_pairs]
  rw [hvalidate, check, errors_foldl_checkService, hnames]
  constructor
  · rintro ⟨-, hnames, hports, -⟩
    exact ⟨fun name service h => (hnames name service h).1,
      fun name service h => (hnames name service h).2, hports⟩
  · rintro ⟨hdependencies, hnetworks, hports⟩
    exact ⟨rfl, fun name service h => ⟨hdependencies name service h, hnetworks name service h⟩,
      hports, fun _ _ => Finset.notMem_empty _⟩

/-! ## Translation -/

def request (t : Unicode) (name : String) (service : ServiceV3) : CreateVmRequest where
  image := service.image.getD "scratch"
  vcpus := (ResourceTranslator.translate t service.deploy).1
  memoryMb := (ResourceTranslator.translate t service.deploy).2.toUInt64
  name := name
  ports := service.ports.filterMap PortEntry.translate
  volumes := service.volumes.filterMap VolumeEntry.translate
  networks := service.networks

def sortedNames : List String := compose.services.keys.mergeSort fun a b => decide (a ≤ b)

/-- The requests, in the order of the names. -/
def requests (t : Unicode) : List CreateVmRequest :=
  compose.sortedNames.filterMap fun name =>
    (compose.services.lookup name).map (request t name)

def translate (t : Unicode) : Except String (List CreateVmRequest) :=
  match compose.validate with
  | .error e => .error e
  | .ok () => .ok (compose.requests t)

end ComposeV3

/-! ## Files of version 1 -/

structure IpamSubnet where
  subnet : Option String

structure IpamConfig where
  config : List IpamSubnet

structure NetworkConfig where
  driver : Option String
  external : Option Bool
  ipam : IpamConfig

structure VolumeConfig where
  driver : Option String
  external : Option Bool

/-- A compose file with its sections besides the services. -/
structure ComposeFile extends VyomaCompose where
  networks : HashMap String NetworkConfig
  volumes : HashMap String VolumeConfig

/-- The orders of the maps that are built, and how `cpus as f32` is printed. -/
structure V3Choices where
  services : HashMap.Traversal String ServiceV3
  dependsOn : HashMap.Traversal String DependsOnCondition
  showCpus : UInt32 → String

/-- Every map in the order in which it is built. -/
def V3Choices.plain : V3Choices := ⟨.inOrder _ _, .inOrder _ _, fun n => toString n.toNat⟩

/-- The limits for the CPUs and the memory of a service, in MiB. -/
def deployOf (showCpus : UInt32 → String) : Option UInt32 → Option UInt32 → Option DeployConfig
  | none, none => none
  | cpus, memory => some ⟨some ⟨some
      ⟨cpus.map showCpus, memory.map fun mem => toString mem.toNat ++ "M"⟩, none⟩⟩

def dependsOnOf (deps : List String) : HashMap String DependsOnCondition :=
  deps.foldl (fun m dep => m.insert dep ⟨"service_started"⟩) ∅

def Service.toV3 (choices : V3Choices) (svc : Service) : ServiceV3 where
  image := svc.image
  ports := (svc.ports.getD []).map .short
  volumes := (svc.volumes.getD []).map .short
  environment := svc.environment.getD ∅
  dependsOn := choices.dependsOn.visit (dependsOnOf (svc.dependsOn.getD []))
  deploy := deployOf choices.showCpus svc.cpus svc.memory
  networks := svc.networks

namespace ComposeFile

variable (compose : ComposeFile)

def toV3 (choices : V3Choices) : ComposeV3 where
  version := some compose.version
  services := choices.services.visit
    ((HashMap.pairs compose.services).foldl (fun m e => m.insert e.1 (e.2.toV3 choices)) ∅)
  networks := (HashMap.pairs compose.networks).foldl
    (fun m e => m.insert e.1 ⟨e.2.driver, e.2.external⟩) ∅
  volumes := (HashMap.pairs compose.volumes).foldl
    (fun m e => m.insert e.1 ⟨e.2.driver, e.2.external⟩) ∅

theorem lookup_services_toV3 (choices : V3Choices) (name : String) :
    (compose.toV3 choices).services.lookup name =
      (compose.service name).map (Service.toV3 choices) := by
  rw [toV3, HashMap.lookup_visit,
    HashMap.lookup_foldl_insert_pairs (fun _ svc => Service.toV3 choices svc)]
  simp [VyomaCompose.service]

theorem mem_networks_toV3 (choices : V3Choices) (name : String) :
    name ∈ (compose.toV3 choices).networks ↔ name ∈ compose.networks := by
  have hlookup := HashMap.lookup_foldl_insert_pairs
    (fun (_ : String) (net : NetworkConfig) => NetworkV3.mk net.driver net.external)
    compose.networks ∅ name
  rw [← AList.lookup_isSome, ← AList.lookup_isSome, toV3, hlookup]
  simp

end ComposeFile

/-- The names of the dependencies are kept, each once. -/
theorem mem_dependsOnOf {deps : List String} {dep : String} :
    dep ∈ dependsOnOf deps ↔ dep ∈ deps := by
  have hfold : ∀ m : HashMap String DependsOnCondition,
      dep ∈ deps.foldl (fun m dep => m.insert dep ⟨"service_started"⟩) m ↔
        dep ∈ deps ∨ dep ∈ m := by
    induction deps with
    | nil => simp
    | cons first deps ih =>
      intro m
      rw [List.foldl_cons, ih, AList.mem_insert, List.mem_cons]
      grind
  rw [dependsOnOf, hfold]
  simp

theorem mem_dependsOn_toV3 {choices : V3Choices} {svc : Service} {dep : String} :
    dep ∈ (svc.toV3 choices).dependsOn ↔ dep ∈ svc.dependsOn.getD [] := by
  rw [← mem_dependsOnOf, Service.toV3, ← AList.lookup_isSome, HashMap.lookup_visit,
    AList.lookup_isSome]

end Vyoma.Compose
