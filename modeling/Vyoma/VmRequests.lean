import Vyoma.KernelDevices
import Vyoma.RustText
import Vyoma.VmCreation

/-!
# Requests to create a VM

`create_vm` turns a message into the request that `run_vm` works on. Ports have to fit 16 bits,
or the request is refused; the size of the memory is cut to 32 bits. `setup_cgroups` turns the
number of CPUs into a quota with two multiplications of 32 bits. Machine arithmetic wraps.
-/
namespace Vyoma.Grpc
open RustText VmService

/-! ## Messages -/

structure PortMapping where
  host : UInt32
  vm : UInt32
  deriving DecidableEq, Repr

structure VolumeMapping where
  hostPath : String
  vmPath : String
  deriving DecidableEq, Repr

structure CreateVmRequest where
  image : String
  vcpus : UInt32
  memoryMb : UInt64
  name : String
  ports : List PortMapping
  volumes : List VolumeMapping
  networks : List String
  deriving DecidableEq, Repr

inductive Code where
  | invalidArgument
  | internal
  deriving DecidableEq, Repr

structure Status where
  code : Code
  message : String
  deriving DecidableEq, Repr

/-! ## The conversion -/

/-- `u16::try_from` for the ports of one mapping, the host's first. -/
def convertPort (p : PortMapping) : Except Status Swarm.PortMapping :=
  if 2 ^ 16 ≤ p.host.toNat then
    .error ⟨.invalidArgument, "host port " ++ toString p.host.toNat ++ " out of range"⟩
  else if 2 ^ 16 ≤ p.vm.toNat then
    .error ⟨.invalidArgument, "vm port " ++ toString p.vm.toNat ++ " out of range"⟩
  else .ok ⟨p.host.toUInt16, p.vm.toUInt16⟩

/-- The first mapping that is out of range refuses them all. -/
def convertPorts : List PortMapping → Except Status (List Swarm.PortMapping)
  | [] => .ok []
  | p :: ports =>
    match convertPort p with
    | .error e => .error e
    | .ok port =>
      match convertPorts ports with
      | .error e => .error e
      | .ok rest => .ok (port :: rest)

def requestLabels (name : String) : HashMap String String :=
  if name = "" then ∅ else (AList.insert "vyoma.service" name (AList.insert "name" name ∅))

def runRequest (req : CreateVmRequest) (ports : List Swarm.PortMapping) : VmRunRequest where
  image := req.image
  vcpu := req.vcpus
  memSizeMib := req.memoryMb.toUInt32
  ports := ports
  volumes := req.volumes.map fun v => ⟨v.hostPath, v.vmPath, false⟩
  hostname := if req.name = "" then none else some req.name
  networks := req.networks
  labels := requestLabels req.name

/-- What `run_vm` is called with. -/
def toRunRequest (req : CreateVmRequest) : Except Status VmRunRequest :=
  match convertPorts req.ports with
  | .error e => .error e
  | .ok ports => .ok (runRequest req ports)

/-- The id of the VM; `runVm` is `vm_service::run_vm`. -/
def createVm (runVm : VmRunRequest → Except String String) (req : CreateVmRequest) :
    Except Status String :=
  match toRunRequest req with
  | .error e => .error e
  | .ok request =>
    match runVm request with
    | .error e => .error ⟨.internal, "Failed to create VM: " ++ e⟩
    | .ok vmId => .ok vmId

/-! ## The limits of a VM -/

/-- A file and what is written to it. -/
abbrev Write : Type := String × String

def cpuMaxFile (vmId : String) : String := Devices.cgroupPath vmId ++ "/cpu.max"

def memoryMaxFile (vmId : String) : String := Devices.cgroupPath vmId ++ "/memory.max"

def period : ℕ := 100000

/-- The content of `cpu.max`. -/
def cpuMax (quota : ℕ) : String := toString quota ++ " " ++ toString period

/-- A percentage of 100 is one core. -/
def setCpuLimit (vmId : String) (vcpuPercentage : UInt32) : Write :=
  let quota := vcpuPercentage * 1000
  (cpuMaxFile vmId, cpuMax quota.toNat)

def setMemoryLimit (vmId : String) (bytes : UInt64) : Write :=
  (memoryMaxFile vmId, toString bytes.toNat)

/-- The path that is answered, and the writes that are made. A write that fails is logged, and
so is a cgroup that cannot be created. -/
def setupCgroups (vmId : String) (vcpu memSizeMib : UInt32) (cgroup : Except String String) :
    Option String × List Write :=
  match cgroup with
  | .ok path =>
    let quota := vcpu * 100
    let memBytes := memSizeMib.toUInt64 * 1024 * 1024
    (some path, [setCpuLimit vmId quota, setMemoryLimit vmId memBytes])
  | .error _ => (none, [])

/-! ## Ports -/

/-- Both ports are ports. -/
def PortMapping.InRange (p : PortMapping) : Prop := p.host.toNat < 2 ^ 16 ∧ p.vm.toNat < 2 ^ 16

theorem convertPort_ok_iff {p : PortMapping} : (∃ port, convertPort p = .ok port) ↔ p.InRange := by
  unfold convertPort PortMapping.InRange
  split_ifs with hhost hvm
  · refine iff_of_false ?_ (by omega)
    rintro ⟨port, hport⟩
    cases hport
  · refine iff_of_false ?_ (by omega)
    rintro ⟨port, hport⟩
    cases hport
  · exact iff_of_true ⟨_, rfl⟩ (by omega)

theorem convertPorts_ok_iff {ports : List PortMapping} :
    (∃ converted, convertPorts ports = .ok converted) ↔ ∀ p ∈ ports, p.InRange := by
  induction ports with
  | nil => simp [convertPorts]
  | cons p ports ih =>
    rw [List.forall_mem_cons, ← convertPort_ok_iff, ← ih, convertPorts]
    cases convertPort p with
    | error e => simp
    | ok port => cases convertPorts ports <;> simp

/-- `create_vm` reaches `run_vm` exactly where every port is in range. -/
theorem toRunRequest_ok_iff {req : CreateVmRequest} {run : VmRunRequest} :
    toRunRequest req = .ok run ↔
      ∃ ports, convertPorts req.ports = .ok ports ∧ runRequest req ports = run := by
  unfold toRunRequest
  cases convertPorts req.ports <;> simp

/-! ## When the numbers are exact -/

/-- What is passed on is what the message asks for. -/
def ExactResources (req : CreateVmRequest) : Prop :=
  ∀ run, toRunRequest req = .ok run →
    run.memSizeMib.toNat = req.memoryMb.toNat ∧
      ∀ vmId cgroup content,
        (cpuMaxFile vmId, content) ∈ (setupCgroups vmId run.vcpu run.memSizeMib cgroup).2 →
          content = cpuMax (req.vcpus.toNat * period)

theorem cpuMaxFile_ne_memoryMaxFile (vmId vmId' : String) :
    cpuMaxFile vmId ≠ memoryMaxFile vmId' := by
  intro h
  have hreverse := congrArg (fun s => (s.toList.reverse.take 5)) h
  simp [cpuMaxFile, memoryMaxFile] at hreverse

/-- What `cpu.max` holds, whatever becomes of the cgroup. -/
theorem mem_setupCgroups {vmId content : String} {vcpu memSizeMib : UInt32}
    {cgroup : Except String String} :
    (cpuMaxFile vmId, content) ∈ (setupCgroups vmId vcpu memSizeMib cgroup).2 ↔
      cgroup.isOk = true ∧ content = cpuMax (vcpu * 100 * 1000).toNat := by
  cases cgroup with
  | error e => simp [setupCgroups, Except.isOk, Except.toBool]
  | ok path =>
    simp [setupCgroups, setCpuLimit, setMemoryLimit, cpuMaxFile_ne_memoryMaxFile, Except.isOk,
      Except.toBool]

theorem cpuMax_injective {q q' : ℕ} (h : cpuMax q = cpuMax q') : q = q' := by
  have hlist := congrArg String.toList h
  simp only [cpuMax, String.toList_append, List.append_left_inj] at hlist
  exact natRepr_injective (String.toList_inj.mp hlist)

/-- The quota is the product, up to the width of the machine word. -/
theorem toNat_quota (vcpu : UInt32) : (vcpu * 100 * 1000).toNat = vcpu.toNat * period % 2 ^ 32 := by
  rw [UInt32.toNat_mul, UInt32.toNat_mul]
  have hperiod : period = 100 * 1000 := rfl
  rw [hperiod, ← Nat.mul_assoc]
  exact Nat.mod_mul_mod _ _ _

/-- A request that is not refused for its ports is exact exactly when the memory and the quota
that it asks for fit 32 bits. -/
theorem exactResources_iff (req : CreateVmRequest) :
    ExactResources req ↔ ((∀ p ∈ req.ports, p.InRange) →
      req.memoryMb.toNat < 2 ^ 32 ∧ req.vcpus.toNat * period < 2 ^ 32) := by
  have hmemory : req.memoryMb.toUInt32.toNat = req.memoryMb.toNat % 2 ^ 32 :=
    UInt64.toNat_toUInt32 _
  unfold ExactResources
  constructor
  · intro h hports
    obtain ⟨ports, hconvert⟩ := convertPorts_ok_iff.mpr hports
    obtain ⟨hmem, hquota⟩ := h _ (toRunRequest_ok_iff.mpr ⟨ports, hconvert, rfl⟩)
    have hwritten := hquota "" (.ok "") _ (mem_setupCgroups.mpr ⟨rfl, rfl⟩)
    have hproduct := cpuMax_injective hwritten
    rw [toNat_quota] at hproduct
    dsimp only [runRequest] at hmem hproduct
    omega
  · intro h run hrun
    obtain ⟨ports, hconvert, rfl⟩ := toRunRequest_ok_iff.mp hrun
    obtain ⟨hmem, hquota⟩ := h (convertPorts_ok_iff.mp ⟨ports, hconvert⟩)
    refine ⟨?_, fun vmId cgroup content hwritten => ?_⟩
    · dsimp only [runRequest]
      omega
    · have hvcpu : (runRequest req ports).vcpu = req.vcpus := rfl
      rw [(mem_setupCgroups.mp hwritten).2, toNat_quota, hvcpu, Nat.mod_eq_of_lt hquota]

/-- 42950 CPUs get the quota of less than half a CPU. -/
def largeRequest : CreateVmRequest := ⟨"alpine", 42950, 512, "web", [], [], []⟩

theorem largeRequest_inexact : ¬ExactResources largeRequest ∧
    ∃ run, toRunRequest largeRequest = .ok run ∧
      (cpuMaxFile "vm", cpuMax 32704) ∈ (setupCgroups "vm" run.vcpu run.memSizeMib (.ok "")).2 := by
  refine ⟨fun h => ?_, _, rfl, ?_⟩
  · have hquota := (h _ rfl).2 "vm" (.ok "") _ (mem_setupCgroups.mpr ⟨rfl, rfl⟩)
    have hproduct := cpuMax_injective hquota
    exact absurd hproduct (by decide)
  · exact mem_setupCgroups.mpr ⟨rfl, by decide⟩

end Vyoma.Grpc
