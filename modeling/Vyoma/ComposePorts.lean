import Vyoma.ComposeV3
import Vyoma.FilteredLists

/-!
# Ports and volumes of compose services

The entries of a service are texts whose parts are separated by colons. `validate` reads the
host port with 16 bits where `translate` reads both ports with 32 bits. `vyoma up` reads two
parts only, with 16 bits, and takes zero for what it cannot read.
-/
namespace Vyoma.Compose
open RustText FilteredLists
open Grpc (CreateVmRequest toRunRequest)

/-! ## The numbers of an entry -/

theorem parseUnsigned_lt {bits n : ℕ} {s : String} (h : parseUnsigned bits s = some n) :
    n < 2 ^ bits := by
  unfold parseUnsigned at h
  dsimp only at h
  split_ifs at h
  simpa using (Option.filter_eq_some_iff.mp h).2

/-- A narrow number is a wide one that is small enough. -/
theorem parseUnsigned_narrow {bits wide n : ℕ} (hle : bits ≤ wide) {s : String} :
    parseUnsigned bits s = some n ↔ parseUnsigned wide s = some n ∧ n < 2 ^ bits := by
  have hpow : 2 ^ bits ≤ 2 ^ wide := Nat.pow_le_pow_right (by decide) hle
  unfold parseUnsigned
  dsimp only
  split_ifs with hbody
  · simp
  · simp only [Option.filter_eq_some_iff, decide_eq_true_eq]
    constructor
    · rintro ⟨hvalue, hlt⟩
      exact ⟨⟨hvalue, by omega⟩, hlt⟩
    · rintro ⟨⟨hvalue, -⟩, hlt⟩
      exact ⟨hvalue, hlt⟩

theorem portPair_eq_some_iff {host vm : String} {m : Grpc.PortMapping} :
    portPair host vm = some m ↔ parseUnsigned 32 host = some m.host.toNat ∧
      parseUnsigned 32 vm = some m.vm.toNat := by
  unfold portPair
  cases hhost : parseUnsigned 32 host with
  | none => simp
  | some h =>
    cases hvm : parseUnsigned 32 vm with
    | none => simp
    | some v =>
      obtain ⟨mh, mv⟩ := m
      have hh := parseUnsigned_lt hhost
      have hv := parseUnsigned_lt hvm
      simp only [Option.some.injEq, Grpc.PortMapping.mk.injEq, ← UInt32.toNat_inj,
        UInt32.toNat_ofNat_of_lt' hh, UInt32.toNat_ofNat_of_lt' hv]

/-- The texts of the host port and the VM port: the last two of two or three parts. -/
def hostAndVm (s : String) : Option (String × String) :=
  match parts s with
  | [host, vm] => some (host, vm)
  | [_, host, vm] => some (host, vm)
  | _ => none

theorem published_short (s : String) :
    (PortEntry.short s).published = (hostAndVm s).bind fun e => parseUnsigned 16 e.1 := by
  unfold PortEntry.published hostAndVm
  dsimp only
  split <;> simp [*]

theorem translate_short (s : String) :
    (PortEntry.short s).translate = (hostAndVm s).bind fun e => portPair e.1 e.2 := by
  unfold PortEntry.translate hostAndVm
  dsimp only
  split <;> simp [*]

/-! ## Translated ports -/

/-- The numbers of an entry, where both are numbers of 32 bits, are ports. -/
def PortEntry.Narrow : PortEntry → Prop
  | .short s => ∀ host vm, hostAndVm s = some (host, vm) → ∀ h v,
      parseUnsigned 32 host = some h → parseUnsigned 32 vm = some v → h < 2 ^ 16 ∧ v < 2 ^ 16
  | .long _ => True

theorem PortEntry.narrow_iff {port : PortEntry} :
    port.Narrow ↔ ∀ m, port.translate = some m → m.InRange := by
  cases port with
  | short s =>
    simp only [Narrow, translate_short, Option.bind_eq_some_iff, portPair_eq_some_iff,
      Grpc.PortMapping.InRange]
    constructor
    · rintro h m ⟨⟨host, vm⟩, hparts, hhost, hvm⟩
      exact h host vm hparts _ _ hhost hvm
    · intro h host vm hparts hn vn hhost hvm
      have hh := parseUnsigned_lt hhost
      have hv := parseUnsigned_lt hvm
      have hrange := h ⟨UInt32.ofNat hn, UInt32.ofNat vn⟩ ⟨(host, vm), hparts, by
        rw [UInt32.toNat_ofNat_of_lt' hh, hhost], by rw [UInt32.toNat_ofNat_of_lt' hv, hvm]⟩
      rwa [UInt32.toNat_ofNat_of_lt' hh, UInt32.toNat_ofNat_of_lt' hv] at hrange
  | long l =>
    simp only [Narrow, translate, Option.map_eq_some_iff, true_iff]
    rintro m ⟨published, -, rfl⟩
    have hpublished := published.toNat_lt
    have htarget := l.target.toNat_lt
    simp [Grpc.PortMapping.InRange, hpublished, htarget]

/-- A mapping whose host port is a port is one that `validate` has seen. -/
theorem PortEntry.published_of_translate {port : PortEntry} {m : Grpc.PortMapping}
    (h : port.translate = some m) (hhost : m.host.toNat < 2 ^ 16) :
    port.published = some m.host.toNat := by
  cases port with
  | short s =>
    rw [translate_short, Option.bind_eq_some_iff] at h
    obtain ⟨⟨host, vm⟩, hparts, hpair⟩ := h
    rw [published_short, hparts, Option.bind_some, parseUnsigned_narrow (by decide : 16 ≤ 32)]
    exact ⟨(portPair_eq_some_iff.mp hpair).1, hhost⟩
  | long l =>
    obtain ⟨published, hpublished, rfl⟩ := Option.map_eq_some_iff.mp h
    show l.published.map UInt16.toNat = _
    simp [hpublished]

namespace ComposeV3

variable {compose : ComposeV3} {t : Unicode}

/-- The services, in the order of their names. -/
def sortedServices (compose : ComposeV3) : List (String × ServiceV3) :=
  compose.sortedNames.filterMap fun name => (compose.services.lookup name).map (Prod.mk name)

theorem sortedServices_perm : compose.sortedServices.Perm (HashMap.pairs compose.services) := by
  rw [← HashMap.filterMap_lookup_keys]
  exact (List.mergeSort_perm _ _).filterMap _

theorem requests_eq :
    compose.requests t = compose.sortedServices.map fun e => request t e.1 e.2 := by
  rw [sortedServices, List.map_filterMap, requests]
  simp only [Option.map_map]
  rfl

theorem mem_requests {req : CreateVmRequest} : req ∈ compose.requests t ↔
    ∃ name service, compose.services.lookup name = some service ∧ request t name service = req := by
  rw [requests_eq, List.mem_map]
  simp only [Prod.exists, sortedServices_perm.mem_iff, HashMap.mem_pairs]

theorem translate_ok_iff {requests : List CreateVmRequest} :
    compose.translate t = .ok requests ↔ compose.Valid ∧ compose.requests t = requests := by
  rw [← validate_ok_iff, translate]
  cases compose.validate <;> simp

/-- Every short entry that becomes a mapping holds two ports. -/
def NarrowPorts (compose : ComposeV3) : Prop :=
  ∀ name service, compose.services.lookup name = some service → ∀ port ∈ service.ports, port.Narrow

end ComposeV3

def hostPorts (requests : List CreateVmRequest) : List ℕ :=
  requests.flatMap fun req => req.ports.map fun m => m.host.toNat

/-- No host port is used twice, every number is a port and every request reaches `run_vm`. -/
structure PortsAccepted (requests : List CreateVmRequest) : Prop where
  distinct : (hostPorts requests).Nodup
  inRange : ∀ req ∈ requests, ∀ m ∈ req.ports, m.host.toNat ≤ 65535 ∧ m.vm.toNat ≤ 65535
  reached : ∀ req ∈ requests, ∃ run, toRunRequest req = .ok run

namespace ComposeV3

variable {compose : ComposeV3} {t : Unicode} {requests : List CreateVmRequest}

theorem hostPorts_nodup (hnarrow : compose.NarrowPorts) (hvalid : compose.Valid) :
    (hostPorts (compose.requests t)).Nodup := by
  have hpublished : (compose.sortedServices.flatMap fun e => e.2.publishedPorts).Nodup :=
    (sortedServices_perm.flatMap_right _).nodup_iff.mpr hvalid.ports
  rw [hostPorts, requests_eq, List.flatMap_map]
  refine hpublished.sublist (sublist_flatMap ?_)
  rintro ⟨name, service⟩ hmem
  rw [sortedServices_perm.mem_iff, HashMap.mem_pairs] at hmem
  show ((service.ports.filterMap PortEntry.translate).map fun m => m.host.toNat).Sublist
    (service.ports.filterMap PortEntry.published)
  rw [List.map_filterMap]
  refine sublist_filterMap fun port hport => ?_
  cases htranslate : port.translate with
  | none => exact .inr rfl
  | some m =>
    have hrange := PortEntry.narrow_iff.mp (hnarrow name service hmem port hport) m htranslate
    exact .inl (PortEntry.published_of_translate htranslate hrange.1).symm

/-- The translated ports are distinct and accepted exactly where the entries with two numbers
hold two ports. -/
theorem portsAccepted_iff (h : compose.translate t = .ok requests) :
    PortsAccepted requests ↔ compose.NarrowPorts := by
  obtain ⟨hvalid, rfl⟩ := translate_ok_iff.mp h
  have hnarrow : compose.NarrowPorts ↔
      ∀ req ∈ compose.requests t, ∀ m ∈ req.ports, m.InRange := by
    simp only [NarrowPorts, PortEntry.narrow_iff, mem_requests]
    constructor
    · rintro h req ⟨name, service, hlookup, rfl⟩ m hm
      obtain ⟨port, hport, htranslate⟩ := List.mem_filterMap.mp hm
      exact h name service hlookup port hport m htranslate
    · intro h name service hlookup port hport m htranslate
      exact h _ ⟨name, service, hlookup, rfl⟩ m (List.mem_filterMap.mpr ⟨port, hport, htranslate⟩)
  constructor
  · rintro ⟨-, hrange, -⟩
    refine hnarrow.mpr fun req hreq m hm => ?_
    have hports := hrange req hreq m hm
    exact ⟨by omega, by omega⟩
  · intro hports
    refine ⟨hostPorts_nodup hports hvalid, fun req hreq m hm => ?_, fun req hreq => ?_⟩
    · obtain ⟨hhost, hvm⟩ := hnarrow.mp hports req hreq m hm
      exact ⟨by omega, by omega⟩
    · obtain ⟨converted, hconvert⟩ := Grpc.convertPorts_ok_iff.mpr (hnarrow.mp hports req hreq)
      exact ⟨_, Grpc.toRunRequest_ok_iff.mpr ⟨converted, hconvert, rfl⟩⟩

/-! ### A port that only the translation can read -/

def clashFile : ComposeV3 where
  version := none
  services := AList.insert "web" { ports := [.short "70000:80", .short "70000:443"] } ∅
  networks := ∅
  volumes := ∅

theorem clashFile_translate : clashFile.translate .ascii = .ok (clashFile.requests .ascii) := by
  have hvalid : clashFile.validate = .ok () := by decide
  exact translate_ok_iff.mpr ⟨clashFile.validate_ok_iff.mp hvalid, rfl⟩

theorem clashFile_portsAccepted_iff :
    PortsAccepted (clashFile.requests .ascii) ↔ clashFile.NarrowPorts :=
  portsAccepted_iff clashFile_translate

/-- The file is valid, and its one request uses port 70000 of the host twice. -/
theorem clashFile_refused : clashFile.translate .ascii = .ok (clashFile.requests .ascii) ∧
    hostPorts (clashFile.requests .ascii) = [70000, 70000] ∧
    ¬PortsAccepted (clashFile.requests .ascii) := by
  have hports : hostPorts (clashFile.requests .ascii) = [70000, 70000] := by decide +kernel
  refine ⟨clashFile_translate, hports, fun h => ?_⟩
  have hdistinct := h.distinct
  rw [hports] at hdistinct
  exact absurd hdistinct (by decide)

end ComposeV3

/-! ## Starting services with `vyoma up` -/

structure RunRequest where
  image : String
  vcpu : UInt32
  memSizeMib : UInt32
  ports : List Swarm.PortMapping
  volumes : List VmService.VolumeMount
  hostname : Option String
  labels : HashMap String String

/-- `parse().unwrap_or(0)` at `u16`. -/
def portOrZero (s : String) : ℕ := (parseUnsigned 16 s).getD 0

def upPort (s : String) : Option Swarm.PortMapping :=
  match parts s with
  | [host, vm] => some ⟨UInt16.ofNat (portOrZero host), UInt16.ofNat (portOrZero vm)⟩
  | _ => none

def upVolume (s : String) : Option VmService.VolumeMount :=
  match parts s with
  | [host, vm] => some ⟨host, vm, false⟩
  | _ => none

/-- What `vyoma up` posts for a service whose image has been found or built. -/
def upRequest (stackName name imageTarget : String) (service : Service) : RunRequest where
  image := imageTarget
  vcpu := service.cpus.getD 1
  memSizeMib := service.memory.getD 512
  ports := (service.ports.getD []).filterMap upPort
  volumes := (service.volumes.getD []).filterMap upVolume
  hostname := some name
  labels := AList.insert "vyoma.service" name (AList.insert "vyoma.stack" stackName ∅)

/-- The mappings are the same, in order. -/
structure SameMappings (run : RunRequest) (req : CreateVmRequest) : Prop where
  ports : run.ports.map (fun p => (p.hostPort.toNat, p.vmPort.toNat)) =
    req.ports.map fun m => (m.host.toNat, m.vm.toNat)
  volumes : run.volumes.map (fun v => (v.hostPath, v.vmPath)) =
    req.volumes.map fun v => (v.hostPath, v.vmPath)

/-! ### Entries -/

/-- Two ports. -/
def Kept (s : String) : Prop :=
  ∃ host vm, parts s = [host, vm] ∧ (parseUnsigned 16 host).isSome ∧ (parseUnsigned 16 vm).isSome

/-- Neither two parts nor an address with two numbers. -/
def Dropped (s : String) : Prop :=
  (parts s).length ≠ 2 ∧ ∀ address host vm, parts s = [address, host, vm] →
    parseUnsigned 32 host = none ∨ parseUnsigned 32 vm = none

/-- Two parts that are not both numbers and stand for port zero of the host. -/
def Defaulted (vmPort : ℕ) (s : String) : Prop :=
  ∃ host vm, parts s = [host, vm] ∧
    (parseUnsigned 32 host = none ∨ parseUnsigned 32 vm = none) ∧
    portOrZero host = 0 ∧ portOrZero vm = vmPort

/-- An address with port zero of the host. -/
def Addressed (vmPort : ℕ) (s : String) : Prop :=
  ∃ address host vm, parts s = [address, host, vm] ∧ parseUnsigned 32 host = some 0 ∧
    parseUnsigned 32 vm = some vmPort

/-- Every entry is kept by both readers or dropped by both; or one entry stands for port zero in
one of them and another entry does in the other, with only dropped ones between. -/
def AgreedPorts (entries : List String) : Prop :=
  (∀ s ∈ entries, Kept s ∨ Dropped s) ∨
  ∃ before between after p q vmPort,
    (entries = before ++ p :: (between ++ q :: after) ∨
      entries = before ++ q :: (between ++ p :: after)) ∧
    (∀ s ∈ before ++ after, Kept s ∨ Dropped s) ∧ (∀ s ∈ between, Dropped s) ∧
    Defaulted vmPort p ∧ Addressed vmPort q

def upPair (s : String) : Option (ℕ × ℕ) :=
  (upPort s).map fun p => (p.hostPort.toNat, p.vmPort.toNat)

def v3Pair (s : String) : Option (ℕ × ℕ) :=
  (PortEntry.short s).translate.map fun m => (m.host.toNat, m.vm.toNat)

theorem portOrZero_lt (s : String) : portOrZero s < 2 ^ 16 := by
  unfold portOrZero
  cases h : parseUnsigned 16 s with
  | none => exact Nat.two_pow_pos 16
  | some n => exact parseUnsigned_lt h

theorem upPair_eq_some_iff {s : String} {e : ℕ × ℕ} : upPair s = some e ↔
    ∃ host vm, parts s = [host, vm] ∧ portOrZero host = e.1 ∧ portOrZero vm = e.2 := by
  obtain ⟨h, v⟩ := e
  unfold upPair upPort
  split
  · rename_i host vm hparts
    simp [hparts, UInt16.toNat_ofNat_of_lt' (portOrZero_lt host),
      UInt16.toNat_ofNat_of_lt' (portOrZero_lt vm)]
  · rename_i hparts
    simp only [Option.map_none, reduceCtorEq, false_iff]
    rintro ⟨host, vm, htwo, -⟩
    exact hparts host vm htwo

theorem upPair_eq_none_iff {s : String} : upPair s = none ↔ (parts s).length ≠ 2 := by
  unfold upPair upPort
  split
  · rename_i hparts
    simp [hparts]
  · rename_i hparts
    simp only [Option.map_none, true_iff]
    intro hlength
    obtain ⟨host, vm, htwo⟩ := List.length_eq_two.mp hlength
    exact hparts host vm htwo

theorem v3Pair_eq_some_iff {s : String} {e : ℕ × ℕ} : v3Pair s = some e ↔
    ∃ host vm, hostAndVm s = some (host, vm) ∧
      parseUnsigned 32 host = some e.1 ∧ parseUnsigned 32 vm = some e.2 := by
  obtain ⟨h, v⟩ := e
  simp only [v3Pair, translate_short, Option.map_eq_some_iff, Option.bind_eq_some_iff,
    portPair_eq_some_iff, Prod.mk.injEq]
  constructor
  · rintro ⟨m, ⟨⟨host, vm⟩, hparts, hhost, hvm⟩, rfl, rfl⟩
    exact ⟨host, vm, hparts, hhost, hvm⟩
  · rintro ⟨host, vm, hparts, hhost, hvm⟩
    have hh := UInt32.toNat_ofNat_of_lt' (parseUnsigned_lt hhost)
    have hv := UInt32.toNat_ofNat_of_lt' (parseUnsigned_lt hvm)
    exact ⟨⟨UInt32.ofNat h, UInt32.ofNat v⟩, ⟨(host, vm), hparts, hh.symm ▸ hhost, hv.symm ▸ hvm⟩,
      hh, hv⟩

theorem hostAndVm_eq_some_iff {s host vm : String} : hostAndVm s = some (host, vm) ↔
    parts s = [host, vm] ∨ ∃ address, parts s = [address, host, vm] := by
  unfold hostAndVm
  split
  · rename_i hparts
    simp [hparts]
  · rename_i hparts
    simp [hparts]
  · rename_i htwo hthree
    simp only [reduceCtorEq, false_iff]
    rintro (hparts | ⟨address, hparts⟩)
    · exact htwo host vm hparts
    · exact hthree address host vm hparts

/-- A narrow number that is there is the one that takes zero's place. -/
theorem portOrZero_of_parse {s : String} {n : ℕ} (h : parseUnsigned 32 s = some n)
    (hlt : n < 2 ^ 16) : portOrZero s = n := by
  have hnarrow := (parseUnsigned_narrow (by decide : 16 ≤ 32)).mpr ⟨h, hlt⟩
  rw [portOrZero, hnarrow, Option.getD_some]

theorem isSome_parse_iff {s : String} :
    (parseUnsigned 16 s).isSome ↔ parseUnsigned 32 s = some (portOrZero s) := by
  constructor
  · intro h
    obtain ⟨n, hn⟩ := Option.isSome_iff_exists.mp h
    have hwide := ((parseUnsigned_narrow (by decide : 16 ≤ 32)).mp hn).1
    rw [portOrZero, hn, Option.getD_some, hwide]
  · intro h
    rw [(parseUnsigned_narrow (by decide : 16 ≤ 32)).mpr ⟨h, portOrZero_lt s⟩]
    rfl

/-- Numbers are missing where the texts of both ports are there. -/
theorem v3Pair_eq_none_iff {s host vm : String} (h : hostAndVm s = some (host, vm)) :
    v3Pair s = none ↔ parseUnsigned 32 host = none ∨ parseUnsigned 32 vm = none := by
  have hpair : v3Pair s =
      (parseUnsigned 32 host).bind fun h => (parseUnsigned 32 vm).map (Prod.mk h) := by
    ext e
    rw [v3Pair_eq_some_iff, h]
    simp only [Option.some.injEq, Prod.mk.injEq, Option.bind_eq_some_iff, Option.map_eq_some_iff]
    constructor
    · rintro ⟨_, _, ⟨rfl, rfl⟩, hhost, hvm⟩
      exact ⟨e.1, hhost, e.2, hvm, rfl⟩
    · rintro ⟨hn, hhost, vn, hvm, rfl⟩
      exact ⟨host, vm, ⟨rfl, rfl⟩, hhost, hvm⟩
  rw [hpair]
  cases parseUnsigned 32 host <;> simp

theorem dropped_iff {s : String} : Dropped s ↔ upPair s = none ∧ v3Pair s = none := by
  rw [upPair_eq_none_iff, Dropped]
  refine and_congr_right fun htwo => ?_
  constructor
  · intro hthree
    rw [Option.eq_none_iff_forall_ne_some]
    intro e he
    obtain ⟨host, vm, hparts, hhost, hvm⟩ := v3Pair_eq_some_iff.mp he
    obtain hparts | ⟨address, hparts⟩ := hostAndVm_eq_some_iff.mp hparts
    · exact htwo (by rw [hparts]; rfl)
    · have hnone := hthree address host vm hparts
      rw [hhost, hvm] at hnone
      simp at hnone
  · intro hnone address host vm hparts
    exact (v3Pair_eq_none_iff (hostAndVm_eq_some_iff.mpr (.inr ⟨address, hparts⟩))).mp hnone

theorem upPair_eq_v3Pair_iff {s : String} : upPair s = v3Pair s ↔ Kept s ∨ Dropped s := by
  cases hup : upPair s with
  | none =>
    have hkept : ¬Kept s := by
      rintro ⟨host, vm, hparts, -⟩
      exact upPair_eq_none_iff.mp hup (by rw [hparts]; rfl)
    rw [dropped_iff, hup]
    simp [hkept, eq_comm]
  | some e =>
    obtain ⟨host, vm, hparts, hhost, hvm⟩ := upPair_eq_some_iff.mp hup
    have hdropped : ¬Dropped s := fun h => h.1 (by rw [hparts]; rfl)
    have htexts : hostAndVm s = some (host, vm) := hostAndVm_eq_some_iff.mpr (.inl hparts)
    simp only [hdropped, or_false, Kept, hparts, List.cons.injEq, and_true, isSome_parse_iff]
    rw [eq_comm, v3Pair_eq_some_iff, htexts]
    simp only [Option.some.injEq, Prod.mk.injEq, ← hhost, ← hvm]
    constructor
    · rintro ⟨_, _, ⟨rfl, rfl⟩, hnumbers⟩
      exact ⟨host, vm, ⟨rfl, rfl⟩, hnumbers⟩
    · rintro ⟨_, _, ⟨rfl, rfl⟩, hnumbers⟩
      exact ⟨host, vm, ⟨rfl, rfl⟩, hnumbers⟩

theorem defaulted_iff {s : String} {vmPort : ℕ} :
    Defaulted vmPort s ↔ upPair s = some (0, vmPort) ∧ v3Pair s = none := by
  rw [upPair_eq_some_iff, Defaulted]
  constructor
  · rintro ⟨host, vm, hparts, hnone, hnumbers⟩
    exact ⟨⟨host, vm, hparts, hnumbers⟩,
      (v3Pair_eq_none_iff (hostAndVm_eq_some_iff.mpr (.inl hparts))).mpr hnone⟩
  · rintro ⟨⟨host, vm, hparts, hnumbers⟩, hnone⟩
    exact ⟨host, vm, hparts,
      (v3Pair_eq_none_iff (hostAndVm_eq_some_iff.mpr (.inl hparts))).mp hnone, hnumbers⟩

theorem addressed_iff {s : String} {vmPort : ℕ} :
    Addressed vmPort s ↔ upPair s = none ∧ v3Pair s = some (0, vmPort) := by
  rw [upPair_eq_none_iff, v3Pair_eq_some_iff]
  constructor
  · rintro ⟨address, host, vm, hparts, hnumbers⟩
    exact ⟨by simp [hparts], host, vm, hostAndVm_eq_some_iff.mpr (.inr ⟨address, hparts⟩), hnumbers⟩
  · rintro ⟨htwo, host, vm, hparts, hnumbers⟩
    obtain hparts | ⟨address, hparts⟩ := hostAndVm_eq_some_iff.mp hparts
    · exact absurd (by rw [hparts]; rfl) htwo
    · exact ⟨address, host, vm, hparts, hnumbers⟩

theorem agreedPorts_iff {entries : List String} : AgreedPorts entries ↔
    (∀ s ∈ entries, upPair s = v3Pair s) ∨ Exchanged upPair v3Pair 0 entries := by
  simp only [AgreedPorts, Exchanged, upPair_eq_v3Pair_iff, dropped_iff, defaulted_iff,
    addressed_iff]

/-! ### Services -/

/-- The host ports of short entries that are looked for. -/
def shortPublished (s : String) : Option ℕ := (PortEntry.short s).published

/-- A pair with a port of the host is one whose host port is looked for. -/
theorem shortPublished_of_v3Pair {s : String} {e : ℕ × ℕ} (h : v3Pair s = some e)
    (hlt : e.1 < 2 ^ 16) : shortPublished s = some e.1 := by
  obtain ⟨m, hm, rfl⟩ := Option.map_eq_some_iff.mp h
  exact PortEntry.published_of_translate hm hlt

theorem upPair_lt {s : String} {e : ℕ × ℕ} (h : upPair s = some e) :
    e.1 < 2 ^ 16 ∧ e.2 < 2 ^ 16 := by
  obtain ⟨host, vm, -, hhost, hvm⟩ := upPair_eq_some_iff.mp h
  exact ⟨hhost ▸ portOrZero_lt host, hvm ▸ portOrZero_lt vm⟩

section Entries

variable {entries : List String}

/-- Where the lists agree, what only `vyoma up` keeps stands for port zero: a host port that is
a number would be published twice. -/
theorem kind_of_eq (hpublished : (entries.filterMap shortPublished).Nodup)
    (heq : entries.filterMap upPair = entries.filterMap v3Pair) :
    ∀ s ∈ entries, Kind upPair v3Pair 0 s := by
  intro s hs
  cases hup : upPair s with
  | none => exact .inr (.inr hup)
  | some e =>
    obtain ⟨host, vm, hparts, hhost, hvm⟩ := upPair_eq_some_iff.mp hup
    have htexts : hostAndVm s = some (host, vm) := hostAndVm_eq_some_iff.mpr (.inl hparts)
    cases hv3 : v3Pair s with
    | none =>
      right
      left
      obtain ⟨h, v⟩ := e
      have hmem : (h, v) ∈ entries.filterMap v3Pair :=
        heq ▸ List.mem_filterMap.mpr ⟨s, hs, hup⟩
      obtain ⟨other, hother, hpair⟩ := List.mem_filterMap.mp hmem
      have hshort : shortPublished other = some h :=
        shortPublished_of_v3Pair hpair (upPair_lt hup).1
      cases hnumber : parseUnsigned 16 host with
      | none =>
        have hdefault : portOrZero host = 0 := by simp [portOrZero, hnumber]
        have hzero : h = 0 := hhost.symm.trans hdefault
        exact ⟨v, hzero ▸ hup, hv3⟩
      | some n =>
        have hvalue : portOrZero host = n := by simp [portOrZero, hnumber]
        have hself : shortPublished s = some h := by
          rw [shortPublished, published_short, htexts, Option.bind_some, hnumber, ← hvalue, hhost]
        have hsame : s = other := eq_of_filterMap_nodup hpublished hs hother hself hshort
        rw [hsame, hpair] at hv3
        cases hv3
    | some e' =>
      left
      have hmem : e' ∈ entries.filterMap upPair := heq ▸ List.mem_filterMap.mpr ⟨s, hs, hv3⟩
      obtain ⟨other, -, hpair⟩ := List.mem_filterMap.mp hmem
      obtain ⟨hlt, hlt'⟩ := upPair_lt hpair
      obtain ⟨_, _, htexts', hnumber, hnumber'⟩ := v3Pair_eq_some_iff.mp hv3
      rw [htexts] at htexts'
      cases htexts'
      have hfirst : e.1 = e'.1 := hhost.symm.trans (portOrZero_of_parse hnumber hlt)
      have hsecond : e.2 = e'.2 := hvm.symm.trans (portOrZero_of_parse hnumber' hlt')
      rw [hup, hv3, Prod.ext hfirst hsecond]

/-- The ports agree exactly in these two cases. -/
theorem filterMap_ports_eq_iff (hpublished : (entries.filterMap shortPublished).Nodup) :
    entries.filterMap upPair = entries.filterMap v3Pair ↔ AgreedPorts entries := by
  rw [agreedPorts_iff]
  constructor
  · intro heq
    refine agree_or_exchanged (kind_of_eq hpublished heq) (hpublished.sublist ?_) heq
    rw [List.map_filterMap]
    refine sublist_filterMap fun s hs => ?_
    cases hv3 : v3Pair s with
    | none => exact .inr rfl
    | some e =>
      have hmem : e ∈ entries.filterMap upPair := heq ▸ List.mem_filterMap.mpr ⟨s, hs, hv3⟩
      obtain ⟨other, -, hpair⟩ := List.mem_filterMap.mp hmem
      exact .inl (shortPublished_of_v3Pair hv3 (upPair_lt hpair).1).symm
  · rintro (hagree | hexchanged)
    · exact List.filterMap_congr hagree
    · exact filterMap_eq_of_exchanged hexchanged

end Entries

/-- `vyoma up` drops an entry that has a mode, and the translation keeps it. -/
theorem filterMap_volumes_eq_iff {entries : List String} :
    (entries.filterMap upVolume).map (fun v => (v.hostPath, v.vmPath)) =
      (entries.filterMap fun s => (VolumeEntry.short s).translate).map
        (fun v => (v.hostPath, v.vmPath)) ↔
      ∀ s ∈ entries, (parts s).length ≤ 2 := by
  rw [List.map_filterMap, List.map_filterMap, filterMap_eq_iff]
  · refine forall₂_congr fun s _ => ?_
    unfold upVolume VolumeEntry.translate
    dsimp only
    generalize parts s = l
    match l with
    | [] | [_] | [_, _] => simp
    | _ :: _ :: _ :: _ => simp
  · intro s _
    unfold upVolume VolumeEntry.translate
    dsimp only
    generalize parts s = l
    match l with
    | [] | [_] | [_, _] => exact .inl rfl
    | _ :: _ :: _ :: _ => exact .inr rfl

namespace ComposeFile

variable {compose : ComposeFile} {choices : V3Choices} {t : Unicode}
  {requests : List CreateVmRequest}

theorem request_of_service (h : (compose.toV3 choices).translate t = .ok requests) {name : String}
    {svc : Service} (hsvc : compose.service name = some svc) {req : CreateVmRequest}
    (hreq : req ∈ requests) (hname : req.name = name) :
    ComposeV3.request t name (svc.toV3 choices) = req := by
  obtain ⟨-, rfl⟩ := ComposeV3.translate_ok_iff.mp h
  obtain ⟨name', service, hlookup, rfl⟩ := ComposeV3.mem_requests.mp hreq
  have hsame : name' = name := hname
  rw [lookup_services_toV3, hsame, hsvc, Option.map_some] at hlookup
  rw [hsame, Option.some.inj hlookup]

theorem published_nodup (hvalid : (compose.toV3 choices).Valid) {name : String} {svc : Service}
    (hsvc : compose.service name = some svc) :
    ((svc.ports.getD []).filterMap shortPublished).Nodup := by
  have hmem : (name, svc.toV3 choices) ∈ HashMap.pairs (compose.toV3 choices).services := by
    rw [HashMap.mem_pairs, lookup_services_toV3, hsvc, Option.map_some]
  have hnodup := (List.nodup_flatMap.mp hvalid.ports).1 _ hmem
  rw [ServiceV3.publishedPorts, Service.toV3, List.filterMap_map] at hnodup
  exact hnodup

/-- Both ways of starting a service give the same mappings exactly when no volume has three parts
or more and the readers of its ports agree. -/
theorem sameMappings_iff (h : (compose.toV3 choices).translate t = .ok requests) {name : String}
    {svc : Service} (hsvc : compose.service name = some svc) {req : CreateVmRequest}
    (hreq : req ∈ requests) (hname : req.name = name) (stackName imageTarget : String) :
    SameMappings (upRequest stackName name imageTarget svc) req ↔
      AgreedPorts (svc.ports.getD []) ∧ ∀ s ∈ svc.volumes.getD [], (parts s).length ≤ 2 := by
  have hpublished := published_nodup (ComposeV3.translate_ok_iff.mp h).1 hsvc
  rw [← request_of_service h hsvc hreq hname, ← filterMap_ports_eq_iff hpublished,
    ← filterMap_volumes_eq_iff]
  have hports : (ComposeV3.request t name (svc.toV3 choices)).ports.map
      (fun m => (m.host.toNat, m.vm.toNat)) = (svc.ports.getD []).filterMap v3Pair := by
    rw [ComposeV3.request, Service.toV3, List.filterMap_map, List.map_filterMap]
    rfl
  have hvolumes : (ComposeV3.request t name (svc.toV3 choices)).volumes =
      (svc.volumes.getD []).filterMap fun s => (VolumeEntry.short s).translate :=
    List.filterMap_map
  have hup : (upRequest stackName name imageTarget svc).ports.map
      (fun p => (p.hostPort.toNat, p.vmPort.toNat)) = (svc.ports.getD []).filterMap upPair := by
    rw [upRequest, List.map_filterMap]
    rfl
  rw [← hports, ← hup, ← hvolumes]
  exact ⟨fun hsame => ⟨hsame.ports, hsame.volumes⟩, fun hsame => ⟨hsame.1, hsame.2⟩⟩

/-! ### An address and a mode -/

def addressService : Service :=
  { ports := some ["127.0.0.1:8080:80"], volumes := some ["/data:/data:ro"] }

def addressFile : ComposeFile where
  version := "3.8"
  services := AList.insert "web" addressService ∅
  networks := ∅
  volumes := ∅

def addressRequest : CreateVmRequest :=
  ComposeV3.request .ascii "web" (addressService.toV3 .plain)

theorem addressFile_translate : (addressFile.toV3 .plain).translate .ascii =
    .ok ((addressFile.toV3 .plain).requests .ascii) := by
  have hvalid : (addressFile.toV3 .plain).validate = .ok () := by decide
  exact ComposeV3.translate_ok_iff.mpr ⟨(ComposeV3.validate_ok_iff _).mp hvalid, rfl⟩

theorem addressRequest_mem : addressRequest ∈ (addressFile.toV3 .plain).requests .ascii :=
  ComposeV3.mem_requests.mpr ⟨"web", addressService.toV3 .plain, rfl, rfl⟩

theorem addressService_sameMappings_iff :
    SameMappings (upRequest "stack" "web" "" addressService) addressRequest ↔
      AgreedPorts ["127.0.0.1:8080:80"] ∧ ∀ s ∈ ["/data:/data:ro"], (parts s).length ≤ 2 :=
  sameMappings_iff addressFile_translate rfl addressRequest_mem rfl "stack" ""

/-- `vyoma up` drops the port and the volume, and the translation keeps both. -/
theorem addressService_dropped :
    (addressFile.toV3 .plain).translate .ascii =
      .ok ((addressFile.toV3 .plain).requests .ascii) ∧
    addressRequest ∈ (addressFile.toV3 .plain).requests .ascii ∧
    addressRequest.ports = [⟨8080, 80⟩] ∧ addressRequest.volumes = [⟨"/data", "/data"⟩] ∧
    (upRequest "stack" "web" "" addressService).ports = [] ∧
    (upRequest "stack" "web" "" addressService).volumes = [] ∧
    ¬SameMappings (upRequest "stack" "web" "" addressService) addressRequest := by
  have hports : addressRequest.ports = [⟨8080, 80⟩] := by decide
  have hup : (upRequest "stack" "web" "" addressService).ports = [] := by decide
  refine ⟨addressFile_translate, addressRequest_mem, hports, by decide, hup, by decide, fun h => ?_⟩
  have hsame := h.ports
  rw [hports, hup] at hsame
  simp at hsame

end ComposeFile

end Vyoma.Compose
