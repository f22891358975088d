import Mathlib.Data.List.Infix
import Vyoma.HashMaps
import Vyoma.RustText

/-!
# The catalog of kernel profiles

Profiles are kept in a hash map under their names. A name that is not a key is looked for as
the end of a profile's name, and the first such profile in the order of the map is returned.
Nothing asks the end to begin behind a slash, nor a second profile not to end the same way.
-/
namespace Vyoma.Image
open RustText

inductive WorkloadType where
  | database
  | edgeNetwork
  | aiInference
  | hardenedSecurity
  | universalGeneral
  deriving DecidableEq, Repr

structure KernelProfile where
  name : String
  version : String
  workload : WorkloadType
  description : String
  recommendedCmdline : List String
  features : List String
  minMemoryMb : UInt64
  minVcpu : UInt32
  digest : Option String
  signature : Option (List UInt8)
  deriving DecidableEq, Repr

/-- Every profile is kept under its own name. -/
structure KernelCatalog where
  profiles : HashMap String KernelProfile
  keyed : ∀ k p, profiles.lookup k = some p → p.name = k

/-- The profiles that `KernelCatalog::new` registers, in that order. -/
def officialProfiles : List KernelProfile :=
  [{ name := "vyoma/kernel-db"
     version := "6.16.9-vyoma-db"
     workload := .database
     description := "Tuned for database workloads (PostgreSQL, MongoDB, Redis, MySQL). Direct I/O, hugepages, deadline scheduler, zero swap."
     recommendedCmdline :=
       ["transparent_hugepage=always", "elevator=deadline", "noswap", "iomem=relaxed"]
     features := ["io_uring", "hugepages", "direct_io", "zero_swap", "sync_barrier_fast"]
     minMemoryMb := 512
     minVcpu := 2
     digest := none
     signature := none },
   { name := "vyoma/kernel-edge"
     version := "6.16.9-vyoma-net"
     workload := .edgeNetwork
     description := "Stripped-down micro-kernel for web servers & proxies (NGINX, Envoy). XDP/eBPF acceleration, minimal memory footprint."
     recommendedCmdline := ["quiet", "net.ifnames=0", "lpj=8000000"]
     features := ["xdp", "ebpf", "epoll_turbo", "virtio_net_multiqueue", "no_storage_drivers"]
     minMemoryMb := 128
     minVcpu := 1
     digest := none
     signature := none },
   { name := "vyoma/kernel-ai"
     version := "6.16.9-vyoma-ai"
     workload := .aiInference
     description := "High-bandwidth kernel for model inference (PyTorch, vLLM, Ollama). AVX-512 vector extensions, pinned memory, VFIO passthrough."
     recommendedCmdline := ["hugepagesz=1G", "default_hugepagesz=1G", "iommu=pt"]
     features := ["vfio_pci", "avx512", "numa_balancing", "hugepages_1g"]
     minMemoryMb := 2048
     minVcpu := 4
     digest := none
     signature := none },
   { name := "vyoma/kernel-hardened"
     version := "6.16.9-vyoma-sec"
     workload := .hardenedSecurity
     description := "Zero-Trust hardened kernel with confidential computing support (SEV-SNP / TDX), lockdown mode, and virtual TPM attestation."
     recommendedCmdline :=
       ["lockdown=confidentiality", "slab_nomerge", "init_on_alloc=1", "init_on_free=1",
         "page_alloc.shuffle=1"]
     features :=
       ["sev_snp", "intel_tdx", "vtpm_pcr_measure", "kernel_lockdown", "module_sig_force"]
     minMemoryMb := 256
     minVcpu := 1
     digest := none
     signature := none },
   { name := "vyoma/kernel-universal"
     version := "6.16.9-vyoma-pvh"
     workload := .universalGeneral
     description := "Default lightweight PVH boot kernel compatible with all general-purpose OCI container images."
     recommendedCmdline := ["console=hvc0", "root=/dev/vda", "rw"]
     features := ["pvh_boot", "virtio_blk", "virtio_net", "virtio_vsock"]
     minMemoryMb := 256
     minVcpu := 1
     digest := none
     signature := none }]

namespace KernelCatalog

def registerProfile (c : KernelCatalog) (profile : KernelProfile) : KernelCatalog where
  profiles := c.profiles.insert profile.name profile
  keyed k p h := by
    rw [HashMap.lookup_insert] at h
    split_ifs at h with hk
    · rw [← Option.some.inj h, hk]
    · exact c.keyed k p h

def empty : KernelCatalog where
  profiles := ∅
  keyed k p h := by
    rw [AList.lookup_empty] at h
    cases h

def new : KernelCatalog := officialProfiles.foldl registerProfile empty

/-- `name.trim()`. -/
def clean (name : String) : String := String.ofList (trim name.toList)

/-- `str::ends_with`. -/
def endsWith (s tail : String) : Bool := tail.toList.isSuffixOf s.toList

def getProfile (c : KernelCatalog) (order : HashMap.Traversal String KernelProfile)
    (name : String) : Option KernelProfile :=
  (c.profiles.lookup (clean name)).or
    ((HashMap.values (order.visit c.profiles)).find? fun p => endsWith p.name (clean name))

def listProfiles (c : KernelCatalog) (order : HashMap.Traversal String KernelProfile) :
    List KernelProfile := HashMap.values (order.visit c.profiles)

/-- The canonical name that an image name in lower case suggests. -/
def suggestedName (lower : String) : String :=
  let contains := fun word : String => decide (word.toList <:+: lower.toList)
  if contains "postgres" || contains "mongo" || contains "redis" || contains "mysql" ||
      contains "mariadb" || contains "scylla" || contains "cassandra" then "vyoma/kernel-db"
  else if contains "nginx" || contains "envoy" || contains "traefik" || contains "haproxy" ||
      contains "caddy" then "vyoma/kernel-edge"
  else if contains "pytorch" || contains "torch" || contains "tensorflow" || contains "vllm" ||
      contains "ollama" || contains "cuda" then "vyoma/kernel-ai"
  else if contains "vault" || contains "keycloak" || contains "harden" || contains "secure" then
    "vyoma/kernel-hardened"
  else "vyoma/kernel-universal"

/-- `suggest_profile_for_image`, of the image name in lower case. -/
def suggestProfileForImage (c : KernelCatalog) (order : HashMap.Traversal String KernelProfile)
    (lower : String) : Option KernelProfile := c.getProfile order (suggestedName lower)

/-- The answer does not depend on the order, and it is the named profile or one whose name
ends with a slash and the name. -/
def WellDefined (c : KernelCatalog) (name : String) : Prop :=
  (∀ order order', c.getProfile order name = c.getProfile order' name) ∧
    ∀ order p, c.getProfile order name = some p →
      p.name = clean name ∨ endsWith p.name ("/" ++ clean name) = true

section Lookup

variable {c : KernelCatalog} {name : String}

theorem mem_values_iff {p : KernelProfile} :
    p ∈ HashMap.values c.profiles ↔ c.profiles.lookup p.name = some p := by
  constructor
  · intro h
    obtain ⟨⟨k, _⟩, hmem, rfl⟩ := List.mem_map.mp h
    have hlookup := HashMap.mem_pairs.mp hmem
    rw [c.keyed k _ hlookup]
    exact hlookup
  · intro h
    exact List.mem_map.mpr ⟨(p.name, p), HashMap.mem_pairs.mpr h, rfl⟩

theorem getProfile_of_registered {p : KernelProfile} (h : c.profiles.lookup (clean name) = some p)
    (order : HashMap.Traversal String KernelProfile) : c.getProfile order name = some p := by
  rw [getProfile, h]
  rfl

theorem getProfile_of_notMem (h : clean name ∉ c.profiles)
    (order : HashMap.Traversal String KernelProfile) : c.getProfile order name =
      (HashMap.values (order.visit c.profiles)).find? fun p => endsWith p.name (clean name) := by
  rw [getProfile, AList.lookup_eq_none.mpr h]
  rfl

theorem mem_profiles_iff {k : String} :
    k ∈ c.profiles ↔ ∃ p ∈ HashMap.values c.profiles, p.name = k := by
  constructor
  · intro h
    obtain ⟨p, hp⟩ := Option.isSome_iff_exists.mp (AList.lookup_isSome.mpr h)
    have hname := c.keyed k p hp
    exact ⟨p, mem_values_iff.mpr (by rwa [hname]), hname⟩
  · rintro ⟨p, hp, rfl⟩
    exact AList.lookup_isSome.mp (by rw [mem_values_iff.mp hp]; rfl)

theorem name_injOn {p q : KernelProfile} (hp : p ∈ HashMap.values c.profiles)
    (hq : q ∈ HashMap.values c.profiles) (h : p.name = q.name) : p = q := by
  have hlookup := mem_values_iff.mp hp
  rw [h, mem_values_iff.mp hq] at hlookup
  exact (Option.some.inj hlookup).symm

/-- Without a registered profile of the name, the order does not matter exactly when at most
one name ends with it. -/
theorem getProfile_independent_iff (h : clean name ∉ c.profiles) :
    (∀ order order', c.getProfile order name = c.getProfile order' name) ↔
      ∀ k ∈ c.profiles, ∀ k' ∈ c.profiles, endsWith k (clean name) = true →
        endsWith k' (clean name) = true → k = k' := by
  simp only [getProfile_of_notMem h, HashMap.find?_values_independent_iff, mem_profiles_iff]
  constructor
  · rintro hunique _ ⟨p, hp, rfl⟩ _ ⟨q, hq, rfl⟩ hends hends'
    rw [hunique p hp q hq hends hends']
  · intro hunique p hp q hq hends hends'
    exact name_injOn hp hq (hunique p.name ⟨p, hp, rfl⟩ q.name ⟨q, hq, rfl⟩ hends hends')

/-- Every profile whose name ends with it is returned in some order. -/
theorem getProfile_names_iff (h : clean name ∉ c.profiles) :
    (∀ order p, c.getProfile order name = some p →
      p.name = clean name ∨ endsWith p.name ("/" ++ clean name) = true) ↔
    ∀ k ∈ c.profiles, endsWith k (clean name) = true → endsWith k ("/" ++ clean name) = true := by
  have hnot : ∀ p ∈ HashMap.values c.profiles, p.name ≠ clean name := by
    intro p hp he
    exact h (mem_profiles_iff.mpr ⟨p, hp, he⟩)
  simp only [getProfile_of_notMem h]
  constructor
  · intro hnames k hk hends
    obtain ⟨p, hp, rfl⟩ := mem_profiles_iff.mp hk
    have hfirst := HashMap.find?_values_first (mem_values_iff.mp hp)
      (p := fun p => endsWith p.name (clean name)) hends
    exact (hnames _ p hfirst).resolve_left (hnot p hp)
  · intro hslash order p hfind
    have hp := (HashMap.mem_values_visit order).mp (List.mem_of_find?_eq_some hfind)
    have hends := List.find?_some hfind
    exact .inr (hslash p.name (mem_profiles_iff.mpr ⟨p, hp, rfl⟩) hends)

end Lookup

/-- A lookup is well defined if and only if its name is registered, or every name that ends
with it has a slash before that end and at most one does. -/
theorem getProfile_wellDefined_iff (c : KernelCatalog) (name : String) :
    c.WellDefined name ↔ clean name ∈ c.profiles ∨
      (∀ k ∈ c.profiles, endsWith k (clean name) = true →
        endsWith k ("/" ++ clean name) = true) ∧
      ∀ k ∈ c.profiles, ∀ k' ∈ c.profiles, endsWith k (clean name) = true →
        endsWith k' (clean name) = true → k = k' := by
  by_cases hmem : clean name ∈ c.profiles
  · obtain ⟨p, hp⟩ := Option.isSome_iff_exists.mp (AList.lookup_isSome.mpr hmem)
    refine iff_of_true ⟨fun order order' => ?_, fun order q hq => .inl ?_⟩ (.inl hmem)
    · rw [getProfile_of_registered hp, getProfile_of_registered hp]
    · rw [getProfile_of_registered hp] at hq
      rw [← Option.some.inj hq]
      exact c.keyed _ p hp
  · rw [WellDefined, getProfile_independent_iff hmem, getProfile_names_iff hmem, or_iff_right hmem,
      and_comm]

/-! ## Catalogs that are built by registrations -/

/-- Any registrations on top of the official ones. -/
def built (registered : List KernelProfile) : KernelCatalog := registered.foldl registerProfile new

theorem mem_registerProfile {c : KernelCatalog} {profile : KernelProfile} {k : String} :
    k ∈ (c.registerProfile profile).profiles ↔ k = profile.name ∨ k ∈ c.profiles := by
  rw [registerProfile, AList.mem_insert]

theorem mem_foldl_registerProfile {c : KernelCatalog} {registered : List KernelProfile}
    {k : String} : k ∈ (registered.foldl registerProfile c).profiles ↔
      (∃ p ∈ registered, p.name = k) ∨ k ∈ c.profiles := by
  induction registered generalizing c with
  | nil => simp
  | cons p registered ih =>
    rw [List.foldl_cons, ih, mem_registerProfile]
    simp only [List.mem_cons, exists_eq_or_imp, eq_comm (a := k), or_assoc, or_left_comm]

theorem mem_built {registered : List KernelProfile} {k : String} :
    k ∈ (built registered).profiles ↔ (∃ p ∈ registered, p.name = k) ∨
      ∃ p ∈ officialProfiles, p.name = k := by
  rw [built, mem_foldl_registerProfile, new, mem_foldl_registerProfile]
  simp [empty]

theorem suggestedName_official (lower : String) :
    ∃ p ∈ officialProfiles, p.name = suggestedName lower := by
  unfold suggestedName
  dsimp only
  split_ifs <;> simp [officialProfiles]

/-- A suggestion always finds the profile of its own name, in any order. -/
theorem suggestProfileForImage_built (registered : List KernelProfile) (lower : String) :
    ∃ p, p.name = suggestedName lower ∧
      ∀ order, (built registered).suggestProfileForImage order lower = some p := by
  have htrimmed : ∀ p ∈ officialProfiles, clean p.name = p.name := by decide +kernel
  obtain ⟨official, hofficial, hname⟩ := suggestedName_official lower
  have hclean : clean (suggestedName lower) = suggestedName lower := by
    rw [← hname, htrimmed official hofficial]
  have hmem : suggestedName lower ∈ (built registered).profiles :=
    mem_built.mpr (.inr ⟨official, hofficial, hname⟩)
  obtain ⟨p, hp⟩ := Option.isSome_iff_exists.mp (AList.lookup_isSome.mpr hmem)
  refine ⟨p, (built registered).keyed _ p hp, fun order => ?_⟩
  exact getProfile_of_registered (by rwa [hclean]) order

/-- A second profile for databases. -/
def acmeDb : KernelProfile where
  name := "acme/kernel-db"
  version := "6.16.9-acme"
  workload := .database
  description := "Database kernel of an organisation."
  recommendedCmdline := []
  features := []
  minMemoryMb := 512
  minVcpu := 2
  digest := none
  signature := none

/-- With it, the order decides what `kernel-db` means; without it, `universal` finds a profile
although no slash stands before that end. -/
theorem kernelDb_depends_on_order :
    (built [acmeDb]).getProfile (HashMap.Traversal.inOrder _ _) "kernel-db" = some acmeDb ∧
    ((built [acmeDb]).getProfile (HashMap.Traversal.reversed _ _) "kernel-db").map
      KernelProfile.name = some "vyoma/kernel-db" ∧
    ¬ (built [acmeDb]).WellDefined "kernel-db" ∧ ¬ new.WellDefined "universal" := by
  have hfirst : (built [acmeDb]).getProfile (HashMap.Traversal.inOrder _ _) "kernel-db" =
      some acmeDb := by decide +kernel
  have hlast : ((built [acmeDb]).getProfile (HashMap.Traversal.reversed _ _) "kernel-db").map
      KernelProfile.name = some "vyoma/kernel-db" := by decide +kernel
  refine ⟨hfirst, hlast, fun h => ?_, fun h => ?_⟩
  · rw [← h.1 (HashMap.Traversal.inOrder _ _), hfirst] at hlast
    exact absurd hlast (by decide +kernel)
  · obtain ⟨p, hp, hname⟩ : ∃ p, new.getProfile (HashMap.Traversal.inOrder _ _) "universal" =
        some p ∧ p.name = "vyoma/kernel-universal" := ⟨_, rfl, rfl⟩
    have hclaimed := h.2 _ p hp
    rw [hname] at hclaimed
    exact absurd hclaimed (by decide +kernel)

end KernelCatalog

end Vyoma.Image
