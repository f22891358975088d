import Vyoma.ComposeV3

/-!
# The dependencies of compose services

`start_order` succeeds exactly when every dependency is a service and no service depends on
itself, directly or through others, and then lists every service once, dependencies first. The
validation of version 3 checks that dependencies are services and does not look for cycles.
-/
namespace Vyoma.Compose
open DepthFirst

/-! ## The start order -/

/-- Every service is listed once, as it is in the file and after the services it depends on. -/
structure StartOrder (compose : VyomaCompose) (order : List (String × Service)) : Prop where
  once : ∀ name, (order.map Prod.fst).count name = if (compose.service name).isSome then 1 else 0
  entries : ∀ e ∈ order, compose.service e.1 = some e.2
  before : ∀ a b, Relation.TransGen compose.DependsOn a b → [b, a].Sublist (order.map Prod.fst)

/-- Sorting forgets the order. -/
theorem mergeSort_of_perm {names names' : List String} (h : names.Perm names') :
    (names.mergeSort fun a b => decide (a ≤ b)) = names'.mergeSort fun a b => decide (a ≤ b) := by
  have hsorted : ∀ l : List String,
      (l.mergeSort fun a b => decide (a ≤ b)).Pairwise fun a b => decide (a ≤ b) = true := by
    refine List.pairwise_mergeSort (fun a b c hab hbc => ?_) fun a b => ?_
    · simp only [decide_eq_true_eq] at hab hbc ⊢
      exact String.le_trans hab hbc
    · simp only [Bool.or_eq_true, decide_eq_true_eq]
      exact String.le_total a b
  refine List.Perm.eq_of_pairwise (fun a b _ _ hab hba => ?_) (hsorted names) (hsorted names')
    ((List.mergeSort_perm _ _).trans (h.trans (List.mergeSort_perm _ _).symm))
  simp only [decide_eq_true_eq] at hab hba
  exact String.le_antisymm hab hba

namespace VyomaCompose

variable {compose compose' : VyomaCompose}

theorem startOrder_eq_ok_iff {order : List (String × Service)} :
    compose.startOrder = .ok order ↔ ∃ s, compose.search = .ok s ∧ s.order = order := by
  unfold startOrder
  cases compose.search <;> simp

theorem startOrder_isStartOrder {order : List (String × Service)}
    (h : compose.startOrder = .ok order) : StartOrder compose order := by
  obtain ⟨-, hnodup, hbefore⟩ := startOrder_spec h
  obtain ⟨s, hsearch, rfl⟩ := startOrder_eq_ok_iff.mp h
  obtain ⟨hextends, hall⟩ := extends_visitAll (fun a ha => mem_sortedNames.mp ha) ordered_empty
    hsearch
  have hmem : ∀ name, name ∈ s.order.map Prod.fst ↔ (compose.service name).isSome := by
    intro name
    constructor
    · intro hname
      obtain ⟨e, he, rfl⟩ := List.mem_map.mp hname
      rw [hextends.ordered.entries e he]
      rfl
    · intro hsome
      exact (hextends.ordered.visited name).mp (hall name (mem_sortedNames.mpr hsome))
  refine ⟨fun name => ?_, hextends.ordered.entries, hbefore⟩
  split_ifs with hsome
  · exact List.count_eq_one_of_mem hnodup ((hmem name).mpr hsome)
  · exact List.count_eq_zero_of_not_mem fun hname => hsome ((hmem name).mp hname)

/-- A service that leads to itself would be listed before itself. -/
theorem acyclic_of_startOrder {order : List (String × Service)}
    (h : compose.startOrder = .ok order) : compose.Acyclic := by
  obtain ⟨-, hnodup, hbefore⟩ := startOrder_spec h
  intro a hcycle
  have htwice : ([a, a] : List String).Nodup := hnodup.sublist (hbefore a a hcycle)
  simp at htwice

theorem startOrder_ok_iff :
    (∃ order, compose.startOrder = .ok order) ↔ compose.Defined ∧ compose.Acyclic := by
  constructor
  · rintro ⟨order, h⟩
    exact ⟨(startOrder_spec h).1, acyclic_of_startOrder h⟩
  · rintro ⟨hdefined, hacyclic⟩
    exact startOrder_succeeds hdefined hacyclic

theorem service_of_sameContents (h : HashMap.SameContents compose.services compose'.services) :
    compose.service = compose'.service := by
  funext name
  exact AList.perm_lookup h

/-- The services are visited in the order of their names. -/
theorem sortedNames_of_sameContents
    (h : HashMap.SameContents compose.services compose'.services) :
    compose.sortedNames = compose'.sortedNames := by
  have hperm : compose.services.keys.Perm compose'.services.keys := h.map Sigma.fst
  exact mergeSort_of_perm hperm

theorem search_of_sameContents (h : HashMap.SameContents compose.services compose'.services) :
    compose.search = compose'.search := by
  have hlength : compose.services.keys.length = compose'.services.keys.length :=
    (h.map Sigma.fst).length_eq
  unfold search
  rw [service_of_sameContents h, sortedNames_of_sameContents h, hlength]

/-- `start_order` sorts the services topologically, whatever the order of the map. -/
theorem startOrder_correct (compose : VyomaCompose) :
    ((∃ order, compose.startOrder = .ok order) ↔ compose.Defined ∧ compose.Acyclic) ∧
      (∀ order, compose.startOrder = .ok order → StartOrder compose order) ∧
      ∀ compose' : VyomaCompose, HashMap.SameContents compose.services compose'.services →
        compose'.startOrder = compose.startOrder := by
  refine ⟨startOrder_ok_iff, fun order h => startOrder_isStartOrder h, fun compose' h => ?_⟩
  unfold startOrder
  rw [search_of_sameContents h]

end VyomaCompose

/-! ## The validation of version 3 -/

namespace ComposeFile

variable {compose : ComposeFile}

/-- No service asks for ports. -/
def WithoutPorts (compose : ComposeFile) : Prop :=
  ∀ name svc, compose.service name = some svc → svc.ports.getD [] = []

/-- Services name networks of the file. -/
def DefinedNetworks (compose : ComposeFile) : Prop :=
  ∀ name svc, compose.service name = some svc →
    ∀ net ∈ svc.networks, net = "default" ∨ net ∈ compose.networks

/-- A file without ports is valid in version 3 where every dependency is a service. -/
theorem validate_toV3_ok_iff (choices : V3Choices) (hports : compose.WithoutPorts)
    (hnetworks : compose.DefinedNetworks) :
    (compose.toV3 choices).validate = .ok () ↔ compose.Defined := by
  rw [ComposeV3.validate_ok_iff]
  have hservices : ∀ name, name ∈ (compose.toV3 choices).services ↔
      (compose.service name).isSome := by
    intro name
    rw [← AList.lookup_isSome, lookup_services_toV3, Option.isSome_map]
  constructor
  · rintro ⟨hdependencies, -, -⟩ a b ⟨svc, hsvc, hdep⟩
    have hlookup : (compose.toV3 choices).services.lookup a = some (svc.toV3 choices) := by
      rw [lookup_services_toV3, hsvc, Option.map_some]
    exact (hservices b).mp (hdependencies a _ hlookup b (mem_dependsOn_toV3.mpr hdep))
  · intro hdefined
    refine ⟨fun name service hlookup dep hdep => ?_, fun name service hlookup net hnet => ?_, ?_⟩
    · rw [lookup_services_toV3, Option.map_eq_some_iff] at hlookup
      obtain ⟨svc, hsvc, rfl⟩ := hlookup
      exact (hservices dep).mpr (hdefined name dep ⟨svc, hsvc, mem_dependsOn_toV3.mp hdep⟩)
    · rw [lookup_services_toV3, Option.map_eq_some_iff] at hlookup
      obtain ⟨svc, hsvc, rfl⟩ := hlookup
      rw [mem_networks_toV3]
      exact hnetworks name svc hsvc net hnet
    · have hnone : ∀ e ∈ HashMap.pairs (compose.toV3 choices).services,
          e.2.publishedPorts = [] := by
        rintro ⟨name, service⟩ hmem
        rw [HashMap.mem_pairs, lookup_services_toV3, Option.map_eq_some_iff] at hmem
        obtain ⟨svc, hsvc, rfl⟩ := hmem
        simp [ServiceV3.publishedPorts, Service.toV3, hports name svc hsvc]
      rw [List.flatMap_eq_nil_iff.mpr hnone]
      exact List.nodup_nil

/-- The two paths accept the same files except those whose dependencies are all services and
have a cycle: these have no start order and are valid in version 3. -/
theorem startOrder_iff_validate (compose : ComposeFile) (choices : V3Choices)
    (hports : compose.WithoutPorts) (hnetworks : compose.DefinedNetworks) :
    ((∃ order, compose.startOrder = .ok order) ↔ (compose.toV3 choices).validate = .ok ()) ↔
      (compose.Defined → compose.Acyclic) := by
  rw [VyomaCompose.startOrder_ok_iff, validate_toV3_ok_iff choices hports hnetworks]
  tauto

/-! ### Two services that depend on each other -/

def ringFile : ComposeFile where
  version := "3.8"
  services := AList.insert "web" { dependsOn := some ["db"] }
    (AList.insert "db" { dependsOn := some ["web"] } ∅)
  networks := ∅
  volumes := ∅

theorem service_ringFile {name : String} {svc : Service} (h : ringFile.service name = some svc) :
    (name = "web" ∧ svc = { dependsOn := some ["db"] }) ∨
      (name = "db" ∧ svc = { dependsOn := some ["web"] }) := by
  simp only [VyomaCompose.service, ringFile, HashMap.lookup_insert] at h
  split_ifs at h with hweb hdb
  · exact .inl ⟨hweb.symm, (Option.some.inj h).symm⟩
  · exact .inr ⟨hdb.symm, (Option.some.inj h).symm⟩
  · simp at h

theorem ringFile_withoutPorts : ringFile.WithoutPorts := by
  intro name svc h
  obtain ⟨-, rfl⟩ | ⟨-, rfl⟩ := service_ringFile h <;> rfl

theorem ringFile_definedNetworks : ringFile.DefinedNetworks := by
  intro name svc h net hnet
  obtain ⟨-, rfl⟩ | ⟨-, rfl⟩ := service_ringFile h <;> cases hnet

theorem ringFile_startOrder_iff_validate :
    ((∃ order, ringFile.startOrder = .ok order) ↔
      (ringFile.toV3 .plain).validate = .ok ()) ↔ (ringFile.Defined → ringFile.Acyclic) :=
  startOrder_iff_validate ringFile .plain ringFile_withoutPorts ringFile_definedNetworks

/-- The file has no start order and is valid in version 3. -/
theorem ringFile_disagree : ringFile.WithoutPorts ∧ ringFile.DefinedNetworks ∧
    ¬((∃ order, ringFile.startOrder = .ok order) ↔
      (ringFile.toV3 .plain).validate = .ok ()) := by
  have hcycle : Relation.TransGen ringFile.DependsOn "web" "web" :=
    .tail (.single ⟨_, rfl, List.mem_singleton_self "db"⟩) ⟨_, rfl, List.mem_singleton_self "web"⟩
  refine ⟨ringFile_withoutPorts, ringFile_definedNetworks, fun hagree => ?_⟩
  have hvalid : (ringFile.toV3 .plain).validate = .ok () := by decide
  obtain ⟨order, horder⟩ := hagree.mpr hvalid
  exact VyomaCompose.acyclic_of_startOrder horder "web" hcycle

end ComposeFile

end Vyoma.Compose
