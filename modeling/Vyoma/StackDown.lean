import Vyoma.DepthFirst
import Vyoma.HashMaps

/-!
# Stopping a stack

`vyoma down` collects the VMs whose `vyoma.stack` label is the name of the stack in a map
from services to VMs, orders the services by the compose file, dependents first, and stops
the VM of each. The map has one VM for each service, so replicas get lost. When the compose
file gives no order, the services are stopped in the order of the map.
-/
namespace Vyoma.Compose
open DepthFirst

inductive BuildSource where
  | path (path : String)
  | config (context : String) (vyomafile : Option String)

structure Service where
  image : Option String := none
  build : Option BuildSource := none
  cpus : Option UInt32 := none
  memory : Option UInt32 := none
  ports : Option (List String) := none
  volumes : Option (List String) := none
  environment : Option (HashMap String String) := none
  command : Option String := none
  dependsOn : Option (List String) := none
  networks : List String := []

structure VyomaCompose where
  version : String
  services : HashMap String Service

/-! ## The order of the services -/

def orderMessage : OrderError String → String
  | .circular name => "Circular dependency detected involving " ++ name
  | .undefined name dep => "Service '" ++ name ++ "' depends on undefined service '" ++ dep ++ "'"
  | .exhausted => ""

namespace VyomaCompose

variable (compose : VyomaCompose)

def service (name : String) : Option Service := compose.services.lookup name

/-- The names in the order in which they are visited. -/
def sortedNames : List String := compose.services.keys.mergeSort fun a b => decide (a ≤ b)

/-- The search with fuel for every service. -/
def search : Except (OrderError String) (Search String Service) :=
  visitAll compose.service (fun service => service.dependsOn.getD [])
    (compose.services.keys.length + 1) compose.sortedNames .empty

def startOrder : Except String (List (String × Service)) :=
  match compose.search with
  | .error e => .error (orderMessage e)
  | .ok s => .ok s.order

/-- The service depends on the other by its `depends_on`. -/
abbrev DependsOn : String → String → Prop :=
  DepthFirst.DependsOn compose.service fun service => service.dependsOn.getD []

/-- Every dependency is a service of the file. -/
abbrev Defined : Prop := DepthFirst.Defined compose.service fun service => service.dependsOn.getD []

abbrev Acyclic : Prop := DepthFirst.Acyclic compose.service fun service => service.dependsOn.getD []

end VyomaCompose

/-! ## The stack -/

structure VmSummary where
  id : String
  labels : HashMap String String

/-- The answer of `/ps`: the VMs of the daemon's map. -/
structure ListResponse where
  vms : List VmSummary
  nodup : (vms.map VmSummary.id).Nodup

def VmSummary.stack (vm : VmSummary) : Option String := vm.labels.lookup "vyoma.stack"

def VmSummary.service (vm : VmSummary) : Option String := vm.labels.lookup "vyoma.service"

/-- The name under which a VM is stopped. -/
def VmSummary.serviceName (vm : VmSummary) : String := vm.service.getD vm.id

def vmsToStop (stackName : String) (vms : List VmSummary) : HashMap String String :=
  vms.foldl (fun m vm => if vm.stack = some stackName then m.insert vm.serviceName vm.id else m) ∅

def push (names : List String) (name : String) : List String :=
  if name ∈ names then names else names ++ [name]

/-- The services of the file, dependents first. A file that is not there, does not parse or
has no order gives none. -/
def fileOrder : Option VyomaCompose → List String
  | none => []
  | some compose =>
    match compose.startOrder with
    | .error _ => []
    | .ok order => order.reverse.map Prod.fst

/-- The services of the file, then those of the map that it does not name. -/
def stopOrder (order : HashMap.Traversal String String) (toStop : HashMap String String)
    (compose : Option VyomaCompose) : List String :=
  (order.visit toStop).keys.foldl push (fileOrder compose)

/-- The VMs that are stopped, in order, and what is printed in the end. -/
structure Down where
  stops : List String
  message : String

def down (stackName : String) (list : Option ListResponse) (compose : Option VyomaCompose)
    (order : HashMap.Traversal String String) : Down :=
  let toStop := list.elim ∅ fun list => vmsToStop stackName list.vms
  if toStop.keys.isEmpty then ⟨[], "No running services found for stack '" ++ stackName ++ "'."⟩
  else ⟨(stopOrder order toStop compose).filterMap toStop.lookup, "Stack stopped and removed."⟩

/-- Each VM of the stack is stopped once and no other VM is, and a VM of a service is stopped
before those of the services that it depends on, directly or through others. -/
structure StopsStack (stackName : String) (vms : List VmSummary) (compose : VyomaCompose)
    (stops : List String) : Prop where
  once : ∀ vm ∈ vms, vm.stack = some stackName → stops.count vm.id = 1
  only : ∀ id ∈ stops, ∃ vm ∈ vms, vm.stack = some stackName ∧ vm.id = id
  ordered : ∀ vm ∈ vms, ∀ vm' ∈ vms, vm.stack = some stackName → vm'.stack = some stackName →
    ∀ service service', vm.service = some service → vm'.service = some service' →
      Relation.TransGen compose.DependsOn service service' → [vm.id, vm'.id].Sublist stops

/-- No two VMs of the stack are stopped under one name. -/
def Unshared (stackName : String) (vms : List VmSummary) : Prop :=
  ∀ vm ∈ vms, ∀ vm' ∈ vms, vm.stack = some stackName → vm'.stack = some stackName →
    vm.serviceName = vm'.serviceName → vm.id = vm'.id

/-- No service of a VM of the stack depends on that of another. -/
def Unrelated (stackName : String) (vms : List VmSummary) (compose : VyomaCompose) : Prop :=
  ∀ vm ∈ vms, ∀ vm' ∈ vms, vm.stack = some stackName → vm'.stack = some stackName →
    ∀ service service', vm.service = some service → vm'.service = some service' →
      ¬Relation.TransGen compose.DependsOn service service'

/-! ## What the order is -/

namespace VyomaCompose

variable {compose : VyomaCompose}

theorem isSome_service_iff {name : String} :
    (compose.service name).isSome ↔ name ∈ compose.services.keys := by
  rw [service, AList.lookup_isSome, AList.mem_keys]

theorem mem_sortedNames {name : String} :
    name ∈ compose.sortedNames ↔ (compose.service name).isSome := by
  rw [isSome_service_iff, sortedNames, List.mem_mergeSort]

theorem startOrder_spec {order : List (String × Service)} (h : compose.startOrder = .ok order) :
    compose.Defined ∧ (order.map Prod.fst).Nodup ∧
      ∀ a b, Relation.TransGen compose.DependsOn a b → [b, a].Sublist (order.map Prod.fst) := by
  unfold startOrder at h
  cases hsearch : compose.search with
  | error e =>
    rw [hsearch] at h
    cases h
  | ok s =>
    rw [hsearch] at h
    cases h
    obtain ⟨hextends, hall⟩ := extends_visitAll (fun a ha => mem_sortedNames.mp ha) ordered_empty
      hsearch
    have hlisted : ∀ a b, compose.DependsOn a b → a ∈ s.order.map Prod.fst := by
      intro a b hedge
      obtain ⟨node, hnode, -⟩ := hedge
      rw [← hextends.ordered.visited]
      exact hall a (mem_sortedNames.mpr (hnode ▸ rfl))
    refine ⟨fun a b hedge => ?_, hextends.ordered.nodup, fun a b hpath => ?_⟩
    · obtain ⟨l, l', hsplit⟩ := List.append_of_mem (hlisted a b hedge)
      exact (hextends.ordered.closed l a l' hsplit b hedge).1
    · have hfirst : ∃ c, compose.DependsOn a c := by
        obtain ⟨c, hedge, -⟩ := Relation.TransGen.head'_iff.mp hpath
        exact ⟨c, hedge⟩
      obtain ⟨c, hedge⟩ := hfirst
      exact hextends.ordered.sublist (hlisted a c hedge) hpath

/-- The search fails at a cycle or at an undefined dependency only; its fuel is enough. -/
theorem blocked_of_search {e : OrderError String} (h : compose.search = .error e) :
    Blocked compose.service (fun service => service.dependsOn.getD []) e :=
  visitAll_error (fun _ ha => List.mem_toFinset.mpr (isSome_service_iff.mp ha))
    (Nat.lt_succ_of_le (List.toFinset_card_le compose.services.keys))
    (fun _ ha => mem_sortedNames.mp ha) ordered_empty rfl h

theorem startOrder_succeeds (hdefined : compose.Defined) (hacyclic : compose.Acyclic) :
    ∃ order, compose.startOrder = .ok order := by
  unfold startOrder
  cases hsearch : compose.search with
  | error e => exact absurd (blocked_of_search hsearch) (not_blocked hdefined hacyclic e)
  | ok s => exact ⟨s.order, rfl⟩

end VyomaCompose

/-! ## What is stopped -/

theorem foldl_push {names : List String} (hnodup : names.Nodup) (start : List String) :
    names.foldl push start = start ++ names.filter fun name => decide (name ∉ start) := by
  induction names generalizing start with
  | nil => rw [List.foldl_nil, List.filter_nil, List.append_nil]
  | cons name rest ih =>
    obtain ⟨hname, hrest⟩ := List.nodup_cons.mp hnodup
    rw [List.foldl_cons, ih hrest, push]
    split_ifs with hmem
    · rw [List.filter_cons_of_neg (by simpa using hmem)]
    · rw [List.filter_cons_of_pos (by simpa using hmem), List.append_assoc, List.singleton_append]
      congr 2
      refine List.filter_congr fun other hother => ?_
      have hne : other ≠ name := fun he => hname (he ▸ hother)
      simp [hne]

section Stack

variable {stackName : String} {vms : List VmSummary}

/-- The VMs in the map are VMs of the stack, under their names. -/
theorem mem_of_lookup_vmsToStop {name id : String}
    (h : (vmsToStop stackName vms).lookup name = some id) :
    ∃ vm ∈ vms, vm.stack = some stackName ∧ vm.serviceName = name ∧ vm.id = id := by
  unfold vmsToStop at h
  induction vms using List.reverseRecOn with
  | nil => cases h
  | append_singleton vms vm ih =>
    rw [List.foldl_append, List.foldl_cons, List.foldl_nil] at h
    have hbefore : ∀ {vm'}, vm' ∈ vms → vm' ∈ vms ++ [vm] := fun hmem => List.mem_append_left _ hmem
    split_ifs at h with hstack
    · rw [HashMap.lookup_insert] at h
      split_ifs at h with hname
      · cases h
        exact ⟨vm, List.mem_append_right _ (List.mem_singleton_self vm), hstack, hname, rfl⟩
      · obtain ⟨vm', hmem, hrest⟩ := ih h
        exact ⟨vm', hbefore hmem, hrest⟩
    · obtain ⟨vm', hmem, hrest⟩ := ih h
      exact ⟨vm', hbefore hmem, hrest⟩

/-- Every VM of the stack has its name in the map. -/
theorem mem_keys_vmsToStop {vm : VmSummary} (hmem : vm ∈ vms) (hstack : vm.stack = some stackName) :
    vm.serviceName ∈ vmsToStop stackName vms := by
  unfold vmsToStop
  induction vms using List.reverseRecOn with
  | nil => cases hmem
  | append_singleton vms last ih =>
    rw [List.foldl_append, List.foldl_cons, List.foldl_nil]
    obtain hmem | hmem := List.mem_append.mp hmem
    · split_ifs
      · exact (AList.mem_insert _).mpr (.inr (ih hmem))
      · exact ih hmem
    · rw [List.mem_singleton.mp hmem] at hstack ⊢
      rw [if_pos hstack]
      exact (AList.mem_insert _).mpr (.inl rfl)

theorem lookup_vmsToStop (hunshared : Unshared stackName vms) {vm : VmSummary} (hmem : vm ∈ vms)
    (hstack : vm.stack = some stackName) :
    (vmsToStop stackName vms).lookup vm.serviceName = some vm.id := by
  obtain ⟨id, hid⟩ := Option.isSome_iff_exists.mp
    (AList.lookup_isSome.mpr (mem_keys_vmsToStop hmem hstack))
  obtain ⟨vm', hmem', hstack', hname, rfl⟩ := mem_of_lookup_vmsToStop hid
  rw [hid, hunshared vm' hmem' vm hmem hstack' hstack hname]

end Stack

/-- Nothing is stopped when there is nothing to stop. -/
theorem stops_down (stackName : String) (list : ListResponse) (compose : Option VyomaCompose)
    (order : HashMap.Traversal String String) :
    (down stackName (some list) compose order).stops =
      (stopOrder order (vmsToStop stackName list.vms) compose).filterMap
        (vmsToStop stackName list.vms).lookup := by
  unfold down
  dsimp only [Option.elim_some]
  split_ifs with hempty
  · symm
    refine List.filterMap_eq_nil_iff.mpr fun name _ => ?_
    rw [AList.lookup_eq_none, AList.mem_keys, List.isEmpty_iff.mp hempty]
    exact List.not_mem_nil
  · rfl

theorem fileOrder_ok {compose : VyomaCompose} {order : List (String × Service)}
    (h : compose.startOrder = .ok order) :
    fileOrder (some compose) = (order.map Prod.fst).reverse := by
  simp only [fileOrder, h, List.map_reverse]

theorem fileOrder_error {compose : VyomaCompose} {e : String}
    (h : compose.startOrder = .error e) : fileOrder (some compose) = [] := by
  simp only [fileOrder, h]

theorem fileOrder_nodup (compose : VyomaCompose) : (fileOrder (some compose)).Nodup := by
  cases horder : compose.startOrder with
  | error e =>
    rw [fileOrder_error horder]
    exact List.nodup_nil
  | ok order =>
    rw [fileOrder_ok horder, List.nodup_reverse]
    exact (VyomaCompose.startOrder_spec horder).2.1

section Order

variable (order : HashMap.Traversal String String) (toStop : HashMap String String)
  (compose : VyomaCompose)

theorem stopOrder_eq : stopOrder order toStop (some compose) = fileOrder (some compose) ++
    (order.visit toStop).keys.filter fun name => decide (name ∉ fileOrder (some compose)) :=
  foldl_push (order.visit toStop).keys_nodup _

theorem stopOrder_nodup : (stopOrder order toStop (some compose)).Nodup := by
  rw [stopOrder_eq]
  refine (fileOrder_nodup compose).append ((order.visit toStop).keys_nodup.filter _) ?_
  intro name hfile hrest
  simpa [hfile] using (List.mem_filter.mp hrest).2

theorem mem_stopOrder {name : String} (h : name ∈ toStop) :
    name ∈ stopOrder order toStop (some compose) := by
  have hvisit : name ∈ (order.visit toStop).keys :=
    ((order.sameContents toStop).map Sigma.fst).mem_iff.mpr h
  rw [stopOrder_eq, List.mem_append, List.mem_filter]
  by_cases hfile : name ∈ fileOrder (some compose)
  · exact .inl hfile
  · exact .inr ⟨hvisit, by simpa using hfile⟩

end Order

/-! ## When the stack is stopped -/

section Down

variable {stackName : String} {list : ListResponse} {compose : VyomaCompose}

/-- A VM is its id. -/
theorem ListResponse.eq_of_id {vm vm' : VmSummary} (h : vm ∈ list.vms) (h' : vm' ∈ list.vms)
    (hid : vm.id = vm'.id) : vm = vm' :=
  List.inj_on_of_nodup_map list.nodup h h' hid

theorem stops_nodup (order : HashMap.Traversal String String) :
    (down stackName (some list) (some compose) order).stops.Nodup := by
  rw [stops_down]
  refine (stopOrder_nodup order _ compose).filterMap fun name name' id hid hid' => ?_
  obtain ⟨vm, hmem, -, rfl, rfl⟩ := mem_of_lookup_vmsToStop hid
  obtain ⟨vm', hmem', -, rfl, hsame⟩ := mem_of_lookup_vmsToStop hid'
  rw [ListResponse.eq_of_id hmem hmem' hsame.symm]

theorem mem_stops (order : HashMap.Traversal String String)
    (hunshared : Unshared stackName list.vms) {vm : VmSummary} (hmem : vm ∈ list.vms)
    (hstack : vm.stack = some stackName) :
    vm.id ∈ (down stackName (some list) (some compose) order).stops := by
  rw [stops_down, List.mem_filterMap]
  exact ⟨vm.serviceName, mem_stopOrder order _ compose (mem_keys_vmsToStop hmem hstack),
    lookup_vmsToStop hunshared hmem hstack⟩

/-- What is stopped is of the stack, in any case. -/
theorem stack_of_mem_stops {order : HashMap.Traversal String String} {id : String}
    (h : id ∈ (down stackName (some list) (some compose) order).stops) :
    ∃ vm ∈ list.vms, vm.stack = some stackName ∧
      (vmsToStop stackName list.vms).lookup vm.serviceName = some id ∧ vm.id = id := by
  rw [stops_down, List.mem_filterMap] at h
  obtain ⟨name, -, hid⟩ := h
  obtain ⟨vm, hmem, hstack, rfl, rfl⟩ := mem_of_lookup_vmsToStop hid
  exact ⟨vm, hmem, hstack, hid, rfl⟩

/-- Dependents come first in the order of the file. -/
theorem sublist_fileOrder (hdefined : compose.Defined) (hacyclic : compose.Acyclic) {a b : String}
    (h : Relation.TransGen compose.DependsOn a b) : [a, b].Sublist (fileOrder (some compose)) := by
  obtain ⟨order, horder⟩ := VyomaCompose.startOrder_succeeds hdefined hacyclic
  rw [fileOrder_ok horder]
  simpa using ((VyomaCompose.startOrder_spec horder).2.2 a b h).reverse

theorem sublist_stops (order : HashMap.Traversal String String)
    (hunshared : Unshared stackName list.vms) {vm vm' : VmSummary} (hmem : vm ∈ list.vms)
    (hmem' : vm' ∈ list.vms) (hstack : vm.stack = some stackName)
    (hstack' : vm'.stack = some stackName)
    (h : [vm.serviceName, vm'.serviceName].Sublist (stopOrder order (vmsToStop stackName list.vms)
      (some compose))) :
    [vm.id, vm'.id].Sublist (down stackName (some list) (some compose) order).stops := by
  have hstops := h.filterMap (vmsToStop stackName list.vms).lookup
  rw [← stops_down] at hstops
  simpa [lookup_vmsToStop hunshared hmem hstack, lookup_vmsToStop hunshared hmem' hstack']
    using hstops

/-- If all VMs of the stack are stopped, no two of them share a name. -/
theorem unshared_of_stopsStack {order : HashMap.Traversal String String}
    (h : StopsStack stackName list.vms compose
      (down stackName (some list) (some compose) order).stops) :
    Unshared stackName list.vms := by
  have hlookup : ∀ vm ∈ list.vms, vm.stack = some stackName →
      (vmsToStop stackName list.vms).lookup vm.serviceName = some vm.id := by
    intro vm hmem hstack
    have hstopped : vm.id ∈ (down stackName (some list) (some compose) order).stops := by
      rw [← List.count_pos_iff, h.once vm hmem hstack]
      exact Nat.one_pos
    obtain ⟨vm', hmem', -, hname, hid⟩ := stack_of_mem_stops hstopped
    rwa [ListResponse.eq_of_id hmem' hmem hid] at hname
  intro vm hmem vm' hmem' hstack hstack' hname
  have hsame := hlookup vm hmem hstack
  rw [hname, hlookup vm' hmem' hstack'] at hsame
  exact (Option.some.inj hsame).symm

/-- In a list without repetitions, one of two elements is first. -/
theorem not_sublist_swap {l : List String} (hnodup : l.Nodup) {a b : String}
    (h : [a, b].Sublist l) : ¬[b, a].Sublist l := by
  induction l with
  | nil => cases h
  | cons c l ih =>
    obtain ⟨hc, hrest⟩ := List.nodup_cons.mp hnodup
    intro h'
    obtain hl | ⟨r, hr, hl⟩ := List.sublist_cons_iff.mp h
    · obtain hl' | ⟨r', hr', -⟩ := List.sublist_cons_iff.mp h'
      · exact ih hrest hl hl'
      · obtain ⟨rfl, -⟩ := List.cons.inj hr'
        exact hc (hl.subset (by simp))
    · obtain ⟨rfl, rfl⟩ := List.cons.inj hr
      obtain hl' | ⟨r', hr', -⟩ := List.sublist_cons_iff.mp h'
      · exact hc (hl'.subset (by simp))
      · obtain ⟨rfl, -⟩ := List.cons.inj hr'
        exact hc (hl.subset (by simp))

/-- Without an order of the file, the order of the map decides. -/
theorem stops_reversed {e : String} (h : compose.startOrder = .error e) :
    (down stackName (some list) (some compose) (.reversed _ _)).stops =
      (down stackName (some list) (some compose) (.inOrder _ _)).stops.reverse := by
  have hkeys : ((HashMap.Traversal.reversed String String).visit
      (vmsToStop stackName list.vms)).keys = (vmsToStop stackName list.vms).keys.reverse :=
    List.map_reverse
  rw [stops_down, stops_down, stopOrder_eq, stopOrder_eq, fileOrder_error h, hkeys]
  simp only [List.not_mem_nil, not_false_eq_true, decide_true, List.filter_true, List.nil_append]
  rw [List.filterMap_reverse]
  rfl

/-- For every compose file without cycles: the stack is stopped, in whatever order the map
is met, exactly when its VMs have names of their own and either every dependency of the file
is defined or no service of the stack depends on another. -/
theorem down_stops_stack_iff (stackName : String) (list : ListResponse) (compose : VyomaCompose)
    (hacyclic : compose.Acyclic) :
    (∀ order, StopsStack stackName list.vms compose
      (down stackName (some list) (some compose) order).stops) ↔
    Unshared stackName list.vms ∧
      (compose.Defined ∨ Unrelated stackName list.vms compose) := by
  constructor
  · intro h
    refine ⟨unshared_of_stopsStack (h (.inOrder _ _)), ?_⟩
    by_cases hdefined : compose.Defined
    · exact .inl hdefined
    refine .inr fun vm hmem vm' hmem' hstack hstack' service service' hservice hservice' hpath => ?_
    cases horder : compose.startOrder with
    | ok order => exact hdefined (VyomaCompose.startOrder_spec horder).1
    | error e =>
      have hforth := (h (.inOrder _ _)).ordered vm hmem vm' hmem' hstack hstack' service service'
        hservice hservice' hpath
      have hback := (h (.reversed _ _)).ordered vm hmem vm' hmem' hstack hstack' service service'
        hservice hservice' hpath
      rw [stops_reversed horder] at hback
      exact not_sublist_swap (stops_nodup _) hforth (by simpa using hback.reverse)
  · rintro ⟨hunshared, hcases⟩ order
    refine ⟨fun vm hmem hstack => ?_, fun id hid => ?_, ?_⟩
    · exact List.count_eq_one_of_mem (stops_nodup order) (mem_stops order hunshared hmem hstack)
    · obtain ⟨vm, hmem, hstack, -, hid⟩ := stack_of_mem_stops hid
      exact ⟨vm, hmem, hstack, hid⟩
    · intro vm hmem vm' hmem' hstack hstack' service service' hservice hservice' hpath
      obtain hdefined | hunrelated := hcases
      · refine sublist_stops order hunshared hmem hmem' hstack hstack' ?_
        rw [VmSummary.serviceName, VmSummary.serviceName, hservice, hservice', stopOrder_eq]
        exact (sublist_fileOrder hdefined hacyclic hpath).trans (List.sublist_append_left _ _)
      · exact absurd hpath (hunrelated vm hmem vm' hmem' hstack hstack' service service' hservice
          hservice')

end Down

/-- A file in which the web server depends on the database. -/
def shopFile : VyomaCompose where
  version := "3.8"
  services := ((∅ : HashMap String Service).insert "db" { image := some "postgres" }).insert "web"
    { image := some "nginx", dependsOn := some ["db"] }

theorem shopFile_dependsOn {a b : String} (h : shopFile.DependsOn a b) : a = "web" ∧ b = "db" := by
  obtain ⟨node, hnode, hmem⟩ := h
  rw [VyomaCompose.service, shopFile, HashMap.lookup_insert, HashMap.lookup_insert] at hnode
  split_ifs at hnode with hweb hdb
  · cases hnode
    exact ⟨hweb.symm, List.mem_singleton.mp hmem⟩
  · cases hnode
    cases hmem
  · cases hnode

theorem shopFile_acyclic : shopFile.Acyclic := by
  refine acyclic_of_rank (fun name => if name = "web" then 1 else 0) fun a b h => ?_
  obtain ⟨rfl, rfl⟩ := shopFile_dependsOn h
  decide

/-- A VM that was started for a service of the stack. -/
def shopVm (id service : String) : VmSummary where
  id := id
  labels := ((∅ : HashMap String String).insert "vyoma.stack" "shop").insert "vyoma.service" service

def shopVms : ListResponse := ⟨[shopVm "5f2c" "web", shopVm "9a41" "db"], by decide⟩

/-- Both VMs are stopped, the web server first. -/
theorem shop_stopped : shopFile.Acyclic ∧ ∀ order, StopsStack "shop" shopVms.vms shopFile
    (down "shop" (some shopVms) (some shopFile) order).stops := by
  refine ⟨shopFile_acyclic, (down_stops_stack_iff "shop" shopVms shopFile shopFile_acyclic).mpr
    ⟨by unfold Unshared; decide, .inl fun a b h => ?_⟩⟩
  rw [(shopFile_dependsOn h).2]
  decide

/-- The web server has been scaled to two VMs. -/
def scaledVms : ListResponse := ⟨[shopVm "5f2c" "web", shopVm "7b80" "web"], by decide⟩

/-- Only one of the two is stopped. -/
theorem replica_not_stopped : shopFile.Acyclic ∧ ¬∀ order, StopsStack "shop" scaledVms.vms shopFile
    (down "shop" (some scaledVms) (some shopFile) order).stops := by
  refine ⟨shopFile_acyclic, fun h => ?_⟩
  have hid := unshared_of_stopsStack (h (.inOrder _ _)) (shopVm "5f2c" "web") (by simp [scaledVms])
    (shopVm "7b80" "web") (by simp [scaledVms]) rfl rfl rfl
  revert hid
  decide

end Vyoma.Compose
