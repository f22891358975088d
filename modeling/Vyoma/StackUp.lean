import Vyoma.ComposeOrder
import Vyoma.ScaleCommand

/-!
# Starting a stack

`vyoma up` asks for the networks of the compose file and then for the VMs of the daemon. It
collects those of the stack in a map from services to VMs, goes through the services of the
file in their start order, and starts one VM for each service that is not in the map. A
service that cannot be started is passed over, and so are refused requests; a failed build
or an unreadable answer ends the command, while a list of VMs that cannot be had counts as
empty. `vyoma down` reads the same map and stops what is in it.
-/
namespace Vyoma.Compose

/-! ## The command -/

/-- One turn of the loop. The map of the running services grows by what has been started. -/
def upService (env : Env) (stackName : String) (serviceIds : HashMap String String) (name : String)
    (service : Service) (w : World) : World × Except String (HashMap String String) :=
  if name ∈ serviceIds then (w, .ok serviceIds)
  else
    match imageTarget env service w with
    | (w, .error e) => (w, .error e)
    | (w, .ok none) => (w, .ok serviceIds)
    | (w, .ok (some image)) =>
      (w.send env (.run (upRequest stackName name image service)),
        match w.next env with
        | .success => .ok (serviceIds.insert name (env.vmId w.sent.length))
        | .unreadable e => .error e
        | _ => .ok serviceIds)

def upServices (env : Env) (stackName : String) :
    List (String × Service) → HashMap String String → World → World × Except String Unit
  | [], _, w => (w, .ok ())
  | (name, service) :: rest, serviceIds, w =>
    match upService env stackName serviceIds name service w with
    | (w, .error e) => (w, .error e)
    | (w, .ok serviceIds) => upServices env stackName rest serviceIds w

def networkRequest (stackName netName : String) (config : NetworkConfig) :
    CreateNetworkRequest where
  name := stackName ++ "_" ++ netName
  subnet := (config.ipam.config.head?.bind IpamSubnet.subnet).getD ""
  driver := config.driver.getD "bridge"

/-- The answers are only logged. -/
def provisionNetworks (env : Env) (stackName : String) (networks : List (String × NetworkConfig))
    (w : World) : World :=
  networks.foldl (fun w net =>
    w.send env (.createNetwork (networkRequest stackName net.1 net.2))) w

/-- The VMs that `/ps` gives if it is asked next; a list that cannot be had counts as empty. -/
def World.listed (env : Env) (w : World) : List VmSummary :=
  match w.next env with
  | .success => w.vms
  | _ => []

/-- `Commands::Up` for a file that loads, with the order of its map of networks. -/
def up (env : Env) (stackName : String) (compose : ComposeFile)
    (order : HashMap.Traversal String NetworkConfig) (w : World) : World × Except String Unit :=
  match compose.startOrder with
  | .error _ => (w, .ok ())
  | .ok services =>
    let w := provisionNetworks env stackName (order.visit compose.networks).pairs w
    upServices env stackName services (vmsToStop stackName (w.listed env)) (w.send env .ps)

/-- The requests of `Commands::Down`, whose answers are only logged. -/
def World.stopAll (env : Env) (w : World) (ids : List String) : World :=
  ids.foldl (fun w id => w.send env (.stop id)) w

/-! ## What is running -/

/-- A VM of the stack goes by the name. -/
def Running (stackName : String) (vms : List VmSummary) (name : String) : Prop :=
  ∃ vm ∈ vms, vm.stack = some stackName ∧ vm.serviceName = name

instance (stackName : String) (vms : List VmSummary) (name : String) :
    Decidable (Running stackName vms name) :=
  inferInstanceAs (Decidable (∃ vm ∈ vms, _))

theorem mem_vmsToStop_iff {stackName name : String} {vms : List VmSummary} :
    name ∈ vmsToStop stackName vms ↔ Running stackName vms name := by
  constructor
  · intro h
    obtain ⟨id, hid⟩ := Option.isSome_iff_exists.mp (AList.lookup_isSome.mpr h)
    obtain ⟨vm, hvm, hstack, hname, -⟩ := mem_of_lookup_vmsToStop hid
    exact ⟨vm, hvm, hstack, hname⟩
  · rintro ⟨vm, hvm, hstack, rfl⟩
    exact mem_keys_vmsToStop hvm hstack

/-- The VMs are of the stack, and their services are among these, in this order. -/
structure Fresh (stackName : String) (names : List String) (new : List VmSummary) : Prop where
  stack : ∀ vm ∈ new, vm.stack = some stackName
  service : ∀ vm ∈ new, vm.service = some vm.serviceName
  names : (new.map VmSummary.serviceName).Sublist names

theorem Fresh.nil (stackName : String) (names : List String) : Fresh stackName names [] :=
  ⟨fun _ h => (List.not_mem_nil h).elim, fun _ h => (List.not_mem_nil h).elim, List.nil_sublist _⟩

theorem Fresh.append {stackName : String} {pre post : List String} {new new' : List VmSummary}
    (h : Fresh stackName pre new) (h' : Fresh stackName post new') :
    Fresh stackName (pre ++ post) (new ++ new') := by
  refine ⟨fun vm hvm => ?_, fun vm hvm => ?_, ?_⟩
  · obtain hvm | hvm := List.mem_append.mp hvm
    · exact h.stack vm hvm
    · exact h'.stack vm hvm
  · obtain hvm | hvm := List.mem_append.mp hvm
    · exact h.service vm hvm
    · exact h'.service vm hvm
  · rw [List.map_append]
    exact h.names.append h'.names

/-- The VM that is started for a service goes by the name of the service. -/
theorem serviceName_upRequest (stackName name image : String) (service : Service) (id : String) :
    VmSummary.serviceName ⟨id, (upRequest stackName name image service).labels⟩ = name := by
  rw [VmSummary.serviceName, (isReplica_upRequest stackName name image service id).2,
    Option.getD_some]

theorem Fresh.replica (stackName name image : String) (service : Service) (id : String) :
    Fresh stackName [name] [⟨id, (upRequest stackName name image service).labels⟩] := by
  have hreplica := isReplica_upRequest stackName name image service id
  have hname := serviceName_upRequest stackName name image service id
  refine ⟨fun vm hvm => ?_, fun vm hvm => ?_, ?_⟩
  · rw [List.mem_singleton.mp hvm]
    exact hreplica.1
  · rw [List.mem_singleton.mp hvm, hname]
    exact hreplica.2
  · rw [List.map_singleton, hname]

/-! ## One service -/

section Service

variable (env : Env) (stackName : String)

/-- Neither an image nor a build adds a VM. -/
theorem imageTarget_vms (service : Service) (w : World) :
    (imageTarget env service w).1.vms = w.vms := by
  unfold imageTarget
  split
  · next build hbuild =>
    dsimp only
    unfold buildImage
    split
    · rfl
    · dsimp only [World.send]
      split_ifs
      · rfl
      · rfl
  · rfl

/-- The names of the list that are not in the map. -/
def missing (serviceIds : HashMap String String) (names : List String) : List String :=
  names.filter fun name => decide (name ∉ serviceIds)

/-- The name of a service that has just been started is not looked up any more. -/
theorem missing_insert {serviceIds : HashMap String String} {name id : String}
    {names : List String} (h : name ∉ names) :
    missing (serviceIds.insert name id) names = missing serviceIds names := by
  refine List.filter_congr fun other hother => ?_
  have hne : other ≠ name := fun heq => h (heq ▸ hother)
  simp [hne]

/-- Whatever the daemon answers, a turn adds one VM of the service or none, and none to a
service that has one. -/
theorem upService_spec (serviceIds : HashMap String String) (name : String) (service : Service)
    (w : World) : ∃ new,
      (upService env stackName serviceIds name service w).1.vms = w.vms ++ new ∧
      Fresh stackName (missing serviceIds [name]) new ∧
      ∀ ids', (upService env stackName serviceIds name service w).2 = .ok ids' →
        ids' = serviceIds ∨ ∃ id, ids' = serviceIds.insert name id := by
  unfold upService
  by_cases hmem : name ∈ serviceIds
  · rw [if_pos hmem]
    refine ⟨[], (List.append_nil _).symm, Fresh.nil _ _, fun ids' h => .inl ?_⟩
    exact (Except.ok.inj h).symm
  · have hmissing : missing serviceIds [name] = [name] := by simp [missing, hmem]
    have hvms := imageTarget_vms env service w
    rw [if_neg hmem, hmissing]
    generalize imageTarget env service w = out at hvms
    obtain ⟨w₁, _ | _ | image⟩ := out
    · exact ⟨[], by simpa using hvms, Fresh.nil _ _, fun ids' h => nomatch h⟩
    · refine ⟨[], by simpa using hvms, Fresh.nil _ _, fun ids' h => .inl ?_⟩
      exact (Except.ok.inj h).symm
    · have hids : ∀ ids', (match w₁.next env with
          | .success => .ok (serviceIds.insert name (env.vmId w₁.sent.length))
          | .unreadable e => .error e
          | _ => .ok serviceIds : Except String (HashMap String String)) = .ok ids' →
          ids' = serviceIds ∨ ∃ id, ids' = serviceIds.insert name id := by
        intro ids' h
        split at h
        · exact .inr ⟨_, (Except.ok.inj h).symm⟩
        · cases h
        · exact .inl (Except.ok.inj h).symm
      dsimp only [World.send, World.serve] at hvms ⊢
      split_ifs
      · exact ⟨_, by rw [hvms], Fresh.replica stackName name image service _, hids⟩
      · exact ⟨[], by simpa using hvms, Fresh.nil _ _, hids⟩

/-- The loop, whatever the daemon answers. -/
theorem upServices_spec {order : List (String × Service)} (hnodup : (order.map Prod.fst).Nodup)
    (serviceIds : HashMap String String) (w : World) : ∃ new,
      (upServices env stackName order serviceIds w).1.vms = w.vms ++ new ∧
      Fresh stackName (missing serviceIds (order.map Prod.fst)) new := by
  induction order generalizing serviceIds w with
  | nil => exact ⟨[], (List.append_nil _).symm, Fresh.nil _ _⟩
  | cons entry rest ih =>
    obtain ⟨name, service⟩ := entry
    rw [List.map_cons, List.nodup_cons] at hnodup
    obtain ⟨new, hvms, hnew, hids⟩ := upService_spec env stackName serviceIds name service w
    have hsplit : missing serviceIds (name :: rest.map Prod.fst) =
        missing serviceIds [name] ++ missing serviceIds (rest.map Prod.fst) :=
      List.filter_append [name] (rest.map Prod.fst)
    rw [List.map_cons, hsplit, upServices]
    generalize upService env stackName serviceIds name service w = out at hvms hids
    obtain ⟨w₁, e | ids'⟩ := out
    · refine ⟨new, hvms, ?_⟩
      have happend := hnew.append (Fresh.nil stackName (missing serviceIds (rest.map Prod.fst)))
      rwa [List.append_nil] at happend
    · obtain ⟨new', hvms', hnew'⟩ := ih hnodup.2 ids' w₁
      have hmissing : missing ids' (rest.map Prod.fst) =
          missing serviceIds (rest.map Prod.fst) := by
        obtain rfl | ⟨id, rfl⟩ := hids ids' rfl
        · rfl
        · exact missing_insert hnodup.1
      refine ⟨new ++ new', ?_, hnew.append (hmissing ▸ hnew')⟩
      rw [hvms', hvms, List.append_assoc]

end Service

/-! ## When every request succeeds -/

instance (service : Service) : Decidable service.Startable := inferInstanceAs (Decidable (_ ∨ _))

/-- The services that can be started, in order. -/
def startable (order : List (String × Service)) : List String :=
  (order.filter fun entry => decide entry.2.Startable).map Prod.fst

section Succeeds

variable {env : Env} {stackName : String}

theorem imageTarget_of_succeeds (henv : Succeeds env) {service : Service} (h : service.Startable)
    (w : World) : ∃ w' image, imageTarget env service w = (w', .ok (some image)) := by
  unfold imageTarget
  cases hbuild : service.build with
  | none =>
    obtain ⟨image, himage⟩ : ∃ image, service.image = some image := by
      simpa [Service.Startable, hbuild, Option.isSome_iff_exists] using h
    exact ⟨w, image, by simp [himage]⟩
  | some build =>
    simp only [buildImage, henv.tar, World.next, henv.answers]
    exact ⟨_, _, rfl⟩

theorem upService_not_startable (env : Env) (stackName : String) {service : Service}
    (h : ¬service.Startable) (serviceIds : HashMap String String) (name : String) (w : World) :
    upService env stackName serviceIds name service w = (w, .ok serviceIds) := by
  obtain ⟨hbuild, himage⟩ : service.build = none ∧ service.image = none := by
    simpa [Service.Startable] using h
  simp [upService, imageTarget, hbuild, himage]

/-- A service that can be started and is not in the map gets its VM. -/
theorem upService_succeeds (stackName : String) (henv : Succeeds env)
    (serviceIds : HashMap String String) (name : String) (service : Service) (w : World) :
    ∃ new ids', (upService env stackName serviceIds name service w).1.vms = w.vms ++ new ∧
      (upService env stackName serviceIds name service w).2 = .ok ids' ∧
      Fresh stackName (missing serviceIds [name]) new ∧
      new.map VmSummary.serviceName = missing serviceIds (startable [(name, service)]) ∧
      (ids' = serviceIds ∨ ∃ id, ids' = serviceIds.insert name id) := by
  by_cases hstart : service.Startable
  · have hone : startable [(name, service)] = [name] := by simp [startable, hstart]
    rw [hone]
    unfold upService
    by_cases hmem : name ∈ serviceIds
    · rw [if_pos hmem]
      refine ⟨[], serviceIds, (List.append_nil _).symm, rfl, .nil _ _, ?_, .inl rfl⟩
      simp [missing, hmem]
    · have hvms := imageTarget_vms env service w
      obtain ⟨w₁, image, himage⟩ := imageTarget_of_succeeds henv hstart w
      rw [himage] at hvms
      have hmissing : missing serviceIds [name] = [name] := by simp [missing, hmem]
      rw [if_neg hmem, himage, hmissing]
      refine ⟨[⟨env.vmId w₁.sent.length, (upRequest stackName name image service).labels⟩],
        serviceIds.insert name (env.vmId w₁.sent.length), ?_, ?_, .replica _ _ _ _ _, ?_,
        .inr ⟨_, rfl⟩⟩
      · rw [send_vms henv, World.serve, hvms]
      · simp only [World.next, henv.answers]
      · rw [List.map_singleton, serviceName_upRequest]
  · have hnone : startable [(name, service)] = [] := by simp [startable, hstart]
    rw [hnone, upService_not_startable env stackName hstart]
    exact ⟨[], serviceIds, (List.append_nil _).symm, rfl, .nil _ _, rfl, .inl rfl⟩

theorem upServices_succeeds (stackName : String) (henv : Succeeds env)
    {order : List (String × Service)} (hnodup : (order.map Prod.fst).Nodup)
    (serviceIds : HashMap String String) (w : World) :
    ∃ new, (upServices env stackName order serviceIds w).1.vms = w.vms ++ new ∧
      (upServices env stackName order serviceIds w).2 = .ok () ∧
      Fresh stackName (missing serviceIds (order.map Prod.fst)) new ∧
      new.map VmSummary.serviceName = missing serviceIds (startable order) := by
  induction order generalizing serviceIds w with
  | nil => exact ⟨[], (List.append_nil _).symm, rfl, .nil _ _, rfl⟩
  | cons entry rest ih =>
    obtain ⟨name, service⟩ := entry
    rw [List.map_cons, List.nodup_cons] at hnodup
    obtain ⟨new, ids', hvms, hok, hfresh, hnew, hids⟩ := upService_succeeds stackName henv
      serviceIds name service w
    have hsplit : missing serviceIds (name :: rest.map Prod.fst) =
        missing serviceIds [name] ++ missing serviceIds (rest.map Prod.fst) :=
      List.filter_append [name] (rest.map Prod.fst)
    have hstartable : startable ((name, service) :: rest) =
        startable [(name, service)] ++ startable rest := by
      rw [startable, startable, startable, ← List.map_append, ← List.filter_append,
        List.singleton_append]
    rw [List.map_cons, hsplit, hstartable, upServices]
    generalize upService env stackName serviceIds name service w = out at hvms hok
    obtain ⟨w₁, result⟩ := out
    cases hok
    obtain ⟨new', hvms', hok', hfresh', hnew'⟩ := ih hnodup.2 ids' w₁
    have hkeep : ∀ names, (∀ n ∈ names, n ∈ rest.map Prod.fst) →
        missing ids' names = missing serviceIds names := by
      intro names hnames
      obtain rfl | ⟨id, rfl⟩ := hids
      · rfl
      · exact missing_insert fun hname => hnodup.1 (hnames name hname)
    have hsub : ∀ n ∈ startable rest, n ∈ rest.map Prod.fst :=
      fun n hn => (List.filter_sublist.map Prod.fst).subset hn
    refine ⟨new ++ new', ?_, hok', hfresh.append (hkeep _ (fun _ h => h) ▸ hfresh'), ?_⟩
    · rw [hvms', hvms, List.append_assoc]
    · rw [List.map_append, hnew, hnew', hkeep _ hsub, missing, missing, missing,
        List.filter_append]

/-- When every service that can be started has its VM, nothing is sent. -/
theorem upServices_of_running (env : Env) (stackName : String) {order : List (String × Service)}
    {serviceIds : HashMap String String}
    (h : ∀ entry ∈ order, entry.2.Startable → entry.1 ∈ serviceIds) (w : World) :
    upServices env stackName order serviceIds w = (w, .ok ()) := by
  induction order with
  | nil => rfl
  | cons entry rest ih =>
    obtain ⟨name, service⟩ := entry
    have hturn : upService env stackName serviceIds name service w = (w, .ok serviceIds) := by
      by_cases hstart : service.Startable
      · rw [upService, if_pos (h (name, service) List.mem_cons_self hstart)]
      · exact upService_not_startable env stackName hstart serviceIds name w
    rw [upServices, hturn]
    exact ih fun e he => h e (List.mem_cons_of_mem _ he)

end Succeeds

/-! ## A shop that has been started halfway -/

theorem shopFile_startOrder : shopFile.startOrder =
    .ok [("db", { image := some "postgres" }),
      ("web", { image := some "nginx", dependsOn := some ["db"] })] := by
  have hsorted : shopFile.sortedNames = ["db", "web"] := by
    have hswap : (["web", "db"] : List String).Perm ["db", "web"] := List.Perm.swap _ _ _
    exact (mergeSort_of_perm hswap).trans (List.mergeSort_of_pairwise (by decide))
  unfold VyomaCompose.startOrder VyomaCompose.search
  rw [hsorted]
  rfl

theorem shopFile_defined : shopFile.Defined := by
  intro a b h
  rw [(shopFile_dependsOn h).2]
  rfl

/-- The shop with a network of its own. -/
def shopProject : ComposeFile where
  toVyomaCompose := shopFile
  networks := AList.insert "front" ⟨none, none, ⟨[]⟩⟩ ∅
  volumes := ∅

theorem shopProject_startOrder : shopProject.startOrder =
    .ok [("db", { image := some "postgres" }),
      ("web", { image := some "nginx", dependsOn := some ["db"] })] := shopFile_startOrder

/-- A daemon that refuses the fourth request. -/
def refusing : Env :=
  { answering with answer := fun k => if k = 3 then .refused "500" "" else .success }

/-- A VM that belongs to no stack. -/
def plainVm : VmSummary := ⟨"8c11", ∅⟩

def plainWorld : World := ⟨[], [plainVm]⟩

/-- The database has been started, the web server has not. -/
def halfUp : World := (up refusing "shop" shopProject (.inOrder _ _) plainWorld).1

def halfList : ListResponse := ⟨halfUp.vms, by rw [halfUp, up, shopProject_startOrder]; decide⟩

def fullUp : World := (up answering "shop" shopProject (.inOrder _ _) halfUp).1

theorem sent_fullUp : fullUp.sent.length = 7 := by
  rw [fullUp, up, shopProject_startOrder, halfUp, up, shopProject_startOrder]
  rfl

/-- The plain VM is no VM of the stack. -/
theorem not_running_plainWorld (name : String) : ¬Running "shop" plainWorld.vms name := by
  rintro ⟨vm, hvm, hstack, -⟩
  rw [List.mem_singleton.mp hvm] at hstack
  cases hstack

/-! ## The command as a whole -/

/-- The VMs that the command has added: none to a service with a VM among those that it has
seen, one to any other at most, and a service after those that it depends on. -/
structure Added (stackName : String) (compose : VyomaCompose)
    (seen before after new : List VmSummary) : Prop where
  kept : after = before ++ new
  stack : ∀ vm ∈ new, vm.stack = some stackName
  service : ∀ vm ∈ new, vm.service = some vm.serviceName
  once : (new.map VmSummary.serviceName).Nodup
  inOrder : ∀ order, compose.startOrder = .ok order →
    (new.map VmSummary.serviceName).Sublist (order.map Prod.fst)
  missing : ∀ vm ∈ new, vm.serviceName ∈ compose.services ∧
    ¬Running stackName seen vm.serviceName
  ordered : ∀ vm ∈ new, ∀ vm' ∈ new,
    Relation.TransGen compose.DependsOn vm.serviceName vm'.serviceName → [vm', vm].Sublist new

/-- Of two elements of a list, one is first. -/
theorem sublist_or_sublist {α : Type} {l : List α} {a b : α} (ha : a ∈ l) (hb : b ∈ l)
    (hne : a ≠ b) : [a, b].Sublist l ∨ [b, a].Sublist l := by
  obtain ⟨pre, post, rfl⟩ := List.append_of_mem ha
  obtain hb | hb := List.mem_append.mp hb
  · right
    exact (List.singleton_sublist.mpr hb).append
      (List.singleton_sublist.mpr (List.mem_cons_self (l := post)))
  · left
    obtain rfl | hb := List.mem_cons.mp hb
    · exact absurd rfl hne
    · refine List.Sublist.trans ?_ (List.sublist_append_right pre _)
      exact (List.singleton_sublist.mpr hb).cons_cons a

section Up

variable {stackName : String} {compose : VyomaCompose}

theorem StartOrder.nodup {order : List (String × Service)} (h : StartOrder compose order) :
    (order.map Prod.fst).Nodup := by
  refine List.nodup_iff_count_le_one.mpr fun name => ?_
  rw [h.once name]
  split_ifs <;> omega

theorem StartOrder.mem_iff {order : List (String × Service)} (h : StartOrder compose order)
    {name : String} : name ∈ order.map Prod.fst ↔ name ∈ compose.services := by
  rw [← List.count_pos_iff, h.once name, VyomaCompose.service, ← AList.lookup_isSome]
  split_ifs with hsome <;> simp [hsome]

/-- What is fresh among the missing services of the start order has been added. -/
theorem Fresh.added {order : List (String × Service)} (hok : compose.startOrder = .ok order)
    {seen new : List VmSummary}
    (h : Fresh stackName (missing (vmsToStop stackName seen) (order.map Prod.fst)) new)
    (before : List VmSummary) : Added stackName compose seen before (before ++ new) new := by
  have horder := VyomaCompose.startOrder_isStartOrder hok
  have hsub : (new.map VmSummary.serviceName).Sublist (order.map Prod.fst) :=
    h.names.trans List.filter_sublist
  have hinOrder : ∀ order', compose.startOrder = .ok order' →
      (new.map VmSummary.serviceName).Sublist (order'.map Prod.fst) := by
    intro order' hok'
    cases hok.symm.trans hok'
    exact hsub
  have honce := horder.nodup.sublist hsub
  refine ⟨rfl, h.stack, h.service, honce, hinOrder, fun vm hvm => ?_,
    fun vm hvm vm' hvm' hpath => ?_⟩
  · have hmem := h.names.subset (List.mem_map_of_mem hvm)
    obtain ⟨hname, hmissing⟩ := List.mem_filter.mp hmem
    rw [decide_eq_true_eq, mem_vmsToStop_iff] at hmissing
    exact ⟨horder.mem_iff.mp hname, hmissing⟩
  · have hbefore := horder.before _ _ hpath
    have hne : vm' ≠ vm := by
      rintro rfl
      have hnodup := horder.nodup.sublist hbefore
      simp at hnodup
    obtain hsublist | hswapped := sublist_or_sublist hvm' hvm hne
    · exact hsublist
    · have hnames := (hswapped.map VmSummary.serviceName).trans hsub
      exact absurd hbefore (not_sublist_swap horder.nodup hnames)

/-! ### Before the services -/

theorem send_createNetwork_vms (env : Env) (payload : CreateNetworkRequest) (w : World) :
    (w.send env (.createNetwork payload)).vms = w.vms := by
  simp [World.send, World.serve]

theorem send_ps_vms (env : Env) (w : World) : (w.send env .ps).vms = w.vms := by
  simp [World.send, World.serve]

theorem provisionNetworks_vms (env : Env) (stackName : String)
    (networks : List (String × NetworkConfig)) (w : World) :
    (provisionNetworks env stackName networks w).vms = w.vms := by
  induction networks generalizing w with
  | nil => rfl
  | cons net networks ih => exact (ih _).trans (send_createNetwork_vms env _ w)

/-- The VMs that the command sees. -/
def seenBy (env : Env) (stackName : String) (compose : ComposeFile)
    (order : HashMap.Traversal String NetworkConfig) (w : World) : List VmSummary :=
  (provisionNetworks env stackName (order.visit compose.networks).pairs w).listed env

/-- What the command sends before it starts services: it asks for the networks and the VMs. -/
def World.prepared (w : World) (env : Env) (stackName : String) (compose : ComposeFile)
    (order : HashMap.Traversal String NetworkConfig) : World :=
  (provisionNetworks env stackName (order.visit compose.networks).pairs w).send env .ps

/-- The command gets its list of VMs. -/
def Sees (env : Env) (stackName : String) (compose : ComposeFile)
    (order : HashMap.Traversal String NetworkConfig) (w : World) : Prop :=
  (provisionNetworks env stackName (order.visit compose.networks).pairs w).next env = .success

theorem seenBy_of_sees {env : Env} {compose : ComposeFile}
    {order : HashMap.Traversal String NetworkConfig} {w : World}
    (h : Sees env stackName compose order w) : seenBy env stackName compose order w = w.vms := by
  unfold Sees at h
  rw [seenBy, World.listed, h]
  exact provisionNetworks_vms env stackName _ w

/-! ### The whole command -/

variable {file : ComposeFile} {order : HashMap.Traversal String NetworkConfig} {w : World}

/-- Whatever becomes of its requests, `vyoma up` adds at most one VM for each service and none
for one that it sees running, in an order in which no service comes before one that it depends
on. -/
theorem up_adds (env : Env) (stackName : String) (compose : ComposeFile)
    (order : HashMap.Traversal String NetworkConfig) (w : World) :
    ∃ new, Added stackName compose.toVyomaCompose (seenBy env stackName compose order w) w.vms
      (up env stackName compose order w).1.vms new := by
  unfold up
  cases hstart : compose.startOrder with
  | error e =>
    exact ⟨[], (List.append_nil _).symm, by simp, by simp, by simp, by simp, by simp, by simp⟩
  | ok services =>
    have hservices := VyomaCompose.startOrder_isStartOrder hstart
    obtain ⟨new, hvms, hfresh⟩ := upServices_spec env stackName hservices.nodup
      (vmsToStop stackName (seenBy env stackName compose order w))
      ((provisionNetworks env stackName (order.visit compose.networks).pairs w).send env .ps)
    rw [send_ps_vms, provisionNetworks_vms] at hvms
    refine ⟨new, ?_⟩
    dsimp only
    rw [← seenBy, hvms]
    exact hfresh.added hstart w.vms

/-- If every request succeeds, each service that can be started has a VM. -/
theorem up_succeeds {env : Env} (stackName : String) (henv : Succeeds env)
    (hdefined : file.Defined) (hacyclic : file.Acyclic) :
    (up env stackName file order w).2 = .ok () ∧
    ∃ new, Added stackName file.toVyomaCompose w.vms w.vms (up env stackName file order w).1.vms
        new ∧
      ∀ name service, file.service name = some service → service.Startable →
        ¬Running stackName w.vms name → name ∈ new.map VmSummary.serviceName := by
  obtain ⟨services, hstart⟩ := VyomaCompose.startOrder_succeeds hdefined hacyclic
  have hservices := VyomaCompose.startOrder_isStartOrder hstart
  have hseen : seenBy env stackName file order w = w.vms := seenBy_of_sees (henv.answers _)
  unfold up
  rw [hstart]
  dsimp only
  rw [← seenBy, hseen]
  obtain ⟨new, hvms, hok, hfresh, hnew⟩ := upServices_succeeds stackName henv
    hservices.nodup (vmsToStop stackName w.vms)
    ((provisionNetworks env stackName (order.visit file.networks).pairs w).send env .ps)
  rw [send_ps_vms, provisionNetworks_vms] at hvms
  refine ⟨hok, new, ?_, fun name service hservice hstartable hrunning => ?_⟩
  · rw [hvms]
    exact hfresh.added hstart w.vms
  · have hmem : name ∈ services.map Prod.fst := by
      rw [hservices.mem_iff, ← AList.lookup_isSome]
      exact Option.isSome_iff_exists.mpr ⟨service, hservice⟩
    obtain ⟨⟨name', service'⟩, hentry, rfl⟩ := List.mem_map.mp hmem
    have hsame := (hservices.entries _ hentry).symm.trans hservice
    cases hsame
    rw [hnew, missing, List.mem_filter, decide_eq_true_eq, mem_vmsToStop_iff]
    refine ⟨List.mem_map.mpr ⟨_, List.mem_filter.mpr ⟨hentry, ?_⟩, rfl⟩, hrunning⟩
    exact decide_eq_true hstartable

theorem prepared_vms (env : Env) (stackName : String) (compose : ComposeFile)
    (order : HashMap.Traversal String NetworkConfig) (w : World) :
    (w.prepared env stackName compose order).vms = w.vms :=
  (send_ps_vms env _).trans (provisionNetworks_vms env stackName _ w)

/-- A file whose services all run, as far as they can be started, is left alone. -/
theorem up_of_running {env : Env} (hdefined : file.Defined) (hacyclic : file.Acyclic)
    (hsees : Sees env stackName file order w)
    (h : ∀ name service, file.service name = some service → service.Startable →
      Running stackName w.vms name) :
    up env stackName file order w = (w.prepared env stackName file order, .ok ()) := by
  obtain ⟨services, hstart⟩ := VyomaCompose.startOrder_succeeds hdefined hacyclic
  have hservices := VyomaCompose.startOrder_isStartOrder hstart
  unfold up
  rw [hstart]
  refine upServices_of_running env stackName (fun entry hentry hstartable => ?_) _
  rw [← seenBy, seenBy_of_sees hsees, mem_vmsToStop_iff]
  exact h entry.1 entry.2 (hservices.entries entry hentry) hstartable

namespace Added

variable {seen before after new : List VmSummary}

theorem replicaIds_eq (h : Added stackName compose seen before after new) (name : String) :
    replicaIds stackName after name = replicaIds stackName before name ++
      (new.filter fun vm => vm.serviceName = name).map VmSummary.id := by
  rw [replicaIds, replicaIds, h.kept, List.filter_append, List.map_append]
  congr 2
  refine List.filter_congr fun vm hvm => ?_
  simp [IsReplica, h.stack vm hvm, h.service vm hvm]

theorem running_iff (h : Added stackName compose seen before after new) (name : String) :
    Running stackName after name ↔
      Running stackName before name ∨ name ∈ new.map VmSummary.serviceName := by
  constructor
  · rintro ⟨vm, hvm, hstack, rfl⟩
    rw [h.kept] at hvm
    obtain hvm | hvm := List.mem_append.mp hvm
    · exact .inl ⟨vm, hvm, hstack, rfl⟩
    · exact .inr (List.mem_map_of_mem hvm)
  · rw [h.kept]
    rintro (⟨vm, hvm, hstack, hname⟩ | hname)
    · exact ⟨vm, List.mem_append_left _ hvm, hstack, hname⟩
    · obtain ⟨vm, hvm, hname⟩ := List.mem_map.mp hname
      exact ⟨vm, List.mem_append_right _ hvm, h.stack vm hvm, hname⟩

theorem replicaIds_of_running (h : Added stackName compose seen before after new) {name : String}
    (hrunning : Running stackName seen name) :
    replicaIds stackName after name = replicaIds stackName before name := by
  rw [h.replicaIds_eq, List.filter_eq_nil_iff.mpr, List.map_nil, List.append_nil]
  intro vm hvm hname
  rw [decide_eq_true_eq] at hname
  exact (h.missing vm hvm).2 (hname ▸ hrunning)

theorem length_replicaIds (h : Added stackName compose seen before after new) {name : String}
    (hbefore : ¬Running stackName before name) (hafter : Running stackName after name) :
    (replicaIds stackName after name).length = 1 := by
  have hnone : replicaIds stackName before name = [] := by
    rw [replicaIds, List.map_eq_nil_iff, List.filter_eq_nil_iff]
    intro vm hvm hreplica
    obtain ⟨hstack, hservice⟩ := of_decide_eq_true hreplica
    refine hbefore ⟨vm, hvm, hstack, ?_⟩
    rw [VmSummary.serviceName, hservice, Option.getD_some]
  have hmem := ((h.running_iff name).mp hafter).resolve_left hbefore
  have hcount := List.count_eq_one_of_mem h.once hmem
  rw [h.replicaIds_eq, hnone, List.nil_append, List.length_map, ← List.countP_eq_length_filter]
  rw [List.count, List.countP_map] at hcount
  rw [← hcount]
  exact List.countP_congr fun vm _ => by simp

end Added

theorem sees_fullUp : Sees refusing "shop" shopProject (.inOrder _ _) fullUp := by
  have hanswer : ∀ w : World, w.sent.length = 7 →
      Sees refusing "shop" shopProject (.inOrder _ _) w := by
    rintro ⟨sent, vms⟩ h
    show refusing.answer (sent ++ [_]).length = .success
    rw [List.length_append, h]
    rfl
  exact hanswer fullUp sent_fullUp

/-- However an earlier `vyoma up` that saw the VMs has ended, one whose requests succeed leaves
one VM for each service that can be started and had none before, and the VMs of the others as
they were; from then on the command starts nothing, as long as it sees the VMs. -/
theorem up_completes (env env' env'' : Env) (stackName : String) (compose : ComposeFile)
    (order order' order'' : HashMap.Traversal String NetworkConfig) (w w₁ w₂ : World)
    (henv : Succeeds env') (hdefined : compose.Defined) (hacyclic : compose.Acyclic)
    (hsees : Sees env stackName compose order w)
    (hfirst : (up env stackName compose order w).1 = w₁)
    (hsecond : (up env' stackName compose order' w₁).1 = w₂)
    (hsees' : Sees env'' stackName compose order'' w₂) :
    (∀ name service, compose.service name = some service → service.Startable →
      ¬Running stackName w.vms name → (replicaIds stackName w₂.vms name).length = 1) ∧
    (∀ name, Running stackName w.vms name →
      replicaIds stackName w₂.vms name = replicaIds stackName w.vms name) ∧
    (up env' stackName compose order' w₁).2 = .ok () ∧
    up env'' stackName compose order'' w₂ =
      (w₂.prepared env'' stackName compose order'', .ok ()) ∧
    (w₂.prepared env'' stackName compose order'').vms = w₂.vms := by
  obtain ⟨new, hadded⟩ := up_adds env stackName compose order w
  obtain ⟨hok, new', hadded', hall⟩ := up_succeeds stackName henv hdefined hacyclic
  rw [hfirst, seenBy_of_sees hsees] at hadded
  rw [hsecond] at hadded'
  have hrunning : ∀ name service, compose.service name = some service → service.Startable →
      Running stackName w₂.vms name := by
    intro name service hservice hstartable
    rw [hadded'.running_iff]
    by_cases h : Running stackName w₁.vms name
    · exact .inl h
    · exact .inr (hall name service hservice hstartable h)
  refine ⟨fun name service hservice hstartable hbefore => ?_, fun name hbefore => ?_, hok,
    up_of_running hdefined hacyclic hsees' hrunning, prepared_vms _ _ _ _ w₂⟩
  · by_cases h : Running stackName w₁.vms name
    · rw [hadded'.replicaIds_of_running h]
      exact hadded.length_replicaIds hbefore h
    · exact hadded'.length_replicaIds h (hrunning name service hservice hstartable)
  · have hmiddle := (hadded.running_iff name).mpr (.inl hbefore)
    rw [hadded'.replicaIds_of_running hmiddle, hadded.replicaIds_of_running hbefore]

theorem web_completed : (replicaIds "shop" fullUp.vms "web").length = 1 ∧
    (up refusing "shop" shopProject (.inOrder _ _) fullUp).2 = .ok () := by
  obtain ⟨hone, -, -, hrest, -⟩ := up_completes refusing answering refusing "shop" shopProject
    (.inOrder _ _) (.inOrder _ _) (.inOrder _ _) plainWorld halfUp fullUp answering_succeeds
    shopFile_defined shopFile_acyclic rfl rfl rfl sees_fullUp
  refine ⟨?_, congrArg Prod.snd hrest⟩
  exact hone "web" { image := some "nginx", dependsOn := some ["db"] } rfl (.inr rfl)
    (not_running_plainWorld "web")

/-! ## Up and down -/

theorem stopAll_vms {env : Env} (henv : Succeeds env) (w : World) (ids : List String) :
    (w.stopAll env ids).vms = w.vms.filter fun vm => vm.id ∉ ids := by
  induction ids generalizing w with
  | nil => simp [World.stopAll]
  | cons id ids ih =>
    have htail := ih (w.send env (.stop id))
    rw [World.stopAll, List.foldl_cons]
    refine htail.trans ?_
    rw [send_vms henv, World.serve, List.filter_filter]
    refine List.filter_congr fun vm _ => ?_
    simp [Bool.and_comm]

/-- The map that `vyoma down` reads when only the new VMs are of the stack. -/
theorem lookup_vmsToStop_new {before new : List VmSummary}
    (hnone : ∀ vm ∈ before, vm.stack ≠ some stackName)
    (hadded : Added stackName compose before before (before ++ new) new) (name : String) :
    (∀ vm ∈ new, vm.serviceName = name →
      (vmsToStop stackName (before ++ new)).lookup name = some vm.id) ∧
    (name ∉ new.map VmSummary.serviceName →
      (vmsToStop stackName (before ++ new)).lookup name = none) := by
  have hmem : ∀ vm ∈ before ++ new, vm.stack = some stackName → vm ∈ new := by
    intro vm hvm hstack
    obtain hvm | hvm := List.mem_append.mp hvm
    · exact absurd hstack (hnone vm hvm)
    · exact hvm
  constructor
  · rintro vm hvm rfl
    refine lookup_vmsToStop ?_ (List.mem_append_right _ hvm) (hadded.stack vm hvm)
    intro vm₁ hvm₁ vm₂ hvm₂ hstack₁ hstack₂ hname
    have hsame := List.inj_on_of_nodup_map hadded.once (hmem vm₁ hvm₁ hstack₁)
      (hmem vm₂ hvm₂ hstack₂) hname
    rw [hsame]
  · intro hname
    rw [AList.lookup_eq_none, mem_vmsToStop_iff]
    rintro ⟨vm, hvm, hstack, rfl⟩
    exact hname (List.mem_map_of_mem (hmem vm hvm hstack))

/-- The VMs that were added are stopped in the reverse of the order in which they came. -/
theorem stops_down_new {before new : List VmSummary} {order : List (String × Service)}
    (hnone : ∀ vm ∈ before, vm.stack ≠ some stackName)
    (hadded : Added stackName compose before before (before ++ new) new)
    (horder : compose.startOrder = .ok order) {list : ListResponse}
    (hlist : list.vms = before ++ new) (traversal : HashMap.Traversal String String) :
    (down stackName (some list) (some compose) traversal).stops =
      (new.map VmSummary.id).reverse := by
  have hsub := hadded.inOrder order horder
  have hlookup := lookup_vmsToStop_new hnone hadded
  have hnodup := (VyomaCompose.startOrder_isStartOrder horder).nodup
  have hrest : (traversal.visit (vmsToStop stackName list.vms)).keys.filter
      (fun name => decide (name ∉ fileOrder (some compose))) = [] := by
    refine List.filter_eq_nil_iff.mpr fun name hname hfile => ?_
    rw [← AList.mem_keys, ← AList.lookup_isSome, HashMap.lookup_visit, hlist] at hname
    have hnew : name ∈ new.map VmSummary.serviceName := by
      by_contra hnot
      rw [(hlookup name).2 hnot] at hname
      cases hname
    rw [decide_eq_true_eq, fileOrder_ok horder, List.mem_reverse] at hfile
    exact hfile (hsub.subset hnew)
  rw [stops_down, stopOrder_eq, hrest, List.append_nil, fileOrder_ok horder,
    List.filterMap_reverse, hlist]
  congr 1
  rw [FilteredLists.filterMap_of_sublist hnodup hsub fun name _ hnot => (hlookup name).2 hnot,
    List.filterMap_map, ← List.filterMap_eq_map]
  refine List.filterMap_congr fun vm hvm => ?_
  exact (hlookup vm.serviceName).1 vm hvm rfl

/-- Whatever became of the requests of `vyoma up` for a stack that had no VMs, `vyoma down`
stops what it has started, the last one first, and leaves the VMs that were there before. -/
theorem down_undoes_up (env env' : Env) (stackName : String) (compose : ComposeFile)
    (order : HashMap.Traversal String NetworkConfig) (w w₁ : World) (list : ListResponse)
    (traversal : HashMap.Traversal String String) (henv : Succeeds env')
    (hnone : ∀ vm ∈ w.vms, vm.stack ≠ some stackName)
    (hup : (up env stackName compose order w).1 = w₁) (hlist : list.vms = w₁.vms) :
    ∃ new, Added stackName compose.toVyomaCompose w.vms w.vms w₁.vms new ∧
      (down stackName (some list) (some compose.toVyomaCompose) traversal).stops =
        (new.map VmSummary.id).reverse ∧
      (w₁.stopAll env'
        (down stackName (some list) (some compose.toVyomaCompose) traversal).stops).vms =
          w.vms := by
  obtain ⟨new, hseen⟩ := up_adds env stackName compose order w
  rw [hup] at hseen
  have hadded : Added stackName compose.toVyomaCompose w.vms w.vms w₁.vms new :=
    { hseen with
      missing := fun vm hvm => ⟨(hseen.missing vm hvm).1, fun ⟨vm', hvm', hstack, _⟩ =>
        hnone vm' hvm' hstack⟩ }
  have hvms := hadded.kept
  rw [hvms] at hadded hlist
  have hstops : (down stackName (some list) (some compose.toVyomaCompose) traversal).stops =
      (new.map VmSummary.id).reverse := by
    cases horder : compose.startOrder with
    | ok services => exact stops_down_new hnone hadded horder hlist traversal
    | error e =>
      have hnew : new = [] := by
        unfold up at hup
        rw [horder] at hup
        rw [← hup] at hvms
        exact List.append_cancel_left (hvms.symm.trans (List.append_nil _).symm)
      rw [stops_down, hnew, List.map_nil, List.reverse_nil, List.filterMap_eq_nil_iff]
      intro name _
      rw [AList.lookup_eq_none, mem_vmsToStop_iff, hlist, hnew, List.append_nil]
      rintro ⟨vm, hvm, hstack, -⟩
      exact hnone vm hvm hstack
  refine ⟨new, hvms ▸ hadded, hstops, ?_⟩
  have hnodup := list.nodup
  rw [hlist, List.map_append, List.nodup_append] at hnodup
  rw [hstops, stopAll_vms henv, hvms, List.filter_append, List.filter_eq_self.mpr,
    List.filter_eq_nil_iff.mpr, List.append_nil]
  · intro vm hvm
    simpa using List.mem_map_of_mem hvm
  · intro vm hvm
    rw [decide_eq_true_eq, List.mem_reverse]
    intro hmem
    exact hnodup.2.2 _ (List.mem_map_of_mem hvm) _ hmem rfl

theorem halfUp_undone : (halfUp.stopAll answering (down "shop" (some halfList) (some shopFile)
    (.inOrder _ _)).stops).vms = [plainVm] := by
  obtain ⟨-, -, -, hvms⟩ := down_undoes_up refusing answering "shop" shopProject (.inOrder _ _)
    plainWorld halfUp halfList (.inOrder _ _) answering_succeeds (by decide) rfl rfl
  exact hvms

end Up

end Vyoma.Compose
