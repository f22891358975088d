import Mathlib.Data.List.Basic
import Vyoma.ComposePorts

/-!
# Scaling the services of a stack

`vyoma scale` reads the wanted counts from its arguments, groups the VMs of the stack by
service and starts or stops VMs one request at a time. What is to be stopped is indexed from
the end of the service's list, as it was when the command began.
-/
namespace Vyoma.Compose
open RustText

/-! ## Requests to the daemon -/

structure CreateNetworkRequest where
  name : String
  subnet : String
  driver : String

inductive Request where
  | createNetwork (payload : CreateNetworkRequest)
  | ps
  | build (context : String)
  | run (payload : RunRequest)
  | stop (id : String)

def Request.stopped : Request → Option String
  | .stop id => some id
  | _ => none

/-- What becomes of a request; the body of a successful answer may still be unreadable. -/
inductive Answer where
  | success
  | refused (status text : String)
  | unreachable (e : String)
  | unreadable (e : String)
  deriving DecidableEq

def Answer.done : Answer → Bool
  | .success => true
  | .unreadable _ => true
  | _ => false

/-- What requests meet, by the number of requests sent before them: their answers, the image
that a build yields and the id that is drawn for a new VM. -/
structure Env where
  /-- The context exists and is packed. -/
  tar : String → Except String Unit
  answer : ℕ → Answer
  imageId : ℕ → String
  vmId : ℕ → String

/-- The requests sent so far, and the VMs of the daemon in the order of `/ps`. -/
structure World where
  sent : List Request
  vms : List VmSummary

namespace World

variable (env : Env) (w : World)

/-- The VMs after a request that the daemon has carried out. -/
def serve : Request → List VmSummary
  | .createNetwork _ => w.vms
  | .ps => w.vms
  | .build _ => w.vms
  | .run payload => w.vms ++ [⟨env.vmId w.sent.length, payload.labels⟩]
  | .stop id => w.vms.filter fun vm => vm.id ≠ id

def send (request : Request) : World where
  sent := w.sent ++ [request]
  vms := if (env.answer w.sent.length).done then w.serve env request else w.vms

/-- The answer to the next request. -/
def next : Answer := env.answer w.sent.length

def stops : List String := w.sent.filterMap Request.stopped

end World

/-- `build_image_with_client`. -/
def buildImage (env : Env) (context : String) (w : World) : World × Except String String :=
  match env.tar context with
  | .error e => (w, .error e)
  | .ok () =>
    (w.send env (.build context),
      match w.next env with
      | .success => .ok (env.imageId w.sent.length)
      | .refused status text => .error ("Build failed (" ++ status ++ "): " ++ text)
      | .unreachable e => .error e
      | .unreadable e => .error e)

/-- The image that a service is started from: its build, else its image, else none. -/
def imageTarget (env : Env) (service : Service) (w : World) :
    World × Except String (Option String) :=
  match service.build with
  | some build =>
    let context := match build with
      | .path p => p
      | .config c _ => c
    let (w, built) := buildImage env context w
    (w, built.map some)
  | none => (w, .ok service.image)

/-- Only an unreadable answer is an error; a refusal is logged. -/
def readBody : Answer → Except String Unit
  | .unreadable e => .error e
  | _ => .ok ()

/-- A service with neither an image nor a build is logged and passed over. -/
def startServiceHelper (env : Env) (stackName name : String) (service : Service) (w : World) :
    World × Except String Unit :=
  match imageTarget env service w with
  | (w, .error e) => (w, .error e)
  | (w, .ok none) => (w, .ok ())
  | (w, .ok (some image)) =>
    (w.send env (.run (upRequest stackName name image service)), readBody (w.next env))

/-! ## The command -/

/-- A loop whose body may return early. -/
def forEach {α : Type} (body : α → World → World × Except String Unit) (as : List α) (w : World) :
    World × Except String Unit :=
  as.foldl (fun
    | (w, .ok ()), a => body a w
    | (w, .error e), _ => (w, .error e)) (w, .ok ())

/-- Subtraction of `usize`. -/
def usizeSub (a b : ℕ) : Except String ℕ :=
  if b ≤ a then .ok (a - b) else .error "attempt to subtract with overflow"

/-- `running_count - 1 - i`. -/
def stopIndex (runningCount i : ℕ) : Except String ℕ := do
  let last ← usizeSub runningCount 1
  usizeSub last i

def stopReplica (env : Env) (runningList : List String) (i : ℕ) (w : World) :
    World × Except String Unit :=
  match stopIndex runningList.length i with
  | .error e => (w, .error e)
  | .ok j =>
    match runningList[j]? with
    | some id => (w.send env (.stop id), readBody (w.next env))
    | none => (w, .ok ())

def reconcile (env : Env) (stackName : String) (compose : VyomaCompose)
    (runningList : List String) (svcName : String) (targetCount : ℕ) (w : World) :
    World × Except String Unit :=
  let runningCount := runningList.length
  if targetCount > runningCount then
    match compose.service svcName with
    | none => (w, .error "called `Option::unwrap()` on a `None` value")
    | some service =>
      forEach (fun _ => startServiceHelper env stackName svcName service)
        (List.range (targetCount - runningCount)) w
  else if runningCount > targetCount then
    forEach (stopReplica env runningList) (List.range (runningCount - targetCount)) w
  else (w, .ok ())

/-- The counts of the arguments `service=count` that name a service of the file. -/
def scaleMap (compose : VyomaCompose) (replicas : List String) : HashMap String ℕ :=
  replicas.foldl (fun m r =>
    match splitOnce '=' r with
    | none => m
    | some (svc, countStr) =>
      match parseUnsigned 64 countStr with
      | none => m
      | some count => if svc ∈ compose.services then m.insert svc count else m) ∅

/-- The ids of the stack's VMs, by service and in the order of `/ps`. -/
def currentState (stackName : String) (vms : List VmSummary) : HashMap String (List String) :=
  vms.foldl (fun m vm =>
    if vm.stack = some stackName then
      match vm.service with
      | some svc => m.insert svc ((m.lookup svc).getD [] ++ [vm.id])
      | none => m
    else m) ∅

def runningList (stackName : String) (vms : List VmSummary) (svcName : String) : List String :=
  ((currentState stackName vms).lookup svcName).getD []

/-- `Commands::Scale` for a file that loads, with what its `/ps` has given; one that fails
counts as no VMs. -/
def scale (env : Env) (stackName : String) (compose : VyomaCompose) (replicas : List String)
    (order : HashMap.Traversal String ℕ) (list : Option ListResponse) (w : World) :
    World × Except String Unit :=
  let wanted := scaleMap compose replicas
  if wanted.keys.isEmpty then (w, .ok ())
  else
    let vms := (list.map ListResponse.vms).getD []
    forEach (fun entry => reconcile env stackName compose (runningList stackName vms entry.1)
      entry.1 entry.2) (order.visit wanted).pairs w

/-- What every turn of a loop keeps holds at its end, and no turn returns early. -/
theorem forEach_spec {α : Type} {body : α → World → World × Except String Unit} {as : List α}
    {P : List α → World → Prop} {w : World} (hstart : P [] w)
    (hstep : ∀ pre a post, as = pre ++ a :: post → ∀ w, P pre w →
      ∃ w', body a w = (w', .ok ()) ∧ P (pre ++ [a]) w') :
    ∃ w', forEach body as w = (w', .ok ()) ∧ P as w' := by
  induction as using List.reverseRecOn with
  | nil => exact ⟨w, rfl, hstart⟩
  | append_singleton as a ih =>
    obtain ⟨w₁, hloop, hP⟩ := ih fun pre b post has =>
      hstep pre b (post ++ [a]) (by rw [has, List.append_assoc, List.cons_append])
    obtain ⟨w₂, hbody, hP'⟩ := hstep as a [] rfl w₁ hP
    refine ⟨w₂, ?_, hP'⟩
    unfold forEach at hloop ⊢
    rw [List.foldl_append, hloop]
    exact hbody

theorem forEach_range {n : ℕ} {body : ℕ → World → World × Except String Unit}
    {P : ℕ → World → Prop} {w : World} (hstart : P 0 w)
    (hstep : ∀ i < n, ∀ w, P i w → ∃ w', body i w = (w', .ok ()) ∧ P (i + 1) w') :
    ∃ w', forEach body (List.range n) w = (w', .ok ()) ∧ P n w' := by
  have hturn : ∀ pre i post, List.range n = pre ++ i :: post → ∀ w, P pre.length w →
      ∃ w', body i w = (w', .ok ()) ∧ P (pre ++ [i]).length w' := by
    intro pre i post hrange w hw
    have hlength := congrArg List.length hrange
    rw [List.length_range, List.length_append, List.length_cons] at hlength
    have hi : (List.range n)[pre.length]? = some i := by
      rw [hrange]
      simp
    have hlt : pre.length < n := by omega
    obtain rfl : pre.length = i := by simpa [List.getElem?_range hlt] using hi
    rw [List.length_append]
    exact hstep _ hlt w hw
  obtain ⟨w', hloop, hP⟩ := forEach_spec (P := fun pre => P pre.length) hstart hturn
  rw [List.length_range] at hP
  exact ⟨w', hloop, hP⟩

/-! ## Replicas -/

def IsReplica (stackName svcName : String) (vm : VmSummary) : Prop :=
  vm.stack = some stackName ∧ vm.service = some svcName

instance (stackName svcName : String) (vm : VmSummary) :
    Decidable (IsReplica stackName svcName vm) :=
  inferInstanceAs (Decidable (_ ∧ _))

/-- The ids of a service's VMs, in the order of `/ps`. -/
def replicaIds (stackName : String) (vms : List VmSummary) (svcName : String) : List String :=
  (vms.filter fun vm => IsReplica stackName svcName vm).map VmSummary.id

/-- The VMs that belong to something else. -/
def others (stackName : String) (vms : List VmSummary) (svcName : String) : List VmSummary :=
  vms.filter fun vm => ¬IsReplica stackName svcName vm

theorem runningList_eq (stackName : String) (vms : List VmSummary) (svcName : String) :
    runningList stackName vms svcName = replicaIds stackName vms svcName := by
  unfold runningList currentState
  induction vms using List.reverseRecOn with
  | nil => rfl
  | append_singleton vms vm ih =>
    rw [List.foldl_append, List.foldl_cons, List.foldl_nil, replicaIds, List.filter_append,
      List.map_append, ← replicaIds]
    by_cases hstack : vm.stack = some stackName
    · rw [if_pos hstack]
      cases hservice : vm.service with
      | none => simp [ih, IsReplica, hstack, hservice]
      | some svc =>
        rw [HashMap.lookup_insert]
        by_cases hsvc : svc = svcName
        · subst hsvc
          simp [ih, IsReplica, hstack, hservice]
        · simp [ih, IsReplica, hstack, hservice, hsvc]
    · rw [if_neg hstack, ih]
      simp [IsReplica, hstack]

theorem replicaIds_of_others {stackName svcName svcName' : String} (hne : svcName' ≠ svcName)
    {vms vms' : List VmSummary} (h : others stackName vms' svcName = others stackName vms svcName) :
    replicaIds stackName vms' svcName' = replicaIds stackName vms svcName' := by
  have hsub : ∀ vms : List VmSummary, (vms.filter fun vm => IsReplica stackName svcName' vm) =
      (others stackName vms svcName).filter fun vm => IsReplica stackName svcName' vm := by
    intro vms
    rw [others, List.filter_filter]
    refine List.filter_congr fun vm _ => ?_
    by_cases hvm : IsReplica stackName svcName' vm
    · have hnot : ¬IsReplica stackName svcName vm := by
        intro hboth
        have hsame := hvm.2.symm.trans hboth.2
        exact hne (Option.some.inj hsame)
      simp [hvm, hnot]
    · simp [hvm]
  rw [replicaIds, replicaIds, hsub vms', h, ← hsub vms]

/-! ## Steps -/

/-- Every request succeeds, contexts can be packed, and no id is drawn twice. -/
structure Succeeds (env : Env) : Prop where
  tar : ∀ context, env.tar context = .ok ()
  answers : ∀ k, env.answer k = .success
  distinct : ∀ k k', env.vmId k = env.vmId k' → k = k'

/-- The ids of the VMs differ, also from all that are still to be drawn. -/
structure Sound (env : Env) (w : World) : Prop where
  nodup : (w.vms.map VmSummary.id).Nodup
  fresh : ∀ vm ∈ w.vms, ∀ k, w.sent.length ≤ k → vm.id ≠ env.vmId k

section Steps

variable {env : Env} {w : World}

theorem send_vms (henv : Succeeds env) (request : Request) :
    (w.send env request).vms = w.serve env request := by
  rw [World.send, henv.answers]
  rfl

theorem readBody_next (henv : Succeeds env) : readBody (w.next env) = .ok () := by
  rw [World.next, henv.answers]
  rfl

theorem Sound.send (henv : Succeeds env) (h : Sound env w) (request : Request) :
    Sound env (w.send env request) := by
  have hlength : (w.send env request).sent.length = w.sent.length + 1 := by simp [World.send]
  have hold : ∀ vm ∈ w.vms, ∀ k, w.sent.length + 1 ≤ k → vm.id ≠ env.vmId k :=
    fun vm hvm k hk => h.fresh vm hvm k (by omega)
  constructor
  · rw [send_vms henv]
    cases request with
    | createNetwork payload => exact h.nodup
    | ps => exact h.nodup
    | build context => exact h.nodup
    | run payload =>
      rw [World.serve, List.map_append, List.nodup_append]
      refine ⟨h.nodup, List.nodup_singleton _, ?_⟩
      rintro id hid _ hnew rfl
      obtain ⟨vm, hvm, rfl⟩ := List.mem_map.mp hid
      exact h.fresh vm hvm _ (Nat.le_refl _) (List.mem_singleton.mp hnew)
    | stop id => exact h.nodup.sublist (List.filter_sublist.map _)
  · rw [send_vms henv, hlength]
    cases request with
    | createNetwork payload => exact hold
    | ps => exact hold
    | build context => exact hold
    | run payload =>
      intro vm hvm k hk
      obtain hvm | hvm := List.mem_append.mp hvm
      · exact hold vm hvm k hk
      · rw [List.mem_singleton.mp hvm]
        intro heq
        have := henv.distinct _ _ heq
        omega
    | stop id => exact fun vm hvm => hold vm (List.mem_of_mem_filter hvm)

theorem stops_send (request : Request) :
    (w.send env request).stops = w.stops ++ request.stopped.toList := by
  rw [World.stops, World.stops, World.send, List.filterMap_append, List.filterMap_cons]
  cases request.stopped <;> rfl

/-- A service that can be started. -/
def Service.Startable (service : Service) : Prop := service.build.isSome ∨ service.image.isSome

theorem imageTarget_startable (henv : Succeeds env) (hw : Sound env w) {service : Service}
    (h : service.Startable) : ∃ w' image, imageTarget env service w = (w', .ok (some image)) ∧
      Sound env w' ∧ w'.vms = w.vms ∧ w'.stops = w.stops := by
  unfold imageTarget
  cases hbuild : service.build with
  | none =>
    obtain ⟨image, himage⟩ : ∃ image, service.image = some image := by
      simpa [Service.Startable, hbuild, Option.isSome_iff_exists] using h
    exact ⟨w, image, by simp [himage], hw, rfl, rfl⟩
  | some build =>
    simp only [buildImage, henv.tar, World.next, henv.answers]
    refine ⟨_, _, rfl, hw.send henv _, send_vms henv _, ?_⟩
    rw [stops_send]
    exact List.append_nil _

theorem isReplica_upRequest (stackName name image : String) (service : Service) (id : String) :
    IsReplica stackName name ⟨id, (upRequest stackName name image service).labels⟩ := by
  constructor
  · rw [VmSummary.stack, upRequest, HashMap.lookup_insert, if_neg (by decide),
      HashMap.lookup_insert, if_pos rfl]
  · rw [VmSummary.service, upRequest, HashMap.lookup_insert, if_pos rfl]

variable {stackName svcName : String}

/-- Nothing of another service is touched. -/
structure SparesOthers (env : Env) (stackName svcName : String) (w w' : World) : Prop where
  sound : Sound env w'
  others : others stackName w'.vms svcName = others stackName w.vms svcName

theorem startServiceHelper_startable (henv : Succeeds env) (hw : Sound env w) {service : Service}
    (h : service.Startable) :
    ∃ w', startServiceHelper env stackName svcName service w = (w', .ok ()) ∧
      SparesOthers env stackName svcName w w' ∧ w'.stops = w.stops ∧
      (replicaIds stackName w'.vms svcName).length =
        (replicaIds stackName w.vms svcName).length + 1 := by
  obtain ⟨w₁, image, himage, hsound, hvms, hstops⟩ := imageTarget_startable henv hw h
  have hreplica := isReplica_upRequest stackName svcName image service (env.vmId w₁.sent.length)
  refine ⟨w₁.send env (.run (upRequest stackName svcName image service)), ?_, ⟨?_, ?_⟩, ?_, ?_⟩
  · rw [startServiceHelper, himage]
    simp only [readBody_next henv]
  · exact hsound.send henv _
  · simp [send_vms henv, World.serve, others, hvms, hreplica]
  · rw [stops_send, hstops]
    exact List.append_nil _
  · simp [send_vms henv, World.serve, replicaIds, hvms, hreplica]

theorem startServiceHelper_not_startable {service : Service} (h : ¬service.Startable) :
    startServiceHelper env stackName svcName service w = (w, .ok ()) := by
  obtain ⟨hbuild, himage⟩ : service.build = none ∧ service.image = none := by
    simpa [Service.Startable] using h
  simp [startServiceHelper, imageTarget, hbuild, himage]

theorem SparesOthers.refl (h : Sound env w) : SparesOthers env stackName svcName w w := ⟨h, rfl⟩

theorem SparesOthers.trans {w₁ w₂ : World} (h : SparesOthers env stackName svcName w w₁)
    (h' : SparesOthers env stackName svcName w₁ w₂) : SparesOthers env stackName svcName w w₂ :=
  ⟨h'.sound, h'.others.trans h.others⟩

/-- The loop that starts `n` VMs. -/
theorem startLoop (stackName svcName : String) (henv : Succeeds env) (hw : Sound env w)
    (service : Service) (n : ℕ) :
    ∃ w', forEach (fun _ => startServiceHelper env stackName svcName service) (List.range n) w =
        (w', .ok ()) ∧ SparesOthers env stackName svcName w w' ∧ w'.stops = w.stops ∧
      (service.Startable → (replicaIds stackName w'.vms svcName).length =
        (replicaIds stackName w.vms svcName).length + n) := by
  refine forEach_range
    (P := fun i w' => SparesOthers env stackName svcName w w' ∧ w'.stops = w.stops ∧
      (service.Startable → (replicaIds stackName w'.vms svcName).length =
        (replicaIds stackName w.vms svcName).length + i)) ⟨.refl hw, rfl, fun _ => rfl⟩ ?_
  rintro i - w₁ ⟨hkept, hstops, hcount⟩
  by_cases hstart : service.Startable
  · obtain ⟨w₂, hbody, hkept', hstops', hcount'⟩ :=
      startServiceHelper_startable henv hkept.sound hstart
    refine ⟨w₂, hbody, hkept.trans hkept', hstops'.trans hstops, fun _ => ?_⟩
    rw [hcount', hcount hstart, Nat.add_assoc]
  · exact ⟨w₁, startServiceHelper_not_startable hstart, hkept, hstops, fun h => absurd h hstart⟩

/-! ### Stopping -/

theorem replicaIds_filter (vms : List VmSummary) (id : String) :
    replicaIds stackName (vms.filter fun vm => vm.id ≠ id) svcName =
      (replicaIds stackName vms svcName).filter (· ≠ id) := by
  rw [replicaIds, replicaIds, List.filter_map, List.filter_comm]
  rfl

/-- Stopping a replica leaves what is not one. -/
theorem others_filter {vms : List VmSummary} (hnodup : (vms.map VmSummary.id).Nodup) {id : String}
    (hid : id ∈ replicaIds stackName vms svcName) :
    others stackName (vms.filter fun vm => vm.id ≠ id) svcName = others stackName vms svcName := by
  obtain ⟨replica, hreplica, rfl⟩ := List.mem_map.mp hid
  obtain ⟨hmem, hreplica⟩ := List.mem_filter.mp hreplica
  rw [others, others, List.filter_comm, List.filter_eq_self]
  intro vm hvm
  obtain ⟨hvm, hother⟩ := List.mem_filter.mp hvm
  have hne : vm.id ≠ replica.id := by
    intro heq
    obtain rfl := List.inj_on_of_nodup_map hnodup hvm hmem heq
    simp at hreplica hother
    exact hother hreplica
  simpa using hne

/-- A turn of the loop that stops indexes inside the list. -/
theorem stopIndex_eq {n i : ℕ} (h : i < n) : stopIndex n i = .ok (n - 1 - i) := by
  have hlast : 1 ≤ n := by omega
  have hi : i ≤ n - 1 := by omega
  simp [stopIndex, usizeSub, hlast, hi, bind, Except.bind]

theorem stopReplica_spec (henv : Succeeds env) (hw : Sound env w) {running : List String} {i : ℕ}
    (hi : i < running.length)
    (hrest : replicaIds stackName w.vms svcName = running.take (running.length - i))
    (hdistinct : running.Nodup) :
    ∃ w', stopReplica env running i w = (w', .ok ()) ∧ SparesOthers env stackName svcName w w' ∧
      w'.stops = w.stops ++ [running[running.length - 1 - i]] ∧
      replicaIds stackName w'.vms svcName = running.take (running.length - (i + 1)) := by
  have hinside : running.length - 1 - i < running.length := by omega
  have hsplit : running.take (running.length - i) =
      running.take (running.length - (i + 1)) ++ [running[running.length - 1 - i]] := by
    have hsucc : running.length - i = running.length - (i + 1) + 1 := by omega
    have hindex : running.length - 1 - i = running.length - (i + 1) := by omega
    simp only [hindex, hsucc, List.take_append_getElem]
  have hmem : running[running.length - 1 - i] ∈ replicaIds stackName w.vms svcName := by
    rw [hrest, hsplit]
    exact List.mem_append_right _ (List.mem_singleton_self _)
  have hnodup : (running.take (running.length - i)).Nodup :=
    hdistinct.sublist (List.take_sublist _ _)
  rw [hsplit, List.nodup_append] at hnodup
  refine ⟨w.send env (.stop running[running.length - 1 - i]), ?_, ⟨hw.send henv _, ?_⟩, ?_, ?_⟩
  · rw [stopReplica, stopIndex_eq hi]
    simp only [List.getElem?_eq_getElem hinside, readBody_next henv]
  · rw [send_vms henv]
    exact others_filter hw.nodup hmem
  · rw [stops_send]
    rfl
  · rw [send_vms henv, World.serve, replicaIds_filter, hrest, hsplit, List.filter_append]
    have hkeep : ∀ id ∈ running.take (running.length - (i + 1)),
        decide (id ≠ running[running.length - 1 - i]) = true := by
      intro id hid
      exact decide_eq_true (hnodup.2.2 id hid _ (List.mem_singleton_self _))
    rw [List.filter_eq_self.mpr hkeep]
    simp

/-- The loop that stops the last `n` VMs of the list. -/
theorem stopLoop (henv : Succeeds env) (hw : Sound env w) {running : List String}
    (hrunning : replicaIds stackName w.vms svcName = running) {n : ℕ} (hn : n ≤ running.length) :
    ∃ w', forEach (stopReplica env running) (List.range n) w = (w', .ok ()) ∧
      SparesOthers env stackName svcName w w' ∧ w'.stops = w.stops ++ running.reverse.take n ∧
      replicaIds stackName w'.vms svcName = running.take (running.length - n) := by
  have hdistinct : running.Nodup := by
    rw [← hrunning]
    exact hw.nodup.sublist (List.filter_sublist.map _)
  refine forEach_range (P := fun i w' => SparesOthers env stackName svcName w w' ∧
    w'.stops = w.stops ++ running.reverse.take i ∧
    replicaIds stackName w'.vms svcName = running.take (running.length - i))
    ⟨.refl hw, by simp, by simp [hrunning]⟩ ?_
  rintro i hi w₁ ⟨hkept, hstops, hrest⟩
  have hlt : i < running.length := by omega
  obtain ⟨w₂, hbody, hkept', hstops', hrest'⟩ :=
    stopReplica_spec henv hkept.sound hlt hrest hdistinct
  refine ⟨w₂, hbody, hkept.trans hkept', ?_, hrest'⟩
  have hreverse : running.reverse.take (i + 1) =
      running.reverse.take i ++ [running[running.length - 1 - i]] := by
    rw [← List.getElem_reverse (by simpa using hlt), List.take_append_getElem]
  rw [hstops', hstops, hreverse, List.append_assoc]

/-- The service of a wanted count, where it can be started. -/
def CanStart (compose : VyomaCompose) (svcName : String) : Prop :=
  ∀ service, compose.service svcName = some service → service.Startable

/-- The ids at the end of a list that are too many. -/
def surplus (running : List String) (targetCount : ℕ) : List String :=
  running.reverse.take (running.length - targetCount)

theorem reconcile_spec (henv : Succeeds env) (hw : Sound env w) {compose : VyomaCompose}
    (hsvc : svcName ∈ compose.services) {running : List String}
    (hrunning : replicaIds stackName w.vms svcName = running) (targetCount : ℕ) :
    ∃ w', reconcile env stackName compose running svcName targetCount w = (w', .ok ()) ∧
      SparesOthers env stackName svcName w w' ∧
      w'.stops = w.stops ++ surplus running targetCount ∧
      (CanStart compose svcName → (replicaIds stackName w'.vms svcName).length = targetCount) := by
  obtain ⟨service, hservice⟩ := Option.isSome_iff_exists.mp (AList.lookup_isSome.mpr hsvc)
  have hservice : compose.service svcName = some service := hservice
  unfold reconcile surplus
  dsimp only
  by_cases hup : targetCount > running.length
  · rw [if_pos hup, hservice]
    obtain ⟨w', hloop, hspares, hstops, hcount⟩ :=
      startLoop stackName svcName henv hw service (targetCount - running.length)
    have hnone : running.length - targetCount = 0 := by omega
    refine ⟨w', hloop, hspares, by rw [hstops, hnone]; simp, fun hcan => ?_⟩
    rw [hcount (hcan service hservice), hrunning]
    omega
  · rw [if_neg hup]
    by_cases hdown : running.length > targetCount
    · rw [if_pos hdown]
      obtain ⟨w', hloop, hspares, hstops, hrest⟩ :=
        stopLoop henv hw hrunning (Nat.sub_le running.length targetCount)
      refine ⟨w', hloop, hspares, hstops, fun _ => ?_⟩
      rw [hrest, List.length_take]
      omega
    · rw [if_neg hdown]
      have hnone : running.length - targetCount = 0 := by omega
      refine ⟨w, rfl, .refl hw, by simp [hnone], fun _ => ?_⟩
      rw [hrunning]
      omega

/-- The services that were scaled have their counts, the others are as they were. -/
structure Scaled (env : Env) (stackName : String) (compose : VyomaCompose) (w : World)
    (done : List (String × ℕ)) (w' : World) : Prop where
  sound : Sound env w'
  stops : w'.stops = w.stops ++ done.flatMap fun e =>
    surplus (replicaIds stackName w.vms e.1) e.2
  counts : ∀ e ∈ done, CanStart compose e.1 → (replicaIds stackName w'.vms e.1).length = e.2
  rest : ∀ svc, svc ∉ done.map Prod.fst →
    replicaIds stackName w'.vms svc = replicaIds stackName w.vms svc

theorem reconcileAll (stackName : String) (henv : Succeeds env) (hw : Sound env w)
    {compose : VyomaCompose} {entries : List (String × ℕ)}
    (hnodup : (entries.map Prod.fst).Nodup)
    (hmem : ∀ e ∈ entries, e.1 ∈ compose.services) :
    ∃ w', forEach (fun entry => reconcile env stackName compose
        (replicaIds stackName w.vms entry.1) entry.1 entry.2) entries w = (w', .ok ()) ∧
      Scaled env stackName compose w entries w' := by
  refine forEach_spec (P := Scaled env stackName compose w)
    ⟨hw, by simp, by simp, fun _ _ => rfl⟩ ?_
  rintro pre e post rfl w₁ hscaled
  rw [List.map_append, List.map_cons, List.nodup_append, List.nodup_cons] at hnodup
  have hnew : e.1 ∉ pre.map Prod.fst := fun h => hnodup.2.2 e.1 h e.1 List.mem_cons_self rfl
  have hsvc : e.1 ∈ compose.services := hmem e (by simp)
  obtain ⟨w₂, hbody, hspares, hstops, hcount⟩ :=
    reconcile_spec henv hscaled.sound hsvc (hscaled.rest e.1 hnew) e.2
  have hother : ∀ svc, svc ≠ e.1 →
      replicaIds stackName w₂.vms svc = replicaIds stackName w₁.vms svc :=
    fun svc hne => replicaIds_of_others hne hspares.others
  refine ⟨w₂, hbody, hspares.sound, ?_, ?_, ?_⟩
  · rw [hstops, hscaled.stops, List.flatMap_append, List.append_assoc]
    simp
  · intro e' he' hcan
    obtain he' | he' := List.mem_append.mp he'
    · have hne : e'.1 ≠ e.1 := fun heq => hnew (heq ▸ List.mem_map_of_mem he')
      rw [hother e'.1 hne]
      exact hscaled.counts e' he' hcan
    · rw [List.mem_singleton.mp he'] at hcan ⊢
      exact hcount hcan
  · intro svc hsvc
    simp only [List.map_append, List.mem_append, not_or, List.map_cons, List.map_nil,
      List.mem_singleton] at hsvc
    rw [hother svc hsvc.2, hscaled.rest svc hsvc.1]

end Steps

/-! ## The command as a whole -/

theorem mem_services_of_scaleMap {compose : VyomaCompose} {replicas : List String} {svc : String}
    (h : svc ∈ scaleMap compose replicas) : svc ∈ compose.services := by
  have hall : ∀ svc ∈ scaleMap compose replicas, svc ∈ compose.services := by
    refine List.foldlRecOn (motive := fun m : HashMap String ℕ => ∀ svc ∈ m, svc ∈ compose.services)
      replicas _ (fun svc hnone => absurd hnone (AList.notMem_empty svc)) ?_
    intro m hm r _
    split
    · exact hm
    · split
      · exact hm
      · split_ifs with hdefined
        · intro svc' hsvc'
          rw [AList.mem_insert] at hsvc'
          obtain rfl | hold := hsvc'
          · exact hdefined
          · exact hm svc' hold
        · exact hm
  exact hall svc h

theorem surplus_sublist (running : List String) (targetCount : ℕ) :
    (surplus running targetCount).Sublist running.reverse := List.take_sublist _ _

/-- A VM is a replica of one service only. -/
theorem disjoint_replicaIds {vms : List VmSummary} (hvms : (vms.map VmSummary.id).Nodup)
    {stackName svc svc' : String} (hne : svc ≠ svc') :
    List.Disjoint (replicaIds stackName vms svc) (replicaIds stackName vms svc') := by
  intro id hid hid'
  obtain ⟨vm, hvm, rfl⟩ := List.mem_map.mp hid
  obtain ⟨vm', hvm', heq⟩ := List.mem_map.mp hid'
  obtain ⟨hmem, hreplica⟩ := List.mem_filter.mp hvm
  obtain ⟨hmem', hreplica'⟩ := List.mem_filter.mp hvm'
  obtain rfl := List.inj_on_of_nodup_map hvms hmem' hmem heq
  have hservice := (of_decide_eq_true hreplica).2
  rw [(of_decide_eq_true hreplica').2] at hservice
  exact hne (Option.some.inj hservice).symm

theorem nodup_surplus {vms : List VmSummary} (hvms : (vms.map VmSummary.id).Nodup)
    (stackName : String) {entries : List (String × ℕ)} (hkeys : (entries.map Prod.fst).Nodup) :
    (entries.flatMap fun e => surplus (replicaIds stackName vms e.1) e.2).Nodup := by
  rw [List.nodup_flatMap]
  constructor
  · intro e _
    have hids : (replicaIds stackName vms e.1).Nodup :=
      hvms.sublist (List.filter_sublist.map _)
    exact (List.nodup_reverse.mpr hids).sublist (surplus_sublist _ _)
  · refine (List.pairwise_map.mp hkeys).imp fun {e e'} hne id hid hid' => ?_
    have hmem := List.mem_reverse.mp ((surplus_sublist _ _).subset hid)
    have hmem' := List.mem_reverse.mp ((surplus_sublist _ _).subset hid')
    exact disjoint_replicaIds hvms hne hmem hmem'

/-- Without valid arguments there is nothing to loop over either. -/
theorem scale_eq (env : Env) (stackName : String) (compose : VyomaCompose) (replicas : List String)
    (order : HashMap.Traversal String ℕ) (list : ListResponse) (w : World) :
    scale env stackName compose replicas order (some list) w =
      forEach (fun entry => reconcile env stackName compose
        (runningList stackName list.vms entry.1) entry.1 entry.2)
        (order.visit (scaleMap compose replicas)).pairs w := by
  unfold scale
  dsimp only
  split_ifs with hempty
  · have hkeys : (scaleMap compose replicas).keys = [] := List.isEmpty_iff.mp hempty
    have hpairs : (order.visit (scaleMap compose replicas)).pairs = [] := by
      have hperm := (order.sameContents (scaleMap compose replicas)).pairs.map Prod.fst
      rw [HashMap.keys_pairs (scaleMap compose replicas), hkeys] at hperm
      exact List.map_eq_nil_iff.mp hperm.eq_nil
    rw [hpairs]
    rfl
  · rfl

/-- When every request succeeds, every service that is to be scaled and can be started has the
wanted number of VMs in the end. The VMs that are stopped are different ones, those at the end
of each service's list, and every index is one of the list. -/
theorem scale_converges (env : Env) (henv : Succeeds env) (stackName : String)
    (compose : VyomaCompose) (replicas : List String) (order : HashMap.Traversal String ℕ)
    (list : ListResponse) (hfresh : ∀ vm ∈ list.vms, ∀ k, vm.id ≠ env.vmId k) :
    ∃ w', scale env stackName compose replicas order (some list) ⟨[], list.vms⟩ = (w', .ok ()) ∧
      (∀ svc target, (scaleMap compose replicas).lookup svc = some target →
        CanStart compose svc → (replicaIds stackName w'.vms svc).length = target) ∧
      w'.stops = ((order.visit (scaleMap compose replicas)).pairs.flatMap fun e =>
        surplus (runningList stackName list.vms e.1) e.2) ∧
      w'.stops.Nodup ∧
      ∀ svc target i, (scaleMap compose replicas).lookup svc = some target →
        i < (runningList stackName list.vms svc).length - target →
        ∃ j, stopIndex (runningList stackName list.vms svc).length i = .ok j ∧
          j < (runningList stackName list.vms svc).length := by
  simp only [runningList_eq]
  have hpairs : ∀ svc target, (svc, target) ∈ (order.visit (scaleMap compose replicas)).pairs ↔
      (scaleMap compose replicas).lookup svc = some target := by
    intro svc target
    rw [HashMap.mem_pairs, HashMap.lookup_visit]
  have hkeys : ((order.visit (scaleMap compose replicas)).pairs.map Prod.fst).Nodup := by
    rw [HashMap.keys_pairs]
    exact AList.keys_nodup _
  have hsound : Sound env ⟨[], list.vms⟩ := ⟨list.nodup, fun vm hvm k _ => hfresh vm hvm k⟩
  have hmem : ∀ e ∈ (order.visit (scaleMap compose replicas)).pairs, e.1 ∈ compose.services := by
    rintro ⟨svc, target⟩ he
    have hlookup := (hpairs svc target).mp he
    have hmem : svc ∈ scaleMap compose replicas := AList.lookup_isSome.mp (by rw [hlookup]; rfl)
    exact mem_services_of_scaleMap hmem
  obtain ⟨w', hloop, hscaled⟩ := reconcileAll stackName henv hsound hkeys hmem
  have hindex : ∀ svc target i, (scaleMap compose replicas).lookup svc = some target →
      i < (replicaIds stackName list.vms svc).length - target →
      ∃ j, stopIndex (replicaIds stackName list.vms svc).length i = .ok j ∧
        j < (replicaIds stackName list.vms svc).length :=
    fun svc target i _ hi => ⟨_, stopIndex_eq (by omega), by omega⟩
  have hstops : w'.stops = (order.visit (scaleMap compose replicas)).pairs.flatMap fun e =>
      surplus (replicaIds stackName list.vms e.1) e.2 := hscaled.stops
  refine ⟨w', ?_, fun svc target hlookup hcan => ?_, hstops, ?_, hindex⟩
  · rw [scale_eq]
    simp only [runningList_eq]
    exact hloop
  · exact hscaled.counts (svc, target) ((hpairs svc target).mpr hlookup) hcan
  · rw [hstops]
    exact nodup_surplus list.nodup stackName hkeys

/-- A daemon that answers every request, and draws ids that grow. -/
def answering : Env where
  tar _ := .ok ()
  answer _ := .success
  imageId _ := ""
  vmId k := String.ofList (List.replicate k 'r')

theorem answering_succeeds : Succeeds answering where
  tar _ := rfl
  answers _ := rfl
  distinct k k' h := by
    have hlength := congrArg List.length (String.ofList_injective h)
    simpa using hlength

/-- Scaled to one replica, the shop's web server loses the second of its two VMs. -/
theorem shop_scaled_down : ∃ w', scale answering "shop" shopFile ["web=1", "cache=2"]
      (.inOrder _ _) (some scaledVms) ⟨[], scaledVms.vms⟩ = (w', .ok ()) ∧
    (replicaIds "shop" w'.vms "web").length = 1 ∧ w'.stops = ["7b80"] := by
  have hold : ∀ vm ∈ scaledVms.vms, vm.id.toList.any (fun c => c ≠ 'r') = true := by decide
  have hfresh : ∀ vm ∈ scaledVms.vms, ∀ k, vm.id ≠ answering.vmId k := by
    intro vm hvm k heq
    obtain ⟨c, hc, hne⟩ := List.any_eq_true.mp (hold vm hvm)
    rw [heq, answering, String.toList_ofList] at hc
    exact of_decide_eq_true hne (List.eq_of_mem_replicate hc)
  obtain ⟨w', hscale, hcounts, hstops, -⟩ := scale_converges answering answering_succeeds "shop"
    shopFile ["web=1", "cache=2"] (.inOrder _ _) scaledVms hfresh
  have hcan : CanStart shopFile "web" := by
    intro service hservice
    have hweb : shopFile.service "web" =
        some { image := some "nginx", dependsOn := some ["db"] } := rfl
    rw [hweb] at hservice
    exact .inr (by rw [← Option.some.inj hservice]; rfl)
  refine ⟨w', hscale, hcounts "web" 1 (by decide) hcan, ?_⟩
  rw [hstops]
  decide

end Vyoma.Compose
