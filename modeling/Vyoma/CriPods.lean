import Vyoma.CriServer
import Vyoma.Runs

/-!
# Containers and their pods

Handlers run side by side, one operation of one of them at a time. Two of them rely on a
pod that they have seen: `CreateContainer` inserts a container for a pod it has checked
before, and the streaming handlers read through the pod of a container they have found.
Removing a pod takes neither the containers of the pod nor these handlers into account.
-/
namespace Vyoma.Cri
open LockPrograms LockPrograms.Program Runs

/-- Every container has its pod. -/
def PodsPresent (s : Server) : Prop :=
  ∀ id container, s.containers.lookup id = some container → container.podId ∈ s.pods

/-- Every container has its pod, and no handler has read through a pod that is not there. -/
def Consistent (c : CriConfig) : Prop :=
  PodsPresent c.store ∧ ∀ id, c.halted ≠ some (.panic (.pod id))

/-! ## What a program does without a pod -/

section Programs

variable {α β : Type}

/-- The pod that a query has not found. -/
def missingPod : ∀ {β : Type}, Query β → β → Option String
  | _, .pod id, none => some id
  | _, _, _ => none

/-- Whether an answer can be given while a pod is not there, nor any container of it. -/
def Without (podID : String) : ∀ {β : Type}, Query β → β → Prop
  | _, .pod id, some _ => id ≠ podID
  | _, .container _, some container => container.podId ≠ podID
  | _, _, _ => True

def inserts (podID : String) : Write → Prop
  | .putContainer _ container _ => container.podId = podID
  | _ => False

/-- The program reads through a missing pod only after it has looked it up in vain. -/
def Guarded : Program Query Write Status NilPointer α → Prop
  | .ret _ => True
  | .fail _ => True
  | .panics n => ∀ id, n ≠ .pod id
  | .mutex _ next => Guarded next
  | .write _ next => Guarded next
  | .ask q next => ∀ a, missingPod q a = none → Guarded (next a)

/-- The program does not rely on a pod: without it, no container of it is inserted, and it is
not read through. -/
def Free (podID : String) : Program Query Write Status NilPointer α → Prop
  | .ret _ => True
  | .fail _ => True
  | .panics _ => True
  | .mutex _ next => Free podID next
  | .write w next => ¬inserts podID w ∧ Free podID next
  | .ask q next => ∀ a, Without podID q a →
      Free podID (next a) ∧ (missingPod q a = some podID → Guarded (next a))

/-- The program inserts no container and reads through no pod. -/
def Harmless : Program Query Write Status NilPointer α → Prop
  | .ret _ => True
  | .fail _ => True
  | .panics n => ∀ id, n ≠ .pod id
  | .mutex _ next => Harmless next
  | .write w next => (∀ podID, ¬inserts podID w) ∧ Harmless next
  | .ask _ next => ∀ a, Harmless (next a)

theorem Harmless.guarded {p : Program Query Write Status NilPointer α} (h : Harmless p) :
    Guarded p := by
  induction p with
  | ret a => exact trivial
  | fail e => exact trivial
  | panics n => exact h
  | mutex op next ih => exact ih h
  | write w next ih => exact ih h.2
  | ask q next ih => exact fun a _ => ih a (h a)

theorem Harmless.free {p : Program Query Write Status NilPointer α} (h : Harmless p)
    (podID : String) : Free podID p := by
  induction p with
  | ret a => exact trivial
  | fail e => exact trivial
  | panics n => exact trivial
  | mutex op next ih => exact ih h
  | write w next ih => exact ⟨h.1 podID, ih h.2⟩
  | ask q next ih => exact fun a _ => ⟨ih a (h a), fun _ => (h a).guarded⟩

theorem Harmless.bind {p : Program Query Write Status NilPointer α}
    {f : α → Program Query Write Status NilPointer β} (h : Harmless p) (hf : ∀ a, Harmless (f a)) :
    Harmless (p >>= f) := by
  induction p with
  | ret a => exact hf a
  | fail e => exact trivial
  | panics n => exact h
  | mutex op next ih => exact ih h
  | write w next ih => exact ⟨h.1, ih h.2⟩
  | ask q next ih => exact fun a => ih a (h a)

end Programs

/-! ## The handlers at their start -/

section Handlers

variable (podID containerID : String)

theorem harmless_runPodSandbox (config : PodSandboxConfig) : Harmless (runPodSandbox config) := by
  intro created
  cases created with
  | error e => exact trivial
  | ok vmID =>
    intro started
    cases started with
    | error e => exact fun _ => trivial
    | ok _ => exact ⟨fun _ h => h, trivial⟩

theorem harmless_stopPodSandbox : Harmless (stopPodSandbox podID) := by
  intro pod
  cases pod with
  | none => exact trivial
  | some pod => exact fun _ => ⟨fun _ h => h, trivial⟩

theorem harmless_removePodSandbox : Harmless (removePodSandbox podID) := by
  intro pod
  cases pod with
  | none => exact trivial
  | some pod => exact fun _ => ⟨fun _ h => h, trivial⟩

theorem harmless_podSandboxStatus : Harmless (podSandboxStatus podID) := by
  intro pod
  cases pod with
  | none => exact trivial
  | some pod => exact fun _ => trivial

theorem harmless_syncPods (vms : List Vm) : Harmless (syncPods vms) := by
  induction vms with
  | nil => exact trivial
  | cons vm vms ih =>
    unfold syncPods
    dsimp only
    by_cases hname : (vm.labels.lookup "k8s.io/pod-name").getD "" = ""
    · rw [if_pos hname]
      exact ih
    · rw [if_neg hname]
      exact ⟨fun _ h => h, ih⟩

theorem harmless_syncPodsFromVyomad : Harmless syncPodsFromVyomad := by
  intro vms
  cases vms with
  | error e => exact trivial
  | ok vms => exact (harmless_syncPods vms).bind fun _ => trivial

theorem harmless_startContainer : Harmless (startContainer containerID) := by
  intro container
  cases container with
  | none => exact trivial
  | some container =>
    intro pod
    cases pod with
    | none => exact trivial
    | some pod =>
      intro ip connected
      cases connected with
      | error e => exact trivial
      | ok _ => exact fun _ => ⟨fun _ h => h, fun _ => ⟨fun _ h => h, trivial⟩⟩

theorem harmless_signalContainer (pod : Option PodSandbox) : Harmless (signalContainer pod) := by
  cases pod with
  | none => exact trivial
  | some pod =>
    intro ip connected
    cases connected with
    | error e => exact trivial
    | ok _ => exact fun _ _ => trivial

theorem harmless_stopContainer : Harmless (stopContainer containerID) := by
  intro container
  cases container with
  | none => exact trivial
  | some container =>
    intro pod
    exact (harmless_signalContainer pod).bind fun _ => ⟨fun _ h => h, trivial⟩

theorem harmless_removeContainerDir (pod : Option PodSandbox) :
    Harmless (removeContainerDir containerID pod) := by
  cases pod with
  | none => exact trivial
  | some pod =>
    intro ip connected
    cases connected with
    | error e => exact trivial
    | ok _ => exact fun _ => trivial

theorem harmless_cleanUpContainer (container : Option ContainerInfo) :
    Harmless (cleanUpContainer containerID container) := by
  cases container with
  | none => exact trivial
  | some container =>
    intro pod
    exact (harmless_removeContainerDir containerID pod).bind fun _ => trivial

theorem harmless_removeContainer : Harmless (removeContainer containerID) := by
  intro container
  exact (harmless_cleanUpContainer containerID container).bind fun _ => ⟨fun _ h => h, trivial⟩

theorem harmless_containerInfo : Harmless (containerInfo podID) := by
  intro pod
  cases pod with
  | none => exact trivial
  | some pod =>
    intro ip connected
    cases connected with
    | error e => exact trivial
    | ok _ =>
      intro metrics
      show Harmless (readMetrics metrics)
      unfold readMetrics
      cases AgentClient.statusInfo metrics with
      | none => exact fun _ h => nomatch h
      | some info => exact trivial

theorem harmless_containerStatus (verbose : Bool) :
    Harmless (containerStatus containerID verbose) := by
  intro container
  cases container with
  | none => exact trivial
  | some container =>
    intro cell
    have hfinish : Harmless (finishTime cell.state) := by
      unfold finishTime
      split_ifs
      · exact fun _ => trivial
      · exact trivial
    have hinfo : Harmless (verboseInfo verbose container.podId) := by
      unfold verboseInfo
      split_ifs
      · exact harmless_containerInfo container.podId
      · exact trivial
    exact hfinish.bind fun _ => hinfo.bind fun _ => trivial

theorem harmless_updateContainerResources : Harmless (updateContainerResources containerID) := by
  intro container
  cases container with
  | none => exact trivial
  | some container => exact trivial

theorem harmless_portForward (ports : List Int32) : Harmless (portForward podID ports) := by
  unfold portForward
  split_ifs
  · exact trivial
  · intro pod
    cases pod with
    | none => exact trivial
    | some pod => exact fun _ => trivial

end Handlers

/-- A handler that has not looked at anything relies on no pod. -/
structure Careful (h : Handler) : Prop where
  guarded : Guarded h
  free : ∀ podID, Free podID h

theorem Harmless.careful {h : Handler} (hh : Harmless h) : Careful h :=
  ⟨hh.guarded, hh.free⟩

/-- Once the pod is found, a container of it will be inserted, and of no other. -/
theorem free_insertContainer_iff (podID id : String) (config : Option ContainerConfig)
    (pod : PodSandbox) : Free id (insertContainer podID config pod) ↔ podID ≠ id := by
  constructor
  · intro h
    -- whatever the VM and its agent answer
    have hip := (h "" trivial).1
    have hconnect := (hip (.ok ()) trivial).1
    have hmkdir := (hconnect (.ok ()) trivial).1
    have hcreated := (hmkdir 0 trivial).1
    exact hcreated.1
  · intro h ip _
    refine ⟨fun connected _ => ⟨fun made _ => ⟨fun created _ => ⟨⟨h, trivial⟩, ?_⟩, ?_⟩, ?_⟩, ?_⟩
    all_goals exact fun hmissing => nomatch hmissing

theorem guarded_insertContainer (podID : String) (config : Option ContainerConfig)
    (pod : PodSandbox) : Guarded (insertContainer podID config pod) :=
  fun _ _ _ _ _ _ _ _ => trivial

theorem careful_createContainer (podID : String) (config : Option ContainerConfig) :
    Careful (createContainer podID config) := by
  constructor
  · intro pod hpod
    cases pod with
    | none => exact trivial
    | some pod => exact guarded_insertContainer podID config pod
  · intro id pod hpod
    cases pod with
    | none => exact ⟨trivial, fun _ => trivial⟩
    | some pod =>
      exact ⟨(free_insertContainer_iff podID id config pod).mpr hpod, fun h => nomatch h⟩

/-- Once a container is found, its pod will be read through, and no other. -/
theorem free_streamToPod_iff (type id : String) (req : StreamRequest) (container : ContainerInfo) :
    Free id (streamToPod type req container) ↔ container.podId ≠ id := by
  constructor
  · intro h hid
    have hguarded := (h none trivial).2 (congrArg some hid)
    exact hguarded container.podId rfl
  · intro h pod _
    cases pod with
    | none => exact ⟨trivial, fun hmissing => absurd (Option.some.inj hmissing) h⟩
    | some pod =>
      exact ⟨fun token _ => ⟨trivial, fun hmissing => nomatch hmissing⟩,
        fun hmissing => nomatch hmissing⟩

theorem guarded_streamToPod (type : String) (req : StreamRequest) (container : ContainerInfo) :
    Guarded (streamToPod type req container) := by
  intro pod hpod
  cases pod with
  | none => cases hpod
  | some pod => exact fun _ _ => trivial

theorem careful_streamTo (type : String) (req : StreamRequest) : Careful (streamTo type req) := by
  unfold streamTo
  split_ifs with hid
  · exact ⟨trivial, fun _ => trivial⟩
  · constructor
    · intro container hcontainer
      cases container with
      | none => exact trivial
      | some container => exact guarded_streamToPod type req container
    · intro id container hcontainer
      cases container with
      | none => exact ⟨trivial, fun h => nomatch h⟩
      | some container =>
        exact ⟨(free_streamToPod_iff type id req container).mpr hcontainer, fun h => nomatch h⟩

theorem careful_handle (req : Request) : Careful (handle req) := by
  cases req with
  | runPodSandbox config => exact (harmless_runPodSandbox config).careful
  | stopPodSandbox podID => exact (harmless_stopPodSandbox podID).careful
  | removePodSandbox podID => exact (harmless_removePodSandbox podID).careful
  | podSandboxStatus podID => exact (harmless_podSandboxStatus podID).careful
  | listPodSandbox filter => exact Harmless.careful fun _ => trivial
  | updateRuntimeConfig => exact Harmless.careful trivial
  | status => exact Harmless.careful trivial
  | createContainer podID config => exact careful_createContainer podID config
  | startContainer containerID => exact (harmless_startContainer containerID).careful
  | stopContainer containerID => exact (harmless_stopContainer containerID).careful
  | removeContainer containerID => exact (harmless_removeContainer containerID).careful
  | containerStatus containerID verbose =>
    exact (harmless_containerStatus containerID verbose).careful
  | listContainers filter => exact Harmless.careful fun _ => trivial
  | updateContainerResources containerID =>
    exact (harmless_updateContainerResources containerID).careful
  | reopenContainerLog containerID => exact Harmless.careful trivial
  | exec req => exact careful_streamTo "exec" req
  | attach req => exact careful_streamTo "attach" { req with cmd := [] }
  | portForward podID ports => exact (harmless_portForward podID ports).careful
  | syncPodsFromVyomad => exact harmless_syncPodsFromVyomad.careful

/-! ## What a step does to the maps -/

section Store

variable {s : Server} {world : ∀ β, Query β → β} {β : Type} {q : Query β} {podID : String}

theorem missingPod_answer {id : String} (h : missingPod q (s.answer world β q) = some id) :
    id ∉ s.pods := by
  cases q with
  | pod podID =>
    cases hlookup : s.pods.lookup podID with
    | none =>
      have hid : podID = id := by
        simp only [Server.answer, hlookup, missingPod, Option.some.injEq] at h
        exact h
      rw [← hid]
      exact AList.lookup_eq_none.mp hlookup
    | some pod =>
      simp only [Server.answer, hlookup, missingPod] at h
      cases h
  | _ => cases h

/-- A pod that is not there is not found, nor is a container of it. -/
theorem without_answer (hs : PodsPresent s) (h : podID ∉ s.pods) :
    Without podID q (s.answer world β q) := by
  cases q with
  | pod id =>
    cases hlookup : s.pods.lookup id with
    | none =>
      simp only [Server.answer, hlookup]
      exact trivial
    | some pod =>
      simp only [Server.answer, hlookup]
      rintro rfl
      rw [AList.lookup_eq_none.mpr h] at hlookup
      cases hlookup
  | container id =>
    cases hlookup : s.containers.lookup id with
    | none =>
      simp only [Server.answer, hlookup]
      exact trivial
    | some container =>
      simp only [Server.answer, hlookup]
      rintro rfl
      exact h (hs id container hlookup)
  | _ => exact trivial

theorem mem_pods_apply {w : Write} (h : podID ∈ s.pods) (hw : w ≠ .deletePod podID) :
    podID ∈ (s.apply w).pods := by
  cases w with
  | putPod id pod state => exact (AList.mem_insert _).mpr (.inr h)
  | deletePod id => exact AList.mem_erase.mpr ⟨fun he => hw (by rw [he]), h⟩
  | _ => exact h

theorem podsPresent_apply {w : Write} (hs : PodsPresent s)
    (hinsert : ∀ id, inserts id w → id ∈ s.pods)
    (hdelete : ∀ id, w = .deletePod id → ∀ cid container, s.containers.lookup cid = some container →
      container.podId ≠ id) : PodsPresent (s.apply w) := by
  have hkept : ∀ cid container, s.containers.lookup cid = some container →
      container.podId ∈ (s.apply w).pods := by
    intro cid container hlookup
    exact mem_pods_apply (hs cid container hlookup) fun hw => hdelete _ hw cid container hlookup rfl
  cases w with
  | putContainer id container state =>
    intro cid container' hlookup
    rw [Server.apply, HashMap.lookup_insert] at hlookup
    split_ifs at hlookup with hid
    · cases hlookup
      exact hinsert container.podId rfl
    · exact hkept cid container' hlookup
  | deleteContainer id =>
    intro cid container hlookup
    by_cases hid : cid = id
    · rw [hid, Server.apply, AList.lookup_erase] at hlookup
      cases hlookup
    · rw [Server.apply, AList.lookup_erase_ne hid] at hlookup
      exact hkept cid container hlookup
  | _ => exact hkept

end Store

/-! ## Runs -/

/-- A handler in flight: it is guarded, and every pod it relies on is there. -/
structure Settled (s : Server) (h : Handler) : Prop where
  guarded : Guarded h
  free : ∀ podID, podID ∉ s.pods → Free podID h

/-- The containers have their pods, and the handlers in flight the pods they rely on. -/
structure Invariant (c : CriConfig) : Prop where
  podsPresent : PodsPresent c.store
  settled : ∀ h ∈ c.threads, Settled c.store h
  noMissingPod : ∀ id, c.halted ≠ some (.panic (.pod id))

/-- The pod has no container, and no handler in flight relies on it. -/
structure Removable (c : CriConfig) (podID : String) : Prop where
  noContainer : ∀ id container, c.store.containers.lookup id = some container →
    container.podId ≠ podID
  free : ∀ h ∈ c.threads, Free podID h

/-- The write that a step makes. -/
def writeOf (c : CriConfig) : Action Query Request → Option Write
  | .arrives _ => none
  | .runs i _ _ =>
    match c.threads[i]? with
    | some (.write w _) => some w
    | _ => none

/-- The pod that a write removes. -/
def deletedId : Write → Option String
  | .deletePod id => some id
  | _ => none

/-- If the step removes a pod, the pod can be removed. -/
def RemovesSafely (c : CriConfig) : Action Query Request → Prop
  | .arrives _ => True
  | .runs i _ _ => ∀ podID next, c.threads[i]? = some (.write (.deletePod podID) next) →
      Removable c podID

theorem invariant_init : Invariant CriConfig.init where
  podsPresent _ _ h := nomatch h
  settled _ h := nomatch h
  noMissingPod _ h := nomatch h

section Step

variable {c : CriConfig} {i : ℕ}

theorem settled_set (hc : ∀ h ∈ c.threads, Settled c.store h) {s : Server} {next : Handler}
    (hnext : Settled s next) (hothers : ∀ h ∈ c.threads, Settled c.store h → Settled s h) :
    ∀ h ∈ c.threads.set i next, Settled s h := by
  intro h hmem
  obtain hmem | rfl := List.mem_or_eq_of_mem_set hmem
  · exact hothers h hmem (hc h hmem)
  · exact hnext

theorem invariant_ask (hc : Invariant c) {β : Type} {q : Query β} {next : β → Handler}
    (hi : c.threads[i]? = some (.ask q next)) (world : ∀ β, Query β → β) :
    Invariant { c with
      threads := c.threads.set i (next (service.answer c.store world β q)) } := by
  have hthread := hc.settled _ (List.mem_of_getElem? hi)
  refine ⟨hc.podsPresent, settled_set hc.settled ⟨?_, ?_⟩ (fun _ _ h => h), hc.noMissingPod⟩
  · -- a pod looked up in vain is one that the handler does not rely on
    cases hmissing : missingPod q (service.answer c.store world β q) with
    | none => exact hthread.guarded _ hmissing
    | some id =>
      have hid : id ∉ c.store.pods := missingPod_answer hmissing
      exact (hthread.free id hid _ (without_answer hc.podsPresent hid)).2 hmissing
  · intro podID hpod
    exact (hthread.free podID hpod _ (without_answer hc.podsPresent hpod)).1

theorem invariant_write (hc : Invariant c) {w : Write} {next : Handler}
    (hi : c.threads[i]? = some (.write w next))
    (hremove : ∀ podID, w = .deletePod podID → Removable c podID) :
    Invariant { c with store := service.apply c.store w, threads := c.threads.set i next } := by
  have hthread := hc.settled _ (List.mem_of_getElem? hi)
  -- a pod that is not there after the write was not there before, or has been removed
  have hfree : ∀ h ∈ c.threads, ∀ podID, podID ∉ (c.store.apply w).pods → Free podID h := by
    intro h hmem podID hpod
    by_cases hw : w = .deletePod podID
    · exact (hremove podID hw).free h hmem
    · exact (hc.settled h hmem).free podID fun hpresent => hpod (mem_pods_apply hpresent hw)
  have hinsert : ∀ id, inserts id w → id ∈ c.store.pods := by
    intro id hid
    by_contra habsent
    exact (hthread.free id habsent).1 hid
  refine ⟨podsPresent_apply hc.podsPresent hinsert fun id hw => (hremove id hw).noContainer,
    settled_set hc.settled ⟨hthread.guarded, fun podID hpod => ?_⟩ ?_, hc.noMissingPod⟩
  · exact (hfree _ (List.mem_of_getElem? hi) podID hpod).2
  · exact fun h hmem hsettled => ⟨hsettled.guarded, hfree h hmem⟩

/-- A step that removes no pod others rely on keeps the invariant. -/
theorem invariant_step (hc : Invariant c) (a : Action Query Request) (ha : RemovesSafely c a) :
    Invariant (step service c a) := by
  have hsteps := steps_step service c a
  generalize step service c a = c' at hsteps ⊢
  cases hsteps with
  | idle => exact hc
  | arrived req =>
    refine ⟨hc.podsPresent, fun h hmem => ?_, hc.noMissingPod⟩
    obtain hmem | hmem := List.mem_append.mp hmem
    · exact hc.settled h hmem
    · rw [List.mem_singleton.mp hmem]
      exact ⟨(careful_handle req).guarded, fun podID _ => (careful_handle req).free podID⟩
  | panicked hi =>
    have hguarded := (hc.settled _ (List.mem_of_getElem? hi)).guarded
    refine ⟨hc.podsPresent, hc.settled, fun id hid => ?_⟩
    cases hid
    exact hguarded id rfl
  | crashed hi hop => exact ⟨hc.podsPresent, hc.settled, fun id hid => nomatch hid⟩
  | locked hi hop =>
    have hthread := hc.settled _ (List.mem_of_getElem? hi)
    exact ⟨hc.podsPresent, settled_set hc.settled ⟨hthread.guarded, hthread.free⟩
      (fun _ _ h => h), hc.noMissingPod⟩
  | wrote hi =>
    refine invariant_write hc hi fun podID hw => ?_
    subst hw
    exact ha podID _ hi
  | asked hi => exact invariant_ask hc hi _

end Step

/-- In every run that removes pods only when they have no containers and no handler in flight
relies on them, every container has its pod and no streaming handler misses one. -/
theorem containers_have_pods {run : List (Action Query Request)}
    (h : Along (step service) RemovesSafely CriConfig.init run) :
    Throughout (step service) Consistent CriConfig.init run := by
  have hinvariant := throughout_of_along (Q := Invariant) invariant_init
    (fun c a hc ha => invariant_step hc a ha) h
  intro pre hpre
  exact ⟨(hinvariant pre hpre).podsPresent, (hinvariant pre hpre).noMissingPod⟩

/-- A program takes so many steps. -/
def takes (i n : ℕ) : List (Action Query Request) := List.replicate n (.runs i quietWorld false)

def webPod : PodSandboxConfig where
  name := "web"
  podNamespace := "default"
  uid := "0"
  labels := ∅
  annotations := ∅
  resources := none
  portMappings := []

def appContainer : ContainerConfig where
  name := "app"
  image := "alpine"
  envs := []
  command := []
  workingDir := ""
  labels := ∅
  annotations := ∅

/-- A container is created in a pod. -/
def createdRun : List (Action Query Request) :=
  .arrives (.runPodSandbox webPod) :: takes 0 5 ++
    .arrives (.createContainer "vm1" (some appContainer)) :: takes 1 10

/-- A world in which the daemon calls its next VM `vm2`. -/
def secondWorld : ∀ β, Query β → β
  | _, .createVm _ => .ok "vm2"
  | _, q => quietWorld _ q

/-- A second pod is run beside the one with the container, and its removal comes to the
delete. -/
def secondPodRun : List (Action Query Request) :=
  createdRun ++
    .arrives (.runPodSandbox webPod) :: List.replicate 5 (.runs 2 secondWorld false) ++
    .arrives (.removePodSandbox "vm2") :: takes 3 3

theorem removesSafely_of_none {c : CriConfig} {a : Action Query Request}
    (h : (writeOf c a).bind deletedId = none) : RemovesSafely c a := by
  cases a with
  | arrives req => exact trivial
  | runs i world waiting =>
    intro podID next hi
    rw [writeOf, hi] at h
    cases h

set_option maxRecDepth 4000 in
/-- The second pod is removed, and the container of the first keeps its pod. -/
theorem pod_removed_beside_container :
    Throughout (step service) Consistent CriConfig.init (secondPodRun ++ takes 3 2) := by
  have hquiet : Along (step service) (fun c a => (writeOf c a).bind deletedId = none)
      CriConfig.init secondPodRun := by
    decide +kernel
  -- the container and the handlers in flight when the second pod is removed
  have hcontainers : ∀ e ∈ (Runs.exec (step service) CriConfig.init
      secondPodRun).store.containers.pairs, e.2.podId = "vm1" := by
    decide +kernel
  have hremoving : (Runs.exec (step service) CriConfig.init secondPodRun).threads =
      [.ret (.podSandbox "vm1"), .ret (.container "vm1-app"), .ret (.podSandbox "vm2"),
        .write (.deletePod "vm2") (.mutex .unlock (.ret .empty))] := rfl
  refine containers_have_pods (along_append.mpr ⟨?_, ?_, removesSafely_of_none rfl, trivial⟩)
  · rw [along_iff] at hquiet ⊢
    intro pre a post hrun
    exact removesSafely_of_none (hquiet pre a post hrun)
  · intro podID next hi
    rw [hremoving] at hi
    cases hi
    refine ⟨fun id container hlookup => ?_, ?_⟩
    · have hpod : container.podId = "vm1" :=
        hcontainers (id, container) (HashMap.mem_pairs.mpr hlookup)
      rw [hpod]
      decide
    · rw [hremoving]
      simp [Free, inserts]

/-- A pod is removed while it has a container. -/
def podRemovalRun : List (Action Query Request) :=
  .arrives (.runPodSandbox webPod) :: takes 0 5 ++
    .arrives (.createContainer "vm1" (some appContainer)) :: takes 1 10 ++
    .arrives (.removePodSandbox "vm1") :: takes 2 5

/-- The container is left without its pod. -/
theorem removed_pod_leaves_container :
    ¬Throughout (step service) Consistent CriConfig.init podRemovalRun := by
  intro h
  have hpods : "vm1" ∉ (Runs.exec (step service) CriConfig.init podRemovalRun).store.pods := by
    decide
  have hlookup : (Runs.exec (step service) CriConfig.init podRemovalRun).store.containers.lookup
      "vm1-app" = some { id := "vm1-app", podId := "vm1", name := "app", image := "alpine"
                         created := 0, config := some appContainer, cell := 1 } := rfl
  exact hpods (h.exec.1 "vm1-app" _ hlookup)

end Vyoma.Cri
