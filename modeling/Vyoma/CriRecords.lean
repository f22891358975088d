import Vyoma.CriServer
import Vyoma.ProgramContracts

/-!
# What the maps of the CRI server hold

Pods are made by two handlers and containers by one. Every pod stands under the id of its VM,
and neither of the two knows the address of the VM: the field for it is never set. A stream
that is handed out takes its address from there.
-/
namespace Vyoma.Cri
open LockPrograms LockPrograms.Program Runs

/-! ## Records -/

/-- The pod of a VM, under the id of the VM and without an address. -/
structure PodSandbox.Stands (key : String) (pod : PodSandbox) : Prop where
  id : pod.id = key
  vmId : pod.vmId = key
  ip : pod.ip = ""
  created : pod.created = 0

/-- A container, under the id that is made of its pod's and its own name. -/
structure ContainerInfo.Stands (key : String) (container : ContainerInfo) : Prop where
  id : container.id = key
  named : key = container.podId ++ "-" ++ container.name

/-- Every pod and every container stands where it belongs. -/
structure Recorded (s : Server) : Prop where
  pods : ∀ id pod, s.pods.lookup id = some pod → pod.Stands id
  containers : ∀ id container, s.containers.lookup id = some container → container.Stands id

/-- What can be said of a stream when it is handed out. -/
structure StreamingToken.Local (url : String) (token : StreamingToken) : Prop where
  url : url = "http://localhost:9000/" ++ token.type ++ "/" ++ token.token
  vmIp : token.vmIp = ""
  target :
    (token.type = "exec" ∨ token.type = "attach") ∧ token.podId = "" ∧ token.ports = [] ∧
        (∃ name, token.containerId = token.vmId ++ "-" ++ name) ∨
      token.type = "portforward" ∧ token.podId = token.vmId ∧ token.containerId = "" ∧
        token.command = []

def Reply.Local : Reply → Prop
  | .stream url token => token.Local url
  | _ => True

/-! ## The contract of the handlers -/

def Answered : ∀ β, Query β → β → Prop
  | _, .pod id, some pod => pod.Stands id
  | _, .container id, some container => container.Stands id
  | _, _, _ => True

def Written : Write → Prop
  | .putPod id pod _ => pod.Stands id
  | .putContainer id container _ => container.Stands id
  | _ => True

def recordContract : Contract Query Write := ⟨Answered, Written⟩

section Programs

variable {α : Type}

abbrev KeepsRecords (result : α → Prop) (p : Program Query Write Status NilPointer α) : Prop :=
  Meets recordContract result p

variable (podID containerID : String)

theorem keepsRecords_runPodSandbox (config : PodSandboxConfig) :
    KeepsRecords Reply.Local (runPodSandbox config) := by
  intro created _
  cases created with
  | error e => exact trivial
  | ok vmID =>
    intro started _
    cases started with
    | error e => exact fun _ _ => trivial
    | ok _ => exact ⟨⟨rfl, rfl, rfl, rfl⟩, trivial⟩

theorem keepsRecords_stopPodSandbox : KeepsRecords Reply.Local (stopPodSandbox podID) := by
  intro pod _
  cases pod with
  | none => exact trivial
  | some pod => exact fun _ _ => ⟨trivial, trivial⟩

theorem keepsRecords_removePodSandbox : KeepsRecords Reply.Local (removePodSandbox podID) := by
  intro pod _
  cases pod with
  | none => exact trivial
  | some pod => exact fun _ _ => ⟨trivial, trivial⟩

theorem keepsRecords_podSandboxStatus : KeepsRecords Reply.Local (podSandboxStatus podID) := by
  intro pod _
  cases pod with
  | none => exact trivial
  | some pod => exact fun _ _ => trivial

theorem keepsRecords_syncPods (vms : List Vm) :
    KeepsRecords (fun _ => True) (syncPods vms) := by
  induction vms with
  | nil => exact trivial
  | cons vm vms ih =>
    unfold syncPods
    dsimp only
    by_cases hname : (vm.labels.lookup "k8s.io/pod-name").getD "" = ""
    · rw [if_pos hname]
      exact ih
    · rw [if_neg hname]
      exact ⟨⟨rfl, rfl, rfl, rfl⟩, ih⟩

theorem keepsRecords_syncPodsFromVyomad : KeepsRecords Reply.Local syncPodsFromVyomad := by
  intro vms _
  cases vms with
  | error e => exact trivial
  | ok vms => exact (keepsRecords_syncPods vms).bind fun _ _ => trivial

theorem keepsRecords_createContainer (config : Option ContainerConfig) :
    KeepsRecords Reply.Local (createContainer podID config) := by
  intro pod hpod
  cases pod with
  | none => exact trivial
  | some pod =>
    have hpod : pod.Stands podID := hpod
    intro ip _ connected _ made _ created _
    refine ⟨⟨rfl, ?_⟩, trivial⟩
    rw [hpod.vmId]

theorem keepsRecords_startContainer : KeepsRecords Reply.Local (startContainer containerID) := by
  intro container _
  cases container with
  | none => exact trivial
  | some container =>
    intro pod _
    cases pod with
    | none => exact trivial
    | some pod =>
      intro ip _ connected _
      cases connected with
      | error e => exact trivial
      | ok _ => exact fun _ _ => ⟨trivial, fun _ _ => ⟨trivial, trivial⟩⟩

theorem keepsRecords_signalContainer (pod : Option PodSandbox) :
    KeepsRecords (fun _ => True) (signalContainer pod) := by
  cases pod with
  | none => exact trivial
  | some pod =>
    intro ip _ connected _
    cases connected with
    | error e => exact trivial
    | ok _ => exact fun _ _ _ _ => trivial

theorem keepsRecords_stopContainer : KeepsRecords Reply.Local (stopContainer containerID) := by
  intro container _
  cases container with
  | none => exact trivial
  | some container =>
    intro pod _
    exact (keepsRecords_signalContainer pod).bind fun _ _ => ⟨trivial, trivial⟩

theorem keepsRecords_removeContainerDir (pod : Option PodSandbox) :
    KeepsRecords (fun _ => True) (removeContainerDir containerID pod) := by
  cases pod with
  | none => exact trivial
  | some pod =>
    intro ip _ connected _
    cases connected with
    | error e => exact trivial
    | ok _ => exact fun _ _ => trivial

theorem keepsRecords_cleanUpContainer (container : Option ContainerInfo) :
    KeepsRecords (fun _ => True) (cleanUpContainer containerID container) := by
  cases container with
  | none => exact trivial
  | some container =>
    intro pod _
    exact (keepsRecords_removeContainerDir containerID pod).bind fun _ _ => trivial

theorem keepsRecords_removeContainer : KeepsRecords Reply.Local (removeContainer containerID) := by
  intro container _
  exact (keepsRecords_cleanUpContainer containerID container).bind fun _ _ => ⟨trivial, trivial⟩

theorem keepsRecords_containerInfo : KeepsRecords (fun _ => True) (containerInfo podID) := by
  intro pod _
  cases pod with
  | none => exact trivial
  | some pod =>
    intro ip _ connected _
    cases connected with
    | error e => exact trivial
    | ok _ =>
      intro metrics _
      show KeepsRecords (fun _ => True) (readMetrics metrics)
      unfold readMetrics
      cases AgentClient.statusInfo metrics with
      | none => exact trivial
      | some info => exact trivial

theorem keepsRecords_containerStatus (verbose : Bool) :
    KeepsRecords Reply.Local (containerStatus containerID verbose) := by
  intro container _
  cases container with
  | none => exact trivial
  | some container =>
    intro cell _
    have hfinish : KeepsRecords (fun _ => True) (finishTime cell.state) := by
      unfold finishTime
      split_ifs
      · exact fun _ _ => trivial
      · exact trivial
    have hinfo : KeepsRecords (fun _ => True) (verboseInfo verbose container.podId) := by
      unfold verboseInfo
      split_ifs
      · exact keepsRecords_containerInfo container.podId
      · exact trivial
    exact hfinish.bind fun _ _ => hinfo.bind fun _ _ => trivial

theorem keepsRecords_updateContainerResources :
    KeepsRecords Reply.Local (updateContainerResources containerID) := by
  intro container _
  cases container with
  | none => exact trivial
  | some container => exact trivial

/-- The stream of a container takes its VM and its address from the pod. -/
theorem keepsRecords_streamTo {type : String} (htype : type = "exec" ∨ type = "attach")
    (req : StreamRequest) : KeepsRecords Reply.Local (streamTo type req) := by
  unfold streamTo
  split_ifs
  · exact trivial
  · intro container hcontainer
    cases container with
    | none => exact trivial
    | some container =>
      have hcontainer : container.Stands req.containerId := hcontainer
      intro pod hpod
      cases pod with
      | none => exact trivial
      | some pod =>
        have hpod : pod.Stands container.podId := hpod
        intro token _
        refine ⟨rfl, hpod.ip, .inl ⟨htype, rfl, rfl, container.name, ?_⟩⟩
        show req.containerId = pod.vmId ++ "-" ++ container.name
        rw [hpod.vmId, hcontainer.named]

theorem keepsRecords_portForward (ports : List Int32) :
    KeepsRecords Reply.Local (portForward podID ports) := by
  unfold portForward
  split_ifs
  · exact trivial
  · intro pod hpod
    cases pod with
    | none => exact trivial
    | some pod =>
      have hpod : pod.Stands podID := hpod
      exact fun token _ => ⟨rfl, hpod.ip, .inr ⟨rfl, hpod.vmId.symm, rfl, rfl⟩⟩

end Programs

theorem keepsRecords_handle (req : Request) : KeepsRecords Reply.Local (handle req) := by
  cases req with
  | runPodSandbox config => exact keepsRecords_runPodSandbox config
  | stopPodSandbox podID => exact keepsRecords_stopPodSandbox podID
  | removePodSandbox podID => exact keepsRecords_removePodSandbox podID
  | podSandboxStatus podID => exact keepsRecords_podSandboxStatus podID
  | listPodSandbox filter => exact fun _ _ => trivial
  | updateRuntimeConfig => exact trivial
  | status => exact trivial
  | createContainer podID config => exact keepsRecords_createContainer podID config
  | startContainer containerID => exact keepsRecords_startContainer containerID
  | stopContainer containerID => exact keepsRecords_stopContainer containerID
  | removeContainer containerID => exact keepsRecords_removeContainer containerID
  | containerStatus containerID verbose => exact keepsRecords_containerStatus containerID verbose
  | listContainers filter => exact fun _ _ => trivial
  | updateContainerResources containerID => exact keepsRecords_updateContainerResources containerID
  | reopenContainerLog containerID => exact trivial
  | exec req => exact keepsRecords_streamTo (.inl rfl) req
  | attach req => exact keepsRecords_streamTo (.inr rfl) { req with cmd := [] }
  | portForward podID ports => exact keepsRecords_portForward podID ports
  | syncPodsFromVyomad => exact keepsRecords_syncPodsFromVyomad

/-! ## The store and its runs -/

section Store

variable {s : Server}

theorem answered_answer (hs : Recorded s) (world : ∀ β, Query β → β) {β : Type} (q : Query β) :
    Answered β q (s.answer world β q) := by
  cases q with
  | pod id =>
    cases hlookup : s.pods.lookup id with
    | none =>
      simp only [Server.answer, hlookup]
      exact trivial
    | some pod =>
      simp only [Server.answer, hlookup]
      exact hs.pods id pod hlookup
  | container id =>
    cases hlookup : s.containers.lookup id with
    | none =>
      simp only [Server.answer, hlookup]
      exact trivial
    | some container =>
      simp only [Server.answer, hlookup]
      exact hs.containers id container hlookup
  | _ => exact trivial

theorem recorded_apply (hs : Recorded s) {w : Write} (hw : Written w) : Recorded (s.apply w) := by
  cases w with
  | putPod id pod state =>
    have hpod : pod.Stands id := hw
    refine ⟨fun id' pod' hlookup => ?_, hs.containers⟩
    rw [Server.apply, HashMap.lookup_insert] at hlookup
    split_ifs at hlookup with hid
    · cases hlookup
      exact hid ▸ ⟨hpod.id, hpod.vmId, hpod.ip, hpod.created⟩
    · exact hs.pods id' pod' hlookup
  | deletePod id =>
    exact ⟨fun id' pod hlookup => hs.pods id' pod (HashMap.lookup_of_lookup_erase hlookup),
      hs.containers⟩
  | putContainer id container state =>
    have hcontainer : container.Stands id := hw
    refine ⟨hs.pods, fun id' container' hlookup => ?_⟩
    rw [Server.apply, HashMap.lookup_insert] at hlookup
    split_ifs at hlookup with hid
    · cases hlookup
      exact hid ▸ ⟨hcontainer.id, hcontainer.named⟩
    · exact hs.containers id' container' hlookup
  | deleteContainer id =>
    exact ⟨hs.pods, fun id' container hlookup =>
      hs.containers id' container (HashMap.lookup_of_lookup_erase hlookup)⟩
  | setPodState cell state => exact ⟨hs.pods, hs.containers⟩
  | setContainerState cell state => exact ⟨hs.pods, hs.containers⟩
  | setStartTime cell time => exact ⟨hs.pods, hs.containers⟩

end Store

theorem honours_recorded : Honours service recordContract Recorded where
  answers _ hs world _ q := answered_answer hs world q
  writes _ hs _ hw := recorded_apply hs hw

theorem recorded_init : Recorded Server.init where
  pods _ _ h := nomatch h
  containers _ _ h := nomatch h

theorem kept_init : Kept recordContract Recorded Reply.Local CriConfig.init :=
  ⟨recorded_init, fun _ h => nomatch h⟩

end Vyoma.Cri
