import Vyoma.CriServer
import Vyoma.Runs

/-!
# Lock discipline of the CRI handlers

Every handler but one takes and releases the lock in pairs on each of its paths. Removing
a container that is there releases a read lock under the write lock, and with it the
process ends.
-/
namespace Vyoma.Cri
open LockPrograms LockPrograms.Program Runs

section Handlers

variable (podID containerID : String)

theorem sound_runPodSandbox (config : PodSandboxConfig) :
    Sound none none (runPodSandbox config) := by
  intro created
  cases created with
  | error e => rfl
  | ok vmID =>
    intro started
    cases started with
    | error e => exact fun _ => rfl
    | ok _ => exact sound_locked (p := put _) rfl fun _ => rfl

theorem sound_stopPodSandbox : Sound none none (stopPodSandbox podID) := by
  refine sound_read fun pod => ?_
  cases pod with
  | none => rfl
  | some pod => exact fun _ => sound_locked (p := put _) rfl fun _ => rfl

theorem sound_removePodSandbox : Sound none none (removePodSandbox podID) := by
  refine ⟨_, rfl, fun pod => ?_⟩
  cases pod with
  | none => exact ⟨_, rfl, rfl⟩
  | some pod => exact fun _ => ⟨_, rfl, rfl⟩

theorem sound_podSandboxStatus : Sound none none (podSandboxStatus podID) := by
  refine sound_read fun pod => ?_
  cases pod with
  | none => rfl
  | some pod => exact fun _ => rfl

theorem sound_syncPods (vms : List Vm) : Sound (some .write) (some .write) (syncPods vms) := by
  induction vms with
  | nil => rfl
  | cons vm vms ih =>
    unfold syncPods
    dsimp only
    by_cases hname : (vm.labels.lookup "k8s.io/pod-name").getD "" = ""
    · rw [if_pos hname]
      exact ih
    · rw [if_neg hname]
      exact ih

theorem sound_syncPodsFromVyomad : Sound none none syncPodsFromVyomad := by
  intro vms
  cases vms with
  | error e => rfl
  | ok vms => exact sound_locked (sound_syncPods vms) fun _ => rfl

theorem sound_insertContainer (config : Option ContainerConfig) (pod : PodSandbox) :
    Sound none none (insertContainer podID config pod) :=
  fun _ _ _ => ⟨_, rfl, fun _ => ⟨_, rfl, rfl⟩⟩

theorem sound_createContainer (config : Option ContainerConfig) :
    Sound none none (createContainer podID config) := by
  refine sound_read fun pod => ?_
  cases pod with
  | none => rfl
  | some pod => exact sound_insertContainer podID config pod

theorem sound_startContainer : Sound none none (startContainer containerID) := by
  refine sound_read fun container => ?_
  cases container with
  | none => rfl
  | some container =>
    refine sound_read fun pod => ?_
    cases pod with
    | none => rfl
    | some pod =>
      intro ip connected
      cases connected with
      | error e => rfl
      | ok _ => exact fun _ => ⟨_, rfl, fun _ => ⟨_, rfl, rfl⟩⟩

theorem sound_signalContainer (pod : Option PodSandbox) :
    Sound none none (signalContainer pod) := by
  cases pod with
  | none => rfl
  | some pod =>
    intro ip connected
    cases connected with
    | error e => rfl
    | ok _ => exact fun _ _ => rfl

theorem sound_stopContainer : Sound none none (stopContainer containerID) := by
  refine sound_read fun container => ?_
  cases container with
  | none => rfl
  | some container =>
    refine sound_read fun pod => ?_
    refine (sound_signalContainer pod).bind fun _ => ?_
    exact sound_locked (p := put _) rfl fun _ => rfl

theorem sound_containerInfo : Sound none none (containerInfo podID) := by
  refine sound_read fun pod => ?_
  cases pod with
  | none => rfl
  | some pod =>
    intro ip connected
    cases connected with
    | error e => rfl
    | ok _ =>
      intro metrics
      show Sound none none (readMetrics metrics)
      unfold readMetrics
      cases AgentClient.statusInfo metrics with
      | none => rfl
      | some info => rfl

theorem sound_containerStatus (verbose : Bool) :
    Sound none none (containerStatus containerID verbose) := by
  refine sound_read fun container => ?_
  cases container with
  | none => rfl
  | some container =>
    intro cell
    have hfinish : Sound none none (finishTime cell.state) := by
      unfold finishTime
      split_ifs
      · exact fun _ => rfl
      · rfl
    have hinfo : Sound none none (verboseInfo verbose container.podId) := by
      unfold verboseInfo
      split_ifs
      · exact sound_containerInfo container.podId
      · rfl
    exact hfinish.bind fun _ => hinfo.bind fun _ => rfl

theorem sound_updateContainerResources :
    Sound none none (updateContainerResources containerID) := by
  refine sound_read fun container => ?_
  cases container <;> rfl

theorem sound_streamTo (type : String) (req : StreamRequest) :
    Sound none none (streamTo type req) := by
  unfold streamTo
  split_ifs
  · rfl
  · refine sound_read fun container => ?_
    cases container with
    | none => rfl
    | some container =>
      refine sound_read fun pod => ?_
      cases pod with
      | none => rfl
      | some pod => exact fun _ => rfl

theorem sound_portForward (ports : List Int32) : Sound none none (portForward podID ports) := by
  unfold portForward
  split_ifs
  · rfl
  · refine sound_read fun pod => ?_
    cases pod with
    | none => rfl
    | some pod => exact fun _ => rfl

end Handlers

/-- Every handler but `RemoveContainer` keeps the discipline on all its paths. -/
theorem sound_handle {req : Request} (h : ∀ id, req ≠ .removeContainer id) :
    Sound none none (handle req) := by
  cases req with
  | runPodSandbox config => exact sound_runPodSandbox config
  | stopPodSandbox podID => exact sound_stopPodSandbox podID
  | removePodSandbox podID => exact sound_removePodSandbox podID
  | podSandboxStatus podID => exact sound_podSandboxStatus podID
  | listPodSandbox filter => exact sound_read fun _ => rfl
  | updateRuntimeConfig => rfl
  | status => rfl
  | createContainer podID config => exact sound_createContainer podID config
  | startContainer containerID => exact sound_startContainer containerID
  | stopContainer containerID => exact sound_stopContainer containerID
  | removeContainer containerID => exact absurd rfl (h containerID)
  | containerStatus containerID verbose => exact sound_containerStatus containerID verbose
  | listContainers filter => exact sound_read fun _ => rfl
  | updateContainerResources containerID => exact sound_updateContainerResources containerID
  | reopenContainerLog containerID => rfl
  | exec req => exact sound_streamTo "exec" req
  | attach req => exact sound_streamTo "attach" { req with cmd := [] }
  | portForward podID ports => exact sound_portForward podID ports
  | syncPodsFromVyomad => exact sound_syncPodsFromVyomad

/-- What a handler is answered while the server is in a given state at each of its steps. -/
def answersOf (servers : ℕ → Server) (world : Answers Query) : Answers Query :=
  fun n => (servers n).answer (world n)

theorem disciplined_removeContainer (servers : ℕ → Server) (world : Answers Query)
    (containerID : String) :
    disciplined none (locks (answersOf servers world) 0 (removeContainer containerID)) = true ↔
      (servers 1).containers.lookup containerID = none := by
  have hlocks : locks (answersOf servers world) 0 (removeContainer containerID) =
      .lock :: locks (answersOf servers world) 2 ((do
        cleanUpContainer containerID ((servers 1).containers.lookup containerID)
        put (.deleteContainer containerID)
        unlock
        return Reply.empty) : Handler) := rfl
  rw [hlocks]
  cases (servers 1).containers.lookup containerID with
  | none => exact ⟨fun _ => rfl, fun _ => rfl⟩
  | some container => exact ⟨fun h => (nomatch h), fun h => (nomatch h)⟩

/-- A handler keeps the lock discipline unless it removes a container that is there when the
handler looks it up. -/
theorem handler_disciplined_iff (req : Request) (servers : ℕ → Server) (world : Answers Query) :
    disciplined none (locks (answersOf servers world) 0 (handle req)) = true ↔
      ∀ id, req = .removeContainer id → (servers 1).containers.lookup id = none := by
  by_cases h : ∃ id, req = .removeContainer id
  · obtain ⟨id, rfl⟩ := h
    have hremove := disciplined_removeContainer servers world id
    constructor
    · intro hdisciplined id' hid
      cases hid
      exact hremove.mp hdisciplined
    · intro habsent
      exact hremove.mpr (habsent id rfl)
  · have hsound := sound_handle (fun id hid => h ⟨id, hid⟩)
    have hdisciplined := disciplined_of_sound hsound (answersOf servers world) 0
    exact ⟨fun _ id hid => absurd ⟨id, hid⟩ h, fun _ => hdisciplined⟩

/-- A server with one container. -/
def oneContainer : Server :=
  { Server.init with
    containers := AList.insert "vm1-app"
      { id := "vm1-app", podId := "vm1", name := "app", image := "alpine", created := 0
        config := none, cell := 0 } ∅ }

/-- Removing a container that is there releases a read lock that is not held. -/
theorem removal_breaks_discipline :
    ¬disciplined none (locks (answersOf (fun _ => oneContainer) fun _ => quietWorld) 0
      (handle (.removeContainer "vm1-app"))) = true := by
  decide

/-! ## The server as a whole -/

/-- Without requests to remove containers, no run ends in a lock that was not held. -/
theorem not_fatal_of_no_removal {run : List (Action Query Request)}
    (h : Along (step service) (fun _ a => ∀ id, a ≠ .arrives (.removeContainer id))
      CriConfig.init run) :
    Throughout (step service) (fun c => c.halted ≠ some .fatal) CriConfig.init run := by
  have hinit : Orderly CriConfig.init [] :=
    ⟨rfl, fun _ _ _ hmode => (nomatch hmode), ⟨rfl, rfl, fun hwriter => (nomatch hwriter)⟩,
      fun hfatal => nomatch hfatal⟩
  have horderly := throughout_of_along (Q := fun c => ∃ modes, Orderly c modes) ⟨[], hinit⟩
    (fun c a hc ha => by
      obtain ⟨modes, hmodes⟩ := hc
      refine orderly_step hmodes a fun req hreq => sound_handle fun id hid => ?_
      rw [hid] at hreq
      exact ha id hreq) h
  intro pre hpre
  obtain ⟨modes, hmodes⟩ := horderly pre hpre
  exact hmodes.notFatal

end Vyoma.Cri
