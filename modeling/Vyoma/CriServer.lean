import Vyoma.AgentResponses
import Vyoma.LockPrograms

/-!
# The handlers of the CRI server

The server keeps pods and containers in two maps under one lock. A map holds pointers: the
fields of a pod or a container that change later are in cells, and the rest of it is a
record with the number of its cell. Handlers are programs that look into the maps under the
lock and call the daemon, its HTTP interface and the agents of the VMs without it, except
where the source holds it throughout.
-/
namespace Vyoma.Cri
open LockPrograms LockPrograms.Program

inductive PodSandboxState where
  | ready
  | notReady
  deriving DecidableEq, Repr

inductive ContainerState where
  | created
  | running
  | exited
  | unknown
  deriving DecidableEq, Repr

abbrev StringMap : Type := HashMap String String

structure ContainerConfig where
  name : String
  image : String
  envs : List (String × String)
  command : List String
  workingDir : String
  labels : StringMap
  annotations : StringMap

structure LinuxResources where
  cpuQuota : ℤ
  memoryLimitInBytes : ℤ

structure PodSandboxConfig where
  name : String
  podNamespace : String
  uid : String
  labels : StringMap
  annotations : StringMap
  resources : Option LinuxResources
  portMappings : List (Int32 × Int32)

structure PodSandbox where
  id : String
  name : String
  podNamespace : String
  uid : String
  vmId : String
  ip : String
  created : ℤ
  labels : StringMap
  annotations : StringMap
  cell : ℕ

structure ContainerInfo where
  id : String
  podId : String
  name : String
  image : String
  created : ℤ
  config : Option ContainerConfig
  cell : ℕ

structure ContainerCell where
  state : ContainerState
  startTime : ℤ

structure Server where
  pods : HashMap String PodSandbox
  containers : HashMap String ContainerInfo
  podCells : ℕ → PodSandboxState
  containerCells : ℕ → ContainerCell
  cells : ℕ

/-- `NewVyomaCriServer`. -/
def Server.init : Server where
  pods := ∅
  containers := ∅
  podCells _ := .ready
  containerCells _ := ⟨.created, 0⟩
  cells := 0

/-! ## Queries and writes -/

structure CreateVmRequest where
  image : String
  name : String
  vcpus : UInt32
  memoryMb : UInt64
  ports : List (UInt32 × UInt32)

/-- A VM in the answer of the daemon. -/
structure Vm where
  id : String
  status : String
  labels : StringMap

inductive Query : Type → Type
  | pod (id : String) : Query (Option PodSandbox)
  | container (id : String) : Query (Option ContainerInfo)
  | podCell (cell : ℕ) : Query PodSandboxState
  | containerCell (cell : ℕ) : Query ContainerCell
  | pods : Query (List (PodSandbox × PodSandboxState))
  | containers : Query (List (ContainerInfo × ContainerCell))
  | createVm (req : CreateVmRequest) : Query (Except String String)
  | startVm (vmId : String) : Query (Except String Unit)
  | stopVm (vmId : String) : Query (Except String Unit)
  | deleteVm (vmId : String) : Query (Except String Unit)
  | vmIp (vmId : String) : Query String
  | connect (ip : String) : Query (Except String Unit)
  | execCommand (cmd : List String) (env : Option StringMap) (workdir : String) :
      Query (Except String Unit)
  | getMetrics : Query (Except String (Option AgentClient.Metrics))
  | ps : Query (Except String (List Vm))
  | token : Query String
  | now : Query ℤ

inductive Write where
  | putPod (id : String) (pod : PodSandbox) (state : PodSandboxState)
  | deletePod (id : String)
  | putContainer (id : String) (container : ContainerInfo) (state : ContainerState)
  | deleteContainer (id : String)
  | setPodState (cell : ℕ) (state : PodSandboxState)
  | setContainerState (cell : ℕ) (state : ContainerState)
  | setStartTime (cell : ℕ) (time : ℤ)

/-- What a query is answered: from the maps, or by the world outside. -/
def Server.answer (s : Server) (world : ∀ β, Query β → β) : ∀ β, Query β → β
  | _, .pod id => s.pods.lookup id
  | _, .container id => s.containers.lookup id
  | _, .podCell cell => s.podCells cell
  | _, .containerCell cell => s.containerCells cell
  | _, .pods => s.pods.pairs.map fun e => (e.2, s.podCells e.2.cell)
  | _, .containers => s.containers.pairs.map fun e => (e.2, s.containerCells e.2.cell)
  | β, q => world β q

/-- What a write does. What is put into a map is new, with a cell of its own. -/
def Server.apply (s : Server) : Write → Server
  | .putPod id pod state =>
    { s with
      pods := s.pods.insert id { pod with cell := s.cells }
      podCells := Function.update s.podCells s.cells state
      cells := s.cells + 1 }
  | .deletePod id => { s with pods := s.pods.erase id }
  | .putContainer id container state =>
    { s with
      containers := s.containers.insert id { container with cell := s.cells }
      containerCells := Function.update s.containerCells s.cells ⟨state, 0⟩
      cells := s.cells + 1 }
  | .deleteContainer id => { s with containers := s.containers.erase id }
  | .setPodState cell state => { s with podCells := Function.update s.podCells cell state }
  | .setContainerState cell state =>
    { s with
      containerCells := Function.update s.containerCells cell
        { s.containerCells cell with state := state } }
  | .setStartTime cell time =>
    { s with
      containerCells := Function.update s.containerCells cell
        { s.containerCells cell with startTime := time } }

/-! ## Replies -/

inductive Code where
  | notFound
  | internal
  | invalidArgument
  deriving DecidableEq, Repr

structure Status where
  code : Code
  message : String

/-- A pointer that can be `nil` where a handler reads through it. -/
inductive NilPointer where
  | pod (id : String)
  | metrics

structure ContainerStatus where
  id : String
  name : String
  state : ContainerState
  createdAt : ℤ
  startedAt : ℤ
  finishedAt : ℤ
  exitCode : Int32
  image : String
  reason : String
  logPath : String
  labels : StringMap
  annotations : StringMap

structure ContainerItem where
  id : String
  podSandboxId : String
  name : String
  image : String
  state : ContainerState
  createdAt : ℤ
  labels : StringMap

structure PodItem where
  id : String
  name : String
  podNamespace : String
  uid : String
  state : PodSandboxState
  createdAt : ℤ
  labels : StringMap
  annotations : StringMap

/-- What a streaming URL stands for. -/
structure StreamingToken where
  token : String
  type : String
  containerId : String
  podId : String
  vmId : String
  vmIp : String
  command : List String
  tty : Bool
  stdin : Bool
  stdout : Bool
  stderr : Bool
  ports : List Int32

inductive Reply where
  | empty
  | podSandbox (id : String)
  | podSandboxStatus (status : PodItem)
  | podSandboxes (items : List PodItem)
  | container (id : String)
  | containerStatus (status : ContainerStatus) (info : List (String × String))
  | containers (items : List ContainerItem)
  | runtimeStatus (conditions : List (String × Bool × String))
  | stream (url : String) (token : StreamingToken)

abbrev Handler : Type 1 := Program Query Write Status NilPointer Reply

/-! ## The pod service -/

/-- A Go map built from a list of pairs. -/
def makeMap (pairs : List (String × String)) : StringMap :=
  pairs.foldl (fun m e => m.insert e.1 e.2) ∅

def createVmRequest (config : PodSandboxConfig) : CreateVmRequest where
  image :=
    match config.annotations.lookup "vyoma.image" with
    | some image => if image = "" then "vyoma/alpine:latest" else image
    | none => "vyoma/alpine:latest"
  name := "pod-" ++ config.name
  vcpus :=
    match config.resources with
    | none => 2
    | some resources =>
      if 0 < resources.cpuQuota then max 1 (UInt32.ofInt (resources.cpuQuota / 100000)) else 2
  memoryMb :=
    match config.resources with
    | none => 2048
    | some resources =>
      if 0 < resources.memoryLimitInBytes then
        max 128 (UInt64.ofInt (resources.memoryLimitInBytes / 1024 / 1024))
      else 2048
  ports := config.portMappings.map fun p => (p.1.toUInt32, p.2.toUInt32)

def runPodSandbox (config : PodSandboxConfig) : Handler := do
  match ← query (.createVm (createVmRequest config)) with
  | .error e => .fail ⟨.internal, "create VM: " ++ e⟩
  | .ok vmID =>
    match ← query (.startVm vmID) with
    | .error e =>
      let _ ← query (.deleteVm vmID)
      .fail ⟨.internal, "start VM: " ++ e⟩
    | .ok _ =>
      lock
      put (.putPod vmID
        { id := vmID, name := config.name, podNamespace := config.podNamespace, uid := config.uid
          vmId := vmID, ip := "", created := 0, labels := config.labels
          annotations := config.annotations, cell := 0 } .ready)
      unlock
      return .podSandbox vmID

def stopPodSandbox (podID : String) : Handler := do
  rLock
  let pod ← query (.pod podID)
  rUnlock
  match pod with
  | none => .fail ⟨.notFound, "pod not found: " ++ podID⟩
  | some pod =>
    let _ ← query (.stopVm pod.vmId)
    lock
    put (.setPodState pod.cell .notReady)
    unlock
    return .empty

/-- The lock is held while the VM is deleted. -/
def removePodSandbox (podID : String) : Handler := do
  lock
  match ← query (.pod podID) with
  | none =>
    unlock
    return .empty
  | some pod =>
    let _ ← query (.deleteVm pod.vmId)
    put (.deletePod podID)
    unlock
    return .empty

def podItem (pod : PodSandbox) (state : PodSandboxState) : PodItem where
  id := pod.id
  name := pod.name
  podNamespace := pod.podNamespace
  uid := pod.uid
  state := state
  createdAt := pod.created
  labels := pod.labels
  annotations := pod.annotations

def podSandboxStatus (podID : String) : Handler := do
  rLock
  let pod ← query (.pod podID)
  rUnlock
  match pod with
  | none => .fail ⟨.notFound, "pod not found: " ++ podID⟩
  | some pod =>
    let state ← query (.podCell pod.cell)
    return .podSandboxStatus (podItem pod state)

/-- Whether every label asked for is there with its value. -/
def matchesLabels (selector labels : StringMap) : Bool :=
  selector.pairs.all fun e => labels.lookup e.1 = some e.2

structure PodFilter where
  id : String
  state : Option PodSandboxState
  labelSelector : StringMap

def PodFilter.keeps (filter : PodFilter) (pod : PodSandbox) (state : PodSandboxState) : Bool :=
  (filter.id = "" || pod.id = filter.id) && filter.state.all (state = ·) &&
    matchesLabels filter.labelSelector pod.labels

def listPodSandbox (filter : Option PodFilter) : Handler := do
  rLock
  let pods ← query .pods
  rUnlock
  return .podSandboxes ((pods.filter fun e => filter.all (·.keeps e.1 e.2)).map fun e =>
    { podItem e.1 e.2 with annotations := ∅ })

def updateRuntimeConfig : Handler := return .empty

def status : Handler :=
  return .runtimeStatus [("RuntimeReady", true, "ok"), ("NetworkReady", true, "ok")]

/-- The loop over the VMs of the daemon. A VM without a pod's name is skipped. -/
def syncPods : List Vm → Program Query Write Status NilPointer Unit
  | [] => return ()
  | vm :: vms => do
    let podName := (vm.labels.lookup "k8s.io/pod-name").getD ""
    if podName = "" then syncPods vms
    else do
      put (.putPod vm.id
        { id := vm.id, name := podName
          podNamespace := (vm.labels.lookup "k8s.io/pod-namespace").getD ""
          uid := (vm.labels.lookup "k8s.io/pod-uid").getD "", vmId := vm.id, ip := "", created := 0
          labels := vm.labels, annotations := ∅, cell := 0 }
        (if vm.status = "Running" then .ready else .notReady))
      syncPods vms

def syncPodsFromVyomad : Handler := do
  match ← query .ps with
  | .error e => .fail ⟨.internal, e⟩
  | .ok vms =>
    lock
    syncPods vms
    unlock
    return .empty

/-! ## The container service -/

/-- The environment of a configuration; none has no entries. -/
def envOf (config : Option ContainerConfig) : StringMap :=
  makeMap (config.elim [] ContainerConfig.envs)

def containerDir (containerID : String) : String := "/var/lib/vyoma/containers/" ++ containerID

/-- `CreateContainer` once the pod has been found. -/
def insertContainer (podID : String) (config : Option ContainerConfig) (pod : PodSandbox) :
    Handler := do
  let name := config.elim "" ContainerConfig.name
  let containerID := pod.vmId ++ "-" ++ name
  let ip ← query (.vmIp pod.vmId)
  let _ ← query (.connect ip)
  let _ ← query (.execCommand ["mkdir", "-p", containerDir containerID] (some (envOf config)) "/")
  lock
  let created ← query .now
  put (.putContainer containerID
    { id := containerID, podId := podID, name := name
      image := config.elim "" ContainerConfig.image, created := created, config := config
      cell := 0 } .created)
  unlock
  return .container containerID

def createContainer (podID : String) (config : Option ContainerConfig) : Handler := do
  rLock
  let pod ← query (.pod podID)
  rUnlock
  match pod with
  | none => .fail ⟨.notFound, "pod not found: " ++ podID⟩
  | some pod => insertContainer podID config pod

def startContainer (containerID : String) : Handler := do
  rLock
  let container ← query (.container containerID)
  rUnlock
  match container with
  | none => .fail ⟨.notFound, "container not found: " ++ containerID⟩
  | some container =>
    rLock
    let pod ← query (.pod container.podId)
    rUnlock
    match pod with
    | none => .fail ⟨.notFound, "pod not found for container: " ++ containerID⟩
    | some pod =>
      let ip ← query (.vmIp pod.vmId)
      match ← query (.connect ip) with
      | .error e => .fail ⟨.internal, "connect to VM agent: " ++ e⟩
      | .ok _ =>
        let command := container.config.elim [] ContainerConfig.command
        let workingDir := container.config.elim "" ContainerConfig.workingDir
        let _ ← query (.execCommand
          (if command = [] then ["/bin/sh", "-c", "echo container started"] else command)
          (some (envOf container.config)) (if workingDir = "" then "/" else workingDir))
        lock
        put (.setContainerState container.cell .running)
        let time ← query .now
        put (.setStartTime container.cell time)
        unlock
        return .empty

/-- The signals sent to a container, if its VM can be reached. The wait between them changes
nothing here. -/
def signalContainer (pod : Option PodSandbox) : Program Query Write Status NilPointer Unit := do
  match pod with
  | none => return ()
  | some pod =>
    let ip ← query (.vmIp pod.vmId)
    match ← query (.connect ip) with
    | .error _ => return ()
    | .ok _ =>
      let _ ← query (.execCommand ["kill", "-TERM", "1"] none "/")
      let _ ← query (.execCommand ["kill", "-KILL", "1"] none "/")
      return ()

def stopContainer (containerID : String) : Handler := do
  rLock
  let container ← query (.container containerID)
  rUnlock
  match container with
  | none => return .empty
  | some container =>
    rLock
    let pod ← query (.pod container.podId)
    rUnlock
    signalContainer pod
    lock
    put (.setContainerState container.cell .exited)
    unlock
    return .empty

/-- The directory of a container is removed, if its VM can be reached. -/
def removeContainerDir (containerID : String) (pod : Option PodSandbox) :
    Program Query Write Status NilPointer Unit := do
  match pod with
  | none => return ()
  | some pod =>
    let ip ← query (.vmIp pod.vmId)
    match ← query (.connect ip) with
    | .error _ => return ()
    | .ok _ =>
      let _ ← query (.execCommand ["rm", "-rf", containerDir containerID] none "/")
      return ()

/-- What is done for a container that is there. The write lock is held at its beginning, and
a read lock is released. -/
def cleanUpContainer (containerID : String) (container : Option ContainerInfo) :
    Program Query Write Status NilPointer Unit := do
  match container with
  | none => return ()
  | some container =>
    rUnlock
    rLock
    let pod ← query (.pod container.podId)
    rUnlock
    removeContainerDir containerID pod
    lock

def removeContainer (containerID : String) : Handler := do
  lock
  let container ← query (.container containerID)
  cleanUpContainer containerID container
  put (.deleteContainer containerID)
  unlock
  return .empty

/-- The metrics are read through their pointer. -/
def readMetrics (metrics : Except String (Option AgentClient.Metrics)) :
    Program Query Write Status NilPointer (List (String × String)) :=
  match AgentClient.statusInfo metrics with
  | none => .panics .metrics
  | some info => .ret info

/-- The `Info` of a verbose status. -/
def containerInfo (podID : String) :
    Program Query Write Status NilPointer (List (String × String)) := do
  rLock
  let pod ← query (.pod podID)
  rUnlock
  match pod with
  | none => return []
  | some pod =>
    let ip ← query (.vmIp pod.vmId)
    match ← query (.connect ip) with
    | .error _ => return []
    | .ok _ =>
      let metrics ← query .getMetrics
      readMetrics metrics

def stateReason : ContainerState → String
  | .created => "Created"
  | .running => "Running"
  | .exited => "Exited"
  | .unknown => ""

def finishTime (state : ContainerState) : Program Query Write Status NilPointer ℤ :=
  if state = .exited then query .now else .ret 0

def verboseInfo (verbose : Bool) (podID : String) :
    Program Query Write Status NilPointer (List (String × String)) :=
  if verbose then containerInfo podID else .ret []

def containerStatus (containerID : String) (verbose : Bool) : Handler := do
  rLock
  let container ← query (.container containerID)
  rUnlock
  match container with
  | none => .fail ⟨.notFound, "container not found: " ++ containerID⟩
  | some container =>
    let cell ← query (.containerCell container.cell)
    let finishedAt ← finishTime cell.state
    let info ← verboseInfo verbose container.podId
    return .containerStatus
      { id := container.id, name := container.name, state := cell.state
        createdAt := container.created, startedAt := cell.startTime, finishedAt := finishedAt
        exitCode := 0, image := container.image, reason := stateReason cell.state
        logPath := "/var/log/pods/" ++ container.podId ++ "/" ++ container.id ++ ".log"
        labels := container.config.elim ∅ ContainerConfig.labels
        annotations := container.config.elim ∅ ContainerConfig.annotations } info

structure ContainerFilter where
  id : String
  podSandboxId : String
  state : Option ContainerState
  labelSelector : StringMap

def ContainerFilter.keeps (filter : ContainerFilter) (container : ContainerInfo)
    (cell : ContainerCell) : Bool :=
  (filter.id = "" || container.id = filter.id) &&
    (filter.podSandboxId = "" || container.podId = filter.podSandboxId) &&
    filter.state.all (cell.state = ·) &&
    matchesLabels filter.labelSelector (container.config.elim ∅ ContainerConfig.labels)

def listContainers (filter : Option ContainerFilter) : Handler := do
  rLock
  let containers ← query .containers
  rUnlock
  return .containers ((containers.filter fun e => filter.all (·.keeps e.1 e.2)).map fun e =>
    { id := e.1.id, podSandboxId := e.1.podId, name := e.1.name, image := e.1.image
      state := e.2.state, createdAt := e.1.created
      labels := e.1.config.elim ∅ ContainerConfig.labels })

def updateContainerResources (containerID : String) : Handler := do
  rLock
  let container ← query (.container containerID)
  rUnlock
  match container with
  | none => .fail ⟨.notFound, "container not found: " ++ containerID⟩
  | some _ => return .empty

def reopenContainerLog (_containerID : String) : Handler := return .empty

/-! ## The streaming service -/

structure StreamRequest where
  containerId : String
  cmd : List String
  tty : Bool
  stdin : Bool
  stdout : Bool
  stderr : Bool

/-- `Exec` and `Attach` once the container has been found: its pod is looked up and read
through without a check. -/
def streamToPod (type : String) (req : StreamRequest) (container : ContainerInfo) : Handler := do
  rLock
  let pod ← query (.pod container.podId)
  rUnlock
  match pod with
  | none => .panics (.pod container.podId)
  | some pod =>
    let token ← query .token
    return .stream ("http://localhost:9000/" ++ type ++ "/" ++ token)
      { token := token, type := type, containerId := req.containerId, podId := "", vmId := pod.vmId
        vmIp := pod.ip, command := req.cmd, tty := req.tty, stdin := req.stdin
        stdout := req.stdout, stderr := req.stderr, ports := [] }

def streamTo (type : String) (req : StreamRequest) : Handler := do
  if req.containerId = "" then .fail ⟨.invalidArgument, "container ID required"⟩
  else
    rLock
    let container ← query (.container req.containerId)
    rUnlock
    match container with
    | none => .fail ⟨.notFound, "container not found: " ++ req.containerId⟩
    | some container => streamToPod type req container

def exec (req : StreamRequest) : Handler := streamTo "exec" req

/-- `Attach` has no command. -/
def attach (req : StreamRequest) : Handler := streamTo "attach" { req with cmd := [] }

def portForward (podID : String) (ports : List Int32) : Handler := do
  if podID = "" then .fail ⟨.invalidArgument, "pod sandbox ID required"⟩
  else
    rLock
    let pod ← query (.pod podID)
    rUnlock
    match pod with
    | none => .fail ⟨.notFound, "pod not found: " ++ podID⟩
    | some pod =>
      let token ← query .token
      return .stream ("http://localhost:9000/portforward/" ++ token)
        { token := token, type := "portforward", containerId := "", podId := podID
          vmId := pod.vmId, vmIp := pod.ip, command := [], tty := false, stdin := false
          stdout := false, stderr := false, ports := ports }

/-! ## Requests -/

inductive Request where
  | runPodSandbox (config : PodSandboxConfig)
  | stopPodSandbox (podID : String)
  | removePodSandbox (podID : String)
  | podSandboxStatus (podID : String)
  | listPodSandbox (filter : Option PodFilter)
  | updateRuntimeConfig
  | status
  | createContainer (podID : String) (config : Option ContainerConfig)
  | startContainer (containerID : String)
  | stopContainer (containerID : String)
  | removeContainer (containerID : String)
  | containerStatus (containerID : String) (verbose : Bool)
  | listContainers (filter : Option ContainerFilter)
  | updateContainerResources (containerID : String)
  | reopenContainerLog (containerID : String)
  | exec (req : StreamRequest)
  | attach (req : StreamRequest)
  | portForward (podID : String) (ports : List Int32)
  | syncPodsFromVyomad

def handle : Request → Handler
  | .runPodSandbox config => runPodSandbox config
  | .stopPodSandbox podID => stopPodSandbox podID
  | .removePodSandbox podID => removePodSandbox podID
  | .podSandboxStatus podID => podSandboxStatus podID
  | .listPodSandbox filter => listPodSandbox filter
  | .updateRuntimeConfig => updateRuntimeConfig
  | .status => status
  | .createContainer podID config => createContainer podID config
  | .startContainer containerID => startContainer containerID
  | .stopContainer containerID => stopContainer containerID
  | .removeContainer containerID => removeContainer containerID
  | .containerStatus containerID verbose => containerStatus containerID verbose
  | .listContainers filter => listContainers filter
  | .updateContainerResources containerID => updateContainerResources containerID
  | .reopenContainerLog containerID => reopenContainerLog containerID
  | .exec req => exec req
  | .attach req => attach req
  | .portForward podID ports => portForward podID ports
  | .syncPodsFromVyomad => syncPodsFromVyomad

def service : Service Query Write Status NilPointer Reply Server Request where
  answer := Server.answer
  apply := Server.apply
  start := handle

abbrev CriConfig : Type 1 := Config Query Write Status NilPointer Reply Server

def CriConfig.init : CriConfig := ⟨Server.init, ⟨false, 0⟩, [], none⟩

/-- A world in which every call succeeds and the daemon calls its VM `vm1`. -/
def quietWorld : ∀ β, Query β → β
  | _, .pod _ => none
  | _, .container _ => none
  | _, .podCell _ => .ready
  | _, .containerCell _ => ⟨.created, 0⟩
  | _, .pods => []
  | _, .containers => []
  | _, .createVm _ => .ok "vm1"
  | _, .startVm _ => .ok ()
  | _, .stopVm _ => .ok ()
  | _, .deleteVm _ => .ok ()
  | _, .vmIp _ => "10.0.0.2"
  | _, .connect _ => .ok ()
  | _, .execCommand _ _ _ => .ok ()
  | _, .getMetrics => .ok none
  | _, .ps => .ok []
  | _, .token => "00000000000000000000000000000000"
  | _, .now => 0

end Vyoma.Cri
