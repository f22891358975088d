import Mathlib.Data.List.Infix
import Vyoma.HashMaps
import Vyoma.Runs
import Vyoma.WalTracking

/-!
# Live migration of VMs between daemons

`teleport_handler` opens a session, asks the target to receive, spawns a task and reports
the session as in progress. The task sends the VM and polls the hypervisor, whose answers
a callback writes into the session; then it hands the VM over and closes the session.
A cancellation marks a session, stops the hypervisor's migration and marks it again. All
of them take turns, and between two turns of one any other may run.
-/
namespace Vyoma.Teleport
open VmService

structure VmMemoryInfo where
  totalBytes : UInt64
  sharedBytes : Option UInt64 := none
  deriving DecidableEq, Repr

structure MigrationInfo where
  status : String
  totalBytes : Option UInt64 := none
  transferredBytes : Option UInt64 := none
  dirtyBytes : Option UInt64 := none
  dirtyRate : Option UInt64 := none
  round : Option UInt32 := none
  deriving DecidableEq, Repr

structure VmInfo where
  state : String
  memory : Option VmMemoryInfo := none
  migration : Option MigrationInfo := none
  deriving DecidableEq, Repr

structure MigrationProgress where
  status : String
  totalPages : UInt64
  transferredPages : UInt64
  dirtyPages : UInt64
  dirtyRatePagesPerSec : UInt64
  round : UInt32
  completed : Bool
  error : Option String
  deriving DecidableEq, Repr

/-- What `wait_for_migration_complete` makes of an answer, in pages of 4096 bytes. -/
def VmInfo.progress (info : VmInfo) : MigrationProgress :=
  let migrationStatus := (info.migration.map MigrationInfo.status).getD "unknown"
  { status := migrationStatus
    totalPages := (info.memory.map VmMemoryInfo.totalBytes).getD 0 / 4096
    transferredPages := (info.migration.bind MigrationInfo.transferredBytes).getD 0 / 4096
    dirtyPages := (info.migration.bind MigrationInfo.dirtyBytes).getD 0 / 4096
    dirtyRatePagesPerSec := (info.migration.bind MigrationInfo.dirtyRate).getD 0 / 4096
    round := (info.migration.bind MigrationInfo.round).getD 0
    completed := migrationStatus == "completed"
    error := if migrationStatus = "failed" then some "Migration failed" else none }

/-- What one round of polling meets. -/
inductive Poll where
  | timedOut
  | queryFailed (e : String)
  | notSuccessful
  | unparsable (e : String)
  | answered (info : VmInfo)
  deriving DecidableEq, Repr

/-- What the callback is given. -/
def Poll.progress : Poll → Option MigrationProgress
  | .answered info => some info.progress
  | _ => none

/-- What a round of polling returns; nothing when there is another round. -/
def Poll.result : Poll → Option (Except String Unit)
  | .timedOut => some (.error "Migration timeout: exceeded 10 minutes and cancelled")
  | .queryFailed e => some (.error ("Failed to query vm.info: " ++ e))
  | .notSuccessful => none
  | .unparsable e => some (.error ("Failed to parse vm.info response: " ++ e))
  | .answered info =>
    if info.progress.completed then some (.ok ()) else info.progress.error.map .error

structure MigrationSession where
  sessionId : String
  vmId : String
  sourceNode : String
  targetNode : String
  status : String
  progress : Option MigrationProgress
  startedAt : UInt64
  completedAt : Option UInt64
  deriving DecidableEq, Repr

abbrev Sessions : Type := HashMap String MigrationSession

structure TeleportResponse where
  sessionId : String
  status : String
  message : String
  deriving DecidableEq, Repr

structure CancelTeleportResponse where
  success : Bool
  message : String
  sessionId : Option String
  vmId : Option String
  deriving DecidableEq, Repr

inductive HandlerPhase where
  | inserting
  | lookingUp
  | asking
  | spawning
  | reporting
  | failing (error : ℕ × String)
  | returned (reply : Except (ℕ × String) TeleportResponse)
  deriving DecidableEq

inductive MigrationTask where
  | notSpawned
  | sending
  | polling (n : ℕ)
  | pausing
  | removing
  | adopting
  | completing
  | resuming
  | failing
  | finished
  deriving DecidableEq, Repr

inductive CancelPhase where
  | marking
  | calling (found : Option String) (vmId : String)
  | finishing (found : Option String) (vmId : String) (result : Except String Unit)
  | returned (reply : Except (ℕ × String) CancelTeleportResponse)
  deriving DecidableEq

inductive Receive where
  | accepted
  | unreachable (e : String)
  | refused (text : String)
  deriving DecidableEq, Repr

/-- The request to adopt: it gets to the target, where its outcome depends on the VM's
directory and hypervisor, or it does not. Whether the answer gets back is only logged. -/
inductive AdoptCall where
  | notDelivered (e : String)
  | delivered (probe : Except (ℕ × String) Unit)
  deriving DecidableEq

/-- A request and what it meets: the node its target resolves to, the answers of target
and hypervisor, the clock, and the order of the map of sessions after the insertion. -/
structure MigrationEnv where
  vmId : String
  targetNodeIp : String
  resolved : Option String
  startedAt : UInt64
  order : HashMap.Traversal String MigrationSession
  receive : Receive
  sendMigration : Except String Unit
  polls : ℕ → Poll
  adopt : AdoptCall
  adoptSocket : String
  completedAt : UInt64

structure CancelEnv where
  sessionIdArg : Option String
  vmIdArg : Option String
  cancelMigration : Except String Unit

/-- Migrations by the session ids drawn for them, and cancellations by number. -/
structure Env where
  migration : String → MigrationEnv
  cancel : ℕ → CancelEnv

structure Teleports where
  sessions : Sessions
  handler : String → HandlerPhase
  task : String → MigrationTask
  cancel : ℕ → CancelPhase
  source : Daemon
  targets : String → Daemon

/-- A daemon that has not migrated anything yet, among others. -/
def Teleports.start (source : Daemon) (targets : String → Daemon) : Teleports where
  sessions := ∅
  handler := fun _ => .inserting
  task := fun _ => .notSpawned
  cancel := fun _ => .marking
  source := source
  targets := targets

inductive Turn where
  | handler (sessionId : String)
  | task (sessionId : String)
  | cancel (n : ℕ)
  deriving DecidableEq, Repr

def Sessions.setStatus (sessions : Sessions) (sessionId status : String) : Sessions :=
  HashMap.update sessions sessionId fun session => { session with status := status }

/-- The same for a session that may not have been found. -/
def Sessions.mark (sessions : Sessions) (found : Option String) (status : String) : Sessions :=
  match found with
  | some sessionId => sessions.setStatus sessionId status
  | none => sessions

/-- The progress callback. -/
def Sessions.report (sessions : Sessions) (sessionId : String) : Option MigrationProgress → Sessions
  | none => sessions
  | some progress => HashMap.update sessions sessionId fun session =>
      { session with status := progress.status, progress := some progress }

namespace Teleports

variable (s : Teleports) (sessionId : String)

def setHandler (phase : HandlerPhase) : Teleports :=
  { s with handler := Function.update s.handler sessionId phase }

def setTask (phase : MigrationTask) : Teleports :=
  { s with task := Function.update s.task sessionId phase }

def setCancel (n : ℕ) (phase : CancelPhase) : Teleports :=
  { s with cancel := Function.update s.cancel n phase }

end Teleports

section Turns

variable (env : Env) (s : Teleports)

/-- `teleport_handler`. -/
def handlerTurn (sessionId : String) : Teleports :=
  let m := env.migration sessionId
  match s.handler sessionId with
  | .inserting =>
    match m.resolved with
    | none => s.setHandler sessionId (.returned (.error
        (400, "Swarm node '" ++ m.targetNodeIp ++ "' not found in cluster registry")))
    | some targetNode =>
      { s with sessions := m.order.visit (s.sessions.insert sessionId
          { sessionId := sessionId
            vmId := m.vmId
            sourceNode := "local"
            targetNode := targetNode
            status := "initiating"
            progress := none
            startedAt := m.startedAt
            completedAt := none }) }.setHandler sessionId .lookingUp
  | .lookingUp =>
    s.setHandler sessionId
      (if m.vmId ∈ s.source.vms then .asking else .failing (404, "VM not found"))
  | .asking =>
    s.setHandler sessionId (match m.receive with
      | .accepted => .spawning
      | .unreachable e => .failing (500, "Target node unreachable: " ++ e)
      | .refused text => .failing (500, "Target node refused: " ++ text))
  | .spawning => (s.setTask sessionId .sending).setHandler sessionId .reporting
  | .reporting =>
    { s with sessions := s.sessions.setStatus sessionId "in_progress" }.setHandler sessionId
      (.returned (.ok ⟨sessionId, "in_progress", "Live migration initiated"⟩))
  | .failing error =>
    { s with sessions := s.sessions.setStatus sessionId "failed" }.setHandler sessionId
      (.returned (.error error))
  | .returned _ => s

/-- The spawned task. Pausing and resuming the VM do not show in the registries. -/
def taskTurn (sessionId : String) : Teleports :=
  let m := env.migration sessionId
  match s.task sessionId with
  | .notSpawned => s
  | .sending =>
    s.setTask sessionId (match m.sendMigration with
      | .error _ => .resuming
      | .ok () => .polling 0)
  | .polling n =>
    { s with sessions := s.sessions.report sessionId (m.polls n).progress }.setTask sessionId
      (match (m.polls n).result with
        | none => .polling (n + 1)
        | some (.ok ()) => .pausing
        | some (.error _) => .resuming)
  | .pausing => s.setTask sessionId .removing
  | .removing =>
    { s with source := s.source.removeTeleported m.vmId }.setTask sessionId .adopting
  | .adopting =>
    match m.adopt with
    | .notDelivered _ => s.setTask sessionId .completing
    | .delivered probe =>
      let node := m.resolved.getD ""
      let target := ((s.targets node).adoptTeleportedVm probe m.vmId m.adoptSocket).1
      { s with targets := Function.update s.targets node target }.setTask sessionId .completing
  | .completing =>
    { s with sessions := HashMap.update s.sessions sessionId fun session =>
        { session with status := "completed", completedAt := some m.completedAt } }.setTask
      sessionId .finished
  | .resuming => s.setTask sessionId .failing
  | .failing =>
    { s with sessions := s.sessions.setStatus sessionId "failed" }.setTask sessionId .finished
  | .finished => s

end Turns

/-- A session that a cancellation takes, under which key, and the id it remembers. -/
structure Chosen where
  key : String
  session : MigrationSession
  found : String

/-- The first session of the VM in the order of the map. -/
def Sessions.firstOf (sessions : Sessions) (vmId : String) : Option Chosen :=
  ((HashMap.pairs sessions).find? fun p => p.2.vmId = vmId).map fun p => ⟨p.1, p.2, p.1⟩

/-- By session id when there is such a session; a session id that is none is taken for a
VM id, and a VM id takes the first session of the VM. -/
def CancelEnv.chosen (c : CancelEnv) (sessions : Sessions) : Option Chosen :=
  match c.sessionIdArg, c.vmIdArg with
  | some sid, _ =>
    match sessions.lookup sid with
    | some session => some ⟨sid, session, session.sessionId⟩
    | none => sessions.firstOf sid
  | none, some vid => sessions.firstOf vid
  | none, none => none

def CancelEnv.reply (found : Option String) (vmId : String) :
    Except String Unit → Except (ℕ × String) CancelTeleportResponse
  | .ok () => .ok ⟨true, "Migration for VM " ++ vmId ++ " cancelled successfully", found, some vmId⟩
  | .error e =>
    if "no ongoing migration".toList <:+: e.toList then
      .ok ⟨true, "No ongoing migration active on hypervisor for VM " ++ vmId, found, some vmId⟩
    else .error (500, "Failed to cancel migration: " ++ e)

/-- `cancel_teleport_internal`. -/
def cancelTurn (env : Env) (s : Teleports) (n : ℕ) : Teleports :=
  let c := env.cancel n
  match s.cancel n with
  | .marking =>
    let chosen := c.chosen s.sessions
    let vmId := (((chosen.map fun ch => ch.session.vmId).or c.vmIdArg).or c.sessionIdArg).getD ""
    { s with sessions := s.sessions.mark (chosen.map Chosen.key) "cancelling" }.setCancel n
      (if vmId = "" then .returned (.error (400, "Neither session_id nor vm_id specified"))
        else .calling (chosen.map Chosen.found) vmId)
  | .calling found vmId =>
    s.setCancel n (.finishing found vmId
      (if vmId ∈ s.source.vms then c.cancelMigration else .ok ()))
  | .finishing found vmId result =>
    { s with sessions := s.sessions.mark found "cancelled" }.setCancel n
      (.returned (CancelEnv.reply found vmId result))
  | .returned _ => s

def turn (env : Env) (s : Teleports) : Turn → Teleports
  | .handler sessionId => handlerTurn env s sessionId
  | .task sessionId => taskTurn env s sessionId
  | .cancel n => cancelTurn env s n

/-- A migration of `vm-1` that the target and the hypervisor see through, up to adoption. -/
def sentMigration (adopt : AdoptCall) : MigrationEnv where
  vmId := "vm-1"
  targetNodeIp := "10.0.0.2"
  resolved := some "10.0.0.2"
  startedAt := 0
  order := .inOrder _ _
  receive := .accepted
  sendMigration := .ok ()
  polls := fun _ => .answered { state := "Running", migration := some { status := "completed" } }
  adopt := adopt
  adoptSocket := "ch.sock"
  completedAt := 60

/-- A source with `vm-1` on it, and targets without VMs. -/
def beforeMigration : Teleports :=
  let vm : VmInstance := {
    id := "vm-1", status := .running, chSocketPath := "ch.sock", vcpu := 1, memSizeMib := 512 }
  .start { fresh with vms := fresh.vms.insert "vm-1" vm } fun _ => fresh

end Vyoma.Teleport
