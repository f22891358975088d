import Vyoma.StateFiles

/-!
# Recovery from the state files

A new daemon looks at the VMs that the log reports as active, reads the state file of each,
asks its hypervisor whether it is alive, and adopts those that answer. The adoption copies
every persisted field but the status. The file itself is truncated before it is written, so
a daemon that stops in between leaves a file that recovery cannot read.
-/
namespace Vyoma.VmService
open OrderedMaps Runs

inductive VmRecoveryStatus where
  | running
  | stopped
  | crashed
  | unknown
  deriving DecidableEq, Repr

/-- One ping of a hypervisor: whether it answers, unless the ping times out, and whether
the socket file is removed when the handle made for the ping is dropped. -/
structure Ping where
  answer : Option Bool
  removed : Bool
  deriving DecidableEq, Repr

/-- The status, and whether the socket file is there afterwards. -/
def checkVmStatus (chSocket : Bool) (ping : Ping) : VmRecoveryStatus × Bool :=
  if !chSocket then (.crashed, false)
  else
    (match ping.answer with
      | some true => .running
      | some false => .crashed
      | none => .unknown, !ping.removed)

def reconstructVmState (vmId : String) (chSocket : Bool) (ping : Ping) : Option VmState × Bool :=
  if !chSocket then (none, false)
  else
    match checkVmStatus chSocket ping with
    | (.running, left) => (some {
        id := vmId, tapName := "", dmName := "", loopDevices := [], cowFilePath := ""
        ipAddress := "10.0.0.2", cgroupPath := none, netnsPath := none, ports := [], volumes := []
        hostname := none, labels := ∅, baseImagePath := "", vcpu := 0, memSizeMib := 0
        networks := [], status := .running }, left)
    | (_, left) => (none, left)

/-- What recovery meets in the directory of one VM. -/
structure VmDir where
  isThere : Bool
  chSocket : Bool
  readOk : Bool
  reconstruction : Ping
  check : Ping
  deriving DecidableEq, Repr

/-- One turn of the loop of `recover_on_startup`: the state the VM is adopted with. -/
def recoverVm (serde : Serde) (stateJson : Option (List UInt8)) (vmId : String) (dir : VmDir) :
    Option VmState :=
  if !dir.isThere then none
  else
    let found : Option VmState × Bool :=
      match stateJson with
      | none => reconstructVmState vmId dir.chSocket dir.reconstruction
      | some content => (if dir.readOk then serde.fromStr content else none, dir.chSocket)
    match found with
    | (none, _) => none
    | (some state, chSocket) =>
      match (checkVmStatus chSocket dir.check).1 with
      | .running => some state
      | _ => none

/-- What a new daemon meets on its host. -/
structure Startup where
  vmsDirExists : Bool
  walReadOk : String → Bool
  order : HashMap.Traversal String (State.WalEntry × ℕ)
  dir : String → VmDir
  chSocketPath : String → String

/-- The survivors are decided by the state files and the hypervisors. -/
def Startup.outcomes (startup : Startup) (serde : Serde) (files : StateFiles) :
    Daemon.RecoveryOutcomes where
  vmsDirExists := startup.vmsDirExists
  readOk := startup.walReadOk
  order := startup.order
  survivor vmId := recoverVm serde (files vmId) vmId (startup.dir vmId)
  chSocketPath := startup.chSocketPath

/-- The directory of the VM and its file can be read, and its hypervisor answers. -/
structure Startup.Answers (startup : Startup) (vmId : String) : Prop where
  vmsDir : startup.vmsDirExists = true
  isThere : (startup.dir vmId).isThere = true
  readOk : (startup.dir vmId).readOk = true
  chSocket : (startup.dir vmId).chSocket = true
  alive : (startup.dir vmId).check.answer = some true

theorem reconstructVmState_socket {vmId : String} {chSocket : Bool} {ping : Ping} {state : VmState}
    (h : (reconstructVmState vmId chSocket ping).1 = some state) :
    (reconstructVmState vmId chSocket ping).2 = !ping.removed := by
  obtain ⟨answer, removed⟩ := ping
  cases chSocket with
  | false => cases h
  | true =>
    cases answer with
    | none => cases h
    | some alive =>
      cases alive with
      | false => cases h
      | true => rfl

/-- Without a state file a VM is adopted only if its socket outlives the handle that the
reconstruction pings it with. -/
theorem recoverVm_reconstructed {serde : Serde} {vmId : String} {dir : VmDir} {state : VmState}
    (h : recoverVm serde none vmId dir = some state) : dir.reconstruction.removed = false := by
  have hsocket : ∀ st, (reconstructVmState vmId dir.chSocket dir.reconstruction).1 = some st →
      (reconstructVmState vmId dir.chSocket dir.reconstruction).2 = !dir.reconstruction.removed :=
    fun _ => reconstructVmState_socket
  simp only [recoverVm] at h
  split_ifs at h
  generalize reconstructVmState vmId dir.chSocket dir.reconstruction = found at h hsocket
  obtain ⟨found, chSocket⟩ := found
  cases found with
  | none => cases h
  | some state =>
    cases hremoved : dir.reconstruction.removed with
    | false => rfl
    | true =>
      have hgone : chSocket = false := by simpa [hremoved] using hsocket state rfl
      rw [hgone] at h
      cases h

theorem recoverVm_answers {serde : Serde} {startup : Startup} {vmId : String}
    (h : startup.Answers vmId) (content : List UInt8) :
    recoverVm serde (some content) vmId (startup.dir vmId) = serde.fromStr content := by
  simp only [recoverVm, checkVmStatus, h.isThere, h.readOk, h.chSocket, h.alive]
  cases serde.fromStr content <;> rfl

/-! ## The adoption loop -/

/-- Recovered VMs of one id carry one state, so it does not matter which is adopted last. -/
theorem lookup_adopted (chSocketPath : String → String) {recovered : List (String × VmState)}
    {vmId : String} {state : VmState} (hsame : ∀ rvm ∈ recovered, rvm.1 = vmId → rvm.2 = state)
    (vms : Std.ExtTreeMap String VmInstance) :
    (recovered.foldl (fun vms rvm =>
        vms.insert rvm.1 (Daemon.adoptRecovered (chSocketPath rvm.1) rvm.1 rvm.2)) vms)[vmId]? =
      if ∃ rvm ∈ recovered, rvm.1 = vmId then
        some (Daemon.adoptRecovered (chSocketPath vmId) vmId state)
      else vms[vmId]? := by
  induction recovered generalizing vms with
  | nil => simp
  | cons rvm recovered ih =>
    rw [List.foldl_cons, ih (fun r hr => hsame r (List.mem_cons_of_mem _ hr)), lookup_insert]
    by_cases hrest : ∃ r ∈ recovered, r.1 = vmId
    · obtain ⟨r, hr, hid⟩ := hrest
      rw [if_pos ⟨r, hr, hid⟩, if_pos ⟨r, List.mem_cons_of_mem _ hr, hid⟩]
    · rw [if_neg hrest]
      by_cases hid : rvm.1 = vmId
      · rw [if_pos hid, if_pos ⟨rvm, List.mem_cons_self, hid⟩, ← hid, hsame rvm List.mem_cons_self hid]
      · rw [if_neg hid, if_neg]
        simpa [hid] using hrest

theorem lookup_restart {d : Daemon} {io : Daemon.RecoveryOutcomes} {vmId : String} {state : VmState}
    (hdir : io.vmsDirExists = true)
    (hactive : ∃ ts, (vmId, ts) ∈ d.wal.getActiveVmIds io.readOk io.order)
    (hstate : io.survivor vmId = some state) : (d.restart io).vms[vmId]? =
      some (Daemon.adoptRecovered (io.chSocketPath vmId) vmId state) := by
  obtain ⟨ts, hts⟩ := hactive
  simp only [Daemon.restart]
  have hsame : ∀ rvm ∈ Daemon.recoverOnStartup d.wal io, rvm.1 = vmId → rvm.2 = state := by
    intro rvm hrvm hid
    rw [Daemon.recoverOnStartup, if_pos hdir] at hrvm
    obtain ⟨active, _, hmap⟩ := List.mem_filterMap.mp hrvm
    obtain ⟨found, hfound, rfl⟩ := Option.map_eq_some_iff.mp hmap
    rw [show active.1 = vmId from hid, hstate] at hfound
    exact (Option.some.inj hfound).symm
  rw [lookup_adopted io.chSocketPath hsame, if_pos]
  refine ⟨(vmId, state), ?_, rfl⟩
  rw [Daemon.recoverOnStartup, if_pos hdir]
  exact List.mem_filterMap.mpr ⟨(vmId, ts), hts, by simp [hstate]⟩

/-- An adopted VM has every persisted field of the file, except that it runs. -/
theorem toState_adoptRecovered (chSocketPath : String) (state : VmState) :
    (Daemon.adoptRecovered chSocketPath state.id state).toState = { state with status := .running } :=
  rfl

/-- The new daemon holds an instance of this id with the same persisted fields. -/
def RebuiltAs (d : Daemon) (vm : VmInstance) : Prop :=
  ∃ rebuilt, d.vms[vm.id]? = some rebuilt ∧ rebuilt.toState = vm.toState

/-- A VM that was saved, is active in the log and whose hypervisor answers is rebuilt with
all its persisted fields exactly if it was running. -/
theorem restart_rebuilds_iff {serde : Serde} {vm : VmInstance} (files : StateFiles) {d : Daemon}
    {startup : Startup} (hround : serde.RoundTrips vm.toState)
    (hactive : ∃ ts, (vm.id, ts) ∈ d.wal.getActiveVmIds startup.walReadOk startup.order)
    (hanswers : startup.Answers vm.id) :
    RebuiltAs (d.restart (startup.outcomes serde (files.saveState serde vm))) vm ↔
      vm.status = .running := by
  have hfile : files.saveState serde vm vm.id = some (serde.toWriterPretty vm.toState) := if_pos rfl
  have hsurvivor : (startup.outcomes serde (files.saveState serde vm)).survivor vm.id =
      some vm.toState := by
    simp only [Startup.outcomes, hfile]
    rw [recoverVm_answers hanswers, hround]
  have hlook := lookup_restart hanswers.vmsDir hactive hsurvivor
  rw [RebuiltAs, hlook]
  simp only [Option.some.injEq, exists_eq_left']
  constructor
  · intro he
    exact (congrArg VmState.status he).symm
  · intro hrunning
    have hstate : { vm.toState with status := .running } = vm.toState := by
      rw [← hrunning]
      rfl
    exact (toState_adoptRecovered _ vm.toState).trans hstate

/-- A log that has seen the VM created. -/
def bootedWal : State.Wal := (fresh.wal.append true true 1 (.vmCreate "5f2c" 1)).1

/-- A restart that finds every directory and every hypervisor in order. -/
def calmStartup : Startup where
  vmsDirExists := true
  walReadOk := fun _ => true
  order := HashMap.Traversal.inOrder _ _
  dir := fun _ => ⟨true, true, true, ⟨some true, true⟩, ⟨some true, true⟩⟩
  chSocketPath := fun vmId => "/var/lib/vyoma/.vyoma/vms/" ++ vmId ++ "/ch.sock"

theorem calmStartup_answers (vmId : String) : calmStartup.Answers vmId := ⟨rfl, rfl, rfl, rfl, rfl⟩

theorem booted_active : ∃ ts, ("5f2c", ts) ∈
    bootedWal.getActiveVmIds calmStartup.walReadOk calmStartup.order := ⟨1, by decide⟩

theorem running_vm_rebuilt : (bootedSerde .running).RoundTrips bootedVm.toState ∧
    RebuiltAs (({ fresh with wal := bootedWal } : Daemon).restart (calmStartup.outcomes
      (bootedSerde .running) (StateFiles.saveState (fun _ => none) (bootedSerde .running)
        bootedVm))) bootedVm :=
  ⟨bootedSerde_roundTrips .running, (restart_rebuilds_iff (fun _ => none)
    (bootedSerde_roundTrips .running) booted_active (calmStartup_answers "5f2c")).mpr rfl⟩

/-- The VM as `run_vm` saves it while its attestation is pending. -/
def pendingVm : VmInstance := { bootedVm with status := .pendingAttestation }

/-- A VM that was never attested runs after a restart. -/
theorem pending_vm_rebuilt_running :
    (bootedSerde .pendingAttestation).RoundTrips pendingVm.toState ∧
    ¬ RebuiltAs (({ fresh with wal := bootedWal } : Daemon).restart (calmStartup.outcomes
      (bootedSerde .pendingAttestation) (StateFiles.saveState (fun _ => none)
        (bootedSerde .pendingAttestation) pendingVm))) pendingVm := by
  refine ⟨bootedSerde_roundTrips .pendingAttestation, fun h => ?_⟩
  obtain ⟨rebuilt, hlook, hstate⟩ := h
  have hsurvivor : (calmStartup.outcomes (bootedSerde .pendingAttestation)
      (StateFiles.saveState (fun _ => none) (bootedSerde .pendingAttestation)
        pendingVm)).survivor "5f2c" = some pendingVm.toState :=
    (recoverVm_answers (calmStartup_answers "5f2c") _).trans
      (bootedSerde_roundTrips .pendingAttestation)
  rw [show pendingVm.id = "5f2c" from rfl, lookup_restart rfl booted_active hsurvivor] at hlook
  cases hlook
  cases congrArg VmState.status hstate

/-! ## A daemon that stops while it saves -/

inductive FileStep where
  | create
  | write (byte : UInt8)
  deriving DecidableEq, Repr

/-- `File::create` empties a file that is there; a write appends to it. -/
def FileStep.apply : Option (List UInt8) → FileStep → Option (List UInt8)
  | _, .create => some []
  | file, .write byte => file.map fun content => content ++ [byte]

/-- The steps of `save_state` on the state file. -/
def saveSteps (serde : Serde) (state : VmState) : List FileStep :=
  .create :: (serde.toWriterPretty state).map .write

theorem exec_writes (content bytes : List UInt8) :
    exec FileStep.apply (some content) (bytes.map .write) = some (content ++ bytes) := by
  induction bytes generalizing content with
  | nil => simp
  | cons byte bytes ih =>
    rw [List.map_cons, exec_cons]
    exact (ih (content ++ [byte])).trans (by simp)

/-- All steps together leave what `save_state` leaves. -/
theorem exec_saveSteps (serde : Serde) (files : StateFiles) (vm : VmInstance) :
    exec FileStep.apply (files vm.id) (saveSteps serde vm.toState) =
      files.saveState serde vm vm.id := by
  have hall := exec_writes [] (serde.toWriterPretty vm.toState)
  rw [StateFiles.saveState, if_pos rfl]
  exact hall

/-- A stop before `save_state`, or after it created the file and wrote some bytes. -/
theorem exec_of_prefix_saveSteps {serde : Serde} {state : VmState} {file : Option (List UInt8)}
    {pre : List FileStep} (hpre : pre <+: saveSteps serde state) :
    pre = [] ∨ ∃ bytes, bytes <+: serde.toWriterPretty state ∧ pre = .create :: bytes.map .write ∧
      exec FileStep.apply file pre = some bytes := by
  cases pre with
  | nil => exact .inl rfl
  | cons first rest =>
    obtain ⟨rfl, hrest⟩ := List.cons_prefix_cons.mp hpre
    obtain ⟨bytes, hbytes, rfl⟩ := List.prefix_map_iff.mp hrest
    exact .inr ⟨bytes, hbytes, rfl, exec_writes [] bytes⟩

/-- Wherever the daemon stops, the file decodes to the old or the new state, and recovery
does not skip a VM whose hypervisor answers. -/
def CrashAtomic (serde : Serde) (old new : VmState) : Prop :=
  ∀ pre, pre <+: saveSteps serde new →
    (∃ content, exec FileStep.apply (some (serde.toWriterPretty old)) pre = some content ∧
      (serde.fromStr content = some old ∨ serde.fromStr content = some new)) ∧
    ∀ (startup : Startup) (vmId : String), startup.Answers vmId →
      (recoverVm serde (exec FileStep.apply (some (serde.toWriterPretty old)) pre) vmId
        (startup.dir vmId)).isSome = true

/-- Where no text that breaks off decodes, the only stops that leave a readable file are the
one before the file is created and the one after the last byte. -/
theorem decodes_after_stop_iff {serde : Serde} {old new : VmState} (hold : serde.RoundTrips old)
    (hnew : serde.RoundTrips new) (hbroken : ∀ bytes, bytes <+: serde.toWriterPretty new →
      bytes ≠ serde.toWriterPretty new → serde.fromStr bytes = none)
    {pre : List FileStep} (hpre : pre <+: saveSteps serde new) :
    (∃ content, exec FileStep.apply (some (serde.toWriterPretty old)) pre = some content ∧
      (serde.fromStr content = some old ∨ serde.fromStr content = some new)) ↔
    pre = [] ∨ pre = saveSteps serde new := by
  obtain rfl | ⟨bytes, hbytes, rfl, hexec⟩ := exec_of_prefix_saveSteps hpre
  · exact iff_of_true ⟨_, rfl, .inl hold⟩ (.inl rfl)
  · rw [hexec]
    by_cases hall : bytes = serde.toWriterPretty new
    · rw [hall]
      exact iff_of_true ⟨_, rfl, .inr hnew⟩ (.inr rfl)
    · refine iff_of_false ?_ ?_
      · intro h
        obtain ⟨content, hcontent, hdecoded⟩ := h
        cases hcontent
        rw [hbroken bytes hbytes hall] at hdecoded
        obtain hdecoded | hdecoded := hdecoded <;> cases hdecoded
      · intro h
        obtain h | h := h
        · cases h
        · have hwrites := (List.cons.inj h).2
          exact hall (List.map_injective_iff.mpr (fun _ _ he => by cases he; rfl) hwrites)

/-- Between the creation of the file and the first byte there is nothing to decode. -/
theorem no_decoding_after_create {serde : Serde} (hempty : serde.fromStr [] = none)
    (old new : VmState) : ¬ CrashAtomic serde old new := by
  intro h
  have hcreate : [FileStep.create] <+: saveSteps serde new :=
    List.cons_prefix_cons.mpr ⟨rfl, List.nil_prefix⟩
  obtain ⟨⟨content, hcontent, hdecoded⟩, _⟩ := h [.create] hcreate
  cases hcontent
  rw [hempty] at hdecoded
  obtain hdecoded | hdecoded := hdecoded <;> cases hdecoded

/-- No save is atomic: for every old and new state there is a point at which the daemon can
stop and leave a file that decodes to neither, and from there recovery skips the VM. -/
theorem save_state_never_crash_atomic {serde : Serde} (hempty : serde.fromStr [] = none)
    (old new : VmState) : ¬ CrashAtomic serde old new ∧
      ∃ pre, pre <+: saveSteps serde new ∧ ∀ vmId dir,
        recoverVm serde (exec FileStep.apply (some (serde.toWriterPretty old)) pre) vmId dir =
          none := by
  refine ⟨no_decoding_after_create hempty old new, [.create], ?_, fun vmId dir => ?_⟩
  · exact List.cons_prefix_cons.mpr ⟨rfl, List.nil_prefix⟩
  · simp only [exec_cons, exec_nil, FileStep.apply, recoverVm, hempty, ite_self]

theorem bootedSerde_empty (status : VmStatus) : (bootedSerde status).fromStr [] = none := by
  refine if_neg fun h => ?_
  have hlength := congrArg List.length h
  have hend : 0 < "\"\n\x7d".utf8ByteSize := by decide
  simp only [bootedText, String.toUTF8_eq_toByteArray, Array.length_toList, List.length_nil,
    ByteArray.size_data, String.toByteArray_append, ByteArray.size_append,
    String.size_toByteArray] at hlength
  omega

theorem running_save_not_atomic : (bootedSerde .running).fromStr [] = none ∧
    ¬ CrashAtomic (bootedSerde .running) bootedVm.toState bootedVm.toState :=
  ⟨bootedSerde_empty .running,
    (save_state_never_crash_atomic (bootedSerde_empty .running) _ _).1⟩

/-- A stop while the verdict of an attestation is saved. -/
theorem pending_to_running_not_atomic :
    ¬ CrashAtomic (bootedSerde .running) pendingVm.toState bootedVm.toState :=
  no_decoding_after_create (bootedSerde_empty .running) _ _

end Vyoma.VmService
