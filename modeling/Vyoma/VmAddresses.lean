import Vyoma.AttestationGate
import Vyoma.VmCreation

/-!
# The addresses of VMs

`run_vm`, a branch and a restoration draw the last octet of an address at random, each on
its own, and nothing keeps a record of the addresses in use. The octets that were drawn are
recorded beside the daemon, which does not read them. The addresses of the VMs in the map
differ along a run exactly when no VM comes into the map with an octet in use.
-/
namespace Vyoma.VmService
open OrderedMaps Runs

/-- The octet that `setup_privileged_network` and the branch handler draw. -/
def drawnOctet (random : UInt8) : UInt8 := 2 + random % 252

/-- The octet that `restore_vm` draws. -/
def restoredOctet (random : UInt8) : UInt8 := max 2 (min 254 random)

def address (octet : UInt8) : String := "172.16.0." ++ toString octet

theorem address_injective {octet octet' : UInt8} (h : address octet = address octet') :
    octet = octet' := by
  have hrepr : octet.toNat.repr = octet'.toNat.repr := (String.append_right_inj _).mp h
  exact UInt8.toNat_inj.mp (RustText.natRepr_injective hrepr)

/-! ## Operations -/

/-- The operations that create and stop VMs, each with what its environment answers and the
random octet it draws. A VM that `run_vm` has booted is registered later. -/
inductive AddressOp where
  | runVm (dataDir : String) (request : VmRunRequest) (o : RunOutcomes)
  | register (vmId : String) (save : Except String Unit)
  | attestationCompletes (vmId : String) (save : Except String Unit) (verification : Verification)
  | branch (iteration : List String) (id : String) (payload : Daemon.BranchRequest)
      (readOk : Bool) (newVmId : String) (disk : Except (ℕ × String) String)
      (io : TimeMachine.SledOutcomes) (uuid : String) (now : ℤ) (chSocketPath : String)
      (random : UInt8)
  | restore (payload : Daemon.RestoreRequest) (reads : Bool × Bool) (newVmId : String)
      (stages : Except (ℕ × String) VmInstance) (create start : Daemon.Append) (timestamp : UInt64)
      (random : UInt8)
  | stop (io : Daemon.Append) (timestamp : UInt64) (vmId : String)

def addressStep (d : Daemon) : AddressOp → Daemon
  | .runVm dataDir request o =>
    (d.runVmBoot o.vmId (runStages dataDir request o).1 o.imageName o.boot.tpmSocketPath).1
  | .register vmId save => completeRun d vmId save
  | .attestationCompletes vmId save verification => completeAttestation d vmId save verification
  | .branch iteration id payload readOk newVmId disk io uuid now ch random =>
    (d.branchVm iteration id payload readOk newVmId disk io uuid now ch
      (address (drawnOctet random))).1
  | .restore payload reads newVmId stages create start timestamp random =>
    (d.restoreVm payload reads newVmId
      (stages.map fun vm => { vm with ipAddress := address (restoredOctet random) })
      create start timestamp).1
  | .stop io timestamp vmId => (d.stopVm io timestamp vmId).1

/-- The daemon with the octets drawn for VMs in flight and for VMs that were put into the
map, and the ids of the latter. -/
structure Addressed where
  daemon : Daemon
  booting : String → UInt8
  octets : String → UInt8
  created : List String

namespace Addressed

/-- No VM has been created, and none is in flight. -/
def start (d : Daemon) : Addressed := ⟨{ d with booting := ∅ }, fun _ => 0, fun _ => 0, []⟩

/-- The VM that the operation puts into the map, with its octet. -/
def creates (s : Addressed) : AddressOp → Option (String × UInt8)
  | .register vmId save =>
    if vmId ∈ s.daemon.booting ∧ save.isOk then some (vmId, s.booting vmId) else none
  | .branch iteration id payload readOk newVmId disk _ _ _ _ random =>
    if findsBranchPoint s.daemon iteration id payload readOk ∧ disk.isOk then
      some (newVmId, drawnOctet random)
    else none
  | .restore payload reads newVmId stages _ _ _ random =>
    if startsClone s.daemon payload reads ∧ stages.isOk then
      some (newVmId, restoredOctet random)
    else none
  | _ => none

/-- The octets drawn for VMs in flight. -/
def boots (s : Addressed) : AddressOp → String → UInt8
  | .runVm dataDir request o =>
    if (runStages dataDir request o).1.isOk then
      Function.update s.booting o.vmId (drawnOctet o.network.random)
    else s.booting
  | _ => s.booting

def step (s : Addressed) (op : AddressOp) : Addressed where
  daemon := addressStep s.daemon op
  booting := s.boots op
  octets := (s.creates op).elim s.octets fun e => Function.update s.octets e.1 e.2
  created := (s.creates op).elim s.created fun e => e.1 :: s.created

/-- Two VMs in the map that these operations created have different addresses. -/
def Distinct (s : Addressed) : Prop :=
  ∀ id ∈ s.created, ∀ id' ∈ s.created, id ≠ id' → ∀ vm vm', s.daemon.vms[id]? = some vm →
    s.daemon.vms[id']? = some vm' → vm.ipAddress ≠ vm'.ipAddress

/-- The octet of a VM that comes into the map is none that was drawn for another VM of these
operations that is in the map. -/
def DrawsFree (s : Addressed) (op : AddressOp) : Prop :=
  ∀ vmId octet, s.creates op = some (vmId, octet) →
    ∀ id ∈ s.created, id ≠ vmId → id ∈ s.daemon.vms → s.octets id ≠ octet

/-- The addresses are those of the octets. -/
structure Recorded (s : Addressed) : Prop where
  booting : ∀ id vm, s.daemon.booting[id]? = some vm → vm.ipAddress = address (s.booting id)
  created : ∀ id ∈ s.created, ∀ vm, s.daemon.vms[id]? = some vm →
    vm.ipAddress = address (s.octets id)

end Addressed

/-! ## What the operations do to the addresses -/

/-- The VMs after are among those before, with the same addresses. -/
def AddressesKept (vms vms' : Std.ExtTreeMap String VmInstance) : Prop :=
  ∀ (id : String) (vm' : VmInstance), vms'[id]? = some vm' →
    ∃ vm : VmInstance, vms[id]? = some vm ∧ vm'.ipAddress = vm.ipAddress

theorem AddressesKept.refl (vms : Std.ExtTreeMap String VmInstance) : AddressesKept vms vms :=
  fun _ vm h => ⟨vm, h, rfl⟩

theorem ipAddress_of_runStages {dataDir : String} {request : VmRunRequest} {o : RunOutcomes}
    {prepared : VmInstance} (h : (runStages dataDir request o).1 = .ok prepared) :
    prepared.ipAddress = address (drawnOctet o.network.random) := by
  unfold runStages at h
  cases hdirs : o.createDirs with
  | error e =>
    rw [hdirs] at h
    cases h
  | ok _ =>
    rw [hdirs] at h
    dsimp only at h
    cases himage : o.image with
    | error e =>
      rw [himage] at h
      cases h
    | ok image =>
      rw [himage] at h
      dsimp only at h
      generalize prepareStorage _ _ _ _ _ = storage at h
      obtain ⟨e | storage, l⟩ := storage
      · cases h
      cases hagent : o.agent with
      | error e =>
        rw [hagent] at h
        cases h
      | ok _ =>
        rw [hagent] at h
        dsimp only at h
        generalize startVm _ _ _ = started at h
        obtain ⟨e | _, l⟩ := started
        · cases h
        · cases h
          rfl

theorem addressesKept_completeAttestation (d : Daemon) (vmId : String) (save : Except String Unit)
    (verification : Verification) :
    AddressesKept d.vms (completeAttestation d vmId save verification).vms := by
  cases htask : d.tasks[vmId]? with
  | none =>
    rw [completeAttestation, htask]
    exact .refl d.vms
  | some task =>
    obtain ⟨attested, hlookup⟩ := lookup_completeAttestation d save vmId htask verification
    intro id vm' hvm'
    rw [hlookup id] at hvm'
    split_ifs at hvm'
    · obtain ⟨vm, hvm, rfl⟩ := Option.map_eq_some_iff.mp hvm'
      exact ⟨vm, hvm, rfl⟩
    · exact ⟨vm', hvm', rfl⟩

theorem addressesKept_stopVm (d : Daemon) (io : Daemon.Append) (timestamp : UInt64)
    (vmId : String) : AddressesKept d.vms (d.stopVm io timestamp vmId).1.vms := by
  unfold Daemon.stopVm
  split
  · exact .refl d.vms
  · intro id vm' hvm'
    exact ⟨vm', (lookup_erase_eq_some_iff.mp hvm').2, rfl⟩

/-- What an operation does to the map. -/
inductive Addressed.Updates (s : Addressed) (op : AddressOp) : Prop
  | created {id : String} {octet : UInt8} {vm : VmInstance}
      (hcreates : s.creates op = some (id, octet))
      (hvms : (addressStep s.daemon op).vms = s.daemon.vms.insert id vm)
      (haddress : vm.ipAddress = address octet)
  | kept (hcreates : s.creates op = none)
      (hvms : AddressesKept s.daemon.vms (addressStep s.daemon op).vms)

namespace Addressed

variable {s : Addressed}

theorem updates_register (h : s.Recorded) (vmId : String) (save : Except String Unit) :
    s.Updates (.register vmId save) := by
  cases hvm : s.daemon.booting[vmId]? with
  | none =>
    have hnot : vmId ∉ s.daemon.booting := fun hmem => by
      obtain ⟨vm, hsome⟩ := mem_iff_lookup.mp hmem
      rw [hvm] at hsome
      cases hsome
    refine .kept (if_neg fun hboth => hnot hboth.1) ?_
    rw [addressStep, completeRun, hvm]
    exact .refl s.daemon.vms
  | some vm =>
    have hmem : vmId ∈ s.daemon.booting := mem_iff_lookup.mpr ⟨vm, hvm⟩
    cases save with
    | error e =>
      refine .kept (if_neg (by rintro ⟨-, hok⟩; cases hok)) ?_
      rw [addressStep, completeRun, hvm]
      exact .refl s.daemon.vms
    | ok _ =>
      refine .created (if_pos ⟨hmem, rfl⟩) ?_ (h.booting vmId vm hvm)
      rw [addressStep, completeRun, hvm]
      rfl

theorem updates_branch (iteration : List String) (id : String) (payload : Daemon.BranchRequest)
    (readOk : Bool) (newVmId : String) (disk : Except (ℕ × String) String)
    (io : TimeMachine.SledOutcomes) (uuid : String) (now : ℤ) (ch : String) (random : UInt8) :
    s.Updates (.branch iteration id payload readOk newVmId disk io uuid now ch random) := by
  obtain ⟨hnot, he⟩ | ⟨hboth, vm, timemachine, hvm, he⟩ :=
    s.daemon.branchVm_cases iteration id payload readOk newVmId disk io uuid now ch
      (address (drawnOctet random))
  · refine .kept (if_neg hnot) ?_
    rw [addressStep, he]
    exact .refl s.daemon.vms
  · refine .created (if_pos hboth) ?_ hvm.2
    rw [addressStep, he]

theorem updates_restore (payload : Daemon.RestoreRequest) (reads : Bool × Bool) (newVmId : String)
    (stages : Except (ℕ × String) VmInstance) (create start : Daemon.Append) (timestamp : UInt64)
    (random : UInt8) :
    s.Updates (.restore payload reads newVmId stages create start timestamp random) := by
  by_cases hclone : startsClone s.daemon payload reads = true
  · cases stages with
    | error e =>
      refine .kept (if_neg (by rintro ⟨-, hok⟩; cases hok)) ?_
      rw [addressStep, Daemon.restoreVm_eq, if_pos hclone]
      exact .refl s.daemon.vms
    | ok prepared =>
      have hvms : (addressStep s.daemon (.restore payload reads newVmId (.ok prepared) create start
          timestamp random)).vms = s.daemon.vms.insert newVmId { prepared with
            ipAddress := address (restoredOctet random), id := newVmId, status := .running
            attestationStatus := none } := by
        rw [addressStep, Daemon.restoreVm_eq, if_pos hclone]
        rfl
      exact .created (if_pos ⟨hclone, rfl⟩) hvms rfl
  · refine .kept (if_neg fun hboth => hclone hboth.1) ?_
    rw [addressStep, Daemon.restoreVm_eq, if_neg hclone]
    exact .refl s.daemon.vms

theorem updates (h : s.Recorded) (op : AddressOp) : s.Updates op := by
  cases op with
  | runVm dataDir request o =>
    refine .kept rfl ?_
    rw [addressStep, Daemon.runVmBoot_vms]
    exact .refl s.daemon.vms
  | register vmId save => exact updates_register h vmId save
  | attestationCompletes vmId save verification =>
    exact .kept rfl (addressesKept_completeAttestation s.daemon vmId save verification)
  | branch iteration id payload readOk newVmId disk io uuid now ch random =>
    exact updates_branch iteration id payload readOk newVmId disk io uuid now ch random
  | restore payload reads newVmId stages create start timestamp random =>
    exact updates_restore payload reads newVmId stages create start timestamp random
  | stop io timestamp vmId => exact .kept rfl (addressesKept_stopVm s.daemon io timestamp vmId)

/-! ## The octets are those of the addresses -/

theorem booting_branchVm {d : Daemon} (iteration : List String) (id : String)
    (payload : Daemon.BranchRequest) (readOk : Bool) (newVmId : String)
    (disk : Except (ℕ × String) String) (io : TimeMachine.SledOutcomes) (uuid : String) (now : ℤ)
    (ch ip : String) :
    (d.branchVm iteration id payload readOk newVmId disk io uuid now ch ip).1.booting =
      d.booting := by
  obtain ⟨_, he⟩ | ⟨_, vm, timemachine, _, he⟩ :=
    d.branchVm_cases iteration id payload readOk newVmId disk io uuid now ch ip
  · rw [he]
  · rw [he]

theorem booting_restoreVm {d : Daemon} (payload : Daemon.RestoreRequest) (reads : Bool × Bool)
    (newVmId : String) (stages : Except (ℕ × String) VmInstance) (create start : Daemon.Append)
    (timestamp : UInt64) :
    (d.restoreVm payload reads newVmId stages create start timestamp).1.booting = d.booting := by
  rw [Daemon.restoreVm_eq]
  split_ifs
  · cases stages <;> rfl
  · rfl

theorem booting_completeAttestation (d : Daemon) (vmId : String) (save : Except String Unit)
    (verification : Verification) :
    (completeAttestation d vmId save verification).booting = d.booting := by
  unfold completeAttestation
  cases d.tasks[vmId]? with
  | none => rfl
  | some task =>
    exact (onlyVms_checkPolicyAndPerformAttestation { d with tasks := d.tasks.erase vmId } save vmId
      task.tpmSocketPath verification).booting

/-- A VM in flight that is registered is in flight no more. -/
theorem booting_completeRun {d : Daemon} {vmId id : String} {save : Except String Unit}
    {vm : VmInstance} (h : (completeRun d vmId save).booting[id]? = some vm) :
    d.booting[id]? = some vm := by
  unfold completeRun at h
  cases hvm : d.booting[vmId]? with
  | none =>
    rw [hvm] at h
    exact h
  | some booted =>
    rw [hvm] at h
    cases save <;> exact (lookup_erase_eq_some_iff.mp h).2

theorem recorded_booting (h : s.Recorded) (op : AddressOp) :
    ∀ id vm, (addressStep s.daemon op).booting[id]? = some vm →
      vm.ipAddress = address (s.boots op id) := by
  intro id vm hvm
  cases op with
  | runVm dataDir request o =>
    rw [addressStep] at hvm
    cases hstages : (runStages dataDir request o).1 with
    | error e =>
      rw [hstages] at hvm
      rw [boots, hstages]
      exact h.booting id vm hvm
    | ok prepared =>
      rw [hstages, runVmBoot_booting, lookup_insert_eq_some_iff] at hvm
      rw [boots, hstages, if_pos (show (Except.ok prepared).isOk = true from rfl)]
      obtain ⟨rfl, rfl⟩ | ⟨hne, hbefore⟩ := hvm
      · rw [Function.update_self]
        show prepared.ipAddress = _
        exact ipAddress_of_runStages hstages
      · rw [Function.update_of_ne hne.symm]
        exact h.booting id vm hbefore
  | register vmId save => exact h.booting id vm (booting_completeRun hvm)
  | attestationCompletes vmId save verification =>
    rw [addressStep, booting_completeAttestation] at hvm
    exact h.booting id vm hvm
  | branch iteration id' payload readOk newVmId disk io uuid now ch random =>
    rw [addressStep, booting_branchVm] at hvm
    exact h.booting id vm hvm
  | restore payload reads newVmId stages create start timestamp random =>
    rw [addressStep, booting_restoreVm] at hvm
    exact h.booting id vm hvm
  | stop io timestamp vmId =>
    rw [addressStep] at hvm
    unfold Daemon.stopVm at hvm
    split at hvm <;> exact h.booting id vm hvm

theorem recorded_start (d : Daemon) : (start d).Recorded where
  booting id vm h := by simp [start] at h
  created id h := nomatch h

theorem recorded_step (h : s.Recorded) (op : AddressOp) : (s.step op).Recorded := by
  refine ⟨recorded_booting h op, fun id hid vm hvm => ?_⟩
  obtain ⟨hcreates, hvms, haddress⟩ | ⟨hcreates, hkept⟩ := updates h op
  · simp only [step, hcreates, Option.elim_some, hvms, List.mem_cons] at hid hvm ⊢
    rw [lookup_insert_eq_some_iff] at hvm
    obtain ⟨rfl, rfl⟩ | ⟨hne, hbefore⟩ := hvm
    · rw [Function.update_self]
      exact haddress
    · rw [Function.update_of_ne hne.symm]
      exact h.created id (hid.resolve_left hne.symm) vm hbefore
  · simp only [step, hcreates, Option.elim_none] at hid hvm ⊢
    obtain ⟨before, hbefore, hsame⟩ := hkept id vm hvm
    rw [hsame]
    exact h.created id hid before hbefore

/-! ## Runs -/

/-- The octet of a new VM is free exactly if its address is. -/
theorem drawsFree_iff (h : s.Recorded) {op : AddressOp} {vmId : String} {octet : UInt8}
    {vm : VmInstance} (hcreates : s.creates op = some (vmId, octet))
    (haddress : vm.ipAddress = address octet) :
    s.DrawsFree op ↔ ∀ id ∈ s.created, vmId ≠ id → ∀ other, s.daemon.vms[id]? = some other →
      vm.ipAddress ≠ other.ipAddress := by
  constructor
  · intro hfree id hid hne other hother hsame
    rw [haddress, h.created id hid other hother] at hsame
    exact hfree vmId octet hcreates id hid hne.symm (mem_iff_lookup.mpr ⟨other, hother⟩)
      (address_injective hsame).symm
  · intro hapart vmId' octet' hsome id hid hne hmem hoctet
    rw [hcreates] at hsome
    cases hsome
    obtain ⟨other, hother⟩ := mem_iff_lookup.mp hmem
    refine hapart id hid hne.symm other hother ?_
    rw [haddress, h.created id hid other hother, hoctet]

/-- A step keeps the addresses apart exactly if its octet is free. -/
theorem distinct_step_iff (h : s.Recorded) (hdistinct : s.Distinct) (op : AddressOp) :
    (s.step op).Distinct ↔ s.DrawsFree op := by
  obtain ⟨hcreates, hvms, haddress⟩ | ⟨hcreates, hkept⟩ := updates h op
  · rename_i vmId octet vm
    rw [drawsFree_iff h hcreates haddress]
    simp only [Distinct, step, hcreates, Option.elim_some, hvms, List.mem_cons]
    constructor
    · intro hall id hid hne other hother
      exact hall vmId (.inl rfl) id (.inr hid) hne vm other
        (lookup_insert_eq_some_iff.mpr (.inl ⟨rfl, rfl⟩))
        (lookup_insert_eq_some_iff.mpr (.inr ⟨hne, hother⟩))
    · intro hfree id hid id' hid' hne vm₁ vm₂ hvm₁ hvm₂
      obtain ⟨rfl, rfl⟩ | ⟨hid₁, hvm₁⟩ := lookup_insert_eq_some_iff.mp hvm₁
      · obtain ⟨rfl, -⟩ | ⟨hid₂, hvm₂⟩ := lookup_insert_eq_some_iff.mp hvm₂
        · exact absurd rfl hne
        · exact hfree id' (hid'.resolve_left hid₂.symm) hid₂ vm₂ hvm₂
      · obtain ⟨rfl, rfl⟩ | ⟨hid₂, hvm₂⟩ := lookup_insert_eq_some_iff.mp hvm₂
        · exact (hfree id (hid.resolve_left hid₁.symm) hid₁ vm₁ hvm₁).symm
        · exact hdistinct id (hid.resolve_left hid₁.symm) id' (hid'.resolve_left hid₂.symm) hne
            vm₁ vm₂ hvm₁ hvm₂
  · refine iff_of_true ?_ fun vmId octet hsome => ?_
    · intro id hid id' hid' hne vm vm' hvm hvm'
      simp only [step, hcreates, Option.elim_none] at hid hid' hvm hvm'
      obtain ⟨before, hbefore, hsame⟩ := hkept id vm hvm
      obtain ⟨before', hbefore', hsame'⟩ := hkept id' vm' hvm'
      rw [hsame, hsame']
      exact hdistinct id hid id' hid' hne before before' hbefore hbefore'
    · rw [hcreates] at hsome
      cases hsome

/-- The VMs of `run_vm`, branches and restorations have different addresses throughout a run
exactly when each of them comes into the map with an octet that was not drawn for another
one in the map. -/
theorem distinct_addresses_iff (d : Daemon) (run : List AddressOp) :
    Throughout step Distinct (start d) run ↔ Along step DrawsFree (start d) run :=
  throughout_iff_along_of_invariant (recorded_start d) (fun _ op h => recorded_step h op)
    (fun _ h => nomatch h) (fun _ op h hdistinct => distinct_step_iff h hdistinct op) run

/-- A VM is restored from files, with seven drawn for its address. -/
def restoreSeven (newVmId : String) : AddressOp :=
  .restore { snapshotPath := some "/backup/vm-1.snap" } (true, true) newVmId (.ok bootedVm)
    ⟨true, true, 1⟩ ⟨true, true, 2⟩ 3 7

def restored (vmId : String) : VmInstance :=
  { bootedVm with id := vmId, status := .running, ipAddress := address 7 }

/-- The same octet is drawn for two VMs. -/
theorem restored_vms_share_address : ¬Throughout step Distinct (start fresh)
    [restoreSeven "vm-1", restoreSeven "vm-2"] := by
  intro h
  have hvms : (exec step (start fresh) [restoreSeven "vm-1", restoreSeven "vm-2"]).daemon.vms =
      ((∅ : Std.ExtTreeMap String VmInstance).insert "vm-1" (restored "vm-1")).insert "vm-2"
        (restored "vm-2") := rfl
  refine h.exec "vm-1" (by decide) "vm-2" (by decide) (by decide) (restored "vm-1")
    (restored "vm-2") ?_ ?_ rfl
  · rw [hvms, lookup_insert, lookup_insert, if_neg (by decide), if_pos rfl]
  · rw [hvms, lookup_insert, if_pos rfl]

end Addressed

end Vyoma.VmService
