import Vyoma.ActiveVms
import Vyoma.AttestationGate

/-!
# The log against the map of live VMs

Recovery finds the VMs of a crashed daemon through the log, so the log should report as
active exactly the VMs in the map. Seven operations change the map, and two of them write
to the log: a restored clone and a stop. What the log reports of a VM is decided by its
first record in key order, and the two agree along a run exactly when no operation moves
one without the other.
-/
namespace Vyoma.State
open RustText OrderedMaps

/-- The record under this key is one of the VM. -/
def BelongsTo (k vmId : String) : Prop := (splitOnce ':' k).map Prod.snd = some vmId

/-- A record of the VM with no other one before it. -/
structure FirstRecord (wal : Wal) (vmId k : String) (entry : WalEntry) : Prop where
  stored : ∃ value, wal.tree[k]? = some value ∧ value.decode = entry
  belongs : BelongsTo k vmId
  first : ∀ k', k' ∈ wal.tree → BelongsTo k' vmId → (compare k k').isLE

/-- The first record of the VM created or started it. -/
def Reported (wal : Wal) (vmId : String) : Prop :=
  ∃ k entry, FirstRecord wal vmId k entry ∧ entry.isActive = true

section Reading

variable {wal : Wal} {vmId : String}

theorem eventOf_isSome_iff (k : String) (entry : WalEntry) :
    (eventOf vmId (k, entry)).isSome = true ↔ BelongsTo k vmId := by
  unfold eventOf BelongsTo
  cases splitOnce ':' k with
  | none => simp
  | some part =>
    by_cases hpart : part.2 = vmId <;> simp [hpart]

theorem fst_of_eventOf {kv : String × WalEntry} {event : WalEntry × ℕ}
    (h : eventOf vmId kv = some event) : event.1 = kv.2 := by
  unfold eventOf at h
  cases hsplit : splitOnce ':' kv.1 with
  | none => simp [hsplit] at h
  | some part =>
    simp only [hsplit, Option.bind_some] at h
    split_ifs at h
    rw [← Option.some.inj h]

theorem firstRecord_of_eventsOf {event : WalEntry × ℕ} {rest : List (WalEntry × ℕ)}
    (hevents : eventsOf wal vmId = event :: rest) : ∃ k, FirstRecord wal vmId k event.1 := by
  obtain ⟨k, value, hvalue, hhead, hfirst⟩ := eventsOf_eq_cons hevents
  have hbelongs : BelongsTo k vmId := by
    rw [← eventOf_isSome_iff k value.decode, hhead]
    rfl
  refine ⟨k, ⟨value, hvalue, (fst_of_eventOf hhead).symm⟩, hbelongs, ?_⟩
  intro k' hk' hbelongs'
  obtain ⟨value', hvalue'⟩ := mem_iff_lookup.mp hk'
  exact hfirst k' value' hvalue' ((eventOf_isSome_iff k' value'.decode).mpr hbelongs')

theorem FirstRecord.unique {k k' : String} {entry entry' : WalEntry}
    (h : FirstRecord wal vmId k entry) (h' : FirstRecord wal vmId k' entry') : entry = entry' := by
  obtain ⟨value, hvalue, rfl⟩ := h.stored
  obtain ⟨value', hvalue', rfl⟩ := h'.stored
  have hle := h.first k' (mem_iff_lookup.mpr ⟨value', hvalue'⟩) h'.belongs
  have hge := h'.first k (mem_iff_lookup.mpr ⟨value, hvalue⟩) h.belongs
  rw [eq_of_isLE hvalue hvalue' hle hge]

theorem eventsOf_ne_nil {k : String} {entry : WalEntry} (h : FirstRecord wal vmId k entry) :
    eventsOf wal vmId ≠ [] := by
  obtain ⟨value, hvalue, hdecode⟩ := h.stored
  obtain ⟨event, hevent⟩ :=
    Option.isSome_iff_exists.mp ((eventOf_isSome_iff k entry).mpr h.belongs)
  have hmem : event ∈ eventsOf wal vmId :=
    List.mem_filterMap.mpr ⟨(k, entry), mem_iterateWal.mpr ⟨value, hvalue, hdecode⟩, hevent⟩
  exact List.ne_nil_of_mem hmem

/-- The answer of the log holds the reported VMs, whatever its order. -/
theorem mem_getActiveVmIds_iff_reported (order : HashMap.Traversal String (WalEntry × ℕ)) :
    (∃ ts, (vmId, ts) ∈ wal.getActiveVmIds (fun _ => true) order) ↔ Reported wal vmId := by
  simp only [mem_getActiveVmIds, lookup_latest_eq]
  cases hevents : eventsOf wal vmId with
  | nil =>
    refine iff_of_false (by simp) (fun h => ?_)
    obtain ⟨k, entry, hfirst, _⟩ := h
    exact eventsOf_ne_nil hfirst hevents
  | cons event rest =>
    obtain ⟨k, hfirst⟩ := firstRecord_of_eventsOf hevents
    obtain ⟨last, hfold, _⟩ := foldl_meet_some rest event.1 event.2
    have hfold : (event :: rest).foldl meet none = some (event.1, last) := hfold
    rw [hfold]
    constructor
    · intro h
      obtain ⟨ts, entry, hentry, hactive⟩ := h
      cases hentry
      exact ⟨k, event.1, hfirst, hactive⟩
    · intro h
      obtain ⟨k', entry, hfirst', hactive⟩ := h
      rw [hfirst'.unique hfirst] at hactive
      exact ⟨last, event.1, rfl, hactive⟩

end Reading

/-- The key `append` draws for an event of the VM. -/
def recordKey (now : UInt64) (vmId : String) : String := toString now ++ ":" ++ vmId

theorem belongsTo_recordKey {now : UInt64} {vmId vmId' : String} :
    BelongsTo (recordKey now vmId) vmId' ↔ vmId = vmId' := by
  have hdigits : ':' ∉ (toString now).toList := by
    intro hmem
    exact absurd (isDigit_of_mem_toString (n := now.toNat) hmem) (by decide)
  have hsplit := splitOnce_of_notMem hdigits vmId
  have hsep : String.singleton ':' = ":" := rfl
  rw [hsep] at hsplit
  rw [BelongsTo, recordKey, hsplit]
  simp

/-- No record of the VM comes before this key. -/
def ComesFirst (wal : Wal) (vmId k : String) : Prop :=
  ∀ k', k' ∈ wal.tree → BelongsTo k' vmId → (compare k k').isLE

section Appending

variable (wal : Wal) {vmId : String} (now : UInt64) {entry : WalEntry} (flushOk : Bool)

theorem append_tree (hentry : entry.vmId = some vmId) :
    (wal.append true flushOk now entry).1.tree =
      wal.tree.insert (recordKey now vmId) (.event entry) := by
  simp [Wal.append, hentry, recordKey]

theorem reported_append_other (hentry : entry.vmId = some vmId) {other : String}
    (hne : vmId ≠ other) :
    Reported (wal.append true flushOk now entry).1 other ↔ Reported wal other := by
  have htree := append_tree wal now flushOk hentry
  have hlookup : ∀ k, BelongsTo k other →
      (wal.append true flushOk now entry).1.tree[k]? = wal.tree[k]? := by
    intro k hk
    rw [htree, lookup_insert, if_neg]
    intro he
    rw [← he, belongsTo_recordKey] at hk
    exact hne hk
  have hmem : ∀ k, BelongsTo k other →
      (k ∈ (wal.append true flushOk now entry).1.tree ↔ k ∈ wal.tree) := by
    intro k hk
    rw [mem_iff_lookup, mem_iff_lookup, hlookup k hk]
  constructor
  · intro h
    obtain ⟨k, e, hfirst, hactive⟩ := h
    obtain ⟨value, hvalue, hdecode⟩ := hfirst.stored
    rw [hlookup k hfirst.belongs] at hvalue
    refine ⟨k, e, ⟨⟨value, hvalue, hdecode⟩, hfirst.belongs, fun k' hk' hb => ?_⟩, hactive⟩
    exact hfirst.first k' ((hmem k' hb).mpr hk') hb
  · intro h
    obtain ⟨k, e, hfirst, hactive⟩ := h
    obtain ⟨value, hvalue, hdecode⟩ := hfirst.stored
    rw [← hlookup k hfirst.belongs] at hvalue
    refine ⟨k, e, ⟨⟨value, hvalue, hdecode⟩, hfirst.belongs, fun k' hk' hb => ?_⟩, hactive⟩
    exact hfirst.first k' ((hmem k' hb).mp hk') hb

/-- A key comes first after an append when it came first and is not behind the new one. -/
theorem comesFirst_append_iff (hentry : entry.vmId = some vmId) {k : String} :
    ComesFirst (wal.append true flushOk now entry).1 vmId k ↔
      (compare k (recordKey now vmId)).isLE ∧ ComesFirst wal vmId k := by
  simp only [ComesFirst, append_tree wal now flushOk hentry, mem_insert_iff]
  constructor
  · intro hall
    refine ⟨hall _ (.inl rfl) (belongsTo_recordKey.mpr rfl), fun k' hk' hb => ?_⟩
    exact hall k' (.inr hk') hb
  · intro hboth k' hk' hb
    obtain rfl | hk' := hk'
    · exact hboth.1
    · exact hboth.2 k' hk' hb

/-- A record that comes first is the first record. -/
theorem firstRecord_append (hentry : entry.vmId = some vmId)
    (hcomes : ComesFirst wal vmId (recordKey now vmId)) :
    FirstRecord (wal.append true flushOk now entry).1 vmId (recordKey now vmId) entry := by
  have htree := append_tree wal now flushOk hentry
  refine ⟨⟨.event entry, by rw [htree]; simp, rfl⟩, belongsTo_recordKey.mpr rfl, fun k' hk' hb => ?_⟩
  rw [htree, mem_insert_iff] at hk'
  obtain rfl | hk' := hk'
  · simp
  · exact hcomes k' hk' hb

theorem isLE_of_not_isLE {k k' : String} (h : ¬ (compare k k').isLE) : (compare k' k).isLE := by
  have hswap : compare k' k = (compare k k').swap := Std.OrientedCmp.eq_swap
  rw [hswap, Ordering.isLE_swap]
  cases hcmp : compare k k' with
  | gt => rfl
  | lt => simp [hcmp] at h
  | eq => simp [hcmp] at h

/-- A record behind another one of its VM leaves what is reported of the VM. -/
theorem reported_append_behind (hentry : entry.vmId = some vmId)
    (hcomes : ¬ ComesFirst wal vmId (recordKey now vmId)) :
    Reported (wal.append true flushOk now entry).1 vmId ↔ Reported wal vmId := by
  have htree := append_tree wal now flushOk hentry
  obtain ⟨k₁, hk₁, hb₁, hearlier⟩ : ∃ k₁, k₁ ∈ wal.tree ∧ BelongsTo k₁ vmId ∧
      ¬ (compare (recordKey now vmId) k₁).isLE := by
    simpa [ComesFirst] using hcomes
  constructor
  · intro h
    obtain ⟨k, e, hfirst, hactive⟩ := h
    obtain ⟨value, hvalue, hdecode⟩ := hfirst.stored
    have hne : recordKey now vmId ≠ k := by
      intro he
      refine hearlier (he ▸ hfirst.first k₁ ?_ hb₁)
      rw [htree, mem_insert_iff]
      exact .inr hk₁
    rw [htree, lookup_insert, if_neg hne] at hvalue
    refine ⟨k, e, ⟨⟨value, hvalue, hdecode⟩, hfirst.belongs, fun k' hk' hb => ?_⟩, hactive⟩
    refine hfirst.first k' ?_ hb
    rw [htree, mem_insert_iff]
    exact .inr hk'
  · intro h
    obtain ⟨k, e, hfirst, hactive⟩ := h
    obtain ⟨value, hvalue, hdecode⟩ := hfirst.stored
    have hfirstLe := hfirst.first k₁ hk₁ hb₁
    have hne : recordKey now vmId ≠ k := fun he => hearlier (he ▸ hfirstLe)
    refine ⟨k, e, ⟨⟨value, ?_, hdecode⟩, hfirst.belongs, fun k' hk' hb => ?_⟩, hactive⟩
    · rw [htree, lookup_insert, if_neg hne, hvalue]
    · rw [htree, mem_insert_iff] at hk'
      obtain rfl | hk' := hk'
      · exact Std.TransCmp.isLE_trans hfirstLe (isLE_of_not_isLE hearlier)
      · exact hfirst.first k' hk' hb

/-- A record that comes first decides; one that does not changes nothing. -/
theorem reported_append_self (hentry : entry.vmId = some vmId) :
    Reported (wal.append true flushOk now entry).1 vmId ↔
      (ComesFirst wal vmId (recordKey now vmId) ∧ entry.isActive = true) ∨
      (¬ ComesFirst wal vmId (recordKey now vmId) ∧ Reported wal vmId) := by
  by_cases hcomes : ComesFirst wal vmId (recordKey now vmId)
  · have hfirst := firstRecord_append wal now flushOk hentry hcomes
    simp only [hcomes, true_and, not_true_eq_false, false_and, or_false]
    constructor
    · intro h
      obtain ⟨k, e, hfirst', hactive⟩ := h
      rwa [hfirst'.unique hfirst] at hactive
    · intro hactive
      exact ⟨recordKey now vmId, entry, hfirst, hactive⟩
  · simp only [hcomes, false_and, not_false_eq_true, true_and, false_or]
    exact reported_append_behind wal now flushOk hentry hcomes

end Appending

end Vyoma.State

namespace Vyoma.VmService
open State OrderedMaps Runs

/-- The removal of a VM that was migrated away. -/
def Daemon.removeTeleported (d : Daemon) (vmId : String) : Daemon :=
  { d with vms := d.vms.erase vmId }

/-- `run_vm` as a whole. -/
def Daemon.runVm (d : Daemon) (vmId : String) (stages : Except String VmInstance)
    (imageName : String) (tpmSocketPath : Option String) (save : Except String Unit) : Daemon :=
  match d.runVmBoot vmId stages imageName tpmSocketPath with
  | (d, .error _) => d
  | (d, .ok ()) => completeRun d vmId save

/-- The operations that change the map of VMs. -/
inductive Operation where
  | runVm (vmId : String) (stages : Except String VmInstance) (imageName : String)
      (tpmSocketPath : Option String) (save : Except String Unit)
  | branch (iteration : List String) (id : String) (payload : Daemon.BranchRequest)
      (readOk : Bool) (newVmId : String) (disk : Except (ℕ × String) String)
      (io : TimeMachine.SledOutcomes) (uuid : String) (now : ℤ) (chSocketPath ipAddress : String)
  | restore (payload : Daemon.RestoreRequest) (reads : Bool × Bool) (newVmId : String)
      (stages : Except (ℕ × String) VmInstance) (create start : Daemon.Append) (timestamp : UInt64)
  | adopt (probe : Except (ℕ × String) Unit) (vmId chSocketPath : String)
  | stop (io : Daemon.Append) (timestamp : UInt64) (vmId : String)
  | attestation (vmId : String) (save : Except String Unit) (verification : Verification)
  | teleportRemoval (vmId : String)

def operate (d : Daemon) : Operation → Daemon
  | .runVm vmId stages imageName tpm save => d.runVm vmId stages imageName tpm save
  | .branch iteration id payload readOk newVmId disk io uuid now ch ip =>
    (d.branchVm iteration id payload readOk newVmId disk io uuid now ch ip).1
  | .restore payload reads newVmId stages create start timestamp =>
    (d.restoreVm payload reads newVmId stages create start timestamp).1
  | .adopt probe vmId ch => (d.adoptTeleportedVm probe vmId ch).1
  | .stop io timestamp vmId => (d.stopVm io timestamp vmId).1
  | .attestation vmId save verification => completeAttestation d vmId save verification
  | .teleportRemoval vmId => d.removeTeleported vmId

/-- Every append to the log succeeds. -/
def AppendsSucceed : Operation → Prop
  | .restore _ _ _ _ create start _ => (create.insertOk = true ∧ create.flushOk = true) ∧
      start.insertOk = true ∧ start.flushOk = true
  | .stop io _ _ => io.insertOk = true ∧ io.flushOk = true
  | _ => True

instance : ∀ op, Decidable (AppendsSucceed op)
  | .restore _ _ _ _ _ _ _ => inferInstanceAs (Decidable ((_ ∧ _) ∧ _ ∧ _))
  | .stop _ _ _ => inferInstanceAs (Decidable (_ ∧ _))
  | .runVm .. | .branch .. | .adopt .. | .attestation .. | .teleportRemoval .. =>
    inferInstanceAs (Decidable True)

/-- The ids that the log returns are the keys of the map. -/
def WalTracks (d : Daemon) : Prop :=
  ∀ order vmId, (∃ ts, (vmId, ts) ∈ d.wal.getActiveVmIds (fun _ => true) order) ↔ vmId ∈ d.vms

theorem walTracks_iff {d : Daemon} :
    WalTracks d ↔ ∀ vmId, Reported d.wal vmId ↔ vmId ∈ d.vms := by
  simp only [WalTracks, mem_getActiveVmIds_iff_reported]
  constructor
  · intro h vmId
    exact h (HashMap.Traversal.inOrder _ _) vmId
  · intro h _ vmId
    exact h vmId

/-- An operation that moves the map moves the answer of the log with it. -/
def Logged (d : Daemon) : Operation → Prop
  | .runVm vmId stages _ _ save => stages.isOk = true → save = .ok () → vmId ∈ d.vms
  | .branch iteration id payload readOk newVmId disk _ _ _ _ _ =>
      findsBranchPoint d iteration id payload readOk = true ∧ disk.isOk = true → newVmId ∈ d.vms
  | .restore payload reads newVmId stages create start _ =>
      startsClone d payload reads = true → stages.isOk = true → newVmId ∈ d.vms ∨
        ComesFirst d.wal newVmId (recordKey create.now newVmId) ∨
        ComesFirst d.wal newVmId (recordKey start.now newVmId)
  | .adopt probe vmId _ => probe = .ok () → vmId ∈ d.vms
  | .stop io _ vmId => vmId ∈ d.vms → ComesFirst d.wal vmId (recordKey io.now vmId)
  | .attestation vmId _ verification => killsVm d vmId verification = true → vmId ∉ d.vms
  | .teleportRemoval vmId => vmId ∉ d.vms

section Steps

variable {d d' : Daemon} {vmId : String}

theorem WalTracks.of_same (h : WalTracks d) (hwal : d'.wal = d.wal)
    (hvms : ∀ v, v ∈ d'.vms ↔ v ∈ d.vms) : WalTracks d' := by
  rw [walTracks_iff] at h ⊢
  intro v
  rw [hwal, hvms, h v]

theorem walTracks_insert_iff (h : WalTracks d) {vm : VmInstance} (hwal : d'.wal = d.wal)
    (hvms : d'.vms = d.vms.insert vmId vm) : WalTracks d' ↔ vmId ∈ d.vms := by
  rw [walTracks_iff] at h ⊢
  constructor
  · intro hafter
    have hmem : vmId ∈ d'.vms := by
      rw [hvms, mem_insert_iff]
      exact .inl rfl
    rw [← h vmId, ← hwal]
    exact (hafter vmId).mpr hmem
  · intro hknown v
    rw [hwal, hvms, mem_insert_iff, h v]
    constructor
    · exact .inr
    · intro hv
      obtain rfl | hv := hv
      · exact hknown
      · exact hv

theorem walTracks_erase_iff (h : WalTracks d) (hwal : d'.wal = d.wal)
    (hvms : d'.vms = d.vms.erase vmId) : WalTracks d' ↔ vmId ∉ d.vms := by
  rw [walTracks_iff] at h ⊢
  constructor
  · intro hafter hknown
    have hreported : Reported d'.wal vmId := by
      rw [hwal, h vmId]
      exact hknown
    have hmem := (hafter vmId).mp hreported
    rw [hvms] at hmem
    simp at hmem
  · intro hnew v
    rw [hwal, hvms, erase_of_notMem hnew, h v]

theorem walTracks_runVm_iff (h : WalTracks d) {stages : Except String VmInstance}
    {imageName : String} {tpm : Option String} {save : Except String Unit} :
    WalTracks (d.runVm vmId stages imageName tpm save) ↔
      (stages.isOk = true → save = .ok () → vmId ∈ d.vms) := by
  cases stages with
  | error e => exact iff_of_true h (by simp [Except.isOk, Except.toBool])
  | ok prepared =>
    cases save with
    | error e =>
      refine iff_of_true (h.of_same ?_ ?_) (by simp) <;>
        simp [Daemon.runVm, Daemon.runVmBoot, completeRun, Daemon.runVmRegister]
    | ok u =>
      have hok : ((Except.ok prepared : Except String VmInstance).isOk = true →
          (Except.ok u : Except String Unit) = .ok () → vmId ∈ d.vms) ↔ vmId ∈ d.vms := by
        simp [Except.isOk, Except.toBool]
      rw [hok]
      exact walTracks_insert_iff h (by
        simp [Daemon.runVm, Daemon.runVmBoot, completeRun, Daemon.runVmRegister]) (by
        simp [Daemon.runVm, Daemon.runVmBoot, completeRun, Daemon.runVmRegister]; rfl)

/-- Stopping a VM takes it off the answer only when the stop comes first in the log. -/
theorem walTracks_stopVm_iff (h : WalTracks d) {io : Daemon.Append} (hio : io.insertOk = true)
    {timestamp : UInt64} : WalTracks (d.stopVm io timestamp vmId).1 ↔
      (vmId ∈ d.vms → ComesFirst d.wal vmId (recordKey io.now vmId)) := by
  unfold Daemon.stopVm
  cases hvm : d.vms[vmId]? with
  | none =>
    refine iff_of_true h fun hmem => ?_
    obtain ⟨vm, hsome⟩ := mem_iff_lookup.mp hmem
    rw [hvm] at hsome
    cases hsome
  | some vm =>
    have hmem : vmId ∈ d.vms := mem_iff_lookup.mpr ⟨vm, hvm⟩
    have hentry : (WalEntry.vmStop vmId timestamp).vmId = some vmId := rfl
    rw [walTracks_iff] at h ⊢
    simp only [Daemon.appendWal, hio, hmem, true_implies]
    constructor
    · intro hafter
      by_contra hlater
      have hreported : Reported (d.wal.append true io.flushOk io.now (.vmStop vmId timestamp)).1
          vmId := by
        rw [reported_append_self d.wal io.now io.flushOk hentry]
        exact .inr ⟨hlater, (h vmId).mpr hmem⟩
      have hgone := (hafter vmId).mp hreported
      simp at hgone
    · intro hfirst v
      by_cases hv : vmId = v
      · subst hv
        rw [reported_append_self d.wal io.now io.flushOk hentry]
        simp [hfirst, WalEntry.isActive]
      · rw [reported_append_other d.wal io.now io.flushOk hentry hv, h v,
          mem_iff_lookup, mem_iff_lookup, lookup_erase, if_neg hv]

/-- Both records of a clone are active, so either of them may be the first. -/
theorem reported_clone (wal : Wal) (create start : Daemon.Append) (timestamp : UInt64) :
    Reported ((wal.append true create.flushOk create.now (.vmCreate vmId timestamp)).1.append true
        start.flushOk start.now (.vmStart vmId timestamp)).1 vmId ↔
      Reported wal vmId ∨ ComesFirst wal vmId (recordKey create.now vmId) ∨
        ComesFirst wal vmId (recordKey start.now vmId) := by
  have hcreate : (WalEntry.vmCreate vmId timestamp).vmId = some vmId := rfl
  have hstart : (WalEntry.vmStart vmId timestamp).vmId = some vmId := rfl
  have hafter : ComesFirst (wal.append true create.flushOk create.now
      (.vmCreate vmId timestamp)).1 vmId (recordKey start.now vmId) ↔
      (compare (recordKey start.now vmId) (recordKey create.now vmId)).isLE ∧
        ComesFirst wal vmId (recordKey start.now vmId) :=
    comesFirst_append_iff wal create.now create.flushOk hcreate
  -- when the start would come first but for the creation, the creation comes first
  have hearlier : ComesFirst wal vmId (recordKey start.now vmId) →
      ¬ (compare (recordKey start.now vmId) (recordKey create.now vmId)).isLE →
      ComesFirst wal vmId (recordKey create.now vmId) := by
    intro hfirst hnot k' hk' hb
    exact Std.TransCmp.isLE_trans (isLE_of_not_isLE hnot) (hfirst k' hk' hb)
  have hactive : (WalEntry.vmCreate vmId timestamp).isActive = true ∧
      (WalEntry.vmStart vmId timestamp).isActive = true := ⟨rfl, rfl⟩
  rw [reported_append_self _ start.now start.flushOk hstart, hafter,
    reported_append_self wal create.now create.flushOk hcreate, hactive.1, hactive.2]
  generalize ComesFirst wal vmId (recordKey create.now vmId) = createFirst at *
  generalize ComesFirst wal vmId (recordKey start.now vmId) = startFirst at *
  generalize (compare (recordKey start.now vmId) (recordKey create.now vmId)).isLE = before at *
  clear hafter hcreate hstart
  by_cases hcreateFirst : createFirst
  · simp [hcreateFirst, em]
  · by_cases hstartFirst : startFirst
    · cases before with
      | true => simp [hstartFirst]
      | false => exact absurd (hearlier hstartFirst (by simp)) hcreateFirst
    · simp [hcreateFirst, hstartFirst]

theorem walTracks_cloneVm_iff (h : WalTracks d) {newVmId : String}
    {stages : Except (ℕ × String) VmInstance} {create start : Daemon.Append}
    (hcreate : create.insertOk = true) (hstart : start.insertOk = true) {timestamp : UInt64} :
    WalTracks (d.cloneVm newVmId stages create start timestamp).1 ↔
      (stages.isOk = true → newVmId ∈ d.vms ∨
        ComesFirst d.wal newVmId (recordKey create.now newVmId) ∨
        ComesFirst d.wal newVmId (recordKey start.now newVmId)) := by
  cases stages with
  | error e => exact iff_of_true h (by simp [Except.isOk, Except.toBool])
  | ok prepared =>
    rw [walTracks_iff] at h ⊢
    simp only [Daemon.cloneVm, Daemon.appendWal, hcreate, hstart, Except.isOk, Except.toBool,
      true_implies, mem_insert_iff]
    rw [← h newVmId, ← reported_clone d.wal create start timestamp]
    constructor
    · intro hafter
      exact (hafter newVmId).mpr (.inl rfl)
    · intro hreported v
      by_cases hv : newVmId = v
      · subst hv
        exact iff_of_true hreported (.inl rfl)
      · rw [reported_append_other _ start.now start.flushOk rfl hv,
          reported_append_other d.wal create.now create.flushOk rfl hv, h v, or_iff_right hv]

theorem walTracks_restoreVm_iff (h : WalTracks d) {payload : Daemon.RestoreRequest}
    {reads : Bool × Bool} {newVmId : String} {stages : Except (ℕ × String) VmInstance}
    {create start : Daemon.Append} (hcreate : create.insertOk = true)
    (hstart : start.insertOk = true) {timestamp : UInt64} :
    WalTracks (d.restoreVm payload reads newVmId stages create start timestamp).1 ↔
      Logged d (.restore payload reads newVmId stages create start timestamp) := by
  rw [Daemon.restoreVm_eq, Logged]
  cases startsClone d payload reads with
  | false => exact iff_of_true h (by simp)
  | true => simpa using walTracks_cloneVm_iff h hcreate hstart

theorem walTracks_branchVm_iff (h : WalTracks d) {iteration : List String} {id : String}
    {payload : Daemon.BranchRequest} {readOk : Bool} {newVmId : String}
    {disk : Except (ℕ × String) String} {io : TimeMachine.SledOutcomes} {uuid : String} {now : ℤ}
    {ch ip : String} :
    WalTracks (d.branchVm iteration id payload readOk newVmId disk io uuid now ch ip).1 ↔
      (findsBranchPoint d iteration id payload readOk = true ∧ disk.isOk = true →
        newVmId ∈ d.vms) := by
  obtain ⟨hnot, he⟩ | ⟨hboth, vm, timemachine, _, he⟩ :=
    Daemon.branchVm_cases d iteration id payload readOk newVmId disk io uuid now ch ip
  · rw [he]
    exact iff_of_true h fun hboth => absurd hboth hnot
  · rw [he]
    simp only [hboth, and_self, true_implies]
    exact walTracks_insert_iff h rfl rfl

theorem walTracks_adoptTeleportedVm_iff (h : WalTracks d) {probe : Except (ℕ × String) Unit}
    {ch : String} : WalTracks (d.adoptTeleportedVm probe vmId ch).1 ↔
      (probe = .ok () → vmId ∈ d.vms) := by
  cases probe with
  | error e => exact iff_of_true h (by simp)
  | ok u =>
    have hok : ((Except.ok u : Except (ℕ × String) Unit) = .ok () → vmId ∈ d.vms) ↔
        vmId ∈ d.vms := by simp
    rw [hok]
    exact walTracks_insert_iff h rfl rfl

/-- The attestation task rewrites the record of a VM that is there, and may remove it. -/
theorem walTracks_completeAttestation_iff (h : WalTracks d) {save : Except String Unit}
    {verification : Verification} : WalTracks (completeAttestation d vmId save verification) ↔
      (killsVm d vmId verification = true → vmId ∉ d.vms) := by
  have hwal := completeAttestation_wal d save vmId verification
  cases htask : d.tasks[vmId]? with
  | none =>
    refine iff_of_true ?_ (by simp [killsVm, htask])
    unfold completeAttestation
    rw [htask]
    exact h
  | some task =>
    obtain ⟨attested, hlook⟩ := lookup_completeAttestation d save vmId htask verification
    cases hkills : killsVm d vmId verification with
    | true =>
      have hvms : (completeAttestation d vmId save verification).vms = d.vms.erase vmId := by
        apply Std.ExtTreeMap.ext_getElem?
        intro v
        rw [hlook v, hkills, if_pos rfl, lookup_erase]
      rw [walTracks_erase_iff h hwal hvms]
      simp
    | false =>
      refine iff_of_true (h.of_same hwal fun v => ?_) fun hkilled =>
        absurd hkilled Bool.false_ne_true
      rw [Std.ExtTreeMap.mem_iff_isSome_getElem?, Std.ExtTreeMap.mem_iff_isSome_getElem?, hlook v,
        hkills]
      by_cases hv : vmId = v <;> simp [hv]

end Steps

theorem walTracks_operate_iff (d : Daemon) (op : Operation) (h : WalTracks d)
    (hio : AppendsSucceed op) : WalTracks (operate d op) ↔ Logged d op := by
  cases op with
  | runVm vmId stages imageName tpm save => exact walTracks_runVm_iff h
  | branch iteration id payload readOk newVmId disk io uuid now ch ip =>
    exact walTracks_branchVm_iff h
  | restore payload reads newVmId stages create start timestamp =>
    exact walTracks_restoreVm_iff h hio.1.1 hio.2.1
  | adopt probe vmId ch => exact walTracks_adoptTeleportedVm_iff h
  | stop io timestamp vmId => exact walTracks_stopVm_iff h hio.1
  | attestation vmId save verification => exact walTracks_completeAttestation_iff h
  | teleportRemoval vmId => exact walTracks_erase_iff h rfl rfl

/-- Where every append succeeds, the log tracks the map in every state of a run exactly
when every operation of the run is logged as it should be. -/
theorem walTracks_throughout_iff {d : Daemon} {run : List Operation} (h : WalTracks d)
    (hio : ∀ op ∈ run, AppendsSucceed op) :
    Throughout operate WalTracks d run ↔ Along operate Logged d run := by
  refine throughout_iff_along (R := fun _ op => AppendsSucceed op) h walTracks_operate_iff ?_
  rw [along_iff]
  intro pre op post hrun
  exact hio op (hrun ▸ List.mem_append_right pre List.mem_cons_self)

theorem walTracks_fresh : WalTracks fresh := by
  rw [walTracks_iff]
  intro vmId
  refine iff_of_false (fun h => ?_) (by simp [fresh])
  obtain ⟨k, entry, hfirst, _⟩ := h
  obtain ⟨value, hvalue, _⟩ := hfirst.stored
  simp [fresh] at hvalue

/-- A clone started from snapshot files, logged at times 1 and 2. -/
def cloneOperation : Operation :=
  .restore { snapshotPath := some "/snapshots/vm.snap" } (true, true) "5f2c" (.ok bootedVm)
    ⟨true, true, 1⟩ ⟨true, true, 2⟩ 1

theorem walTracks_cloneOperation : WalTracks fresh ∧ AppendsSucceed cloneOperation ∧
    Throughout operate WalTracks fresh [cloneOperation] := by
  have hio : AppendsSucceed cloneOperation := by decide
  refine ⟨walTracks_fresh, hio, ?_⟩
  refine (walTracks_throughout_iff walTracks_fresh (by simpa using hio)).mpr ⟨?_, trivial⟩
  intro _ _
  refine .inr (.inl fun k' hk' => ?_)
  simp [fresh] at hk'

/-- `run_vm` registers the VM and logs nothing. -/
theorem not_walTracks_runVm : ¬ Throughout operate WalTracks fresh
    [.runVm "5f2c" (.ok bootedVm) "ubuntu" none (.ok ())] := by
  intro h
  have hmem : "5f2c" ∈ (exec operate fresh
      [.runVm "5f2c" (.ok bootedVm) "ubuntu" none (.ok ())]).vms := by decide
  obtain ⟨ts, hts⟩ := (h.exec (HashMap.Traversal.inOrder _ _) "5f2c").mpr hmem
  have hnone : (exec operate fresh
      [.runVm "5f2c" (.ok bootedVm) "ubuntu" none (.ok ())]).wal.getActiveVmIds (fun _ => true)
      (HashMap.Traversal.inOrder _ _) = [] := by rfl
  rw [hnone] at hts
  cases hts

end Vyoma.VmService
