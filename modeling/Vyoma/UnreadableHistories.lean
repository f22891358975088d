import Vyoma.SnapshotChain

/-!
# Stored histories that do not decode

A history that does not decode reads as an empty one. `delete_snapshot` then finds no
snapshot and refuses, which leaves the bytes. `create_snapshot` starts a new history in
their place, and returns its entry as it does for a VM that had none.
-/
namespace Vyoma.TimeMachine
open OrderedMaps Runs

def Action.vmId : Action → String
  | .create _ _ _ vmId _ => vmId
  | .delete _ vmId _ => vmId

def Action.isCreate : Action → Bool
  | .create .. => true
  | .delete .. => false

/-- What the caller gets: an entry from a creation, which cannot fail, and nothing from a
deletion that succeeds. -/
def result (tm : Store) : Action → Except String (Option SnapshotEntry)
  | .create io uuid now vmId label => .ok (some (createSnapshot tm io uuid now vmId label).2)
  | .delete io vmId snapshotRef => (deleteSnapshot tm io vmId snapshotRef).2.map fun _ => none

/-- The bytes stay in the store throughout, and no call on the VM reports success. -/
def KeptUnreadable (vmId : String) (bytes : List UInt8) (tm : Store) (run : List Action) : Prop :=
  Throughout step (fun tm => tm[vmId]? = some (.undecodable bytes)) tm run ∧
    Along step (fun tm a => a.vmId = vmId → (result tm a).isOk = false) tm run

section Steps

variable {tm : Store} {vmId : String} {bytes : List UInt8}

theorem lookup_saveSnapshots (tm : Store) (writeOk : Bool) (vmId other : String)
    (snaps : List SnapshotEntry) : (saveSnapshots tm writeOk vmId snaps)[other]? =
      if writeOk ∧ vmId = other then some (.history snaps) else tm[other]? := by
  cases writeOk <;> simp [saveSnapshots, lookup_insert]

theorem getSnapshots_unreadable (h : tm[vmId]? = some (.undecodable bytes)) (readOk : Bool) :
    getSnapshots tm readOk vmId = [] := by
  cases readOk <;> simp [getSnapshots, h, Stored.decodeOrDefault]

theorem deleteSnapshot_unreadable (h : tm[vmId]? = some (.undecodable bytes)) (io : SledOutcomes)
    (snapshotRef : String) :
    deleteSnapshot tm io vmId snapshotRef = (tm, .error "VM not found") := by
  rw [deleteSnapshot, getSnapshots_unreadable h, if_pos rfl]

/-- A deletion writes only under its own VM. -/
theorem lookup_deleteSnapshot (io : SledOutcomes) {other : String} (hne : other ≠ vmId)
    (snapshotRef : String) : (deleteSnapshot tm io other snapshotRef).1[vmId]? = tm[vmId]? := by
  unfold deleteSnapshot
  dsimp only
  split_ifs
  · rfl
  · split
    · rfl
    · split
      · rfl
      · rw [lookup_saveSnapshots, if_neg fun hboth => hne hboth.2]

/-- The bytes survive every call but a creation on their VM whose write succeeds. -/
theorem unreadable_step_iff (h : tm[vmId]? = some (.undecodable bytes)) (a : Action) :
    (step tm a)[vmId]? = some (.undecodable bytes) ↔
      ¬ ∃ io uuid now label, a = .create io uuid now vmId label ∧ io.insert = true := by
  cases a with
  | create io uuid now other label =>
    rw [step, createSnapshot, lookup_saveSnapshots]
    by_cases hwrites : io.insert = true ∧ other = vmId
    · rw [if_pos hwrites]
      refine iff_of_false (by simp) (fun hnone => hnone ⟨io, uuid, now, label, ?_, hwrites.1⟩)
      rw [hwrites.2]
    · rw [if_neg hwrites]
      refine iff_of_true h ?_
      rintro ⟨io', uuid', now', label', heq, hio⟩
      cases heq
      exact hwrites ⟨hio, rfl⟩
  | delete io other snapshotRef =>
    refine iff_of_true ?_ ?_
    · by_cases hother : other = vmId
      · rw [hother, step, deleteSnapshot_unreadable h]
        exact h
      · rw [step, lookup_deleteSnapshot io hother, h]
    · rintro ⟨_, _, _, _, heq, _⟩
      cases heq

theorem result_unreadable_iff (h : tm[vmId]? = some (.undecodable bytes)) {a : Action}
    (ha : a.vmId = vmId) : (result tm a).isOk = false ↔ a.isCreate = false := by
  cases a with
  | create io uuid now other label =>
    exact iff_of_false Bool.noConfusion Bool.noConfusion
  | delete io other snapshotRef =>
    have hother : other = vmId := ha
    rw [hother, result, deleteSnapshot_unreadable h]
    exact iff_of_true rfl rfl

end Steps

/-- The bytes of a VM survive a run, and every call on the VM is refused, if and only if the
run creates no snapshot of the VM. -/
theorem keptUnreadable_iff (vmId : String) (bytes : List UInt8) (tm : Store)
    (h : tm[vmId]? = some (.undecodable bytes)) (run : List Action) :
    KeptUnreadable vmId bytes tm run ↔ ∀ a ∈ run, a.vmId = vmId → a.isCreate = false := by
  unfold KeptUnreadable
  induction run generalizing tm with
  | nil => simpa [Along] using h
  | cons a run ih =>
    rw [throughout_cons, Along, List.forall_mem_cons]
    constructor
    · rintro ⟨⟨_, hkept⟩, hrefused, hrest⟩
      have hnext : (step tm a)[vmId]? = some (.undecodable bytes) := hkept [] List.nil_prefix
      exact ⟨fun ha => (result_unreadable_iff h ha).mp (hrefused ha),
        (ih (step tm a) hnext).mp ⟨hkept, hrest⟩⟩
    · rintro ⟨hdelete, hrest⟩
      have hnext : (step tm a)[vmId]? = some (.undecodable bytes) := by
        refine (unreadable_step_iff h a).mpr ?_
        rintro ⟨io, uuid, now, label, rfl, _⟩
        have hnot : (Action.create io uuid now vmId label).isCreate = false := hdelete rfl
        cases hnot
      obtain ⟨hkept, hrefused⟩ := (ih (step tm a) hnext).mpr hrest
      exact ⟨⟨h, hkept⟩, fun ha => (result_unreadable_iff h ha).mpr (hdelete ha), hrefused⟩

/-- A truncated history of one VM. -/
def truncatedStore : Store := (∅ : Store).insert "vm-1" (.undecodable [0x5B, 0x7B])

theorem truncated_kept_by_deletion :
    KeptUnreadable "vm-1" [0x5B, 0x7B] truncatedStore [.delete {} "vm-1" "snap:1"] :=
  (keptUnreadable_iff "vm-1" [0x5B, 0x7B] truncatedStore (by decide)
    [.delete {} "vm-1" "snap:1"]).mpr (by decide)

/-- The next snapshot of the VM replaces the truncated history by a list of itself. -/
theorem truncated_overwritten_by_creation :
    truncatedStore["vm-1"]? = some (.undecodable [0x5B, 0x7B]) ∧
    (step truncatedStore (.create {} "5f2c" 1 "vm-1" none))["vm-1"]? =
      some (.history [SnapshotEntry.new "5f2c" 1 "vm-1" none none]) ∧
    ¬ KeptUnreadable "vm-1" [0x5B, 0x7B] truncatedStore [.create {} "5f2c" 1 "vm-1" none] := by
  refine ⟨by decide, by decide, fun h => ?_⟩
  exact absurd h.1.exec (by decide)

end Vyoma.TimeMachine
