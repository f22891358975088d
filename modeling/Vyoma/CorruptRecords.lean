import Vyoma.WalTracking

/-!
# Records of the log whose value does not decode

A value that does not decode is read as the creation of a VM called `parse_error`, but
`get_active_vm_ids` takes the VM from the key. Where such a record is the first of its VM,
it counts as that VM's creation; everywhere else it is passed over like any later record.
-/
namespace Vyoma.State
open RustText OrderedMaps

/-- The log with another value under one key. -/
def Wal.overwrite (wal : Wal) (k : String) (value : WalValue) : Wal :=
  { wal with tree := wal.tree.insert k value }

/-- The records that sled manages to read. -/
def Wal.readable (wal : Wal) (readOk : String → Bool) : Wal :=
  { wal with tree := wal.tree.filter fun k _ => readOk k }

/-- The ids that the log returns, without their timestamps. -/
def Wal.ReturnsActive (wal : Wal) (readOk : String → Bool)
    (order : HashMap.Traversal String (WalEntry × ℕ)) (vmId : String) : Prop :=
  ∃ ts, (vmId, ts) ∈ wal.getActiveVmIds readOk order

section Readable

variable (wal : Wal) (readOk : String → Bool)

theorem iterateWal_readable :
    (wal.readable readOk).iterateWal (fun _ => true) = wal.iterateWal readOk := by
  simp [Wal.iterateWal, Wal.readable, Std.ExtTreeMap.toList_filter]

theorem returnsActive_iff_reported (order : HashMap.Traversal String (WalEntry × ℕ))
    (vmId : String) :
    wal.ReturnsActive readOk order vmId ↔ Reported (wal.readable readOk) vmId := by
  rw [← mem_getActiveVmIds_iff_reported order]
  simp only [Wal.ReturnsActive, Wal.getActiveVmIds, Wal.latest, iterateWal_readable]

theorem readable_overwrite {k : String} (h : readOk k = true) (value : WalValue) :
    (wal.overwrite k value).readable readOk = (wal.readable readOk).overwrite k value := by
  unfold Wal.readable Wal.overwrite
  congr 1
  apply Std.ExtTreeMap.ext_getElem?
  intro a
  rw [lookup_filter, lookup_insert, lookup_insert, lookup_filter]
  split_ifs with hk
  · simp [← hk, h]
  · rfl

theorem readable_overwrite_unread {k : String} (h : readOk k = false) (value : WalValue) :
    (wal.overwrite k value).readable readOk = wal.readable readOk := by
  unfold Wal.readable Wal.overwrite
  congr 1
  apply Std.ExtTreeMap.ext_getElem?
  intro a
  rw [lookup_filter, lookup_insert, lookup_filter]
  split_ifs with hk
  · cases ha : wal.tree[a]? <;> simp [← hk, h]
  · rfl

end Readable

section Overwriting

variable {wal : Wal} {k : String}

/-- The first record of a VM stays under its key when a value is replaced. -/
theorem firstRecord_overwrite_iff (hk : k ∈ wal.tree) (value : WalValue) {vmId k' : String}
    {entry' : WalEntry} : FirstRecord (wal.overwrite k value) vmId k' entry' ↔
      ∃ entry, FirstRecord wal vmId k' entry ∧
        entry' = if k = k' then value.decode else entry := by
  have hkeys : ∀ a, a ∈ (wal.overwrite k value).tree ↔ a ∈ wal.tree := by
    intro a
    rw [Wal.overwrite, mem_insert_iff]
    constructor
    · rintro (rfl | ha)
      · exact hk
      · exact ha
    · exact .inr
  have hlookup : (wal.overwrite k value).tree[k']? =
      if k = k' then some value else wal.tree[k']? := lookup_insert _ _ _ _
  constructor
  · intro h
    obtain ⟨stored, hstored, hdecode⟩ := h.stored
    have hin : k' ∈ wal.tree := (hkeys k').mp (mem_iff_lookup.mpr ⟨stored, hstored⟩)
    obtain ⟨old, hold⟩ := mem_iff_lookup.mp hin
    refine ⟨old.decode, ⟨⟨old, hold, rfl⟩, h.belongs, fun a ha => h.first a ((hkeys a).mpr ha)⟩, ?_⟩
    rw [hlookup] at hstored
    split_ifs at hstored ⊢ with hkk
    · rw [← hdecode, Option.some.inj hstored]
    · rw [hold] at hstored
      rw [← hdecode, Option.some.inj hstored]
  · rintro ⟨entry, h, rfl⟩
    obtain ⟨old, hold, rfl⟩ := h.stored
    refine ⟨?_, h.belongs, fun a ha => h.first a ((hkeys a).mp ha)⟩
    rw [hlookup]
    split_ifs with hkk
    · exact ⟨value, rfl, rfl⟩
    · exact ⟨old, hold, rfl⟩

/-- A value that counts as active adds a VM exactly when it replaces an inactive first record. -/
theorem reported_overwrite_imp_iff (hk : k ∈ wal.tree) {value : WalValue}
    (hvalue : value.decode.isActive = true) :
    (∀ vmId, Reported (wal.overwrite k value) vmId → Reported wal vmId) ↔
      ∀ vmId entry, FirstRecord wal vmId k entry → entry.isActive = true := by
  constructor
  · intro hkept vmId entry hfirst
    have hnew : Reported (wal.overwrite k value) vmId := by
      refine ⟨k, value.decode, (firstRecord_overwrite_iff hk value).mpr ⟨entry, hfirst, ?_⟩, hvalue⟩
      rw [if_pos rfl]
    obtain ⟨k', entry', hfirst', hactive⟩ := hkept vmId hnew
    rwa [hfirst.unique hfirst']
  · rintro hfirsts vmId ⟨k', entry', hfirst', hactive⟩
    obtain ⟨entry, hfirst, rfl⟩ := (firstRecord_overwrite_iff hk value).mp hfirst'
    refine ⟨k', entry, hfirst, ?_⟩
    split_ifs at hactive with hkk
    · rw [← hkk] at hfirst
      exact hfirsts vmId entry hfirst
    · exact hactive

end Overwriting

/-- Corrupting a record adds no VM to the answer, in whatever orders the two answers are
built, if and only if the record is not an inactive first record that sled can read. -/
theorem corruption_adds_no_vm_iff (wal : Wal) (k : String) (hk : k ∈ wal.tree)
    (bytes : List UInt8) (readOk : String → Bool)
    (order order' : HashMap.Traversal String (WalEntry × ℕ)) :
    (∀ vmId, (wal.overwrite k (.undecodable bytes)).ReturnsActive readOk order vmId →
      wal.ReturnsActive readOk order' vmId) ↔
    ∀ vmId entry, FirstRecord (wal.readable readOk) vmId k entry → entry.isActive = true := by
  simp only [returnsActive_iff_reported]
  cases hread : readOk k with
  | true =>
    have hin : k ∈ (wal.readable readOk).tree := by
      obtain ⟨value, hvalue⟩ := mem_iff_lookup.mp hk
      refine mem_iff_lookup.mpr ⟨value, ?_⟩
      rw [Wal.readable, lookup_filter, hvalue, Option.filter_some, hread, if_pos rfl]
    rw [readable_overwrite wal readOk hread]
    exact reported_overwrite_imp_iff hin rfl
  | false =>
    rw [readable_overwrite_unread wal readOk hread]
    refine iff_of_true (fun _ h => h) (fun vmId entry hfirst => ?_)
    obtain ⟨value, hvalue, _⟩ := hfirst.stored
    rw [Wal.readable, lookup_filter] at hvalue
    obtain ⟨_, hkept⟩ := Option.filter_eq_some_iff.mp hvalue
    rw [hread] at hkept
    cases hkept

/-- The log of a VM that was booted by `run_vm`, which logs nothing, and then stopped. -/
def stoppedOnly : Wal where
  tree := Std.ExtTreeMap.insert ∅ "1700000000000000000:vm-1" (.event (.vmStop "vm-1" 1700000000))

theorem stoppedOnly_corruption_iff :
    (∀ vmId, (stoppedOnly.overwrite "1700000000000000000:vm-1" (.undecodable [0])).ReturnsActive
        (fun _ => true) (HashMap.Traversal.inOrder _ _) vmId →
      stoppedOnly.ReturnsActive (fun _ => true) (HashMap.Traversal.inOrder _ _) vmId) ↔
    ∀ vmId entry, FirstRecord (stoppedOnly.readable fun _ => true) vmId
      "1700000000000000000:vm-1" entry → entry.isActive = true :=
  corruption_adds_no_vm_iff stoppedOnly "1700000000000000000:vm-1" (by decide) [0] _ _ _

/-- Its only record, once corrupted, reports the stopped VM as active. -/
theorem stopped_vm_activated_by_corruption :
    "1700000000000000000:vm-1" ∈ stoppedOnly.tree ∧
    (stoppedOnly.overwrite "1700000000000000000:vm-1" (.undecodable [0])).ReturnsActive
      (fun _ => true) (HashMap.Traversal.inOrder _ _) "vm-1" ∧
    ¬ stoppedOnly.ReturnsActive (fun _ => true) (HashMap.Traversal.inOrder _ _) "vm-1" := by
  refine ⟨by decide, ⟨1700000000000000000, by decide⟩, fun h => ?_⟩
  obtain ⟨ts, hmem⟩ := h
  have hempty :
      stoppedOnly.getActiveVmIds (fun _ => true) (HashMap.Traversal.inOrder _ _) = [] := by
    decide
  rw [hempty] at hmem
  cases hmem

end Vyoma.State
