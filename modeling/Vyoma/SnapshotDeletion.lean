import Vyoma.OrderedMaps
import Vyoma.TimeMachine

/-!
# What a deletion does to a history

A deletion that resolves its reference splits the history at the target. The
entries before the target stay. The entries after it go through the rewrite that
`delete_snapshot` performs once the target is gone: with two or more of them, the
first is overwritten by a copy of the second. The stored id sequence is therefore
the expected one exactly when fewer than two entries follow the target.
-/
namespace Vyoma.TimeMachine
open OrderedMaps

@[simp] theorem getSnapshots_failed (tm : Store) (vmId : String) :
    getSnapshots tm false vmId = [] := rfl

@[simp] theorem getSnapshots_insert (tm : Store) (vmId other : String) (stored : Stored) :
    getSnapshots (tm.insert vmId stored) true other =
      if vmId = other then stored.decodeOrDefault else getSnapshots tm true other := by
  simp only [getSnapshots, if_true, lookup_insert]
  split_ifs <;> rfl

theorem resolve_mem {snaps : List SnapshotEntry} {snapshotRef : String} {s : SnapshotEntry}
    (h : resolve snaps snapshotRef = some s) : s ∈ snaps := by
  unfold resolve at h
  split at h
  · rename_i t ht
    cases h
    exact List.mem_of_find?_eq_some ht
  split at h
  · rename_i t ht
    cases h
    exact List.mem_of_find?_eq_some ht
  split at h
  · cases h
  · split_ifs at h
    · exact List.mem_of_getElem? h
    · exact List.mem_of_getElem? h

theorem getSnapshot_failed (tm : Store) (vmId snapshotRef : String) :
    getSnapshot tm false vmId snapshotRef = none := by
  cases h : getSnapshot tm false vmId snapshotRef with
  | none => rfl
  | some s => exact absurd (resolve_mem h) (by simp)

/-- The entries that follow the snapshot with the given id. -/
def newerThan (snaps : List SnapshotEntry) (id : String) : List SnapshotEntry :=
  (snaps.dropWhile (fun e => e.id ≠ id)).tail

section Split

variable {older newer : List SnapshotEntry} {s : SnapshotEntry}

theorem older_ne_of_nodup (hnd : (ids (older ++ s :: newer)).Nodup) :
    ∀ e ∈ older, e.id ≠ s.id := by
  intro e he
  rw [ids_append, ids_cons, List.nodup_append] at hnd
  exact hnd.2.2 e.id (mem_ids he) s.id List.mem_cons_self

theorem newerThan_append (hnd : (ids (older ++ s :: newer)).Nodup) :
    newerThan (older ++ s :: newer) s.id = newer := by
  have hold : ∀ e ∈ older, decide (e.id ≠ s.id) = true :=
    fun e he => decide_eq_true (older_ne_of_nodup hnd e he)
  rw [newerThan, List.dropWhile_append_of_pos hold, List.dropWhile_cons_of_neg (by simp),
    List.tail_cons]

theorem position_append (hnd : (ids (older ++ s :: newer)).Nodup) :
    (older ++ s :: newer).findIdx? (fun e => e.id == s.id) = some older.length := by
  have hold : older.findIdx? (fun e => e.id == s.id) = none := by
    rw [List.findIdx?_eq_none_iff]
    intro e he
    simpa using older_ne_of_nodup hnd e he
  rw [List.findIdx?_append, hold, List.findIdx?_cons]
  simp

/-- The rewrite of the entries that follow a removed target. -/
def rewriteNewer : List SnapshotEntry → List SnapshotEntry
  | next :: np :: rest => { np with parentId := some next.id } :: np :: rest
  | newer => newer

theorem relink_eraseIdx :
    relink ((older ++ s :: newer).eraseIdx older.length) older.length =
      older ++ rewriteNewer newer := by
  have herase : (older ++ s :: newer).eraseIdx older.length = older ++ newer := by
    rw [List.eraseIdx_append_of_length_le (Nat.le_refl _), Nat.sub_self, List.eraseIdx_cons_zero]
  rw [herase]
  match newer with
  | [] => simp [relink, rewriteNewer]
  | [next] => simp [relink, rewriteNewer]
  | next :: np :: rest =>
    simp [relink, rewriteNewer, List.set_append_right]

theorem ids_rewriteNewer_iff (hnd : (ids (older ++ s :: newer)).Nodup) :
    ids (older ++ rewriteNewer newer) = (ids (older ++ s :: newer)).erase s.id ↔
      newer.length ≤ 1 := by
  have herase : (ids (older ++ s :: newer)).erase s.id = ids (older ++ newer) := by
    have hmem : s.id ∉ ids older := by
      simpa [ids] using older_ne_of_nodup hnd
    rw [ids_append, ids_cons, List.erase_append_right _ hmem, List.erase_cons_head, ids_append]
  rw [herase]
  match newer with
  | [] => simp [rewriteNewer]
  | [next] => simp [rewriteNewer]
  | next :: np :: rest =>
    have hne : next.id ≠ np.id := by
      simp only [ids_append, ids_cons] at hnd
      have htail := (List.nodup_append.mp hnd).2.1.of_cons
      exact fun he => (List.nodup_cons.mp htail).1 (he ▸ List.mem_cons_self)
    simp [rewriteNewer, Ne.symm hne]

end Split

/-- A deletion whose reads succeed and whose reference resolves: what is stored. -/
theorem deleteSnapshot_resolved {tm : Store} {vmId snapshotRef : String} {s : SnapshotEntry}
    {older newer : List SnapshotEntry} (insertOk : Bool)
    (hsplit : getSnapshots tm true vmId = older ++ s :: newer)
    (hnd : (ids (history tm vmId)).Nodup)
    (hs : getSnapshot tm true vmId snapshotRef = some s) :
    deleteSnapshot tm ⟨true, true, insertOk⟩ vmId snapshotRef =
      (saveSnapshots tm insertOk vmId (older ++ rewriteNewer newer), .ok ()) := by
  have hne : getSnapshots tm true vmId ≠ [] := by simp [hsplit]
  rw [history, hsplit] at hnd
  simp only [deleteSnapshot, if_neg hne, hs]
  rw [hsplit, position_append hnd]
  simp only [relink_eraseIdx]

/-- A deletion with a failed read returns an error and leaves the tree alone. -/
theorem deleteSnapshot_failed_read (tm : Store) {io : SledOutcomes} (vmId snapshotRef : String)
    (hio : ¬ (io.get ∧ io.getAgain)) :
    ∃ e, deleteSnapshot tm io vmId snapshotRef = (tm, .error e) := by
  obtain ⟨g, g', w⟩ := io
  cases g with
  | false => exact ⟨_, rfl⟩
  | true =>
    have hg : g' = false := by simpa using hio
    subst hg
    simp only [deleteSnapshot, getSnapshot_failed]
    split_ifs with he
    · exact ⟨_, rfl⟩
    · exact ⟨_, rfl⟩

/-- A deletion whose reference does not resolve returns an error as well. -/
theorem deleteSnapshot_unresolved {tm : Store} {io : SledOutcomes} {vmId snapshotRef : String}
    (hio : io.get ∧ io.getAgain) (hs : getSnapshot tm true vmId snapshotRef = none) :
    ∃ e, deleteSnapshot tm io vmId snapshotRef = (tm, .error e) := by
  simp only [deleteSnapshot, hio.1, hio.2, hs]
  split_ifs with he
  · exact ⟨_, rfl⟩
  · exact ⟨_, rfl⟩

/-- The contract of a deletion of `s` from the history of `vmId`, for a call made
on `tm` with outcome `out`: success removes that one id and touches no other VM,
an error changes no history. -/
def RemovesExactly (tm : Store) (vmId : String) (s : SnapshotEntry)
    (out : Store × Except String Unit) : Prop :=
  match out.2 with
  | .ok _ => ids (history out.1 vmId) = (ids (history tm vmId)).erase s.id ∧
      ∀ other, other ≠ vmId → history out.1 other = history tm other
  | .error _ => ∀ v, history out.1 v = history tm v

/-- A call that reports success without writing anything does not delete. -/
theorem not_removesExactly_unwritten {tm : Store} {vmId : String} {s : SnapshotEntry}
    (hmem : s ∈ history tm vmId) : ¬ RemovesExactly tm vmId s (tm, .ok ()) := by
  intro hremoves
  obtain ⟨hids, _⟩ := hremoves
  have hid : s.id ∈ ids (history tm vmId) := mem_ids hmem
  have hlen := congrArg List.length hids
  rw [List.length_erase_of_mem hid] at hlen
  have := List.length_pos_of_mem hid
  dsimp only at hlen
  omega

theorem deleteSnapshot_removesExactly_iff {tm : Store} {io : SledOutcomes}
    {vmId snapshotRef : String} {s : SnapshotEntry}
    (hnd : (ids (history tm vmId)).Nodup)
    (hs : getSnapshot tm true vmId snapshotRef = some s) :
    RemovesExactly tm vmId s (deleteSnapshot tm io vmId snapshotRef) ↔
      (io.get ∧ io.getAgain → io.insert ∧ (newerThan (history tm vmId) s.id).length ≤ 1) := by
  have hmem : s ∈ history tm vmId := resolve_mem hs
  obtain ⟨older, newer, hsplit⟩ := List.append_of_mem hmem
  by_cases hio : io.get ∧ io.getAgain
  · obtain ⟨g, g', w⟩ := io
    obtain ⟨rfl, rfl⟩ : g = true ∧ g' = true := hio
    have hnd' : (ids (older ++ s :: newer)).Nodup := hsplit ▸ hnd
    rw [deleteSnapshot_resolved w hsplit hnd hs, hsplit, newerThan_append hnd']
    cases w with
    | false =>
      simpa [saveSnapshots] using not_removesExactly_unwritten hmem
    | true =>
      have hother : ∀ other, other ≠ vmId →
          (if vmId = other then older ++ rewriteNewer newer else history tm other) =
            history tm other :=
        fun other ho => if_neg (Ne.symm ho)
      simp only [RemovesExactly, saveSnapshots, if_true, and_true, true_and, true_implies,
        hsplit, getSnapshots_insert, Stored.decodeOrDefault]
      rw [ids_rewriteNewer_iff hnd']
      exact and_iff_left hother
  · obtain ⟨e, he⟩ := deleteSnapshot_failed_read tm vmId snapshotRef hio
    rw [he]
    exact iff_of_true (fun _ => rfl) (fun h => absurd h hio)

/-- A store holding the given history for one VM. -/
def storeOf (vmId : String) (snapshots : List SnapshotEntry) : Store :=
  (∅ : Store).insert vmId (.history snapshots)

/-- Three snapshots of one VM, as three calls of `create_snapshot` leave them. -/
def threeSnapshots : List SnapshotEntry :=
  [SnapshotEntry.new "5f2c" 1 "vm-1" (some "first") none,
    SnapshotEntry.new "91aa" 2 "vm-1" (some "second") (some "5f2c"),
    SnapshotEntry.new "c0d4" 3 "vm-1" (some "third") (some "91aa")]

/-- Deleting the newest of three snapshots by its label. -/
theorem deleteSnapshot_newest_removesExactly :
    (ids (history (storeOf "vm-1" threeSnapshots) "vm-1")).Nodup ∧
    RemovesExactly (storeOf "vm-1" threeSnapshots) "vm-1" (threeSnapshots.get ⟨2, by decide⟩)
      (deleteSnapshot (storeOf "vm-1" threeSnapshots) {} "vm-1" "third") :=
  ⟨by decide, (deleteSnapshot_removesExactly_iff (by decide) (by decide)).mpr
    (fun _ => by decide)⟩

/-- Deleting the oldest of three snapshots loses the second and stores the third twice. -/
theorem deleteSnapshot_oldest_loses_successor :
    (ids (history (storeOf "vm-1" threeSnapshots) "vm-1")).Nodup ∧
    getSnapshot (storeOf "vm-1" threeSnapshots) true "vm-1" "5f2c" =
      some (threeSnapshots.get ⟨0, by decide⟩) ∧
    ids (history (deleteSnapshot (storeOf "vm-1" threeSnapshots) {} "vm-1" "5f2c").1 "vm-1") =
      ["c0d4", "c0d4"] ∧
    ¬ RemovesExactly (storeOf "vm-1" threeSnapshots) "vm-1" (threeSnapshots.get ⟨0, by decide⟩)
      (deleteSnapshot (storeOf "vm-1" threeSnapshots) {} "vm-1" "5f2c") :=
  ⟨by decide, by decide, by decide, fun h => absurd h.1 (by decide)⟩

end Vyoma.TimeMachine
