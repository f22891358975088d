import Vyoma.Runs
import Vyoma.SnapshotDeletion

/-!
# The parent chain of a snapshot history

Each entry should name its predecessor as its parent, and the oldest entry none.
`create_snapshot` extends the chain. `delete_snapshot` keeps it exactly when it
removes the newest entry: no rewrite ever changes the parent of the entry that
follows the target to the target's own parent.
-/
namespace Vyoma.TimeMachine
open Runs

/-- The chain as a reader of the history sees it, entry by entry. -/
def ParentChain (snaps : List SnapshotEntry) : Prop :=
  (ids snaps).Nodup ∧ (∀ s, snaps[0]? = some s → s.parentId = none) ∧
    ∀ i s t, snaps[i]? = some s → snaps[i + 1]? = some t → t.parentId = some s.id

/-- The same links read off the list structure, starting below a given parent. -/
def LinkedFrom : Option String → List SnapshotEntry → Prop
  | _, [] => True
  | parent, s :: rest => s.parentId = parent ∧ LinkedFrom (some s.id) rest

/-- The id that the next appended entry has to name. -/
def newestId : Option String → List SnapshotEntry → Option String
  | parent, [] => parent
  | _, s :: rest => newestId (some s.id) rest

theorem linkedFrom_iff {parent : Option String} {snaps : List SnapshotEntry} :
    LinkedFrom parent snaps ↔ (∀ s, snaps[0]? = some s → s.parentId = parent) ∧
      ∀ i s t, snaps[i]? = some s → snaps[i + 1]? = some t → t.parentId = some s.id := by
  induction snaps generalizing parent with
  | nil => simp [LinkedFrom]
  | cons a rest ih =>
    rw [LinkedFrom, ih]
    constructor
    · intro hlinked
      obtain ⟨ha, hfirst, hlinks⟩ := hlinked
      refine ⟨by simpa using ha, fun i s t hs ht => ?_⟩
      cases i with
      | zero =>
        obtain rfl : a = s := by simpa using hs
        exact hfirst t (by simpa using ht)
      | succ i => exact hlinks i s t (by simpa using hs) (by simpa using ht)
    · intro hlinked
      obtain ⟨hfirst, hlinks⟩ := hlinked
      refine ⟨hfirst a rfl, fun t ht => ?_, fun i s t hs ht => ?_⟩
      · exact hlinks 0 a t rfl (by simpa using ht)
      · exact hlinks (i + 1) s t (by simpa using hs) (by simpa using ht)

theorem parentChain_iff {snaps : List SnapshotEntry} :
    ParentChain snaps ↔ (ids snaps).Nodup ∧ LinkedFrom none snaps := by
  rw [ParentChain, linkedFrom_iff]

theorem linkedFrom_append {parent : Option String} {xs ys : List SnapshotEntry} :
    LinkedFrom parent (xs ++ ys) ↔ LinkedFrom parent xs ∧ LinkedFrom (newestId parent xs) ys := by
  induction xs generalizing parent with
  | nil => simp [LinkedFrom, newestId]
  | cons s rest ih => simp [LinkedFrom, newestId, ih, and_assoc]

theorem newestId_eq (parent : Option String) (snaps : List SnapshotEntry) :
    newestId parent snaps = (snaps.getLast?.map SnapshotEntry.id).or parent := by
  induction snaps generalizing parent with
  | nil => rfl
  | cons s rest ih =>
    rw [newestId, ih, List.getLast?_cons]
    cases rest.getLast? <;> rfl

theorem parentChain_append_created {snaps : List SnapshotEntry} {uuid vmId : String} {now : ℤ}
    {label : Option String} (h : ParentChain snaps) (hfresh : uuid ∉ ids snaps) :
    ParentChain (snaps ++
      [SnapshotEntry.new uuid now vmId label (snaps.getLast?.map SnapshotEntry.id)]) := by
  rw [parentChain_iff] at h ⊢
  refine ⟨?_, ?_⟩
  · rw [ids_append, List.nodup_append]
    refine ⟨h.1, by simp, fun a ha b hb => ?_⟩
    obtain rfl : b = uuid := by simpa [SnapshotEntry.new] using hb
    exact fun he => hfresh (he ▸ ha)
  · rw [linkedFrom_append, newestId_eq, Option.or_none]
    exact ⟨h.2, rfl, trivial⟩

theorem newestId_older_ne {older newer : List SnapshotEntry} {s : SnapshotEntry}
    (hnd : (ids (older ++ s :: newer)).Nodup) : newestId none older ≠ some s.id := by
  rw [newestId_eq, Option.or_none]
  intro he
  obtain ⟨o, ho, hid⟩ := Option.map_eq_some_iff.mp he
  exact older_ne_of_nodup hnd o (List.mem_of_getLast? ho) hid

/-- What a completed deletion leaves is a chain exactly when nothing followed the target. -/
theorem parentChain_rewriteNewer_iff {older newer : List SnapshotEntry} {s : SnapshotEntry}
    (h : ParentChain (older ++ s :: newer)) :
    ParentChain (older ++ rewriteNewer newer) ↔ newer = [] := by
  obtain ⟨hnd, hlinks⟩ := parentChain_iff.mp h
  obtain ⟨hold, hnew⟩ := linkedFrom_append.mp hlinks
  rw [parentChain_iff]
  match newer with
  | [] =>
    refine iff_of_true ⟨?_, by simpa [rewriteNewer] using hold⟩ rfl
    rw [ids_append] at hnd
    simpa [rewriteNewer] using (List.nodup_append.mp hnd).1
  | [next] =>
    refine iff_of_false ?_ (by simp)
    intro hlinked
    obtain ⟨_, hbad⟩ := hlinked
    have hparent : next.parentId = newestId none older := (linkedFrom_append.mp hbad).2.1
    have hkept : next.parentId = some s.id := hnew.2.1
    exact newestId_older_ne hnd (hparent ▸ hkept)
  | next :: np :: rest =>
    refine iff_of_false ?_ (by simp)
    intro hlinked
    obtain ⟨hbad, _⟩ := hlinked
    rw [ids_append, List.nodup_append] at hbad
    simp [rewriteNewer] at hbad

/-- The calls that change the store, each with the outcomes of its sled calls. -/
inductive Action where
  | create (io : SledOutcomes) (uuid : String) (now : ℤ) (vmId : String) (label : Option String)
  | delete (io : SledOutcomes) (vmId snapshotRef : String)

def step (tm : Store) : Action → Store
  | .create io uuid now vmId label => (createSnapshot tm io uuid now vmId label).1
  | .delete io vmId snapshotRef => (deleteSnapshot tm io vmId snapshotRef).1

/-- The uuids drawn in a run, in order. -/
def uuids (run : List Action) : List String :=
  run.filterMap fun
    | .create _ uuid _ _ _ => some uuid
    | .delete .. => none

def ChainEverywhere (tm : Store) : Prop := ∀ vmId, ParentChain (history tm vmId)

/-- A creation draws an id that its VM's history does not hold. -/
def DrawsFresh (tm : Store) : Action → Prop
  | .create _ uuid _ vmId _ => uuid ∉ ids (history tm vmId)
  | .delete .. => True

/-- A deletion that goes through names the newest snapshot of its VM. -/
def DeletesNewest (tm : Store) : Action → Prop
  | .create .. => True
  | .delete io vmId snapshotRef => io.get ∧ io.getAgain ∧ io.insert →
      ∀ s, getSnapshot tm true vmId snapshotRef = some s → (history tm vmId).getLast? = some s

theorem history_saveSnapshots (tm : Store) (writeOk : Bool) (vmId other : String)
    (snaps : List SnapshotEntry) :
    history (saveSnapshots tm writeOk vmId snaps) other =
      if writeOk ∧ vmId = other then snaps else history tm other := by
  cases writeOk <;> simp [saveSnapshots, Stored.decodeOrDefault]

theorem chainEverywhere_create {tm : Store} {io : SledOutcomes} {uuid vmId : String} {now : ℤ}
    {label : Option String} (h : ChainEverywhere tm) (hfresh : uuid ∉ ids (history tm vmId)) :
    ChainEverywhere (createSnapshot tm io uuid now vmId label).1 := by
  intro other
  rw [createSnapshot, history_saveSnapshots]
  split_ifs
  · cases hg : io.get with
    | true => exact parentChain_append_created (h vmId) hfresh
    | false => exact parentChain_append_created (by simp [ParentChain]) (by simp)
  · exact h other

theorem getLast?_append_target_iff {older newer : List SnapshotEntry} {s : SnapshotEntry}
    (hnd : (ids (older ++ s :: newer)).Nodup) :
    (older ++ s :: newer).getLast? = some s ↔ newer = [] := by
  constructor
  · intro hlast
    by_contra hne
    have hnew : newer.getLast? = some s := by
      rwa [List.getLast?_append_of_ne_nil _ (List.cons_ne_nil s newer),
        List.getLast?_cons_of_ne_nil hne] at hlast
    have hmem : s.id ∈ ids newer := mem_ids (List.mem_of_getLast? hnew)
    rw [ids_append, ids_cons, List.nodup_append] at hnd
    exact (List.nodup_cons.mp hnd.2.1).1 hmem
  · intro he
    simp [he]

theorem chainEverywhere_delete_iff {tm : Store} {io : SledOutcomes} {vmId snapshotRef : String}
    (h : ChainEverywhere tm) :
    ChainEverywhere (deleteSnapshot tm io vmId snapshotRef).1 ↔
      DeletesNewest tm (.delete io vmId snapshotRef) := by
  by_cases hio : io.get ∧ io.getAgain
  · cases hs : getSnapshot tm true vmId snapshotRef with
    | none =>
      obtain ⟨e, he⟩ := deleteSnapshot_unresolved hio hs
      rw [he]
      exact iff_of_true h (by simp [DeletesNewest, hs])
    | some s =>
      obtain ⟨older, newer, hsplit⟩ := List.append_of_mem (resolve_mem hs)
      obtain ⟨g, g', w⟩ := io
      obtain ⟨rfl, rfl⟩ : g = true ∧ g' = true := hio
      have hchain : ParentChain (older ++ s :: newer) := hsplit ▸ h vmId
      rw [deleteSnapshot_resolved w hsplit (h vmId).1 hs]
      cases w with
      | false => exact iff_of_true h (by simp [DeletesNewest])
      | true =>
        have hnewest : DeletesNewest tm (.delete ⟨true, true, true⟩ vmId snapshotRef) ↔
            newer = [] := by
          simp only [DeletesNewest, hs, history, hsplit, Option.some.injEq]
          rw [← getLast?_append_target_iff hchain.1]
          simp
        rw [hnewest, ← parentChain_rewriteNewer_iff hchain]
        constructor
        · intro hall
          have hvm := hall vmId
          rwa [history_saveSnapshots, if_pos ⟨rfl, rfl⟩] at hvm
        · intro hvm other
          rw [history_saveSnapshots]
          split_ifs
          · exact hvm
          · exact h other
  · obtain ⟨e, he⟩ := deleteSnapshot_failed_read tm vmId snapshotRef hio
    rw [he]
    exact iff_of_true h (fun hall => absurd ⟨hall.1, hall.2.1⟩ hio)

/-- A call never stores an id that was neither there before nor drawn by the call. -/
theorem ids_relink_subset (snaps : List SnapshotEntry) (index : ℕ) :
    ids (relink snaps index) ⊆ ids snaps := by
  unfold relink
  split
  · exact fun _ h => h
  split
  · exact fun _ h => h
  · rename_i np hnp
    intro id hid
    obtain ⟨e, he, rfl⟩ := List.mem_map.mp hid
    rcases List.mem_or_eq_of_mem_set he with hold | hcopy
    · exact mem_ids hold
    · have hid : np.id ∈ ids snaps := mem_ids (List.mem_of_getElem? hnp)
      rw [hcopy]
      exact hid

theorem ids_delete_subset (tm : Store) (io : SledOutcomes) (vmId snapshotRef other : String) :
    ids (history (deleteSnapshot tm io vmId snapshotRef).1 other) ⊆ ids (history tm other) := by
  unfold deleteSnapshot
  dsimp only
  split_ifs with hempty
  · exact fun _ h => h
  split
  · exact fun _ h => h
  split
  · exact fun _ h => h
  · rw [history_saveSnapshots]
    split_ifs with hw
    · obtain ⟨-, rfl⟩ := hw
      have hget : io.get = true := by
        by_contra hg
        exact hempty (by simp [hg])
      rw [hget]
      exact fun id hid => List.map_subset _ (List.eraseIdx_subset) (ids_relink_subset _ _ hid)
    · exact fun _ h => h

theorem ids_create_subset (tm : Store) (io : SledOutcomes) (uuid vmId other : String) (now : ℤ)
    (label : Option String) :
    ids (history (createSnapshot tm io uuid now vmId label).1 other) ⊆
      uuid :: ids (history tm other) := by
  rw [createSnapshot, history_saveSnapshots]
  split_ifs with hw
  · obtain ⟨-, rfl⟩ := hw
    cases io.get with
    | true => intro id hid; simpa [SnapshotEntry.new, or_comm] using hid
    | false => intro id hid; simpa [SnapshotEntry.new] using Or.inl hid
  · exact List.subset_cons_self _ _

/-- Distinct draws that the store does not hold yet are fresh at each later creation. -/
theorem drawsFresh_along {tm : Store} {run : List Action} (hnd : (uuids run).Nodup)
    (hnew : ∀ vmId, ∀ uuid ∈ uuids run, uuid ∉ ids (history tm vmId)) :
    Along step DrawsFresh tm run := by
  induction run generalizing tm with
  | nil => exact trivial
  | cons a run ih =>
    cases a with
    | create io uuid now vmId label =>
      obtain ⟨hout, hnd⟩ := List.nodup_cons.mp hnd
      refine ⟨hnew vmId uuid List.mem_cons_self, ih hnd fun other id hid hold => ?_⟩
      rcases List.mem_cons.mp (ids_create_subset tm io uuid vmId other now label hold) with he | he
      · exact hout (he ▸ hid)
      · exact hnew other id (List.mem_cons_of_mem _ hid) he
    | delete io vmId snapshotRef =>
      refine ⟨trivial, ih hnd fun other id hid hold => ?_⟩
      exact hnew other id hid (ids_delete_subset tm io vmId snapshotRef other hold)

/-- From the empty store, with uuids that never repeat, the parent chain holds in
every state of a run exactly when each deletion that goes through removes the
newest snapshot of its VM. -/
theorem chainEverywhere_throughout_iff {run : List Action} (hnd : (uuids run).Nodup) :
    Throughout step ChainEverywhere ∅ run ↔ Along step DeletesNewest ∅ run := by
  apply throughout_iff_along (R := DrawsFresh)
  · intro vmId
    simp [getSnapshots, ParentChain]
  · intro tm a htm hfresh
    cases a with
    | create io uuid now vmId label =>
      exact iff_of_true (chainEverywhere_create htm hfresh) trivial
    | delete io vmId snapshotRef => exact chainEverywhere_delete_iff htm
  · exact drawsFresh_along hnd (by simp [getSnapshots])

/-- Two snapshots of one VM, then a deletion by label, with every sled call succeeding. -/
def deleteRun (label : String) : List Action :=
  [.create {} "5f2c" 1 "vm-1" (some "first"), .create {} "91aa" 2 "vm-1" (some "second"),
    .delete {} "vm-1" label]

/-- Deleting the newer of two snapshots keeps the chain. -/
theorem chainEverywhere_delete_second :
    (uuids (deleteRun "second")).Nodup ∧
    Throughout step ChainEverywhere ∅ (deleteRun "second") := by
  refine ⟨by decide, (chainEverywhere_throughout_iff (by decide)).mpr
    ⟨trivial, trivial, fun _ s hs => ?_, trivial⟩⟩
  have hlast : getSnapshot (exec step ∅ ((deleteRun "second").take 2)) true "vm-1" "second" =
      (history (exec step ∅ ((deleteRun "second").take 2)) "vm-1").getLast? := by decide
  exact hlast.symm.trans hs

/-- Deleting the older of two snapshots leaves an oldest entry that names a
parent which is no longer stored. -/
theorem chain_broken_delete_first :
    (uuids (deleteRun "first")).Nodup ∧
    history (exec step ∅ (deleteRun "first")) "vm-1" =
      [SnapshotEntry.new "91aa" 2 "vm-1" (some "second") (some "5f2c")] ∧
    ¬ Throughout step ChainEverywhere ∅ (deleteRun "first") := by
  have hleft : history (exec step ∅ (deleteRun "first")) "vm-1" =
      [SnapshotEntry.new "91aa" 2 "vm-1" (some "second") (some "5f2c")] := by decide
  refine ⟨by decide, hleft, fun h => ?_⟩
  have hfirst := (h.exec "vm-1").2.1 _ (by rw [hleft]; rfl)
  exact absurd hfirst (by decide)

end Vyoma.TimeMachine
