import Vyoma.SnapshotDeletion

/-!
# Automatic snapshots and their retention

A tick of `auto_snapshot_loop` creates a snapshot, counts the history and, above the limit,
deletes the oldest entry through `delete_snapshot`. That deletion overwrites the entry that
follows the deleted one, so from the first pruning on, the oldest snapshot that should be
kept is replaced by a copy of its successor.
-/
namespace Vyoma.AutoSnapshot
open TimeMachine

/-- The interval is in nanoseconds. -/
structure AutoSnapshotConfig where
  vmId : String
  interval : ℕ
  retainCount : ℕ
  label : Option String

/-- What one tick meets: the uuid and the clock, also as `%Y%m%d-%H%M%S`, and the outcomes
of its sled calls. -/
structure TickOutcomes where
  uuid : String
  now : ℤ
  stamp : String
  create : SledOutcomes := {}
  readCount : Bool := true
  readHistory : Bool := true
  delete : SledOutcomes := {}

def getSnapshotHistory (tm : Store) (readOk : Bool) (vmId : String) : Option (List SnapshotEntry) :=
  let snaps := getSnapshots tm readOk vmId
  if snaps = [] then none else some snaps

def getSnapshotCount (tm : Store) (readOk : Bool) (vmId : String) : ℕ :=
  (getSnapshots tm readOk vmId).length

def snapshotLabel (config : AutoSnapshotConfig) (o : TickOutcomes) : String :=
  config.label.getD ("auto-" ++ o.stamp)

/-- One tick, and whether it returns. A history that can be counted but not read again makes
it panic. -/
def tick (config : AutoSnapshotConfig) (tm : Store) (o : TickOutcomes) : Store × Bool :=
  let tm := (createSnapshot tm o.create o.uuid o.now config.vmId
    (some (snapshotLabel config o))).1
  if config.retainCount < getSnapshotCount tm o.readCount config.vmId then
    match getSnapshotHistory tm o.readHistory config.vmId with
    | none => (tm, false)
    | some history =>
      match history.head? with
      | none => (tm, true)
      | some oldest => ((deleteSnapshot tm o.delete config.vmId oldest.id).1, true)
  else (tm, true)

def ticks (config : AutoSnapshotConfig) (tm : Store) (os : List TickOutcomes) : Store :=
  os.foldl (fun tm o => (tick config tm o).1) tm

/-- The history is over the limit when it is counted, and cannot be read again. -/
def Panics (config : AutoSnapshotConfig) (tm : Store) (o : TickOutcomes) : Prop :=
  let tm := (createSnapshot tm o.create o.uuid o.now config.vmId
    (some (snapshotLabel config o))).1
  config.retainCount < getSnapshotCount tm o.readCount config.vmId ∧ o.readHistory = false

theorem tick_panics_iff {config : AutoSnapshotConfig} {tm : Store} {o : TickOutcomes} :
    (tick config tm o).2 = false ↔ Panics config tm o := by
  unfold tick Panics
  generalize (createSnapshot tm o.create o.uuid o.now config.vmId
    (some (snapshotLabel config o))).1 = tm'
  by_cases hfull : config.retainCount < getSnapshotCount tm' o.readCount config.vmId
  · have hread : o.readCount = true := by
      by_contra hread
      rw [Bool.not_eq_true] at hread
      simp [getSnapshotCount, hread] at hfull
    simp only [hfull, true_and]
    cases hagain : o.readHistory with
    | false => simp [getSnapshotHistory]
    | true =>
      have hne : getSnapshots tm' true config.vmId ≠ [] := by
        intro hnil
        simp [getSnapshotCount, hread, hnil] at hfull
      simp only [getSnapshotHistory, if_neg hne]
      cases (getSnapshots tm' true config.vmId).head? <;> simp
  · simp [hfull]

/-! ## What pruning leaves of a list -/

/-- The first element overwritten by the second. -/
def overwriteFirst {α : Type} : List α → List α
  | _ :: b :: rest => b :: b :: rest
  | xs => xs

/-- Appending to a list of limited length, with the oldest element pruned away. -/
def push {α : Type} (limit : ℕ) (xs : List α) (x : α) : List α :=
  if limit < xs.length + 1 then overwriteFirst (xs ++ [x]).tail else xs ++ [x]

/-- What is left of all the elements that were ever there. -/
def kept {α : Type} (limit : ℕ) (all : List α) : List α :=
  if all.length ≤ limit then all else overwriteFirst (all.drop (all.length - limit))

section Lists

variable {α : Type}

@[simp] theorem length_overwriteFirst (xs : List α) : (overwriteFirst xs).length = xs.length := by
  match xs with
  | [] => rfl
  | [a] => rfl
  | a :: b :: rest => rfl

theorem tail_overwriteFirst (xs : List α) : (overwriteFirst xs).tail = xs.tail := by
  match xs with
  | [] => rfl
  | [a] => rfl
  | a :: b :: rest => rfl

theorem overwriteFirst_eq_self_iff (xs : List α) :
    overwriteFirst xs = xs ↔ xs.length ≤ 1 ∨ xs[0]? = xs[1]? := by
  match xs with
  | [] => simp [overwriteFirst]
  | [a] => simp [overwriteFirst]
  | a :: b :: rest => simp [overwriteFirst, eq_comm]

/-- One more element: the list stays what is left of all of them. -/
theorem push_kept {limit : ℕ} (hlimit : 1 ≤ limit) (all : List α) (x : α) :
    push limit (kept limit all) x = kept limit (all ++ [x]) := by
  unfold push kept
  rw [List.length_append, List.length_singleton]
  by_cases hfull : all.length ≤ limit
  · rw [if_pos hfull]
    by_cases hlast : all.length + 1 ≤ limit
    · rw [if_pos hlast, if_neg (by omega)]
    · have hone : all.length + 1 - limit = 1 := by omega
      rw [if_neg hlast, if_pos (by omega), hone, List.drop_one]
  · have hdrop : (all.drop (all.length - limit)).length = limit := by
      rw [List.length_drop]
      omega
    rw [if_neg hfull, if_neg (by omega : ¬all.length + 1 ≤ limit), length_overwriteFirst, hdrop,
      if_pos (Nat.lt_succ_self limit)]
    have hne : overwriteFirst (all.drop (all.length - limit)) ≠ [] := by
      intro h
      have hlength := congrArg List.length h
      rw [length_overwriteFirst, hdrop, List.length_nil] at hlength
      omega
    have hsucc : all.length + 1 - limit = all.length - limit + 1 := by omega
    rw [List.tail_append_of_ne_nil hne, tail_overwriteFirst, List.tail_drop, hsucc,
      List.drop_append_of_le_length (by omega)]

theorem foldl_push {limit : ℕ} (hlimit : 1 ≤ limit) (all xs : List α) :
    xs.foldl (push limit) (kept limit all) = kept limit (all ++ xs) := by
  induction xs generalizing all with
  | nil => rw [List.append_nil, List.foldl_nil]
  | cons x xs ih =>
    rw [List.foldl_cons, push_kept hlimit, ih, List.append_assoc, List.singleton_append]

/-- The newest elements are kept exactly if none had to be pruned, if only one is kept, or if
the oldest of them equals its successor. -/
theorem kept_eq_newest_iff {limit : ℕ} (all : List α) :
    kept limit all = all.drop (all.length - limit) ↔
      limit ≤ 1 ∨ all.length ≤ limit ∨
        all[all.length - limit]? = all[all.length - limit + 1]? := by
  unfold kept
  by_cases hfits : all.length ≤ limit
  · rw [if_pos hfits, Nat.sub_eq_zero_of_le hfits]
    simp [hfits]
  · have hdrop : (all.drop (all.length - limit)).length = limit := by
      rw [List.length_drop]
      omega
    rw [if_neg hfits, overwriteFirst_eq_self_iff, hdrop, List.getElem?_drop, List.getElem?_drop]
    simp [hfits]

end Lists

/-! ## Retention -/

/-- The snapshot without its link to a parent, which deletions rewrite. -/
def unlinked (s : SnapshotEntry) : SnapshotEntry := { s with parentId := none }

/-- The snapshot that a tick creates. -/
def created (config : AutoSnapshotConfig) (o : TickOutcomes) : SnapshotEntry :=
  .new o.uuid o.now config.vmId (some (snapshotLabel config o)) none

/-- Every sled call of the tick succeeds. -/
structure TickOutcomes.Answers (o : TickOutcomes) : Prop where
  create : o.create = ⟨true, o.create.getAgain, true⟩
  readCount : o.readCount = true
  readHistory : o.readHistory = true
  delete : o.delete = ⟨true, true, true⟩

section Tick

variable {config : AutoSnapshotConfig} {tm : Store} {o : TickOutcomes}

theorem history_createSnapshot (tm : Store) (again : Bool) (uuid : String) (now : ℤ) (vmId : String)
    (label : Option String) :
    history (createSnapshot tm ⟨true, again, true⟩ uuid now vmId label).1 vmId =
      history tm vmId ++ [.new uuid now vmId label ((history tm vmId).getLast?.map (·.id))] := by
  simp [createSnapshot, saveSnapshots, Stored.decodeOrDefault]

/-- The oldest entry is found by its own id, whatever other ids there are. -/
theorem history_deleteSnapshot_head {vmId : String} {oldest : SnapshotEntry}
    {rest : List SnapshotEntry} (h : getSnapshots tm true vmId = oldest :: rest) :
    history (deleteSnapshot tm ⟨true, true, true⟩ vmId oldest.id).1 vmId = rewriteNewer rest := by
  have hne : getSnapshots tm true vmId ≠ [] := by simp [h]
  have hfound : getSnapshot tm true vmId oldest.id = some oldest := by
    unfold getSnapshot
    rw [h]
    simp [resolve]
  have hindex : (getSnapshots tm true vmId).findIdx? (fun e => e.id == oldest.id) = some 0 := by
    rw [h]
    simp [List.findIdx?_cons]
  have herase : relink ((getSnapshots tm true vmId).eraseIdx 0) 0 = rewriteNewer rest := by
    rw [h]
    exact @relink_eraseIdx [] rest oldest
  simp only [deleteSnapshot, if_neg hne, hfound, hindex, herase, saveSnapshots, if_true,
    getSnapshots_insert, Stored.decodeOrDefault]

theorem map_unlinked_rewriteNewer (xs : List SnapshotEntry) :
    (rewriteNewer xs).map unlinked = overwriteFirst (xs.map unlinked) := by
  match xs with
  | [] => rfl
  | [a] => rfl
  | a :: b :: rest => rfl

/-- A tick pushes one snapshot. -/
theorem history_tick (h : o.Answers) :
    (history (tick config tm o).1 config.vmId).map unlinked =
      push config.retainCount ((history tm config.vmId).map unlinked) (created config o) := by
  have hcreate := history_createSnapshot tm o.create.getAgain o.uuid o.now config.vmId
    (some (snapshotLabel config o))
  rw [← h.create] at hcreate
  unfold tick getSnapshotCount getSnapshotHistory push
  simp only [h.readCount, h.readHistory, h.delete]
  generalize (createSnapshot tm o.create o.uuid o.now config.vmId
    (some (snapshotLabel config o))).1 = tm' at hcreate ⊢
  have hmap : (history tm' config.vmId).map unlinked =
      (history tm config.vmId).map unlinked ++ [created config o] := by
    rw [hcreate, List.map_append]
    rfl
  have hlength : (getSnapshots tm' true config.vmId).length =
      ((history tm config.vmId).map unlinked).length + 1 := by
    have := congrArg List.length hmap
    simpa using this
  obtain ⟨oldest, rest, hall⟩ : ∃ oldest rest, getSnapshots tm' true config.vmId = oldest :: rest :=
    List.exists_cons_of_length_eq_add_one hlength
  have htail : overwriteFirst ((history tm' config.vmId).map unlinked).tail =
      overwriteFirst (rest.map unlinked) :=
    congrArg (fun xs => overwriteFirst (xs.map unlinked).tail) hall
  have hne : getSnapshots tm' true config.vmId ≠ [] := by simp [hall]
  rw [hlength, ← hmap]
  by_cases hfull : config.retainCount < ((history tm config.vmId).map unlinked).length + 1
  · rw [if_pos hfull, if_pos hfull, if_neg hne, htail]
    have hhead : (getSnapshots tm' true config.vmId).head? = some oldest := by rw [hall]; rfl
    simp only [hhead]
    rw [history_deleteSnapshot_head hall, map_unlinked_rewriteNewer]
  · rw [if_neg hfull, if_neg hfull]

theorem history_ticks {os : List TickOutcomes} (h : ∀ o ∈ os, o.Answers) :
    (history (ticks config tm os) config.vmId).map unlinked =
      (os.map (created config)).foldl (push config.retainCount)
        ((history tm config.vmId).map unlinked) := by
  induction os generalizing tm with
  | nil => rfl
  | cons o os ih =>
    have hrest := @ih (tick config tm o).1 fun o ho => h o (List.mem_cons_of_mem _ ho)
    rw [List.map_cons, List.foldl_cons, ← history_tick (h o List.mem_cons_self), ← hrest]
    rfl

/-- All the snapshots there ever were: those of the start, then one for each tick. -/
def allSnapshots (config : AutoSnapshotConfig) (tm : Store) (os : List TickOutcomes) :
    List SnapshotEntry :=
  (history tm config.vmId).map unlinked ++ os.map (created config)

/-- The history holds exactly the newest snapshots, as many as are retained. -/
def KeepsNewest (config : AutoSnapshotConfig) (tm : Store) (os : List TickOutcomes) : Prop :=
  let all := allSnapshots config tm os
  (history (ticks config tm os) config.vmId).map unlinked =
    all.drop (all.length - min all.length config.retainCount)

/-- Ticks keep the newest snapshots exactly if one is retained, if there are not more of them
than are retained, or if the two oldest of those to be kept are the same. -/
theorem retention_keeps_newest_iff (config : AutoSnapshotConfig) (tm : Store)
    (os : List TickOutcomes) (hretain : 1 ≤ config.retainCount)
    (hstart : (history tm config.vmId).length ≤ config.retainCount)
    (hanswers : ∀ o ∈ os, o.Answers) :
    KeepsNewest config tm os ↔
      let all := allSnapshots config tm os
      config.retainCount = 1 ∨ all.length ≤ config.retainCount ∨
        all[all.length - config.retainCount]? = all[all.length - config.retainCount + 1]? := by
  have hkept : (history tm config.vmId).map unlinked =
      kept config.retainCount ((history tm config.vmId).map unlinked) := by
    rw [kept, if_pos (by simpa using hstart)]
  have hend : (history (ticks config tm os) config.vmId).map unlinked =
      kept config.retainCount (allSnapshots config tm os) := by
    rw [history_ticks hanswers, hkept, foldl_push hretain]
    rfl
  unfold KeepsNewest
  simp only [hend]
  have hmin : ∀ n, n - min n config.retainCount = n - config.retainCount := by omega
  have hone : config.retainCount = 1 ↔ config.retainCount ≤ 1 := by omega
  rw [hmin, kept_eq_newest_iff, hone]

end Tick

section Ticks

def hourly (retainCount : ℕ) : AutoSnapshotConfig := ⟨"vm-1", 3600000000000, retainCount, none⟩

def threeTicks : List TickOutcomes :=
  [{ uuid := "5f2c", now := 1, stamp := "20240101-000000" },
    { uuid := "91aa", now := 2, stamp := "20240101-010000" },
    { uuid := "c0d4", now := 3, stamp := "20240101-020000" }]

theorem threeTicks_answer : ∀ o ∈ threeTicks, o.Answers := by
  intro o ho
  simp only [threeTicks, List.mem_cons, List.not_mem_nil, or_false] at ho
  obtain rfl | rfl | rfl := ho <;> exact ⟨rfl, rfl, rfl, rfl⟩

/-- With one snapshot retained, the second and the third tick prune. -/
theorem pruning_ticks_keep_newest :
    1 ≤ (hourly 1).retainCount ∧ (history ∅ "vm-1").length ≤ (hourly 1).retainCount ∧
      (∀ o ∈ threeTicks, o.Answers) ∧ KeepsNewest (hourly 1) ∅ threeTicks := by
  refine ⟨by decide, by decide, threeTicks_answer, ?_⟩
  exact (retention_keeps_newest_iff (hourly 1) ∅ threeTicks (by decide) (by decide)
    threeTicks_answer).mpr (.inl rfl)

/-- Three ticks with two retained lose the second snapshot and keep the third twice. -/
theorem third_tick_loses_second_snapshot :
    (∀ o ∈ threeTicks, o.Answers) ∧
      ids (history (ticks (hourly 2) ∅ threeTicks) "vm-1") = ["c0d4", "c0d4"] ∧
      ¬KeepsNewest (hourly 2) ∅ threeTicks := by
  refine ⟨threeTicks_answer, by decide, ?_⟩
  unfold KeepsNewest
  decide

end Ticks

end Vyoma.AutoSnapshot
