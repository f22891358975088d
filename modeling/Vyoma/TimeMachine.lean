import Vyoma.RustText
import Mathlib.Data.List.Basic
import Mathlib.Data.Int.Notation

/-!
# The snapshot history store

`TimeMachine` keeps one list of snapshot entries per VM in a sled tree, encoded
as JSON. A stored value is represented by what its decoder makes of it: a
history, or bytes that do not decode. A sled call may fail; the code reads a
failed `get` as an absent history and drops the error of a failed `insert`, so
the outcome of each call is an argument of the operation that makes it.
-/
namespace Vyoma.TimeMachine
open RustText

structure SnapshotEntry where
  id : String
  vmId : String
  createdAt : ℤ
  cowDeltaSize : UInt64
  label : Option String
  parentId : Option String
  deriving DecidableEq, Repr

/-- A stored value seen through `serde_json::from_slice`. -/
inductive Stored where
  | history (snapshots : List SnapshotEntry)
  | undecodable (bytes : List UInt8)
  deriving DecidableEq, Repr

/-- The `timemachine_tree` of sled, with its keys in byte order. -/
abbrev Store := Std.ExtTreeMap String Stored

/-- Which of the sled calls of one operation succeed. `getSnapshot` inside a
deletion reads the tree a second time. -/
structure SledOutcomes where
  get : Bool := true
  getAgain : Bool := true
  insert : Bool := true
  deriving DecidableEq, Repr

/-- `serde_json::from_slice(..).unwrap_or_default()`. -/
def Stored.decodeOrDefault : Stored → List SnapshotEntry
  | .history snapshots => snapshots
  | .undecodable _ => []

/-- `get_snapshots`, given whether the sled read succeeds. -/
def getSnapshots (tm : Store) (readOk : Bool) (vmId : String) : List SnapshotEntry :=
  if readOk then
    match tm[vmId]? with
    | some stored => stored.decodeOrDefault
    | none => []
  else []

/-- `save_snapshots`: an insertion error is discarded. -/
def saveSnapshots (tm : Store) (writeOk : Bool) (vmId : String)
    (snapshots : List SnapshotEntry) : Store :=
  if writeOk then tm.insert vmId (.history snapshots) else tm

/-- `SnapshotEntry::new`, given the drawn uuid and the clock reading. -/
def SnapshotEntry.new (uuid : String) (now : ℤ) (vmId : String) (label parentId : Option String) :
    SnapshotEntry where
  id := uuid
  vmId := vmId
  createdAt := now
  cowDeltaSize := 0
  label := label
  parentId := parentId

def createSnapshot (tm : Store) (io : SledOutcomes) (uuid : String) (now : ℤ) (vmId : String)
    (label : Option String) : Store × SnapshotEntry :=
  let snapshots := getSnapshots tm io.get vmId
  let parentId := snapshots.getLast?.map SnapshotEntry.id
  let entry := SnapshotEntry.new uuid now vmId label parentId
  (saveSnapshots tm io.insert vmId (snapshots ++ [entry]), entry)

/-- `parse_snapshot_ref`: the number after `snap:`, read as a 64-bit `usize`. -/
def parseSnapshotRef (reference : String) : Except String ℕ :=
  match stripPrefix "snap:" reference with
  | none => .error "Invalid snapshot ref. Use snap:N"
  | some number =>
    match parseUnsigned 64 number with
    | none => .error "Invalid snapshot index"
    | some idx => .ok idx

/-- The lookup of `get_snapshot` in an already loaded history: first by id, then
by label, then by position, counted from one where possible. -/
def resolve (snaps : List SnapshotEntry) (snapshotRef : String) : Option SnapshotEntry :=
  match snaps.find? (fun s => s.id == snapshotRef) with
  | some s => some s
  | none =>
    match snaps.find? (fun s => s.label == some snapshotRef) with
    | some s => some s
    | none =>
      match parseSnapshotRef snapshotRef with
      | .error _ => none
      | .ok idx =>
        if 0 < idx ∧ idx ≤ snaps.length then snaps[idx - 1]?
        else if idx < snaps.length then snaps[idx]?
        else none

def getSnapshot (tm : Store) (readOk : Bool) (vmId snapshotRef : String) : Option SnapshotEntry :=
  resolve (getSnapshots tm readOk vmId) snapshotRef

/-- The rewrite that follows the removal in `delete_snapshot`: the entry now at
`index` is overwritten by a copy of its successor whose parent is that entry. -/
def relink (snapshots : List SnapshotEntry) (index : ℕ) : List SnapshotEntry :=
  match snapshots[index]? with
  | none => snapshots
  | some next =>
    match snapshots[index + 1]? with
    | none => snapshots
    | some np => snapshots.set index { np with parentId := some next.id }

def deleteSnapshot (tm : Store) (io : SledOutcomes) (vmId snapshotRef : String) :
    Store × Except String Unit :=
  let snapshots := getSnapshots tm io.get vmId
  if snapshots = [] then (tm, .error "VM not found")
  else
    match getSnapshot tm io.getAgain vmId snapshotRef with
    | none => (tm, .error "Snapshot not found")
    | some s =>
      match snapshots.findIdx? (fun e => e.id == s.id) with
      | none => (tm, .error "Snapshot not found")
      | some index =>
        (saveSnapshots tm io.insert vmId (relink (snapshots.eraseIdx index) index), .ok ())

/-- What a VM's history reads as when sled answers. -/
abbrev history (tm : Store) (vmId : String) : List SnapshotEntry := getSnapshots tm true vmId

def ids (snapshots : List SnapshotEntry) : List String := snapshots.map SnapshotEntry.id

@[simp] theorem ids_nil : ids [] = [] := rfl

@[simp] theorem ids_cons (s : SnapshotEntry) (snaps : List SnapshotEntry) :
    ids (s :: snaps) = s.id :: ids snaps := rfl

@[simp] theorem ids_append (xs ys : List SnapshotEntry) : ids (xs ++ ys) = ids xs ++ ids ys :=
  List.map_append

theorem mem_ids {s : SnapshotEntry} {snaps : List SnapshotEntry} (h : s ∈ snaps) :
    s.id ∈ ids snaps := List.mem_map_of_mem h

end Vyoma.TimeMachine
