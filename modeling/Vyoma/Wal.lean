import Mathlib.Data.List.Basic
import Vyoma.HashMaps
import Vyoma.RustText

/-!
# The write-ahead log of VM lifecycle events

Each record is stored in a sled tree under the key `<timestamp>:<vm_id>`, with the
event as its value. Recovery asks for the VMs that are active, and folds the records
in key order into a hash map to answer. Every call to sled may fail.
-/
namespace Vyoma.State
open RustText

inductive WalEntry where
  | vmCreate (id : String) (timestamp : UInt64)
  | vmStart (id : String) (timestamp : UInt64)
  | vmStop (id : String) (timestamp : UInt64)
  | vmDestroy (id : String) (timestamp : UInt64)
  | vmCheckpoint (id snapshotPath : String) (timestamp : UInt64)
  deriving DecidableEq, Repr

namespace WalEntry

def vmId : WalEntry → Option String
  | vmCreate id _ => some id
  | vmStart id _ => some id
  | vmStop id _ => some id
  | vmDestroy id _ => some id
  | vmCheckpoint id _ _ => some id

/-- The `matches!` of `get_active_vm_ids`. -/
def isActive : WalEntry → Bool
  | vmCreate .. => true
  | vmStart .. => true
  | _ => false

end WalEntry

/-- A stored value: a serialised event, or bytes that do not decode to one. -/
inductive WalValue where
  | event (entry : WalEntry)
  | undecodable (bytes : List UInt8)
  deriving DecidableEq, Repr

def WalValue.decode : WalValue → WalEntry
  | event entry => entry
  | undecodable _ => .vmCreate "parse_error" 0

structure Wal where
  tree : Std.ExtTreeMap String WalValue

namespace Wal

/-- `append` draws the key's timestamp itself; a failed insert leaves the tree. -/
def append (wal : Wal) (insertOk flushOk : Bool) (now : UInt64) (entry : WalEntry) :
    Wal × Bool :=
  let key := toString now ++ ":" ++ entry.vmId.getD "unknown"
  if insertOk then ({ wal with tree := wal.tree.insert key (.event entry) }, flushOk)
  else (wal, false)

/-- Records in key order; those that sled fails to read are left out. -/
def iterateWal (wal : Wal) (readOk : String → Bool) : List (String × WalEntry) :=
  (wal.tree.toList.filter fun kv => readOk kv.1).map fun kv => (kv.1, kv.2.decode)

def getVmEntries (wal : Wal) (readOk : String → Bool) (vmId : String) : List WalEntry :=
  (wal.iterateWal readOk).filterMap fun kv => if kv.2.vmId = some vmId then some kv.2 else none

/-- One turn of the loop of `get_active_vm_ids`. A later record of a known VM moves
its timestamp forward and leaves its entry. -/
def recordLatest (latest : HashMap String (WalEntry × ℕ)) (kv : String × WalEntry) :
    HashMap String (WalEntry × ℕ) :=
  match splitOnce ':' kv.1 with
  | none => latest
  | some (stamp, vmId) =>
    let ts := (parseUnsigned 64 stamp).getD 0
    match latest.lookup vmId with
    | some (entry, existingTs) =>
      if ts > existingTs then latest.insert vmId (entry, ts) else latest
    | none => latest.insert vmId (kv.2, ts)

def latest (wal : Wal) (readOk : String → Bool) : HashMap String (WalEntry × ℕ) :=
  (wal.iterateWal readOk).foldl recordLatest ∅

def getActiveVmIds (wal : Wal) (readOk : String → Bool)
    (order : HashMap.Traversal String (WalEntry × ℕ)) : List (String × ℕ) :=
  ((order.visit (wal.latest readOk)).pairs.filter fun e => e.2.1.isActive).map
    fun e => (e.1, e.2.2)

end Wal

end Vyoma.State
