import Vyoma.Numerals
import Vyoma.Runs
import Vyoma.WalTracking

/-!
# Reading back what was appended to the log

A key of the log is a clock reading and a VM id, as one text. Readings of one length sort
as numbers do, so sled yields the records in the order in which they were appended, and
the first colon of a key ends the reading, whatever the id holds.
-/
namespace Vyoma.State
open RustText OrderedMaps Runs

/-- A call to `append`, with the clock it reads and what sled answers. -/
structure AppendCall where
  insertOk : Bool
  flushOk : Bool
  now : UInt64
  entry : WalEntry

namespace AppendCall

def vmId (c : AppendCall) : String := c.entry.vmId.getD "unknown"

theorem vmId_eq (c : AppendCall) : c.entry.vmId = some c.vmId := by
  unfold vmId
  cases c.entry <;> rfl

def key (c : AppendCall) : String := recordKey c.now c.vmId

end AppendCall

def Wal.call (wal : Wal) (c : AppendCall) : Wal :=
  (wal.append c.insertOk c.flushOk c.now c.entry).1

/-- `Wal::new` on an empty database. -/
def Wal.new : Wal := ⟨∅⟩

/-- The calls whose record reached the tree. -/
def inserted (calls : List AppendCall) : List AppendCall := calls.filter (·.insertOk)

/-- The clock has nineteen digits and grows from call to call. -/
structure Ticking (calls : List AppendCall) : Prop where
  low : ∀ c ∈ calls, 10 ^ 18 ≤ c.now.toNat
  high : ∀ c ∈ calls, c.now.toNat < 10 ^ 19
  increasing : calls.Pairwise fun a b => a.now < b.now

section Records

variable {calls : List AppendCall} {c : AppendCall}

theorem Ticking.of_append {later : List AppendCall} (h : Ticking (calls ++ later)) :
    Ticking calls where
  low c hc := h.low c (List.mem_append_left _ hc)
  high c hc := h.high c (List.mem_append_left _ hc)
  increasing := (List.pairwise_append.mp h.increasing).1

theorem splitOnce_recordKey (now : UInt64) (vmId : String) :
    splitOnce ':' (recordKey now vmId) = some (toString now, vmId) := by
  refine splitOnce_of_notMem (fun hmem => ?_) vmId
  exact absurd (isDigit_of_mem_toString (n := now.toNat) hmem) (by decide)

theorem parseUnsigned_now (now : UInt64) : parseUnsigned 64 (toString now) = some now.toNat :=
  parseUnsigned_toString now.toNat_lt

/-- A later key sorts behind an earlier one, whatever the ids are. -/
theorem compare_key {a b : AppendCall} (hlow : 10 ^ 18 ≤ a.now.toNat)
    (hhigh : b.now.toNat < 10 ^ 19) (h : a.now < b.now) : compare a.key b.key = .lt := by
  unfold AppendCall.key recordKey
  rw [String.append_assoc, String.append_assoc]
  exact compare_toString_append hlow (UInt64.lt_iff_toNat_lt.mp h) hhigh _ _

/-- The tree holds the records of the calls, in their order. -/
def Holds (wal : Wal) (calls : List AppendCall) : Prop :=
  wal.tree.toList = (inserted calls).map fun c => (c.key, .event c.entry)

theorem holds_call {wal : Wal} (h : Holds wal calls)
    (hticking : Ticking (inserted (calls ++ [c]))) : Holds (wal.call c) (calls ++ [c]) := by
  unfold Holds inserted at *
  rw [Wal.call]
  cases hok : c.insertOk with
  | false => simp [Wal.append, hok, h]
  | true =>
    have hcalls : (calls ++ [c]).filter (·.insertOk) = calls.filter (·.insertOk) ++ [c] := by
      rw [List.filter_append, List.filter_singleton, hok]
      rfl
    rw [hcalls] at hticking ⊢
    have hbehind : ∀ k, k ∈ wal.tree → compare k (recordKey c.now c.vmId) = .lt := by
      intro k hk
      obtain ⟨value, hvalue⟩ := mem_iff_lookup.mp hk
      have hmem := Std.ExtTreeMap.mem_toList_iff_getElem?_eq_some.mpr hvalue
      rw [h, List.mem_map] at hmem
      obtain ⟨a, ha, heq⟩ := hmem
      have hlow := hticking.low a (List.mem_append_left _ ha)
      have hhigh := hticking.high c (List.mem_append_right _ List.mem_cons_self)
      have hlt := (List.pairwise_append.mp hticking.increasing).2.2 a ha c List.mem_cons_self
      rw [← (Prod.mk.inj heq).1]
      exact compare_key hlow hhigh hlt
    rw [append_tree wal c.now c.flushOk c.vmId_eq, toList_insert_of_greatest _ hbehind, h,
      List.map_append]
    rfl

theorem holds_exec (h : Ticking (inserted calls)) : Holds (exec Wal.call Wal.new calls) calls := by
  induction calls using List.reverseRecOn with
  | nil => simp [Holds, inserted, Wal.new]
  | append_singleton calls c ih =>
    rw [exec_append, exec_cons, exec_nil]
    refine holds_call (ih ?_) h
    rw [inserted, List.filter_append] at h
    exact h.of_append

theorem getVmEntries_of_holds {wal : Wal} (h : Holds wal calls) (vmId : String) :
    wal.getVmEntries (fun _ => true) vmId =
      ((inserted calls).map (·.entry)).filter fun entry => entry.vmId = some vmId := by
  have hkeep : (wal.tree.toList.filter fun kv => (fun _ : String => true) kv.1) = wal.tree.toList :=
    List.filter_eq_self.mpr fun _ _ => rfl
  unfold Wal.getVmEntries Wal.iterateWal
  rw [hkeep, h, List.filterMap_map, List.filterMap_map, List.filter_map, ← List.filterMap_eq_filter,
    List.map_filterMap]
  refine List.filterMap_congr fun c _ => ?_
  by_cases hid : c.entry.vmId = some vmId <;> simp [WalValue.decode, hid]

end Records

/-- After any appends, some of which may fail, each VM's events come back in order, and every
key splits into the clock reading and the id it was made of. -/
theorem appended_entries_read_back (calls : List AppendCall) (h : Ticking (inserted calls)) :
    (∀ vmId, (exec Wal.call Wal.new calls).getVmEntries (fun _ => true) vmId =
      ((inserted calls).map (·.entry)).filter fun entry => entry.vmId = some vmId) ∧
    ((exec Wal.call Wal.new calls).tree.toList.map fun kv => (splitOnce ':' kv.1).map fun part =>
        (parseUnsigned 64 part.1, part.2)) =
      (inserted calls).map fun c => some (some c.now.toNat, c.vmId) := by
  have hholds := holds_exec h
  refine ⟨getVmEntries_of_holds hholds, ?_⟩
  rw [hholds, List.map_map]
  refine List.map_congr_left fun c _ => ?_
  simp [AppendCall.key, splitOnce_recordKey, parseUnsigned_now]

/-- Two VMs whose ids hold colons, and an insert that fails. -/
def colonCalls : List AppendCall :=
  [⟨true, true, 1700000000000000000, .vmCreate "a:b" 1⟩,
    ⟨true, false, 1700000000000000009, .vmStart "a" 2⟩,
    ⟨false, true, 5, .vmStop "a:b" 3⟩,
    ⟨true, true, 1700000000000000010, .vmStop "a:b" 3⟩]

theorem colonCalls_read_back :
    (exec Wal.call Wal.new colonCalls).getVmEntries (fun _ => true) "a:b" =
      [.vmCreate "a:b" 1, .vmStop "a:b" 3] := by
  have hticking : Ticking (inserted colonCalls) := ⟨by decide, by decide, by decide⟩
  exact (appended_entries_read_back colonCalls hticking).1 "a:b"

end Vyoma.State
