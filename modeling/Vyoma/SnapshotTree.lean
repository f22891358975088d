import Vyoma.OrderedMaps

/-!
# The snapshot tree of the storage crate

Snapshot nodes are stored in a sled tree under their ids. A second tree maps
`<vm_id>:<tag>` to the id of the tagged snapshot. The two trees are written one after
the other, and each call to sled may fail in between. Every write of a node uses the
node's own id as its key, so a tree carries this as a field.
-/
namespace Vyoma.Storage
open OrderedMaps

structure SnapshotNode where
  id : String
  vmId : String
  parentId : Option String
  createdAt : UInt64
  label : Option String := none
  tag : Option String := none
  memoryPath : String := ""
  snapshotPath : String := ""
  cowDeltaPath : String := ""
  cowDeltaSize : UInt64 := 0
  memorySize : UInt64 := 0
  deriving DecidableEq, Repr

namespace SnapshotNode

/-- `SnapshotNode::new`, given the drawn uuid and the clock reading. -/
def new (uuid : String) (now : UInt64) (vmId : String) (parentId : Option String) : SnapshotNode where
  id := uuid
  vmId := vmId
  parentId := parentId
  createdAt := now

def withLabel (node : SnapshotNode) (label : String) : SnapshotNode :=
  { node with label := some label }

def withTag (node : SnapshotNode) (tag : String) : SnapshotNode := { node with tag := some tag }

end SnapshotNode

inductive StorageError where
  | sled
  | notFound (message : String)
  deriving DecidableEq, Repr

/-- Which sled calls of one operation succeed. `write` is the insertion or removal of
the node, with its serialisation; `writeTag` the one in the index. -/
structure SledOutcomes where
  read : Bool := true
  write : Bool := true
  flush : Bool := true
  readTag : Bool := true
  writeTag : Bool := true
  flushTag : Bool := true
  deriving DecidableEq, Repr

structure SnapshotTree where
  snapshots : Std.ExtTreeMap String SnapshotNode
  tags : Std.ExtTreeMap String String
  keyed : ∀ (id : String) (node : SnapshotNode), snapshots[id]? = some node → node.id = id

/-- The key under which the index holds a tag of a VM. -/
def tagKey (vmId tag : String) : String := vmId ++ ":" ++ tag

namespace SnapshotTree

def empty : SnapshotTree where
  snapshots := ∅
  tags := ∅
  keyed id node h := by simp at h

/-- A node is inserted under its own id. -/
def put (tree : SnapshotTree) (node : SnapshotNode) : SnapshotTree where
  snapshots := tree.snapshots.insert node.id node
  tags := tree.tags
  keyed id other h := by
    obtain ⟨hid, rfl⟩ | ⟨_, hold⟩ := lookup_insert_eq_some_iff.mp h
    · exact hid
    · exact tree.keyed id other hold

def remove (tree : SnapshotTree) (id : String) : SnapshotTree where
  snapshots := tree.snapshots.erase id
  tags := tree.tags
  keyed other node h := tree.keyed other node (lookup_erase_eq_some_iff.mp h).2

/-- The insertion into the index and its flush, the last two calls of `create` and
`tag_snapshot`. -/
def indexTag (tree : SnapshotTree) (io : SledOutcomes) (vmId tag snapId : String) :
    SnapshotTree × Except StorageError Unit :=
  if io.writeTag then
    ({ tree with tags := tree.tags.insert (tagKey vmId tag) snapId },
      if io.flushTag then .ok () else .error .sled)
  else (tree, .error .sled)

def create (tree : SnapshotTree) (io : SledOutcomes) (node : SnapshotNode) :
    SnapshotTree × Except StorageError Unit :=
  if !io.write then (tree, .error .sled)
  else if !io.flush then (tree.put node, .error .sled)
  else
    match node.tag with
    | none => (tree.put node, .ok ())
    | some tag => (tree.put node).indexTag io node.vmId tag node.id

def update (tree : SnapshotTree) (io : SledOutcomes) (node : SnapshotNode) :
    SnapshotTree × Except StorageError Unit :=
  if io.write then (tree.put node, if io.flush then .ok () else .error .sled)
  else (tree, .error .sled)

def get (tree : SnapshotTree) (io : SledOutcomes) (id : String) :
    Except StorageError SnapshotNode :=
  if io.read then
    match tree.snapshots[id]? with
    | some node => .ok node
    | none => .error (.notFound ("Snapshot " ++ id ++ " not found"))
  else .error .sled

/-- The root of a branched VM. -/
def branched (uuid : String) (now : UInt64) (snapId newVmId : String) : SnapshotNode :=
  (SnapshotNode.new uuid now newVmId (some snapId)).withLabel ("branched-from-" ++ snapId)

def branch (tree : SnapshotTree) (io : SledOutcomes) (uuid : String) (now : UInt64)
    (snapId newVmId : String) : SnapshotTree × Except StorageError SnapshotNode :=
  match tree.get io snapId with
  | .error e => (tree, .error e)
  | .ok _ =>
    let newNode := branched uuid now snapId newVmId
    let (tree, result) := tree.create io newNode
    (tree, result.map fun _ => newNode)

def tagSnapshot (tree : SnapshotTree) (io : SledOutcomes) (snapId vmId tag : String) :
    SnapshotTree × Except StorageError Unit :=
  match tree.get io snapId with
  | .error e => (tree, .error e)
  | .ok node =>
    let node := node.withTag tag
    if !io.write then (tree, .error .sled)
    else if !io.flush then (tree.put node, .error .sled)
    else (tree.put node).indexTag io vmId tag snapId

def getByTag (tree : SnapshotTree) (io : SledOutcomes) (vmId tag : String) :
    Except StorageError (Option SnapshotNode) :=
  if io.readTag then
    match tree.tags[tagKey vmId tag]? with
    | some snapId => (tree.get io snapId).map some
    | none => .ok none
  else .error .sled

/-- An error in removing the index entry is dropped. -/
def untag (tree : SnapshotTree) (io : SledOutcomes) (node : SnapshotNode) : SnapshotTree :=
  match node.tag with
  | some tag =>
    if io.writeTag then { tree with tags := tree.tags.erase (tagKey node.vmId tag) } else tree
  | none => tree

def delete (tree : SnapshotTree) (io : SledOutcomes) (id : String) :
    SnapshotTree × Except StorageError Unit :=
  match tree.get io id with
  | .error e => (tree, .error e)
  | .ok node =>
    let tree := tree.untag io node
    if io.write then (tree.remove id, if io.flush then .ok () else .error .sled)
    else (tree, .error .sled)

/-! ## What each operation leaves -/

variable (tree : SnapshotTree) (io : SledOutcomes)

@[simp] theorem put_snapshots (node : SnapshotNode) :
    (tree.put node).snapshots = tree.snapshots.insert node.id node := rfl

@[simp] theorem put_tags (node : SnapshotNode) : (tree.put node).tags = tree.tags := rfl

@[simp] theorem remove_snapshots (id : String) :
    (tree.remove id).snapshots = tree.snapshots.erase id := rfl

@[simp] theorem remove_tags (id : String) : (tree.remove id).tags = tree.tags := rfl

@[simp] theorem untag_snapshots (node : SnapshotNode) :
    (tree.untag io node).snapshots = tree.snapshots := by
  unfold untag
  split
  · split <;> rfl
  · rfl

/-- Untagging removes the entry of the node's own tag, whatever it names. -/
theorem untag_tags_eq_some_iff {node : SnapshotNode} {key id : String} :
    (tree.untag io node).tags[key]? = some id ↔ tree.tags[key]? = some id ∧
      (io.writeTag = true → ∀ tag, node.tag = some tag → tagKey node.vmId tag ≠ key) := by
  unfold untag
  cases node.tag with
  | none => simp
  | some tag =>
    cases io.writeTag with
    | false => simp
    | true => simp [lookup_erase_eq_some_iff, and_comm]

theorem get_eq_ok_iff {id : String} {node : SnapshotNode} :
    tree.get io id = .ok node ↔ io.read = true ∧ tree.snapshots[id]? = some node := by
  unfold get
  cases io.read with
  | false => simp
  | true => cases tree.snapshots[id]? <;> simp

/-- The index may be left as it was, or hold the tag of the node. -/
theorem indexTag_cases (vmId tag snapId : String) :
    (tree.indexTag io vmId tag snapId).1 = tree ∨
      (tree.indexTag io vmId tag snapId).1 =
        { tree with tags := tree.tags.insert (tagKey vmId tag) snapId } := by
  unfold indexTag
  split
  · exact .inr rfl
  · exact .inl rfl

theorem create_cases (node : SnapshotNode) :
    ((tree.create io node).1 = tree) ∨ ((tree.create io node).1 = tree.put node) ∨
      ∃ tag, node.tag = some tag ∧ (tree.create io node).1 =
        { tree.put node with tags := tree.tags.insert (tagKey node.vmId tag) node.id } := by
  unfold create
  split
  · exact .inl rfl
  split
  · exact .inr (.inl rfl)
  cases htag : node.tag with
  | none => exact .inr (.inl rfl)
  | some tag =>
    obtain h | h := (tree.put node).indexTag_cases io node.vmId tag node.id
    · exact .inr (.inl h)
    · exact .inr (.inr ⟨tag, rfl, h⟩)

theorem branch_cases (uuid : String) (now : UInt64) (snapId newVmId : String) :
    ((tree.branch io uuid now snapId newVmId).1 = tree) ∨
      (snapId ∈ tree.snapshots ∧
        (tree.branch io uuid now snapId newVmId).1 =
          tree.put (branched uuid now snapId newVmId)) := by
  unfold branch
  cases hget : tree.get io snapId with
  | error e => exact .inl rfl
  | ok parent =>
    have hparent : snapId ∈ tree.snapshots :=
      mem_iff_lookup.mpr ⟨parent, ((tree.get_eq_ok_iff io).mp hget).2⟩
    obtain h | h | ⟨tag, htag, _⟩ := tree.create_cases io (branched uuid now snapId newVmId)
    · exact .inl h
    · exact .inr ⟨hparent, h⟩
    · cases htag

theorem tagSnapshot_cases (snapId vmId tag : String) :
    ((tree.tagSnapshot io snapId vmId tag).1 = tree ∧
      ¬ (io.read = true ∧ io.write = true ∧ snapId ∈ tree.snapshots)) ∨
    ∃ node, io.read = true ∧ io.write = true ∧ tree.snapshots[snapId]? = some node ∧
      ((tree.tagSnapshot io snapId vmId tag).1 = tree.put (node.withTag tag) ∨
        (tree.tagSnapshot io snapId vmId tag).1 = { tree.put (node.withTag tag) with
          tags := tree.tags.insert (tagKey vmId tag) snapId }) := by
  unfold tagSnapshot
  cases hget : tree.get io snapId with
  | error e =>
    refine .inl ⟨rfl, fun h => ?_⟩
    obtain ⟨node, hnode⟩ := mem_iff_lookup.mp h.2.2
    rw [(tree.get_eq_ok_iff io).mpr ⟨h.1, hnode⟩] at hget
    cases hget
  | ok node =>
    obtain ⟨hread, hnode⟩ := (tree.get_eq_ok_iff io).mp hget
    cases hwrite : io.write with
    | false => exact .inl ⟨rfl, by simp⟩
    | true =>
      refine .inr ⟨node, hread, rfl, hnode, ?_⟩
      cases io.flush with
      | false => exact .inl rfl
      | true => exact (tree.put (node.withTag tag)).indexTag_cases io vmId tag snapId

/-- The index is written last, once every earlier call has succeeded. -/
theorem tagSnapshot_tags {snapId : String} (hstored : snapId ∈ tree.snapshots) (vmId tag : String) :
    (tree.tagSnapshot io snapId vmId tag).1.tags =
      if io.read ∧ io.write ∧ io.flush ∧ io.writeTag
        then tree.tags.insert (tagKey vmId tag) snapId else tree.tags := by
  obtain ⟨node, hnode⟩ := mem_iff_lookup.mp hstored
  unfold tagSnapshot indexTag
  cases hread : io.read with
  | false => simp [get, hread]
  | true =>
    rw [(tree.get_eq_ok_iff io).mpr ⟨hread, hnode⟩]
    cases io.write with
    | false => simp
    | true =>
      cases io.flush with
      | false => simp
      | true => cases io.writeTag <;> simp

theorem mem_tagSnapshot (snapId vmId tag id : String) :
    id ∈ (tree.tagSnapshot io snapId vmId tag).1.snapshots ↔ id ∈ tree.snapshots := by
  obtain ⟨he, _⟩ | ⟨node, _, _, hnode, he⟩ := tree.tagSnapshot_cases io snapId vmId tag
  · rw [he]
  have hput : id ∈ (tree.put (node.withTag tag)).snapshots ↔ id ∈ tree.snapshots := by
    have hid : (node.withTag tag).id = snapId := tree.keyed snapId node hnode
    have hstored : snapId ∈ tree.snapshots := mem_iff_lookup.mpr ⟨node, hnode⟩
    rw [put_snapshots, mem_insert_iff, hid]
    constructor
    · intro h
      obtain rfl | h := h
      · exact hstored
      · exact h
    · exact .inr
  obtain he | he := he
  · rwa [he]
  · rwa [he]

theorem delete_cases (id : String) :
    ((tree.delete io id).1 = tree ∧ ¬ (io.read = true ∧ id ∈ tree.snapshots)) ∨
    ∃ node, io.read = true ∧ tree.snapshots[id]? = some node ∧
      (tree.delete io id).1 =
        if io.write then (tree.untag io node).remove id else tree.untag io node := by
  unfold delete
  cases hget : tree.get io id with
  | error e =>
    refine .inl ⟨rfl, fun h => ?_⟩
    obtain ⟨node, hnode⟩ := mem_iff_lookup.mp h.2
    rw [(tree.get_eq_ok_iff io).mpr ⟨h.1, hnode⟩] at hget
    cases hget
  | ok node =>
    obtain ⟨hread, hnode⟩ := (tree.get_eq_ok_iff io).mp hget
    refine .inr ⟨node, hread, hnode, ?_⟩
    cases io.write <;> rfl

end SnapshotTree

/-- The calls that change the tree, each with the outcomes of its sled calls. -/
inductive TreeAction where
  | create (io : SledOutcomes) (node : SnapshotNode)
  | branch (io : SledOutcomes) (uuid : String) (now : UInt64) (snapId newVmId : String)
  | tagSnapshot (io : SledOutcomes) (snapId vmId tag : String)
  | delete (io : SledOutcomes) (id : String)

def treeStep (tree : SnapshotTree) : TreeAction → SnapshotTree
  | .create io node => (tree.create io node).1
  | .branch io uuid now snapId newVmId => (tree.branch io uuid now snapId newVmId).1
  | .tagSnapshot io snapId vmId tag => (tree.tagSnapshot io snapId vmId tag).1
  | .delete io id => (tree.delete io id).1

end Vyoma.Storage
