import Vyoma.Runs
import Vyoma.SnapshotTree

/-!
# Ancestry in the snapshot tree

A branch records the snapshot it was taken from as its parent, and its overlay needs the
disk of that parent. Deletion looks at the deleted node alone. Starting from roots, the
ancestry is closed along a run exactly when only snapshots without children are deleted.
-/
namespace Vyoma.Storage
open OrderedMaps Runs

/-- Following the parents from a stored snapshot ends at a stored root. -/
inductive Rooted (tree : SnapshotTree) : String → Prop
  | root {id node} (hnode : tree.snapshots[id]? = some node) (hroot : node.parentId = none) :
    Rooted tree id
  | child {id node parent} (hnode : tree.snapshots[id]? = some node)
    (hparent : node.parentId = some parent) (hrooted : Rooted tree parent) : Rooted tree id

structure AncestryClosed (tree : SnapshotTree) : Prop where
  parentStored : ∀ (id : String) (node : SnapshotNode) (parent : String),
    tree.snapshots[id]? = some node → node.parentId = some parent → parent ∈ tree.snapshots
  rooted : ∀ id, id ∈ tree.snapshots → Rooted tree id

def Childless (tree : SnapshotTree) (id : String) : Prop :=
  ∀ (child : String) (node : SnapshotNode), tree.snapshots[child]? = some node →
    node.parentId ≠ some id

instance (tree : SnapshotTree) (id : String) : Decidable (Childless tree id) :=
  decidable_of_iff (∀ entry ∈ tree.snapshots.toList, entry.2.parentId ≠ some id) <| by
    simp only [Prod.forall, Std.ExtTreeMap.mem_toList_iff_getElem?_eq_some, Childless]

theorem Rooted.mem {tree : SnapshotTree} {id : String} (h : Rooted tree id) :
    id ∈ tree.snapshots := by
  cases h with
  | root hnode _ => exact mem_iff_lookup.mpr ⟨_, hnode⟩
  | child hnode _ _ => exact mem_iff_lookup.mpr ⟨_, hnode⟩

theorem ancestryClosed_iff {tree : SnapshotTree} :
    AncestryClosed tree ↔ ∀ id, id ∈ tree.snapshots → Rooted tree id := by
  constructor
  · exact AncestryClosed.rooted
  · intro h
    refine ⟨fun id node parent hnode hparent => ?_, h⟩
    cases h id (mem_iff_lookup.mpr ⟨node, hnode⟩) with
    | root hnode' hroot =>
      rw [hnode] at hnode'
      cases hnode'
      rw [hroot] at hparent
      cases hparent
    | child hnode' hparent' hrooted =>
      rw [hnode] at hnode'
      cases hnode'
      rw [hparent] at hparent'
      cases hparent'
      exact hrooted.mem

section Steps

variable {tree tree' : SnapshotTree}

/-- Nodes that stay, each with its parent or as a root, stay rooted. -/
theorem Rooted.transfer (hkept : ∀ (id : String) (node : SnapshotNode),
      tree.snapshots[id]? = some node → ∃ node' : SnapshotNode, tree'.snapshots[id]? = some node' ∧
        (node'.parentId = none ∨ node'.parentId = node.parentId))
    {id : String} (h : Rooted tree id) : Rooted tree' id := by
  induction h with
  | root hnode hroot =>
    obtain ⟨node', hnode', hparent⟩ := hkept _ _ hnode
    rw [hroot, or_self] at hparent
    exact .root hnode' hparent
  | child hnode hparent _ ih =>
    obtain ⟨node', hnode', hroot | hsame⟩ := hkept _ _ hnode
    · exact .root hnode' hroot
    · exact .child hnode' (hsame.trans hparent) ih

/-- A node may be written as a root, with the parent it had, or fresh below a stored one. -/
theorem AncestryClosed.put (h : AncestryClosed tree) {node : SnapshotNode}
    (hold : ∀ old, tree.snapshots[node.id]? = some old →
      node.parentId = none ∨ node.parentId = old.parentId)
    (hparent : ∀ parent, node.parentId = some parent → parent ∈ tree.snapshots) :
    AncestryClosed (tree.put node) := by
  have hself : (tree.put node).snapshots[node.id]? = some node := by simp
  have htransfer : ∀ id, Rooted tree id → Rooted (tree.put node) id := by
    intro id hid
    refine hid.transfer fun other old hother => ?_
    by_cases hsame : node.id = other
    · subst hsame
      exact ⟨node, hself, hold old hother⟩
    · exact ⟨old, by simp [lookup_insert, hsame, hother], .inr rfl⟩
  refine ancestryClosed_iff.mpr fun id hid => ?_
  obtain rfl | hstored := mem_insert_iff.mp hid
  · cases hp : node.parentId with
    | none => exact .root hself hp
    | some parent => exact .child hself hp (htransfer parent (h.rooted parent (hparent parent hp)))
  · exact htransfer id (h.rooted id hstored)

/-- Closedness reads the snapshots only. -/
theorem AncestryClosed.of_snapshots (h : AncestryClosed tree)
    (hsame : tree'.snapshots = tree.snapshots) : AncestryClosed tree' := by
  refine ancestryClosed_iff.mpr fun id hid => ?_
  rw [hsame] at hid
  refine (h.rooted id hid).transfer fun other node hother => ⟨node, ?_, .inr rfl⟩
  rw [hsame]
  exact hother

theorem ancestryClosed_remove_iff (h : AncestryClosed tree) {id : String}
    (hstored : id ∈ tree.snapshots) : AncestryClosed (tree.remove id) ↔ Childless tree id := by
  constructor
  · intro hafter child node hnode hparent
    by_cases hself : child = id
    · -- a snapshot that is its own parent has no root
      subst hself
      have hloop : ∀ other, Rooted tree other → other ≠ child := by
        intro other hrooted
        induction hrooted with
        | root hother hroot =>
          intro he
          subst he
          rw [hnode] at hother
          cases hother
          rw [hparent] at hroot
          cases hroot
        | child hother hparent' _ ih =>
          intro he
          subst he
          rw [hnode] at hother
          cases hother
          rw [hparent] at hparent'
          exact ih (Option.some.inj hparent').symm
      exact hloop child (h.rooted child hstored) rfl
    · have hkept : (tree.remove id).snapshots[child]? = some node :=
        lookup_erase_eq_some_iff.mpr ⟨fun he => hself he.symm, hnode⟩
      have hmem := hafter.parentStored child node id hkept hparent
      simp at hmem
  · intro hchildless
    have htransfer : ∀ other, Rooted tree other → other ≠ id → Rooted (tree.remove id) other := by
      intro other hrooted
      induction hrooted with
      | root hother hroot =>
        intro hne
        exact .root (lookup_erase_eq_some_iff.mpr ⟨hne.symm, hother⟩) hroot
      | child hother hparent _ ih =>
        intro hne
        refine .child (lookup_erase_eq_some_iff.mpr ⟨hne.symm, hother⟩) hparent (ih fun he => ?_)
        exact hchildless _ _ hother (hparent.trans (congrArg some he))
    refine ancestryClosed_iff.mpr fun other hother => ?_
    obtain ⟨node, hnode⟩ := mem_iff_lookup.mp hother
    obtain ⟨hne, hbefore⟩ := lookup_erase_eq_some_iff.mp hnode
    have hmem : other ∈ tree.snapshots := mem_iff_lookup.mpr ⟨node, hbefore⟩
    exact htransfer other (h.rooted other hmem) hne.symm

theorem AncestryClosed.create (h : AncestryClosed tree) {io : SledOutcomes} {node : SnapshotNode}
    (hold : ∀ old, tree.snapshots[node.id]? = some old →
      node.parentId = none ∨ node.parentId = old.parentId)
    (hparent : ∀ parent, node.parentId = some parent → parent ∈ tree.snapshots) :
    AncestryClosed (tree.create io node).1 := by
  have hput := h.put hold hparent
  obtain he | he | ⟨tag, _, he⟩ := tree.create_cases io node
  · rwa [he]
  · rwa [he]
  · rw [he]
    exact hput.of_snapshots rfl

theorem AncestryClosed.branch (h : AncestryClosed tree) {io : SledOutcomes} {uuid : String}
    {now : UInt64} {snapId newVmId : String} (hfresh : uuid ∉ tree.snapshots) :
    AncestryClosed (tree.branch io uuid now snapId newVmId).1 := by
  obtain he | ⟨hparent, he⟩ := tree.branch_cases io uuid now snapId newVmId
  · rwa [he]
  rw [he]
  refine h.put (fun old hold => absurd (mem_iff_lookup.mpr ⟨old, hold⟩) hfresh) ?_
  intro parent hp
  cases hp
  exact hparent

theorem AncestryClosed.tagSnapshot (h : AncestryClosed tree) {io : SledOutcomes}
    {snapId vmId tag : String} : AncestryClosed (tree.tagSnapshot io snapId vmId tag).1 := by
  obtain ⟨he, _⟩ | ⟨node, _, _, hnode, he⟩ := tree.tagSnapshot_cases io snapId vmId tag
  · rwa [he]
  have hput : AncestryClosed (tree.put (node.withTag tag)) := by
    refine h.put (fun old hold => .inr ?_) fun parent hparent => ?_
    · have hid : (node.withTag tag).id = snapId := tree.keyed snapId node hnode
      rw [hid, hnode] at hold
      cases hold
      rfl
    · exact h.parentStored snapId node parent hnode hparent
  obtain he | he := he
  · rwa [he]
  · rw [he]
    exact hput.of_snapshots rfl

theorem ancestryClosed_delete_iff (h : AncestryClosed tree) {io : SledOutcomes} {id : String} :
    AncestryClosed (tree.delete io id).1 ↔
      (io.read = true → io.write = true → id ∈ tree.snapshots → Childless tree id) := by
  obtain ⟨he, hnone⟩ | ⟨node, hread, hnode, he⟩ := tree.delete_cases io id
  · rw [he]
    exact iff_of_true h fun hread _ hstored => absurd ⟨hread, hstored⟩ hnone
  have hstored : id ∈ tree.snapshots := mem_iff_lookup.mpr ⟨node, hnode⟩
  have huntag : AncestryClosed (tree.untag io node) := h.of_snapshots (tree.untag_snapshots io node)
  rw [he]
  cases hwrite : io.write with
  | false => simpa using huntag
  | true =>
    have hchildless : Childless (tree.untag io node) id ↔ Childless tree id := by
      simp only [Childless, SnapshotTree.untag_snapshots]
    rw [if_pos rfl, ancestryClosed_remove_iff huntag (by simpa using hstored), hchildless]
    simp [hread, hstored]

end Steps

/-! ## Runs of the tree -/

/-- Snapshots are created as roots, and a branch draws a fresh id. -/
def RootCall (tree : SnapshotTree) : TreeAction → Prop
  | .create _ node => node.parentId = none
  | .branch _ uuid _ _ _ => uuid ∉ tree.snapshots
  | .tagSnapshot _ _ _ _ => True
  | .delete _ _ => True

instance : ∀ tree action, Decidable (RootCall tree action)
  | _, .create _ node => inferInstanceAs (Decidable (node.parentId = none))
  | tree, .branch _ uuid _ _ _ => inferInstanceAs (Decidable (uuid ∉ tree.snapshots))
  | _, .tagSnapshot _ _ _ _ => inferInstanceAs (Decidable True)
  | _, .delete _ _ => inferInstanceAs (Decidable True)

/-- A snapshot is deleted only without children. -/
def KeepsParents (tree : SnapshotTree) : TreeAction → Prop
  | .create _ _ => True
  | .branch _ _ _ _ _ => True
  | .tagSnapshot _ _ _ _ => True
  | .delete io id => io.read = true → io.write = true → id ∈ tree.snapshots → Childless tree id

instance : ∀ tree action, Decidable (KeepsParents tree action)
  | _, .create _ _ => inferInstanceAs (Decidable True)
  | _, .branch _ _ _ _ _ => inferInstanceAs (Decidable True)
  | _, .tagSnapshot _ _ _ _ => inferInstanceAs (Decidable True)
  | _, .delete _ _ => inferInstanceAs (Decidable (_ → _ → _ → _))

theorem ancestryClosed_treeStep_iff (tree : SnapshotTree) (action : TreeAction)
    (h : AncestryClosed tree) (hcall : RootCall tree action) :
    AncestryClosed (treeStep tree action) ↔ KeepsParents tree action := by
  cases action with
  | create io node =>
    have hroot : node.parentId = none := hcall
    refine iff_of_true (h.create (fun _ _ => .inl hroot) fun parent hparent => ?_) trivial
    rw [hroot] at hparent
    cases hparent
  | branch io uuid now snapId newVmId => exact iff_of_true (h.branch hcall) trivial
  | tagSnapshot io snapId vmId tag => exact iff_of_true h.tagSnapshot trivial
  | delete io id => exact ancestryClosed_delete_iff h

theorem ancestryClosed_empty : AncestryClosed SnapshotTree.empty := by
  refine ancestryClosed_iff.mpr fun id hid => ?_
  simp [SnapshotTree.empty] at hid

/-- In every state of a run that creates roots and branches them, every parent is stored and
every snapshot has a root, exactly when each deletion is of a snapshot without children. -/
theorem ancestryClosed_throughout_iff {run : List TreeAction}
    (hcalls : Along treeStep RootCall SnapshotTree.empty run) :
    Throughout treeStep AncestryClosed SnapshotTree.empty run ↔
      Along treeStep KeepsParents SnapshotTree.empty run :=
  throughout_iff_along ancestryClosed_empty ancestryClosed_treeStep_iff hcalls

/-- A snapshot is created, branched, and one of the two deleted. -/
def branchRun (deleted : String) : List TreeAction :=
  [.create {} (SnapshotNode.new "5f2c" 1 "vm-1" none), .branch {} "91aa" 2 "5f2c" "vm-2",
    .delete {} deleted]

theorem ancestryClosed_branchRun : Along treeStep RootCall SnapshotTree.empty (branchRun "91aa") ∧
    Throughout treeStep AncestryClosed SnapshotTree.empty (branchRun "91aa") :=
  ⟨by decide, (ancestryClosed_throughout_iff (by decide)).mpr (by decide)⟩

/-- The branch stays, with a parent that is gone. -/
theorem not_ancestryClosed_branchRun :
    Along treeStep RootCall SnapshotTree.empty (branchRun "5f2c") ∧
      ¬ Throughout treeStep AncestryClosed SnapshotTree.empty (branchRun "5f2c") := by
  refine ⟨by decide, fun h => ?_⟩
  have hbranch : (exec treeStep SnapshotTree.empty (branchRun "5f2c")).snapshots["91aa"]? =
      some (SnapshotTree.branched "91aa" 2 "5f2c" "vm-2") := by rfl
  have hgone : "5f2c" ∉ (exec treeStep SnapshotTree.empty (branchRun "5f2c")).snapshots := by
    decide
  exact hgone (h.exec.parentStored "91aa" _ "5f2c" hbranch rfl)

end Vyoma.Storage
