import Vyoma.RustText
import Vyoma.Runs
import Vyoma.SnapshotTree

/-!
# The tag index of the snapshot tree

A tag is stored in its node and in the index. Tagging a snapshot anew writes the new
index entry and leaves the one of the old tag, which then names a snapshot that no
longer carries it. The index is sound along a run exactly when no snapshot is given
another tag while the entry of its old one still points to it. Index keys join a VM id
and a tag with a colon, so two pairs may share one key when an id holds a colon.
-/
namespace Vyoma.Storage
open OrderedMaps RustText Runs

theorem tagKey_eq_iff {vm tag vm' tag' : String} :
    tagKey vm tag = tagKey vm' tag' ↔ (vm = vm' ∧ tag = tag') ∨
      (∃ x, vm = vm' ++ ":" ++ x ∧ tag' = x ++ ":" ++ tag) ∨
      ∃ x, vm' = vm ++ ":" ++ x ∧ tag = x ++ ":" ++ tag' := by
  have hsep : String.singleton ':' = ":" := rfl
  rw [tagKey, tagKey, ← hsep]
  exact join_eq_join_iff ':'

theorem tagKey_inj_of_notMem {vm tag vm' tag' : String} (hvm : ':' ∉ vm.toList)
    (htag : ':' ∉ tag.toList) (h : tagKey vm tag = tagKey vm' tag') : vm = vm' ∧ tag = tag' := by
  obtain h | ⟨x, rfl, _⟩ | ⟨x, _, rfl⟩ := tagKey_eq_iff.mp h
  · exact h
  · simp at hvm
  · simp at htag

theorem tagKey_right_inj {vm tag tag' : String} : tagKey vm tag = tagKey vm tag' ↔ tag = tag' := by
  constructor
  · intro h
    have hlist := congrArg String.toList h
    simp only [tagKey, String.toList_append, List.append_cancel_left_eq] at hlist
    exact String.toList_inj.mp hlist
  · exact congrArg _

/-- Every index entry names a stored snapshot of that VM which carries that tag. -/
def IndexSound (tree : SnapshotTree) : Prop :=
  ∀ vm tag id, tree.tags[tagKey vm tag]? = some id →
    ∃ node, tree.snapshots[id]? = some node ∧ node.vmId = vm ∧ node.tag = some tag

/-- The index is sound, and looking a tag up gives no error and no other snapshot. -/
structure TagsSound (tree : SnapshotTree) : Prop where
  indexed : ∀ vm tag id, tree.tags[tagKey vm tag]? = some id → ∃ node,
    tree.snapshots[id]? = some node ∧ node.id = id ∧ node.vmId = vm ∧ node.tag = some tag
  lookup : ∀ vm tag, ∃ found, tree.getByTag {} vm tag = .ok found ∧
    ∀ node, found = some node → node.vmId = vm ∧ node.tag = some tag

theorem tagsSound_iff {tree : SnapshotTree} : TagsSound tree ↔ IndexSound tree := by
  constructor
  · intro h vm tag id hid
    obtain ⟨node, hnode, _, hvm, htag⟩ := h.indexed vm tag id hid
    exact ⟨node, hnode, hvm, htag⟩
  · intro h
    refine ⟨fun vm tag id hid => ?_, fun vm tag => ?_⟩
    · obtain ⟨node, hnode, hvm, htag⟩ := h vm tag id hid
      exact ⟨node, hnode, tree.keyed id node hnode, hvm, htag⟩
    · cases hid : tree.tags[tagKey vm tag]? with
      | none => exact ⟨none, by simp [SnapshotTree.getByTag, hid], by simp⟩
      | some id =>
        obtain ⟨node, hnode, hvm, htag⟩ := h vm tag id hid
        have hget : tree.get {} id = .ok node := (tree.get_eq_ok_iff {}).mpr ⟨rfl, hnode⟩
        refine ⟨some node, by simp [SnapshotTree.getByTag, hid, hget, Except.map], ?_⟩
        intro other hother
        cases hother
        exact ⟨hvm, htag⟩

section Steps

variable {tree : SnapshotTree}

theorem indexSound_put_fresh (h : IndexSound tree) {node : SnapshotNode}
    (hfresh : node.id ∉ tree.snapshots) : IndexSound (tree.put node) := by
  intro vm tag id hid
  obtain ⟨old, hold, hvm, htag⟩ := h vm tag id hid
  have hne : node.id ≠ id := fun he => hfresh (he ▸ mem_iff_lookup.mpr ⟨old, hold⟩)
  exact ⟨old, by simp [lookup_insert, hne, hold], hvm, htag⟩

/-- An entry may be written for a stored snapshot that carries the tag. -/
theorem indexSound_index (h : IndexSound tree) {node : SnapshotNode} {id vm tag : String}
    (hnode : tree.snapshots[id]? = some node) (hvm : node.vmId = vm) (htag : node.tag = some tag)
    (hvmFree : ':' ∉ vm.toList) (htagFree : ':' ∉ tag.toList) :
    IndexSound { tree with tags := tree.tags.insert (tagKey vm tag) id } := by
  intro vm' tag' id' hid'
  obtain ⟨hkey, rfl⟩ | ⟨_, hold⟩ := lookup_insert_eq_some_iff.mp hid'
  · obtain ⟨rfl, rfl⟩ := tagKey_inj_of_notMem hvmFree htagFree hkey
    exact ⟨node, hnode, hvm, htag⟩
  · exact h vm' tag' id' hold

theorem lookup_put_withTag {node : SnapshotNode} {id : String} (tag : String)
    (hnode : tree.snapshots[id]? = some node) :
    (tree.put (node.withTag tag)).snapshots[id]? = some (node.withTag tag) := by
  have hid : node.id = id := tree.keyed id node hnode
  simp [SnapshotNode.withTag, hid]

/-- Another tag in the node makes the entry of its old tag stale, if there is one. -/
theorem indexSound_put_withTag_iff (h : IndexSound tree) {node : SnapshotNode} {id tag : String}
    (hnode : tree.snapshots[id]? = some node) :
    IndexSound (tree.put (node.withTag tag)) ↔ ∀ old, node.tag = some old →
      tree.tags[tagKey node.vmId old]? = some id → old = tag := by
  have hid : node.id = id := tree.keyed id node hnode
  have hlookup := lookup_put_withTag tag hnode
  constructor
  · intro hafter old _ hentry
    obtain ⟨node', hnode', _, htag'⟩ := hafter node.vmId old id hentry
    rw [hlookup] at hnode'
    cases hnode'
    exact (Option.some.inj htag').symm
  · intro hold vm' tag' id' hentry
    obtain ⟨node', hnode', rfl, htag'⟩ := h vm' tag' id' hentry
    by_cases hsame : id = id'
    · subst hsame
      rw [hnode] at hnode'
      cases hnode'
      exact ⟨node.withTag tag, hlookup, rfl, by rw [← hold tag' htag' hentry]; rfl⟩
    · refine ⟨node', ?_, rfl, htag'⟩
      simp [lookup_insert, SnapshotNode.withTag, hid, hsame, hnode']

theorem indexSound_retag_iff (h : IndexSound tree) {node : SnapshotNode} {id tag : String}
    (hnode : tree.snapshots[id]? = some node) (hvmFree : ':' ∉ node.vmId.toList)
    (htagFree : ':' ∉ tag.toList) :
    IndexSound { tree.put (node.withTag tag) with
        tags := tree.tags.insert (tagKey node.vmId tag) id } ↔
      ∀ old, node.tag = some old → tree.tags[tagKey node.vmId old]? = some id → old = tag := by
  have hlookup := lookup_put_withTag tag hnode
  constructor
  · intro hafter old _ hentry
    by_contra hne
    have hkey : tagKey node.vmId tag ≠ tagKey node.vmId old :=
      fun he => hne (tagKey_right_inj.mp he).symm
    have hkept : (tree.tags.insert (tagKey node.vmId tag) id)[tagKey node.vmId old]? = some id :=
      lookup_insert_eq_some_iff.mpr (.inr ⟨hkey, hentry⟩)
    obtain ⟨node', hnode', _, htag'⟩ := hafter node.vmId old id hkept
    rw [hlookup] at hnode'
    cases hnode'
    exact hne (Option.some.inj htag').symm
  · intro hold
    have hput := (indexSound_put_withTag_iff h hnode).mpr hold
    exact indexSound_index hput hlookup rfl rfl hvmFree htagFree

theorem indexSound_untag (h : IndexSound tree) (io : SledOutcomes) (node : SnapshotNode) :
    IndexSound (tree.untag io node) := by
  intro vm tag id hid
  rw [SnapshotTree.untag_snapshots]
  exact h vm tag id ((tree.untag_tags_eq_some_iff io).mp hid).1

theorem indexSound_remove_iff (h : IndexSound tree) {id : String} :
    IndexSound (tree.remove id) ↔ ∀ vm tag, tree.tags[tagKey vm tag]? ≠ some id := by
  constructor
  · intro hafter vm tag hentry
    obtain ⟨node, hnode, _⟩ := hafter vm tag id hentry
    exact (lookup_erase_eq_some_iff.mp hnode).1 rfl
  · intro hnone vm tag id' hentry
    obtain ⟨node, hnode, hvm, htag⟩ := h vm tag id' hentry
    have hne : id ≠ id' := fun he => hnone vm tag (he ▸ hentry)
    exact ⟨node, lookup_erase_eq_some_iff.mpr ⟨hne, hnode⟩, hvm, htag⟩

end Steps

/-! ## Runs of the tree -/

/-- Ids are fresh, a snapshot is tagged under its own VM, and no colon stands in a VM id
or a tag that is indexed. -/
def ProperCall (tree : SnapshotTree) : TreeAction → Prop
  | .create _ node => node.id ∉ tree.snapshots ∧ ':' ∉ node.vmId.toList ∧
      ∀ tag ∈ node.tag, ':' ∉ tag.toList
  | .branch _ uuid _ _ _ => uuid ∉ tree.snapshots
  | .tagSnapshot _ snapId vmId tag => (∀ node ∈ tree.snapshots[snapId]?, node.vmId = vmId) ∧
      ':' ∉ vmId.toList ∧ ':' ∉ tag.toList
  | .delete _ _ => True

instance : ∀ tree action, Decidable (ProperCall tree action)
  | _, .create _ _ => inferInstanceAs (Decidable (_ ∧ _ ∧ _))
  | tree, .branch _ uuid _ _ _ => inferInstanceAs (Decidable (uuid ∉ tree.snapshots))
  | _, .tagSnapshot _ _ _ _ => inferInstanceAs (Decidable (_ ∧ _ ∧ _))
  | _, .delete _ _ => inferInstanceAs (Decidable True)

/-- A snapshot that the index knows by its tag is not given another one, and is deleted
only with its entry. -/
def KeepsIndex (tree : SnapshotTree) : TreeAction → Prop
  | .create _ _ => True
  | .branch _ _ _ _ _ => True
  | .tagSnapshot io snapId _ tag => io.read = true → io.write = true →
      ∀ node ∈ tree.snapshots[snapId]?, ∀ old ∈ node.tag,
        tree.tags[tagKey node.vmId old]? = some snapId → old = tag
  | .delete io id => io.read = true → io.write = true → io.writeTag = false →
      ∀ node ∈ tree.snapshots[id]?, ∀ old ∈ node.tag,
        tree.tags[tagKey node.vmId old]? ≠ some id

instance : ∀ tree action, Decidable (KeepsIndex tree action)
  | _, .create _ _ => inferInstanceAs (Decidable True)
  | _, .branch _ _ _ _ _ => inferInstanceAs (Decidable True)
  | _, .tagSnapshot _ _ _ _ => inferInstanceAs (Decidable (_ → _ → _))
  | _, .delete _ _ => inferInstanceAs (Decidable (_ → _ → _ → _))

section Steps

variable {tree : SnapshotTree}

theorem indexSound_create (h : IndexSound tree) {io : SledOutcomes} {node : SnapshotNode}
    (hproper : ProperCall tree (.create io node)) : IndexSound (tree.create io node).1 := by
  obtain ⟨hfresh, hvmFree, htagFree⟩ := hproper
  have hput := indexSound_put_fresh h hfresh
  obtain he | he | ⟨tag, htag, he⟩ := tree.create_cases io node
  · rwa [he]
  · rwa [he]
  · rw [he]
    exact indexSound_index hput (by simp) rfl htag hvmFree (htagFree tag htag)

theorem indexSound_branch (h : IndexSound tree) {io : SledOutcomes} {uuid : String} {now : UInt64}
    {snapId newVmId : String} (hfresh : uuid ∉ tree.snapshots) :
    IndexSound (tree.branch io uuid now snapId newVmId).1 := by
  obtain he | ⟨_, he⟩ := tree.branch_cases io uuid now snapId newVmId
  · rwa [he]
  · rw [he]
    exact indexSound_put_fresh h hfresh

theorem indexSound_tagSnapshot_iff (h : IndexSound tree) {io : SledOutcomes}
    {snapId vmId tag : String} (hproper : ProperCall tree (.tagSnapshot io snapId vmId tag)) :
    IndexSound (tree.tagSnapshot io snapId vmId tag).1 ↔
      KeepsIndex tree (.tagSnapshot io snapId vmId tag) := by
  obtain ⟨hown, hvmFree, htagFree⟩ := hproper
  obtain ⟨he, hnone⟩ | ⟨node, hread, hwrite, hnode, he⟩ := tree.tagSnapshot_cases io snapId vmId tag
  · rw [he]
    refine iff_of_true h fun hread hwrite node hnode => absurd ?_ hnone
    exact ⟨hread, hwrite, mem_iff_lookup.mpr ⟨node, hnode⟩⟩
  · obtain rfl : node.vmId = vmId := hown node hnode
    have hkeeps : KeepsIndex tree (.tagSnapshot io snapId node.vmId tag) ↔
        ∀ old, node.tag = some old → tree.tags[tagKey node.vmId old]? = some snapId → old = tag := by
      simp [KeepsIndex, hread, hwrite, hnode]
    rw [hkeeps]
    obtain he | he := he
    · rw [he]
      exact indexSound_put_withTag_iff h hnode
    · rw [he]
      exact indexSound_retag_iff h hnode hvmFree htagFree

/-- Of a sound index only the entry of its own tag can name a snapshot. -/
theorem indexSound_delete_iff (h : IndexSound tree) {io : SledOutcomes} {id : String} :
    IndexSound (tree.delete io id).1 ↔ KeepsIndex tree (.delete io id) := by
  obtain ⟨he, hnone⟩ | ⟨node, hread, hnode, he⟩ := tree.delete_cases io id
  · rw [he]
    refine iff_of_true h fun hread _ _ node hnode => absurd ?_ hnone
    exact ⟨hread, mem_iff_lookup.mpr ⟨node, hnode⟩⟩
  have huntag := indexSound_untag h io node
  rw [he]
  cases hwrite : io.write with
  | false => simpa [KeepsIndex, hwrite] using huntag
  | true =>
    have hkeeps : KeepsIndex tree (.delete io id) ↔ (io.writeTag = false → ∀ old,
        node.tag = some old → tree.tags[tagKey node.vmId old]? ≠ some id) := by
      simp [KeepsIndex, hread, hwrite, hnode]
    rw [if_pos rfl, indexSound_remove_iff huntag, hkeeps]
    constructor
    · intro hafter hkept old _ hentry
      refine hafter node.vmId old ((tree.untag_tags_eq_some_iff io).mpr ⟨hentry, ?_⟩)
      simp [hkept]
    · intro hkept vm tag hentry
      obtain ⟨hbefore, hother⟩ := (tree.untag_tags_eq_some_iff io).mp hentry
      obtain ⟨node', hnode', rfl, htag⟩ := h vm tag id hbefore
      rw [hnode] at hnode'
      cases hnode'
      cases hwriteTag : io.writeTag with
      | false => exact hkept hwriteTag tag htag hbefore
      | true => exact hother hwriteTag tag htag rfl

end Steps

theorem indexSound_treeStep_iff (tree : SnapshotTree) (action : TreeAction) (h : IndexSound tree)
    (hproper : ProperCall tree action) :
    IndexSound (treeStep tree action) ↔ KeepsIndex tree action := by
  cases action with
  | create io node => exact iff_of_true (indexSound_create h hproper) trivial
  | branch io uuid now snapId newVmId => exact iff_of_true (indexSound_branch h hproper) trivial
  | tagSnapshot io snapId vmId tag => exact indexSound_tagSnapshot_iff h hproper
  | delete io id => exact indexSound_delete_iff h

theorem indexSound_empty : IndexSound SnapshotTree.empty := by
  intro vm tag id h
  simp [SnapshotTree.empty] at h

/-- From the empty store, the tag index is sound in every state of a run of proper calls
exactly when every call of the run keeps it. -/
theorem tagsSound_throughout_iff {run : List TreeAction}
    (hproper : Along treeStep ProperCall SnapshotTree.empty run) :
    Throughout treeStep TagsSound SnapshotTree.empty run ↔
      Along treeStep KeepsIndex SnapshotTree.empty run := by
  refine throughout_iff_along (tagsSound_iff.mpr indexSound_empty) ?_ hproper
  intro tree action hsound hcall
  rw [tagsSound_iff]
  exact indexSound_treeStep_iff tree action (tagsSound_iff.mp hsound) hcall

/-- A snapshot is tagged `v1` and then once more. -/
def retagRun (tag : String) : List TreeAction :=
  [.create {} (SnapshotNode.new "5f2c" 1 "vm-1" none), .tagSnapshot {} "5f2c" "vm-1" "v1",
    .tagSnapshot {} "5f2c" "vm-1" tag]

theorem tagsSound_retagRun : Along treeStep ProperCall SnapshotTree.empty (retagRun "v1") ∧
    Throughout treeStep TagsSound SnapshotTree.empty (retagRun "v1") :=
  ⟨by decide, (tagsSound_throughout_iff (by decide)).mpr (by decide)⟩

/-- Once tagged `v2`, the snapshot is still found under `v1`. -/
theorem not_tagsSound_retagRun : Along treeStep ProperCall SnapshotTree.empty (retagRun "v2") ∧
    ¬ Throughout treeStep TagsSound SnapshotTree.empty (retagRun "v2") := by
  refine ⟨by decide, fun h => ?_⟩
  obtain ⟨found, hfound, hsound⟩ := h.exec.lookup "vm-1" "v1"
  have hstale : (exec treeStep SnapshotTree.empty (retagRun "v2")).getByTag {} "vm-1" "v1" =
      .ok (some ((SnapshotNode.new "5f2c" 1 "vm-1" none).withTag "v2")) := by rfl
  rw [hstale] at hfound
  cases hfound
  exact absurd (hsound _ rfl).2 (by decide)

/-! ## Two VMs and one key -/

/-- Which snapshot the tag of a VM leads to. -/
def SnapshotTree.taggedId (tree : SnapshotTree) (vmId tag : String) :
    Except StorageError (Option String) :=
  (tree.getByTag {} vmId tag).map fun found => found.map (·.id)

/-- Two different pairs have one key when the longer VM id goes on as the tag of the
other VM does. -/
def SharedKey (vm tag vm' tag' : String) : Prop :=
  (∃ x, vm = vm' ++ ":" ++ x ∧ tag' = x ++ ":" ++ tag) ∨
    ∃ x, vm' = vm ++ ":" ++ x ∧ tag = x ++ ":" ++ tag'

theorem tagKey_eq_iff_sharedKey {vm tag vm' tag' : String} (hne : (vm, tag) ≠ (vm', tag')) :
    tagKey vm tag = tagKey vm' tag' ↔ SharedKey vm tag vm' tag' := by
  rw [tagKey_eq_iff, SharedKey, or_iff_right]
  intro h
  exact hne (Prod.ext h.1 h.2)

section Namespaces

variable (tree : SnapshotTree)

theorem taggedId_eq (vmId tag : String) : tree.taggedId vmId tag =
    match tree.tags[tagKey vmId tag]? with
    | some id => if id ∈ tree.snapshots then .ok (some id)
        else .error (.notFound ("Snapshot " ++ id ++ " not found"))
    | none => .ok none := by
  unfold SnapshotTree.taggedId SnapshotTree.getByTag
  cases tree.tags[tagKey vmId tag]? with
  | none => rfl
  | some id =>
    by_cases hstored : id ∈ tree.snapshots
    · obtain ⟨node, hnode⟩ := mem_iff_lookup.mp hstored
      have hget : tree.get {} id = .ok node := (tree.get_eq_ok_iff {}).mpr ⟨rfl, hnode⟩
      simp [hget, hstored, Except.map, tree.keyed id node hnode]
    · simp [SnapshotTree.get, hstored, Except.map]

/-- What a tag leads to depends on its index entry alone, the stored ids being the same. -/
theorem taggedId_eq_iff {tree tree' : SnapshotTree} {vmId tag : String}
    (hsame : ∀ id, id ∈ tree'.snapshots ↔ id ∈ tree.snapshots) :
    tree'.taggedId vmId tag = tree.taggedId vmId tag ↔
      tree'.tags[tagKey vmId tag]? = tree.tags[tagKey vmId tag]? := by
  rw [taggedId_eq, taggedId_eq]
  simp only [hsame]
  cases tree'.tags[tagKey vmId tag]? with
  | none => cases tree.tags[tagKey vmId tag]? with
    | none => simp
    | some id => by_cases hid : id ∈ tree.snapshots <;> simp [hid]
  | some id' => cases tree.tags[tagKey vmId tag]? with
    | none => by_cases hid' : id' ∈ tree.snapshots <;> simp [hid']
    | some id =>
      by_cases hid : id ∈ tree.snapshots <;> by_cases hid' : id' ∈ tree.snapshots
      · simp [hid, hid']
      · have hne : id' ≠ id := fun he => hid' (he ▸ hid)
        simp [hid, hid', hne]
      · have hne : id' ≠ id := fun he => hid (he ▸ hid')
        simp [hid, hid', hne]
      · simp [hid, hid']

/-- Tagging a snapshot of one VM leaves the tag of another pair as it was exactly when the
index is not reached, the two pairs have different keys, or the entry names the snapshot
already. -/
theorem taggedId_tagSnapshot_iff (io : SledOutcomes) {snapId : String} {node : SnapshotNode}
    (hnode : tree.snapshots[snapId]? = some node) {tag vm' tag' : String}
    (hne : (node.vmId, tag) ≠ (vm', tag')) :
    (tree.tagSnapshot io snapId node.vmId tag).1.taggedId vm' tag' = tree.taggedId vm' tag' ↔
      (io.read ∧ io.write ∧ io.flush ∧ io.writeTag → SharedKey node.vmId tag vm' tag' →
        tree.tags[tagKey vm' tag']? = some snapId) := by
  have hstored : snapId ∈ tree.snapshots := mem_iff_lookup.mpr ⟨node, hnode⟩
  rw [taggedId_eq_iff (tree.mem_tagSnapshot io snapId node.vmId tag),
    tree.tagSnapshot_tags io hstored, ← tagKey_eq_iff_sharedKey hne]
  by_cases hreached : io.read ∧ io.write ∧ io.flush ∧ io.writeTag
  · rw [if_pos hreached, lookup_insert]
    by_cases hkey : tagKey node.vmId tag = tagKey vm' tag'
    · simp [hkey, hreached, eq_comm]
    · simp [hkey]
  · simp [hreached]

end Namespaces

/-- Snapshots of a VM `app`, tagged `snap:6`, and of a base image committed as `app:snap`. -/
def twoVms : SnapshotTree :=
  exec treeStep SnapshotTree.empty
    [.create {} ((SnapshotNode.new "5f2c" 1 "app" none).withTag "snap:6"),
      .create {} (SnapshotNode.new "91aa" 2 "app:snap" none)]

theorem taggedId_twoVms_other_tag :
    twoVms.snapshots["91aa"]? = some (SnapshotNode.new "91aa" 2 "app:snap" none) ∧
      (twoVms.tagSnapshot {} "91aa" "app:snap" "7").1.taggedId "app" "snap:6" =
        twoVms.taggedId "app" "snap:6" := by
  have hnode : twoVms.snapshots["91aa"]? = some (SnapshotNode.new "91aa" 2 "app:snap" none) := by
    rfl
  refine ⟨hnode, (taggedId_tagSnapshot_iff twoVms {} hnode (by decide)).mpr fun _ hshared => ?_⟩
  have hkey := (tagKey_eq_iff_sharedKey (by decide)).mpr hshared
  exact absurd hkey (by decide)

/-- Tagging the snapshot of `app:snap` as `6` moves the tag `snap:6` of `app` to it. -/
theorem taggedId_twoVms_changed :
    twoVms.snapshots["91aa"]? = some (SnapshotNode.new "91aa" 2 "app:snap" none) ∧
      ("app:snap", "6") ≠ ("app", "snap:6") ∧
      twoVms.taggedId "app" "snap:6" = .ok (some "5f2c") ∧
      (twoVms.tagSnapshot {} "91aa" "app:snap" "6").1.taggedId "app" "snap:6" =
        .ok (some "91aa") := by
  refine ⟨by rfl, by decide, by rfl, by rfl⟩

end Vyoma.Storage
