import Mathlib.Data.List.TakeWhile
import Vyoma.AgentProtocol
import Vyoma.RustText
import Vyoma.SocketAddrs
import Vyoma.SwarmEvents

/-!
# Looking a node up by what it goes by

A target of a teleport is the name of a node, its alias `node-<id>`, its id, its address
or the host part of its address. The daemon tries the nodes in the order of their ids and
takes the first that goes by the target. Names and addresses are not checked against the
ids of other nodes, so a node can go by what identifies a later one.
-/
namespace Vyoma.Swarm
open OrderedMaps Runs SwarmRaft

namespace NodeInfo

def nodeAlias (node : NodeInfo) : String := "node-" ++ toString node.id

def matchesTarget (node : NodeInfo) (target : String) : Bool :=
  node.name = some target || node.nodeAlias = target || toString node.id = target ||
    node.addr = target || hostPart node.addr = target

end NodeInfo

def SwarmRaft.resolveNode (r : SwarmRaft) (target : String) : Option String :=
  (r.nodes.values.find? (·.matchesTarget target)).map fun node => hostPart node.addr

/-! ## The texts that identify a node -/

/-- The two texts that are read as the id of a node. -/
def idTexts (id : UInt64) : List String := [toString id, "node-" ++ toString id]

theorem matchesTarget_of_mem_idTexts {n : NodeInfo} {text : String} (h : text ∈ idTexts n.id) :
    n.matchesTarget text = true := by
  simp only [idTexts, List.mem_cons, List.not_mem_nil, or_false] at h
  obtain rfl | rfl := h <;> simp [NodeInfo.matchesTarget, NodeInfo.nodeAlias]

theorem isDigit_of_mem_toString {i : UInt64} {c : Char} (h : c ∈ (toString i).toList) :
    c.isDigit = true :=
  RustText.isDigit_of_mem_toString (n := i.toNat) h

theorem toString_injective {i j : UInt64} (h : toString i = toString j) : i = j := by
  have hrepr : i.toNat.repr = j.toNat.repr := h
  exact UInt64.toNat_inj.mp (RustText.natRepr_injective hrepr)

theorem toString_ne_alias (i j : UInt64) : toString i ≠ "node-" ++ toString j := by
  intro h
  have hn : 'n' ∈ (toString i).toList := by
    rw [h, String.toList_append]
    simp
  exact absurd (isDigit_of_mem_toString hn) (by decide)

/-- The texts of different ids are different. -/
theorem idTexts_disjoint {i j : UInt64} {text : String} (hi : text ∈ idTexts i)
    (hj : text ∈ idTexts j) : i = j := by
  simp only [idTexts, List.mem_cons, List.not_mem_nil, or_false] at hi hj
  obtain rfl | rfl := hi <;> obtain h | h := hj
  · exact toString_injective h
  · exact absurd h (toString_ne_alias i j)
  · exact absurd h.symm (toString_ne_alias j i)
  · exact toString_injective ((String.append_right_inj "node-").mp h)

theorem colon_notMem_idTexts {i : UInt64} {text : String} (h : text ∈ idTexts i) :
    ':' ∉ text.toList := by
  have hid : ':' ∉ (toString i).toList := by
    intro hmem
    exact absurd (isDigit_of_mem_toString hmem) (by decide)
  simp only [idTexts, List.mem_cons, List.not_mem_nil, or_false] at h
  obtain rfl | rfl := h
  · exact hid
  · rw [String.toList_append, List.mem_append]
    simp [hid]

/-- The node goes by the text through its name or its address. -/
def NodeInfo.GoesBy (node : NodeInfo) (text : String) : Prop :=
  node.name = some text ∨ hostPart node.addr = text

instance (node : NodeInfo) (text : String) : Decidable (node.GoesBy text) :=
  inferInstanceAs (Decidable (_ ∨ _))

theorem hostPart_eq_self {addr : String} (h : ':' ∉ addr.toList) : hostPart addr = addr := by
  have hall : addr.toList.takeWhile (· ≠ ':') = addr.toList := by
    rw [List.takeWhile_eq_self_iff]
    intro c hc
    have hne : c ≠ ':' := by
      rintro rfl
      exact h hc
    simpa using hne
  rw [hostPart, hall, String.ofList_toList]

/-- A node that is found by the id of another one goes by it. -/
theorem matchesTarget_iff_goesBy {n : NodeInfo} {i : UInt64} {text : String}
    (h : text ∈ idTexts i) (hne : n.id ≠ i) : n.matchesTarget text = true ↔ n.GoesBy text := by
  have hself : text ∉ idTexts n.id := fun hmem => hne (idTexts_disjoint hmem h)
  simp only [idTexts, List.mem_cons, List.not_mem_nil, or_false, not_or] at hself
  have halias : n.nodeAlias ≠ text := Ne.symm hself.2
  have hid : toString n.id ≠ text := Ne.symm hself.1
  have haddr : n.addr = text → hostPart n.addr = text := by
    intro he
    rw [he, hostPart_eq_self (colon_notMem_idTexts h)]
  simp only [NodeInfo.matchesTarget, NodeInfo.GoesBy, halias, hid, decide_false, Bool.or_false,
    Bool.or_eq_true, decide_eq_true_eq]
  constructor
  · intro hm
    obtain (hm | hm) | hm := hm
    · exact .inl hm
    · exact .inr (haddr hm)
    · exact .inr hm
  · intro hm
    obtain hm | hm := hm
    · exact .inl (.inl hm)
    · exact .inr hm

/-! ## Nodes that stand before another one's id -/

/-- The first node comes before the second, goes by its id and has another host. -/
def Shadows (m n : NodeInfo) : Prop :=
  m.id < n.id ∧ (∃ text ∈ idTexts n.id, m.GoesBy text) ∧ hostPart m.addr ≠ hostPart n.addr

instance (m n : NodeInfo) : Decidable (Shadows m n) := inferInstanceAs (Decidable (_ ∧ _ ∧ _))

theorem not_shadows_self (n : NodeInfo) : ¬ Shadows n n := fun h => UInt64.lt_irrefl _ h.1

/-- Nowhere does a node stand in the way of another. -/
def Apart (S : NodeInfo → NodeInfo → Prop) (r : SwarmRaft) : Prop :=
  ∀ (i j : UInt64) (m n : NodeInfo), r.nodes[i]? = some m → r.nodes[j]? = some n → ¬ S m n

abbrev NoShadow : SwarmRaft → Prop := Apart Shadows

/-- Both texts of every node's id lead to the host of that node. -/
def ResolvesSelf (r : SwarmRaft) : Prop :=
  ∀ (i : UInt64) (n : NodeInfo), r.nodes[i]? = some n →
    ∀ text ∈ idTexts n.id, r.resolveNode text = some (hostPart n.addr)

/-- A target that a node goes by leads to this node or to one before it. -/
theorem resolveNode_of_matchesTarget {r : SwarmRaft} (hinv : RepInv r) {j : UInt64} {n : NodeInfo}
    (hn : r.nodes[j]? = some n) {target : String} (h : n.matchesTarget target = true) :
    ∃ (i : UInt64) (m : NodeInfo), r.nodes[i]? = some m ∧ m.matchesTarget target = true ∧
      r.resolveNode target = some (hostPart m.addr) ∧ (m = n ∨ m.id < n.id) := by
  obtain ⟨i, m, hfind, hm, hmatch, hi⟩ := find?_values hn (p := (·.matchesTarget target)) h
  refine ⟨i, m, hm, hmatch, by rw [resolveNode, hfind, Option.map_some], ?_⟩
  obtain rfl | hlt := hi
  · rw [hn, Option.some.injEq] at hm
    exact .inl hm.symm
  · rw [hinv.node_key i m hm, hinv.node_key j n hn]
    exact .inr (Std.compare_eq_lt.mp hlt)

theorem resolvesSelf_of_noShadow {r : SwarmRaft} (hinv : RepInv r) (h : NoShadow r) :
    ResolvesSelf r := by
  intro i n hn text htext
  obtain ⟨k, m, hm, hmatch, hresolve, hk⟩ :=
    resolveNode_of_matchesTarget hinv hn (matchesTarget_of_mem_idTexts htext)
  rw [hresolve, Option.some.injEq]
  obtain rfl | hlt := hk
  · rfl
  · have hgoes := (matchesTarget_iff_goesBy htext (UInt64.ne_of_lt hlt)).mp hmatch
    by_contra hhost
    exact h k i m n hm hn ⟨hlt, ⟨text, htext, hgoes⟩, hhost⟩

/-! ## The record a call writes -/

def addNodeRecord (r : SwarmRaft) (nodeId : UInt64) (addr publicKey : String)
    (key : Option String) (port : Option UInt16) : Option NodeInfo :=
  if acceptsNode r nodeId = true then some (joinedNode nodeId addr publicKey key port) else none

def updateRecord (r : SwarmRaft) (nodeId : UInt64) (addr key : Option String)
    (port : Option UInt16) : Option NodeInfo :=
  (r.nodes[nodeId]?).map fun node => updatedNode node addr key port

def SwarmCommand.record (r : SwarmRaft) : SwarmCommand → Option NodeInfo
  | .addNode nodeId addr publicKey key port => addNodeRecord r nodeId addr publicKey key port
  | .registerNode nodeId addr publicKey => addNodeRecord r nodeId addr publicKey none none
  | .updateNodeEndpoint nodeId addr key port => updateRecord r nodeId addr key port
  | _ => none

def record (r : SwarmRaft) : Action → Option NodeInfo
  | .bootstrap addr publicKey key port =>
    if r.isInitialized then none else some (bootstrapNode r.nodeId addr publicKey key port)
  | .addNode nodeId addr publicKey key port => addNodeRecord r nodeId addr publicKey key port
  | .updateNodeEndpoint nodeId addr key port => updateRecord r nodeId addr key port
  | .setNodeName nodeId name => (r.nodes[nodeId]?).map fun node => { node with name := some name }
  | .submitCommand cmd commandIndex =>
    if r.isInitialized ∧ commandIndex ∉ r.appliedCommands then cmd.record r else none
  | _ => none

/-- The nodes afterwards: with the written record under its id, or some of those before. -/
def Writes (r r' : SwarmRaft) : Option NodeInfo → Prop
  | some n => r'.nodes = r.nodes.insert n.id n
  | none => ∀ (i : UInt64) (m : NodeInfo), r'.nodes[i]? = some m → r.nodes[i]? = some m

section Writes

variable {r : SwarmRaft}

theorem writes_refl (r : SwarmRaft) : Writes r r none := fun _ _ h => h

theorem id_joinedNode (nodeId : UInt64) (addr publicKey : String) (key : Option String)
    (port : Option UInt16) : (joinedNode nodeId addr publicKey key port).id = nodeId := by
  simp [joinedNode, NodeInfo.new]

theorem writes_bootstrap (hinv : RepInv r) (addr publicKey : String) (key : Option String)
    (port : Option UInt16) : Writes r (r.bootstrap addr publicKey key port).raft
      (record r (.bootstrap addr publicKey key port)) := by
  unfold SwarmRaft.bootstrap record
  split_ifs
  · exact writes_refl r
  · obtain ⟨leases, halloc, _⟩ := hinv.allocateSubnet r.nodeId
    rw [halloc]
    simp [Writes, bootstrapNode, NodeInfo.new]

theorem writes_addNode (hinv : RepInv r) (nodeId : UInt64) (addr publicKey : String)
    (key : Option String) (port : Option UInt16) :
    Writes r (r.addNode nodeId addr publicKey key port).raft
      (addNodeRecord r nodeId addr publicKey key port) := by
  unfold addNodeRecord
  cases haccept : acceptsNode r nodeId with
  | false =>
    obtain ⟨e, he⟩ := addNode_fails haccept addr publicKey key port
    rw [he]
    exact writes_refl r
  | true =>
    obtain ⟨leases, r', hr', he⟩ := addNode_eq hinv haccept addr publicKey key port
    rw [he, hr']
    simp [Writes, id_joinedNode]

theorem writes_removeNode (nodeId : UInt64) : Writes r (r.removeNode nodeId).raft none := by
  cases haccept : removesNode r nodeId with
  | false =>
    obtain ⟨e, he⟩ := removeNode_fails haccept
    rw [he]
    exact writes_refl r
  | true =>
    obtain ⟨r', hr', he⟩ := removeNode_eq haccept
    rw [he, hr']
    intro i m hm
    exact (lookup_erase_eq_some_iff.mp hm).2

theorem writes_updateNodeEndpoint (hinv : RepInv r) (nodeId : UInt64) (addr key : Option String)
    (port : Option UInt16) : Writes r (r.updateNodeEndpoint nodeId addr key port).raft
      (updateRecord r nodeId addr key port) := by
  unfold updateRecord
  cases hnode : r.nodes[nodeId]? with
  | none =>
    obtain ⟨e, he⟩ := updateNodeEndpoint_fails hnode addr key port
    rw [he]
    exact writes_refl r
  | some node =>
    obtain ⟨r', hr', he⟩ := updateNodeEndpoint_eq hnode addr key port
    have hid : (updatedNode node addr key port).id = nodeId := hinv.node_key nodeId node hnode
    rw [he, hr']
    simp [Writes, hid]

theorem writes_setNodeName (hinv : RepInv r) (nodeId : UInt64) (name : String) :
    Writes r (r.setNodeName nodeId name).raft (record r (.setNodeName nodeId name)) := by
  simp only [SwarmRaft.setNodeName, record]
  cases hnode : r.nodes[nodeId]? with
  | none => exact writes_refl r
  | some node => simp [Writes, hinv.node_key nodeId node hnode]

theorem writes_applyCommand (hinv : RepInv r) (cmd : SwarmCommand) :
    Writes r (r.applyCommand cmd).raft (cmd.record r) := by
  cases cmd with
  | addNode nodeId addr publicKey key port =>
    exact writes_addNode hinv nodeId addr publicKey key port
  | removeNode nodeId => exact writes_removeNode nodeId
  | updateNodeEndpoint nodeId addr key port =>
    exact writes_updateNodeEndpoint hinv nodeId addr key port
  | registerNode nodeId addr publicKey =>
    exact writes_addNode hinv nodeId addr publicKey none none
  | deregisterNode nodeId => exact writes_removeNode nodeId
  | _ => exact writes_refl r

theorem writes_submitCommand (hinv : RepInv r) (cmd : SwarmCommand) (commandIndex : UInt64) :
    Writes r (r.submitCommand cmd commandIndex).raft
      (record r (.submitCommand cmd commandIndex)) := by
  have happly := writes_applyCommand hinv cmd
  simp only [record]
  obtain ⟨hinit, he⟩ | ⟨_, hold, he⟩ | ⟨hinit, hfresh, _, he⟩ | ⟨hinit, hfresh, _, he⟩ :=
    submitCommand_cases r cmd commandIndex
  · rw [he, if_neg (by simp [hinit])]
    exact writes_refl r
  · rw [he, if_neg (by simp [hold])]
    exact writes_refl r
  · rw [he, if_pos ⟨hinit, hfresh⟩]
    exact happly
  · rw [he, if_pos ⟨hinit, hfresh⟩]
    cases hrecord : cmd.record r <;> exact hrecord ▸ happly

theorem writes_step (hinv : RepInv r) (a : Action) : Writes r (step r a) (record r a) := by
  cases a with
  | bootstrap addr publicKey key port => exact writes_bootstrap hinv addr publicKey key port
  | addNode nodeId addr publicKey key port =>
    exact writes_addNode hinv nodeId addr publicKey key port
  | removeNode nodeId => exact writes_removeNode nodeId
  | updateNodeEndpoint nodeId addr key port =>
    exact writes_updateNodeEndpoint hinv nodeId addr key port
  | setNodeName nodeId name => exact writes_setNodeName hinv nodeId name
  | submitCommand cmd commandIndex => exact writes_submitCommand hinv cmd commandIndex
  | setSideEffectCallback => exact writes_refl r
  | setLastAppliedIndex index => exact writes_refl r

end Writes

/-! ## Records kept apart -/

/-- The record stands in no other node's way, and no other node in its. -/
def FitsBy (S : NodeInfo → NodeInfo → Prop) (r : SwarmRaft) (n : NodeInfo) : Prop :=
  ∀ m ∈ r.nodes.values, m.id ≠ n.id → ¬ S m n ∧ ¬ S n m

instance (S : NodeInfo → NodeInfo → Prop) [DecidableRel S] (r : SwarmRaft) (n : NodeInfo) :
    Decidable (FitsBy S r n) := inferInstanceAs (Decidable (∀ m ∈ r.nodes.values, _))

section Apart

variable {S : NodeInfo → NodeInfo → Prop}

theorem apart_insert_iff (hself : ∀ n, ¬ S n n) {r r' : SwarmRaft} (hinv : RepInv r)
    (h : Apart S r) {n : NodeInfo} (hnodes : r'.nodes = r.nodes.insert n.id n) :
    Apart S r' ↔ FitsBy S r n := by
  unfold Apart
  simp only [hnodes, lookup_insert_eq_some_iff]
  constructor
  · intro hafter m hm hne
    obtain ⟨i, hi⟩ := mem_values_iff.mp hm
    have hkey : n.id ≠ i := fun he => hne ((hinv.node_key i m hi).trans he.symm)
    exact ⟨hafter i n.id m n (.inr ⟨hkey, hi⟩) (.inl ⟨rfl, rfl⟩),
      hafter n.id i n m (.inl ⟨rfl, rfl⟩) (.inr ⟨hkey, hi⟩)⟩
  · intro hfits i j m m' hm hm'
    have hother : ∀ {i : UInt64} {m : NodeInfo}, n.id ≠ i → r.nodes[i]? = some m →
        ¬ S m n ∧ ¬ S n m := by
      intro i m hi hm
      exact hfits m (mem_values_iff.mpr ⟨i, hm⟩) fun he => hi (he ▸ hinv.node_key i m hm)
    obtain ⟨_, rfl⟩ | ⟨hi, hm⟩ := hm <;> obtain ⟨_, rfl⟩ | ⟨hj, hm'⟩ := hm'
    · exact hself n
    · exact (hother hj hm').2
    · exact (hother hi hm).1
    · exact h i j m m' hm hm'

theorem apart_step_iff (hself : ∀ n, ¬ S n n) {r : SwarmRaft} (hinv : RepInv r) (h : Apart S r)
    (a : Action) : Apart S (step r a) ↔ ∀ n ∈ record r a, FitsBy S r n := by
  have hwrites := writes_step hinv a
  cases hrecord : record r a with
  | none =>
    rw [hrecord] at hwrites
    refine iff_of_true (fun i j m n hm hn => ?_) (by simp)
    exact h i j m n (hwrites i m hm) (hwrites j n hn)
  | some n =>
    rw [hrecord] at hwrites
    rw [apart_insert_iff hself hinv h hwrites]
    simp

/-- Nodes stay apart along a run exactly when every record that is written fits. -/
theorem apart_throughout_iff (hself : ∀ n, ¬ S n n) (localId : UInt64) (run : List Action) :
    Throughout step (Apart S) (SwarmRaft.new localId) run ↔
      Along step (fun r a => ∀ n ∈ record r a, FitsBy S r n) (SwarmRaft.new localId) run := by
  refine throughout_iff_along_of_invariant (I := RepInv) (repInv_new localId) repInv_step ?_
    (fun r a hinv h => apart_step_iff hself hinv h a) run
  intro i j m n hm
  simp [SwarmRaft.new] at hm

end Apart

/-! ## Runs -/

/-- The record stands before no other node's id, and no other node before its id. -/
abbrev Fits : SwarmRaft → NodeInfo → Prop := FitsBy Shadows

/-- What the call writes, if anything, stands before no other node's id, nor after one that
goes by its own. -/
def KeepsIdsApart (r : SwarmRaft) (a : Action) : Prop := ∀ n ∈ record r a, Fits r n

instance (r : SwarmRaft) (a : Action) : Decidable (KeepsIdsApart r a) :=
  inferInstanceAs (Decidable (∀ n ∈ record r a, _))

/-- Along a run no node ever stands before another one's id, exactly when every record that
is written fits. -/
theorem noShadow_throughout_iff (localId : UInt64) (run : List Action) :
    Throughout step NoShadow (SwarmRaft.new localId) run ↔
      Along step KeepsIdsApart (SwarmRaft.new localId) run :=
  apart_throughout_iff not_shadows_self localId run

/-- As long as every record that is written fits, each node is found by its id. -/
theorem resolvesSelf_throughout (localId : UInt64) (run : List Action)
    (h : Along step KeepsIdsApart (SwarmRaft.new localId) run) :
    Throughout step ResolvesSelf (SwarmRaft.new localId) run := by
  intro pre hpre
  have hinv : RepInv (exec step (SwarmRaft.new localId) pre) :=
    exec_of_invariant (repInv_new localId) repInv_step pre
  exact resolvesSelf_of_noShadow hinv ((noShadow_throughout_iff localId run).mpr h pre hpre)

/-- Two nodes, the first of them named after the third. -/
theorem resolvesSelf_throughout_named : Throughout step ResolvesSelf (SwarmRaft.new 1)
    [.bootstrap "10.0.0.1:7946" "leader_key" none none,
      .addNode 2 "10.0.0.2:7946" "key2" none none, .setNodeName 1 "node-3"] :=
  resolvesSelf_throughout 1 _ (by decide)

/-- Node 1 is named `2`, so what asks for node 2 gets the host of node 1. -/
theorem named_after_other_node : ¬ Throughout step ResolvesSelf (SwarmRaft.new 1)
    [.bootstrap "10.0.0.1:7946" "leader_key" none none,
      .addNode 2 "10.0.0.2:7946" "key2" none none, .setNodeName 1 "2"] := by
  intro h
  have hself := h.exec 2 (joinedNode 2 "10.0.0.2:7946" "key2" none none) (by decide) "2" (by decide)
  exact absurd hself (by decide)

end Vyoma.Swarm
