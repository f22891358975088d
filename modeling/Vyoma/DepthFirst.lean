import Mathlib.Data.Finset.Basic
import Mathlib.Data.Finset.Card
import Mathlib.Logic.Relation

/-!
# Ordering nodes by depth-first search

Each node has a list of nodes it depends on. The search visits the dependencies of a node
before it appends the node to the order, marks the nodes it is in the middle of, and stops
at a node that is marked and at a dependency that is not a node. A search that succeeds
lists every node after its dependencies; with enough fuel, it succeeds exactly when every
dependency is a node and no node depends on itself.
-/
namespace Vyoma.DepthFirst

variable {κ ν : Type}

inductive OrderError (κ : Type) where
  | circular (name : κ)
  | undefined (name dep : κ)
  | exhausted
  deriving DecidableEq, Repr

structure Search (κ ν : Type) where
  visited : Finset κ
  visiting : Finset κ
  order : List (κ × ν)

def Search.empty : Search κ ν := ⟨∅, ∅, []⟩

section Search

variable [DecidableEq κ] (nodes : κ → Option ν) (deps : ν → List κ)

/-- The loop over the dependencies of a node. -/
def visitDeps (visit : κ → Search κ ν → Except (OrderError κ) (Search κ ν)) (name : κ) :
    List κ → Search κ ν → Except (OrderError κ) (Search κ ν)
  | [], s => .ok s
  | dep :: rest, s =>
    if (nodes dep).isNone then .error (.undefined name dep)
    else
      match visit dep s with
      | .error e => .error e
      | .ok s => visitDeps visit name rest s

def visit : ℕ → κ → Search κ ν → Except (OrderError κ) (Search κ ν)
  | 0, _, _ => .error .exhausted
  | fuel + 1, name, s =>
    if name ∈ s.visited then .ok s
    else if name ∈ s.visiting then .error (.circular name)
    else
      let s := { s with visiting := insert name s.visiting }
      match nodes name with
      | none => .ok s
      | some node =>
        match visitDeps nodes (visit fuel) name (deps node) s with
        | .error e => .error e
        | .ok s =>
          .ok { visited := insert name s.visited
                visiting := s.visiting.erase name
                order := s.order ++ [(name, node)] }

/-- The loop over the nodes to be ordered. -/
def visitAll (fuel : ℕ) : List κ → Search κ ν → Except (OrderError κ) (Search κ ν)
  | [], s => .ok s
  | name :: rest, s =>
    match visit nodes deps fuel name s with
    | .error e => .error e
    | .ok s => visitAll fuel rest s

end Search

section Order

variable (nodes : κ → Option ν) (deps : ν → List κ)

/-- A node depends on another. -/
def DependsOn (a b : κ) : Prop := ∃ node, nodes a = some node ∧ b ∈ deps node

/-- Every dependency is a node. -/
def Defined : Prop := ∀ a b, DependsOn nodes deps a b → (nodes b).isSome

def Acyclic : Prop := ∀ a, ¬Relation.TransGen (DependsOn nodes deps) a a

theorem acyclic_of_rank {nodes : κ → Option ν} {deps : ν → List κ} (rank : κ → ℕ)
    (h : ∀ a b, DependsOn nodes deps a b → rank b < rank a) : Acyclic nodes deps := by
  have hpath : ∀ a b, Relation.TransGen (DependsOn nodes deps) a b → rank b < rank a := by
    intro a b hab
    induction hab with
    | single hedge => exact h _ _ hedge
    | tail _ hedge ih => exact (h _ _ hedge).trans ih
  exact fun a hcycle => (hpath a a hcycle).false

/-- The order lists what was visited, each once and after its dependencies. -/
structure Ordered (s : Search κ ν) : Prop where
  visited : ∀ a, a ∈ s.visited ↔ a ∈ s.order.map Prod.fst
  nodup : (s.order.map Prod.fst).Nodup
  entries : ∀ e ∈ s.order, nodes e.1 = some e.2
  closed : ∀ l a l', s.order.map Prod.fst = l ++ a :: l' → ∀ b, DependsOn nodes deps a b →
    (nodes b).isSome ∧ b ∈ l

/-- What a visit does: the order grows, the marks stay, and no marked node is listed. -/
structure Extends (s s' : Search κ ν) : Prop where
  ordered : Ordered nodes deps s'
  visited : s.visited ⊆ s'.visited
  visiting : s'.visiting = s.visiting
  marked : ∀ a ∈ s.visiting, a ∈ s'.visited → a ∈ s.visited

end Order

variable {nodes : κ → Option ν} {deps : ν → List κ} {s s' : Search κ ν}

theorem ordered_empty : Ordered nodes deps (Search.empty : Search κ ν) where
  visited a := by simp [Search.empty]
  nodup := List.nodup_nil
  entries e h := nomatch h
  closed l a l' h := by simp [Search.empty] at h

theorem Extends.refl (hs : Ordered nodes deps s) : Extends nodes deps s s :=
  ⟨hs, Finset.Subset.refl _, rfl, fun _ _ h => h⟩

theorem Extends.trans {t : Search κ ν} (h : Extends nodes deps s s')
    (h' : Extends nodes deps s' t) : Extends nodes deps s t where
  ordered := h'.ordered
  visited := h.visited.trans h'.visited
  visiting := h'.visiting.trans h.visiting
  marked a ha hmem := h.marked a ha (h'.marked a (h.visiting ▸ ha) hmem)

/-- What a node depends on is listed before it. -/
theorem Ordered.before (hs : Ordered nodes deps s) {a b : κ}
    (h : Relation.TransGen (DependsOn nodes deps) a b) {l l' : List κ}
    (hsplit : s.order.map Prod.fst = l ++ a :: l') : b ∈ l := by
  induction h with
  | single hedge => exact (hs.closed l a l' hsplit _ hedge).2
  | tail _ hedge ih =>
    obtain ⟨l₁, l₂, rfl⟩ := List.append_of_mem ih
    rw [List.append_assoc] at hsplit
    exact List.mem_append_left _ (hs.closed l₁ _ _ hsplit _ hedge).2

theorem Ordered.sublist (hs : Ordered nodes deps s) {a b : κ}
    (ha : a ∈ s.order.map Prod.fst) (h : Relation.TransGen (DependsOn nodes deps) a b) :
    [b, a].Sublist (s.order.map Prod.fst) := by
  obtain ⟨l, l', hsplit⟩ := List.append_of_mem ha
  rw [hsplit]
  exact (List.singleton_sublist.mpr (hs.before h hsplit)).append
    (List.singleton_sublist.mpr List.mem_cons_self)

/-- What holds of visits holds of the loop over dependencies. -/
theorem extends_visitDeps {f : κ → Search κ ν → Except (OrderError κ) (Search κ ν)}
    (hf : ∀ a s s', (nodes a).isSome → Ordered nodes deps s → f a s = .ok s' →
      Extends nodes deps s s' ∧ a ∈ s'.visited)
    {name : κ} {names : List κ} (hs : Ordered nodes deps s)
    (h : visitDeps nodes f name names s = .ok s') :
    Extends nodes deps s s' ∧ ∀ a ∈ names, (nodes a).isSome ∧ a ∈ s'.visited := by
  induction names generalizing s with
  | nil =>
    cases h
    exact ⟨.refl hs, fun a ha => nomatch ha⟩
  | cons dep rest ih =>
    rw [visitDeps] at h
    split_ifs at h with hdep
    have hsome : (nodes dep).isSome := by
      rwa [Bool.not_eq_true, Option.isNone_eq_false_iff] at hdep
    cases hvisit : f dep s with
    | error e =>
      rw [hvisit] at h
      cases h
    | ok s₁ =>
      rw [hvisit] at h
      obtain ⟨hfirst, hmem⟩ := hf dep s s₁ hsome hs hvisit
      obtain ⟨hlater, hall⟩ := ih hfirst.ordered h
      refine ⟨hfirst.trans hlater, fun a ha => ?_⟩
      obtain rfl | ha := List.mem_cons.mp ha
      · exact ⟨hsome, hlater.visited hmem⟩
      · exact hall a ha

/-- The loop fails at a dependency that is not a node, or where a visit fails. -/
theorem visitDeps_error {f : κ → Search κ ν → Except (OrderError κ) (Search κ ν)}
    (hf : ∀ a s s', (nodes a).isSome → Ordered nodes deps s → f a s = .ok s' →
      Extends nodes deps s s' ∧ a ∈ s'.visited)
    {name : κ} {names : List κ} {e : OrderError κ} (hs : Ordered nodes deps s)
    (h : visitDeps nodes f name names s = .error e) :
    ∃ dep ∈ names, nodes dep = none ∧ e = .undefined name dep ∨
      (nodes dep).isSome ∧ ∃ t, Ordered nodes deps t ∧ t.visiting = s.visiting ∧
        f dep t = .error e := by
  induction names generalizing s with
  | nil => cases h
  | cons dep rest ih =>
    rw [visitDeps] at h
    cases hdep : nodes dep with
    | none =>
      rw [hdep] at h
      cases h
      exact ⟨dep, List.mem_cons_self, .inl ⟨hdep, rfl⟩⟩
    | some node =>
      have hsome : (nodes dep).isSome := hdep ▸ rfl
      rw [if_neg (by rw [hdep]; exact Bool.false_ne_true)] at h
      cases hvisit : f dep s with
      | error e' =>
        rw [hvisit] at h
        cases h
        exact ⟨dep, List.mem_cons_self, .inr ⟨hsome, s, hs, rfl, hvisit⟩⟩
      | ok s₁ =>
        rw [hvisit] at h
        obtain ⟨hfirst, -⟩ := hf dep s s₁ hsome hs hvisit
        obtain ⟨dep', hmem, hcases⟩ := ih hfirst.ordered h
        rw [hfirst.visiting] at hcases
        exact ⟨dep', List.mem_cons_of_mem _ hmem, hcases⟩

variable [DecidableEq κ]

/-- A node whose dependencies are listed can be appended. -/
theorem Ordered.append (hs : Ordered nodes deps s) {name : κ} {node : ν}
    (hnode : nodes name = some node) (hname : name ∉ s.visited)
    (hdeps : ∀ b ∈ deps node, (nodes b).isSome ∧ b ∈ s.visited) {visiting : Finset κ} :
    Ordered nodes deps ⟨insert name s.visited, visiting, s.order ++ [(name, node)]⟩ := by
  have hnotMem : name ∉ s.order.map Prod.fst := fun h => hname ((hs.visited name).mpr h)
  refine ⟨fun a => ?_, ?_, fun e he => ?_, fun l a l' hsplit b hb => ?_⟩
  · simp only [Finset.mem_insert, List.map_append, List.map_cons, List.map_nil, List.mem_append,
      List.mem_singleton, hs.visited a]
    exact or_comm
  · rw [List.map_append]
    exact hs.nodup.append (List.nodup_singleton _) (by simpa using hnotMem)
  · obtain he | he := List.mem_append.mp he
    · exact hs.entries e he
    · rw [List.mem_singleton.mp he]
      exact hnode
  · rw [List.map_append, List.map_singleton] at hsplit
    have hnew : a = name → s.order.map Prod.fst = l → (nodes b).isSome ∧ b ∈ l := by
      rintro rfl rfl
      obtain ⟨node', hnode', hmem⟩ := hb
      rw [hnode] at hnode'
      cases hnode'
      exact ⟨(hdeps b hmem).1, (hs.visited b).mp (hdeps b hmem).2⟩
    obtain ⟨rest, hl, hlast⟩ | ⟨rest, hl, hlast⟩ := List.append_eq_append_iff.mp hsplit
    · cases rest with
      | nil =>
        rw [List.append_nil] at hl
        exact hnew (List.cons.inj hlast).1.symm hl.symm
      | cons c rest =>
        have hlength := congrArg List.length hlast
        simp at hlength
    · cases rest with
      | nil =>
        rw [List.append_nil] at hl
        exact hnew (List.cons.inj hlast).1 hl
      | cons c rest =>
        obtain ⟨rfl, -⟩ := List.cons.inj hlast
        exact hs.closed l a rest hl b hb

/-- A visit that succeeds lists the node. -/
theorem extends_visit (fuel : ℕ) (name : κ) (hname : (nodes name).isSome)
    (hs : Ordered nodes deps s) (h : visit nodes deps fuel name s = .ok s') :
    Extends nodes deps s s' ∧ name ∈ s'.visited := by
  induction fuel generalizing name s s' with
  | zero => cases h
  | succ fuel ih =>
    rw [visit] at h
    split_ifs at h with hvisited hvisiting
    · cases h
      exact ⟨.refl hs, hvisited⟩
    · obtain ⟨node, hnode⟩ := Option.isSome_iff_exists.mp hname
      rw [hnode] at h
      dsimp only at h
      cases hdeps : visitDeps nodes (visit nodes deps fuel) name (deps node)
          { s with visiting := insert name s.visiting } with
      | error e =>
        rw [hdeps] at h
        cases h
      | ok s₁ =>
        rw [hdeps] at h
        cases h
        obtain ⟨hextends, hall⟩ := extends_visitDeps
          (fun a t t' ha ht htt' => ih a ha ht htt')
          (s := { s with visiting := insert name s.visiting })
          ⟨hs.visited, hs.nodup, hs.entries, hs.closed⟩ hdeps
        have hfresh : name ∉ s₁.visited := fun hmem =>
          hvisited (hextends.marked name (Finset.mem_insert_self _ _) hmem)
        refine ⟨⟨hextends.ordered.append hnode hfresh hall, ?_, ?_, fun a ha hmem => ?_⟩,
          Finset.mem_insert_self _ _⟩
        · exact hextends.visited.trans (Finset.subset_insert _ _)
        · dsimp only
          rw [hextends.visiting, Finset.erase_insert hvisiting]
        · obtain rfl | hmem := Finset.mem_insert.mp hmem
          · exact absurd ha hvisiting
          · exact hextends.marked a (Finset.mem_insert_of_mem ha) hmem

theorem extends_visitAll {fuel : ℕ} {names : List κ} (hnames : ∀ a ∈ names, (nodes a).isSome)
    (hs : Ordered nodes deps s) (h : visitAll nodes deps fuel names s = .ok s') :
    Extends nodes deps s s' ∧ ∀ a ∈ names, a ∈ s'.visited := by
  induction names generalizing s with
  | nil =>
    cases h
    exact ⟨.refl hs, fun a ha => nomatch ha⟩
  | cons name rest ih =>
    rw [visitAll] at h
    cases hvisit : visit nodes deps fuel name s with
    | error e =>
      rw [hvisit] at h
      cases h
    | ok s₁ =>
      rw [hvisit] at h
      obtain ⟨hfirst, hmem⟩ := extends_visit fuel name (hnames name List.mem_cons_self) hs hvisit
      obtain ⟨hlater, hall⟩ :=
        ih (fun a ha => hnames a (List.mem_cons_of_mem _ ha)) hfirst.ordered h
      refine ⟨hfirst.trans hlater, fun a ha => ?_⟩
      obtain rfl | ha := List.mem_cons.mp ha
      · exact hlater.visited hmem
      · exact hall a ha

/-! ## Searches that fail -/

/-- Why a search fails. -/
inductive Blocked (nodes : κ → Option ν) (deps : ν → List κ) : OrderError κ → Prop
  | undefined {a b : κ} (hedge : DependsOn nodes deps a b) (hb : nodes b = none) :
      Blocked nodes deps (.undefined a b)
  | circular {a : κ} (hcycle : Relation.TransGen (DependsOn nodes deps) a a) :
      Blocked nodes deps (.circular a)

omit [DecidableEq κ] in
theorem not_blocked (hdefined : Defined nodes deps) (hacyclic : Acyclic nodes deps)
    (e : OrderError κ) : ¬Blocked nodes deps e := by
  rintro (⟨hedge, hb⟩ | hcycle)
  · have hsome := hdefined _ _ hedge
    rw [hb] at hsome
    cases hsome
  · exact hacyclic _ hcycle

/-- The marked nodes lead to this one, and there is fuel for the rest. -/
structure Feasible (nodes : κ → Option ν) (deps : ν → List κ) (all : Finset κ) (fuel : ℕ)
    (name : κ) (s : Search κ ν) : Prop where
  ordered : Ordered nodes deps s
  marked : s.visiting ⊆ all
  leads : ∀ a ∈ s.visiting, Relation.TransGen (DependsOn nodes deps) a name
  fuel : all.card < fuel + s.visiting.card

theorem visit_error {all : Finset κ} (hall : ∀ a, (nodes a).isSome → a ∈ all) (fuel : ℕ)
    (name : κ) (hname : (nodes name).isSome) (hs : Feasible nodes deps all fuel name s)
    {e : OrderError κ} (h : visit nodes deps fuel name s = .error e) : Blocked nodes deps e := by
  induction fuel generalizing name s with
  | zero =>
    have hle := Finset.card_le_card hs.marked
    have hlt := hs.fuel
    omega
  | succ fuel ih =>
    rw [visit] at h
    split_ifs at h with hvisited hvisiting
    · cases h
      exact .circular (hs.leads name hvisiting)
    obtain ⟨node, hnode⟩ := Option.isSome_iff_exists.mp hname
    rw [hnode] at h
    dsimp only at h
    cases hdeps : visitDeps nodes (visit nodes deps fuel) name (deps node)
        { s with visiting := insert name s.visiting } with
    | ok s₁ =>
      rw [hdeps] at h
      cases h
    | error e' =>
      rw [hdeps] at h
      cases h
      obtain ⟨dep, hmem, hcases⟩ := visitDeps_error
        (fun a t t' ha ht htt' => extends_visit fuel a ha ht htt')
        (s := { s with visiting := insert name s.visiting })
        ⟨hs.ordered.visited, hs.ordered.nodup, hs.ordered.entries, hs.ordered.closed⟩ hdeps
      have hedge : DependsOn nodes deps name dep := ⟨node, hnode, hmem⟩
      obtain ⟨hnone, rfl⟩ | ⟨hsome, t, ht, hmarks, hfail⟩ := hcases
      · exact .undefined hedge hnone
      · have hcard : (insert name s.visiting).card = s.visiting.card + 1 :=
          Finset.card_insert_of_notMem hvisiting
        refine ih dep hsome ⟨ht, ?_, fun b hb => ?_, ?_⟩ hfail
        · rw [hmarks]
          exact Finset.insert_subset (hall name hname) hs.marked
        · rw [hmarks] at hb
          obtain rfl | hb := Finset.mem_insert.mp hb
          · exact .single hedge
          · exact (hs.leads b hb).tail hedge
        · have hfuel := hs.fuel
          rw [hmarks]
          dsimp only
          omega

/-- With more fuel than nodes, a search fails only at a dependency that is not a node or at a
node that depends on itself. -/
theorem visitAll_error {all : Finset κ} (hall : ∀ a, (nodes a).isSome → a ∈ all) {fuel : ℕ}
    (hfuel : all.card < fuel) {names : List κ} (hnames : ∀ a ∈ names, (nodes a).isSome)
    (hs : Ordered nodes deps s) (hmarks : s.visiting = ∅) {e : OrderError κ}
    (h : visitAll nodes deps fuel names s = .error e) : Blocked nodes deps e := by
  induction names generalizing s with
  | nil => cases h
  | cons name rest ih =>
    have hname := hnames name List.mem_cons_self
    rw [visitAll] at h
    cases hvisit : visit nodes deps fuel name s with
    | error e' =>
      rw [hvisit] at h
      cases h
      exact visit_error hall fuel name hname
        ⟨hs, by simp [hmarks], by simp [hmarks], by rw [hmarks]; exact hfuel⟩ hvisit
    | ok s₁ =>
      rw [hvisit] at h
      obtain ⟨hfirst, -⟩ := extends_visit fuel name hname hs hvisit
      exact ih (fun a ha => hnames a (List.mem_cons_of_mem _ ha)) hfirst.ordered
        (hfirst.visiting.trans hmarks) h

end Vyoma.DepthFirst
