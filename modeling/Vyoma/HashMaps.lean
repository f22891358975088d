import Mathlib.Data.List.AList

/-!
# Hash maps whose iteration order is not determined

A `HashMap` of the Rust standard library hashes with a random seed of its own, so the
order in which it yields its entries is not a function of its contents. A map is read
here together with its order, as an association list without repeated keys. Two maps
have the same contents when their entries are permutations of each other, and a
traversal may meet the entries in any order.
-/
namespace Vyoma

abbrev HashMap (κ ν : Type) : Type := AList (fun _ : κ => ν)

namespace HashMap

variable {κ ν : Type}

/-- The entries in iteration order. -/
def pairs (m : HashMap κ ν) : List (κ × ν) := m.entries.map fun e => (e.1, e.2)

/-- Equal contents, in possibly different orders. -/
def SameContents (m m' : HashMap κ ν) : Prop := m.entries.Perm m'.entries

/-- One outcome of the choice of orders: each map is met with its own contents, in
the order chosen for it. -/
structure Traversal (κ ν : Type) where
  visit : HashMap κ ν → HashMap κ ν
  sameContents : ∀ m, SameContents (visit m) m

/-- The choice that leaves every order as it is. -/
def Traversal.inOrder (κ ν : Type) : Traversal κ ν := ⟨id, fun _ => .refl _⟩

/-- The choice that turns every order around. -/
def Traversal.reversed (κ ν : Type) : Traversal κ ν where
  visit m := ⟨m.entries.reverse,
    (List.perm_nodupKeys (List.reverse_perm m.entries)).mpr m.nodupKeys⟩
  sameContents m := List.reverse_perm m.entries

/-- A map of at most one entry has only one order. -/
theorem visit_eq_self (order : Traversal κ ν) {m : HashMap κ ν} (h : m.entries.length ≤ 1) :
    order.visit m = m := by
  have hperm : (order.visit m).entries.Perm m.entries := order.sameContents m
  apply AList.ext
  obtain hnil | ⟨e, he⟩ : m.entries = [] ∨ ∃ e, m.entries = [e] := by
    cases hm : m.entries with
    | nil => exact .inl rfl
    | cons e rest =>
      rw [hm, List.length_cons] at h
      have hrest : rest = [] := List.length_eq_zero_iff.mp (by omega)
      exact .inr ⟨e, by rw [hrest]⟩
  · rw [hnil] at hperm ⊢
    exact List.perm_nil.mp hperm
  · rw [he] at hperm ⊢
    exact List.perm_singleton.mp hperm

/-- A map of two entries or more has another order. -/
theorem reversed_visit_ne {m : HashMap κ ν} (h : 1 < m.entries.length) :
    (Traversal.reversed κ ν).visit m ≠ m := by
  intro he
  have hrev : m.entries.reverse = m.entries := congrArg AList.entries he
  have hends : m.entries[m.entries.length - 1] = m.entries[0] := by
    have hhead := List.getElem_reverse (l := m.entries) (i := 0)
      (by simpa using Nat.lt_of_succ_lt h)
    simp only [hrev] at hhead
    exact hhead.symm
  have hpos := (List.Nodup.getElem_inj_iff m.nodupKeys.nodup).mp hends
  omega

theorem SameContents.pairs {m m' : HashMap κ ν} (h : SameContents m m') :
    (pairs m).Perm (pairs m') := h.map _

theorem SameContents.of_pairs {m m' : HashMap κ ν} (h : (HashMap.pairs m).Perm (HashMap.pairs m')) :
    SameContents m m' := by
  have hentries : ∀ m : HashMap κ ν,
      (HashMap.pairs m).map (fun p => (⟨p.1, p.2⟩ : Sigma fun _ : κ => ν)) = m.entries := by
    intro m
    rw [HashMap.pairs, List.map_map]
    exact List.map_id _
  have hperm := h.map fun p => (⟨p.1, p.2⟩ : Sigma fun _ : κ => ν)
  rwa [hentries, hentries] at hperm

theorem keys_pairs (m : HashMap κ ν) : (pairs m).map Prod.fst = m.keys := by
  simp [pairs, AList.keys, List.keys, Function.comp_def]

theorem pairs_empty : pairs (∅ : HashMap κ ν) = [] := rfl

theorem mem_pairs [DecidableEq κ] {m : HashMap κ ν} {k : κ} {v : ν} :
    (k, v) ∈ pairs m ↔ m.lookup k = some v := by
  rw [← Option.mem_def, AList.mem_lookup_iff, pairs, List.mem_map]
  constructor
  · intro h
    obtain ⟨⟨k', v'⟩, hmem, he⟩ := h
    cases he
    exact hmem
  · intro h
    exact ⟨⟨k, v⟩, h, rfl⟩

/-- A key has one entry. -/
theorem filter_pairs_key [DecidableEq κ] {m : HashMap κ ν} {k : κ} {v : ν}
    (h : m.lookup k = some v) : (pairs m).filter (fun e => e.1 = k) = [(k, v)] := by
  have hmem : (k, v) ∈ (pairs m).filter fun e => e.1 = k :=
    List.mem_filter.mpr ⟨mem_pairs.mpr h, decide_eq_true rfl⟩
  have hnodup : ((pairs m).filter fun e => e.1 = k).Nodup :=
    (List.Nodup.of_map Prod.fst (keys_pairs m ▸ m.keys_nodup)).filter _
  refine List.perm_singleton.mp ((List.perm_ext_iff_of_nodup hnodup (List.nodup_singleton _)).mpr
    fun e => ?_)
  rw [List.mem_singleton]
  constructor
  · intro he
    obtain ⟨hpair, hkey⟩ := List.mem_filter.mp he
    obtain ⟨k', v'⟩ := e
    cases of_decide_eq_true hkey
    exact congrArg (Prod.mk k') (Option.some.inj ((mem_pairs.mp hpair).symm.trans h))
  · rintro rfl
    exact hmem

theorem lookup_insert [DecidableEq κ] (m : HashMap κ ν) (k a : κ) (v : ν) :
    (m.insert k v).lookup a = if k = a then some v else m.lookup a := by
  split_ifs with h
  · rw [← h, AList.lookup_insert]
  · exact AList.lookup_insert_ne fun he => h he.symm

/-- What is found after a removal was there before. -/
theorem lookup_of_lookup_erase [DecidableEq κ] {m : HashMap κ ν} {k a : κ} {v : ν}
    (h : (m.erase k).lookup a = some v) : m.lookup a = some v := by
  by_cases ha : a = k
  · rw [ha, AList.lookup_erase] at h
    cases h
  · rwa [AList.lookup_erase_ne ha] at h

theorem lookup_visit [DecidableEq κ] (order : Traversal κ ν) (m : HashMap κ ν) (a : κ) :
    (order.visit m).lookup a = m.lookup a := AList.perm_lookup (order.sameContents m)

/-- The keys with their values are the entries. -/
theorem filterMap_lookup_keys [DecidableEq κ] (m : HashMap κ ν) :
    (m.keys.filterMap fun k => (m.lookup k).map (Prod.mk k)) = pairs m := by
  have hself : ∀ e ∈ pairs m,
      ((fun k => (m.lookup k).map (Prod.mk k)) ∘ Prod.fst) e = (some ∘ id) e := by
    rintro ⟨k, v⟩ he
    simp [mem_pairs.mp he]
  rw [← keys_pairs, List.filterMap_map, List.filterMap_congr hself, List.filterMap_eq_map,
    List.map_id]

theorem pairs_insert_perm [DecidableEq κ] {m : HashMap κ ν} {k : κ} (v : ν)
    (h : k ∉ (pairs m).map Prod.fst) : (pairs (m.insert k v)).Perm ((k, v) :: pairs m) := by
  rw [keys_pairs, ← AList.mem_keys] at h
  rw [pairs, AList.entries_insert_of_notMem h, List.map_cons]
  rfl

/-- New keys that are all different are all kept. -/
theorem pairs_foldl_insert_perm [DecidableEq κ] {l : List (κ × ν)} {m : HashMap κ ν}
    (hnodup : ((l ++ pairs m).map Prod.fst).Nodup) :
    (pairs (l.foldl (fun m e => m.insert e.1 e.2) m)).Perm (l ++ pairs m) := by
  induction l generalizing m with
  | nil => exact .refl _
  | cons e l ih =>
    have hfresh : e.1 ∉ (pairs m).map Prod.fst := by
      rw [List.cons_append, List.map_cons, List.nodup_cons, List.map_append] at hnodup
      exact fun h => hnodup.1 (List.mem_append_right _ h)
    have hperm : (l ++ pairs (m.insert e.1 e.2)).Perm (e :: l ++ pairs m) :=
      ((pairs_insert_perm e.2 hfresh).append_left l).trans List.perm_middle
    rw [List.foldl_cons]
    exact (ih ((hperm.map Prod.fst).nodup_iff.mpr hnodup)).trans hperm

theorem lookup_foldl_insert_of_notMem [DecidableEq κ] {μ : Type} (f : κ → ν → μ)
    {l : List (κ × ν)} (m : HashMap κ μ) {a : κ} (h : a ∉ l.map Prod.fst) :
    (l.foldl (fun m e => m.insert e.1 (f e.1 e.2)) m).lookup a = m.lookup a := by
  induction l generalizing m with
  | nil => rfl
  | cons e l ih =>
    rw [List.map_cons, List.mem_cons, not_or] at h
    rw [List.foldl_cons, ih _ h.2, lookup_insert, if_neg (Ne.symm h.1)]

/-- Entries for the keys of a map, written over what is there. -/
theorem lookup_foldl_insert_pairs [DecidableEq κ] {μ : Type} (f : κ → ν → μ) (e : HashMap κ ν)
    (m : HashMap κ μ) (a : κ) :
    ((pairs e).foldl (fun m p => m.insert p.1 (f p.1 p.2)) m).lookup a =
      ((e.lookup a).map (f a)).or (m.lookup a) := by
  cases hlookup : e.lookup a with
  | none =>
    have habsent : a ∉ (pairs e).map Prod.fst := by
      rw [keys_pairs]
      exact AList.lookup_eq_none.mp hlookup
    rw [lookup_foldl_insert_of_notMem f m habsent]
    rfl
  | some v =>
    obtain ⟨before, after, hsplit⟩ := List.append_of_mem (mem_pairs.mpr hlookup)
    have hnodup : ((pairs e).map Prod.fst).Nodup := by
      rw [keys_pairs]
      exact e.keys_nodup
    rw [hsplit, List.map_append, List.map_cons] at hnodup
    have hafter : a ∉ after.map Prod.fst := by
      have hcons := (List.nodup_append.mp hnodup).2.1
      exact (List.nodup_cons.mp hcons).1
    rw [hsplit, List.foldl_append, List.foldl_cons, lookup_foldl_insert_of_notMem f _ hafter,
      lookup_insert, if_pos rfl]
    rfl

/-- `get_mut` followed by a write: the entry of the key is changed where it stands. -/
def update [DecidableEq κ] (m : HashMap κ ν) (k : κ) (f : ν → ν) : HashMap κ ν where
  entries := m.entries.map fun e => ⟨e.1, if e.1 = k then f e.2 else e.2⟩
  nodupKeys := by
    have hkeys := m.nodupKeys
    simpa [List.NodupKeys, List.keys, Function.comp_def] using hkeys

@[simp] theorem lookup_update [DecidableEq κ] (m : HashMap κ ν) (k a : κ) (f : ν → ν) :
    (m.update k f).lookup a = if k = a then (m.lookup a).map f else m.lookup a := by
  obtain ⟨entries, hnodup⟩ := m
  show List.dlookup a (entries.map _) = _
  simp only [AList.lookup]
  clear hnodup
  induction entries with
  | nil => simp
  | cons e entries ih =>
    obtain ⟨b, v⟩ := e
    rw [List.map_cons]
    by_cases hb : b = a
    · subst hb
      rw [List.dlookup_cons_eq, List.dlookup_cons_eq]
      by_cases hk : k = b
      · simp [hk]
      · simp [hk, Ne.symm hk]
    · rw [List.dlookup_cons_ne _ _ fun he => hb he.symm,
        List.dlookup_cons_ne _ _ fun he => hb he.symm]
      exact ih

/-! ## Values in an order that is not known -/

theorem nodup_pairs (m : HashMap κ ν) : (pairs m).Nodup := by
  refine List.Nodup.of_map Prod.fst ?_
  rw [keys_pairs]
  exact m.keys_nodup

/-- The order that meets the entry of one key before all others. -/
def Traversal.first [DecidableEq κ] (k : κ) : Traversal κ ν where
  visit m := (m.lookup k).elim m (m.insert k)
  sameContents m := by
    refine SameContents.of_pairs ((List.perm_ext_iff_of_nodup (nodup_pairs _) (nodup_pairs _)).mpr ?_)
    rintro ⟨a, w⟩
    rw [mem_pairs, mem_pairs]
    cases hk : m.lookup k with
    | none => rfl
    | some v =>
      rw [Option.elim_some, lookup_insert]
      split_ifs with ha
      · rw [← ha, hk]
      · rfl

def values (m : HashMap κ ν) : List ν := (pairs m).map Prod.snd

theorem mem_values_visit (order : Traversal κ ν) {m : HashMap κ ν} {v : ν} :
    v ∈ values (order.visit m) ↔ v ∈ values m :=
  ((order.sameContents m).pairs.map Prod.snd).mem_iff

theorem find?_values_first [DecidableEq κ] {m : HashMap κ ν} {k : κ} {v : ν}
    (hk : m.lookup k = some v) {p : ν → Bool} (hp : p v = true) :
    (values ((Traversal.first k).visit m)).find? p = some v := by
  have hvisit : (Traversal.first k).visit m = m.insert k v := by simp [Traversal.first, hk]
  rw [hvisit, values, pairs, AList.entries_insert, List.map_cons, List.map_cons,
    List.find?_cons_of_pos hp]

/-- The first value that is looked for does not depend on the order exactly when no two
different values are looked for. -/
theorem find?_values_independent_iff [DecidableEq κ] (m : HashMap κ ν) (p : ν → Bool) :
    (∀ order order' : Traversal κ ν,
      (values (order.visit m)).find? p = (values (order'.visit m)).find? p) ↔
    ∀ v ∈ values m, ∀ w ∈ values m, p v = true → p w = true → v = w := by
  constructor
  · intro h v hv w hw hpv hpw
    obtain ⟨⟨k, _⟩, hmem, rfl⟩ := List.mem_map.mp hv
    obtain ⟨⟨k', _⟩, hmem', rfl⟩ := List.mem_map.mp hw
    have hfirst := h (Traversal.first k) (Traversal.first k')
    rw [find?_values_first (mem_pairs.mp hmem) hpv,
      find?_values_first (mem_pairs.mp hmem') hpw] at hfirst
    exact Option.some.inj hfirst
  · intro h order order'
    cases hfind : (values (order.visit m)).find? p with
    | none =>
      rw [List.find?_eq_none] at hfind
      refine (List.find?_eq_none.mpr fun v hv => hfind v ?_).symm
      exact (mem_values_visit order).mpr ((mem_values_visit order').mp hv)
    | some v =>
      have hv := (mem_values_visit order).mp (List.mem_of_find?_eq_some hfind)
      have hpv := List.find?_some hfind
      obtain ⟨w, hw⟩ := Option.isSome_iff_exists.mp
        (List.find?_isSome.mpr ⟨v, (mem_values_visit order').mpr hv, hpv⟩)
      have hw' := (mem_values_visit order').mp (List.mem_of_find?_eq_some hw)
      rw [hw, h v hv w hw' hpv (List.find?_some hw)]

end HashMap

end Vyoma
