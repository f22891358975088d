import Mathlib.Data.List.Basic

/-!
# Lookups in ordered maps with a lawful comparison

Where comparing equal means being equal, a lookup after an update is decided by
equality of keys. Rust's `BTreeMap` and the trees of sled are read this way.
-/
namespace Vyoma.OrderedMaps

variable {κ ν : Type*} [DecidableEq κ] {cmp : κ → κ → Ordering} [Std.TransCmp cmp]
  [Std.LawfulEqCmp cmp]

theorem lookup_insert (t : Std.ExtTreeMap κ ν cmp) (k a : κ) (v : ν) :
    (t.insert k v)[a]? = if k = a then some v else t[a]? := by
  simp only [Std.ExtTreeMap.getElem?_insert, Std.LawfulEqCmp.compare_eq_iff_eq]

theorem lookup_erase (t : Std.ExtTreeMap κ ν cmp) (k a : κ) :
    (t.erase k)[a]? = if k = a then none else t[a]? := by
  simp only [Std.ExtTreeMap.getElem?_erase, Std.LawfulEqCmp.compare_eq_iff_eq]

/-- An entry that is changed in place. -/
theorem lookup_insert_map {t : Std.ExtTreeMap κ ν cmp} {k : κ} {v : ν} (h : t[k]? = some v)
    (f : ν → ν) (a : κ) :
    (t.insert k (f v))[a]? = if k = a then (t[a]?).map f else t[a]? := by
  rw [lookup_insert]
  split_ifs with hk
  · rw [← hk, h]
    rfl
  · rfl

omit [Std.LawfulEqCmp cmp] in
/-- Nothing is changed where there is no entry. -/
theorem lookup_eq_map {t : Std.ExtTreeMap κ ν cmp} {k : κ} (h : t[k]? = none)
    (f : ν → ν) (a : κ) : t[a]? = if k = a then (t[a]?).map f else t[a]? := by
  split_ifs with hk
  · rw [← hk, h]
    rfl
  · rfl

theorem lookup_insert_eq_some_iff {t : Std.ExtTreeMap κ ν cmp} {k a : κ} {v w : ν} :
    (t.insert k v)[a]? = some w ↔ k = a ∧ v = w ∨ k ≠ a ∧ t[a]? = some w := by
  rw [lookup_insert]
  split_ifs with h <;> simp [h]

theorem lookup_erase_eq_some_iff {t : Std.ExtTreeMap κ ν cmp} {k a : κ} {w : ν} :
    (t.erase k)[a]? = some w ↔ k ≠ a ∧ t[a]? = some w := by
  rw [lookup_erase]
  split_ifs with h <;> simp [h]

omit [DecidableEq κ] in
theorem lookup_filter (t : Std.ExtTreeMap κ ν cmp) (f : κ → ν → Bool) (a : κ) :
    (t.filter f)[a]? = (t[a]?).filter (f a) :=
  Std.ExtTreeMap.getElem?_filter'

omit [DecidableEq κ] in
theorem mem_insert_iff {t : Std.ExtTreeMap κ ν cmp} {k a : κ} {v : ν} :
    a ∈ t.insert k v ↔ k = a ∨ a ∈ t := by
  rw [Std.ExtTreeMap.mem_insert, Std.LawfulEqCmp.compare_eq_iff_eq]

omit [DecidableEq κ] [Std.LawfulEqCmp cmp] in
theorem mem_iff_lookup {t : Std.ExtTreeMap κ ν cmp} {a : κ} : a ∈ t ↔ ∃ v, t[a]? = some v := by
  rw [Std.ExtTreeMap.mem_iff_isSome_getElem?, Option.isSome_iff_exists]

omit [DecidableEq κ] in
/-- Two entries of which neither key is after the other are one. -/
theorem eq_of_isLE {t : Std.ExtTreeMap κ ν cmp} {k k' : κ} {v v' : ν} (hv : t[k]? = some v)
    (hv' : t[k']? = some v') (hle : (cmp k k').isLE = true) (hge : (cmp k' k).isLE = true) :
    v = v' := by
  have hkey : k = k' := Std.LawfulEqCmp.compare_eq_iff_eq.mp (Std.OrientedCmp.isLE_antisymm hle hge)
  rw [hkey, hv'] at hv
  exact (Option.some.inj hv).symm

/-! ## The values as a list -/

omit [DecidableEq κ] [Std.LawfulEqCmp cmp] in
theorem values_eq_map_toList (t : Std.ExtTreeMap κ ν cmp) : t.values = t.toList.map Prod.snd := by
  obtain ⟨⟨t⟩⟩ := t
  induction t using Quot.ind with
  | mk t =>
    show t.inner.values = (Std.DTreeMap.Internal.Impl.Const.toList t.inner).map Prod.snd
    rw [Std.DTreeMap.Internal.Impl.values_eq_map_snd,
      Std.DTreeMap.Internal.Impl.Const.toList_eq_toListModel_map, List.map_map]
    rfl

omit [DecidableEq κ] [Std.LawfulEqCmp cmp] in
theorem nodup_toList (t : Std.ExtTreeMap κ ν cmp) : t.toList.Nodup := by
  refine Std.ExtTreeMap.distinct_keys_toList.imp ?_
  intro a b h he
  exact h (he ▸ Std.ReflCmp.compare_self)

/-- A key behind all others is added at the end. -/
theorem toList_insert_of_greatest {t : Std.ExtTreeMap κ ν cmp} {k : κ} (v : ν)
    (h : ∀ a, a ∈ t → cmp a k = .lt) : (t.insert k v).toList = t.toList ++ [(k, v)] := by
  have hself : ∀ a, cmp a a = .eq := fun _ => Std.ReflCmp.compare_self
  have hnot : k ∉ t := by
    intro hk
    have hlt := h k hk
    rw [hself] at hlt
    cases hlt
  have hsorted : (t.toList ++ [(k, v)]).Pairwise fun a b => cmp a.1 b.1 = .lt := by
    rw [List.pairwise_append]
    refine ⟨Std.ExtTreeMap.ordered_keys_toList, List.pairwise_singleton _ _, ?_⟩
    intro a ha b hb
    rw [List.mem_singleton.mp hb]
    exact h a.1 (mem_iff_lookup.mpr ⟨a.2, Std.ExtTreeMap.mem_toList_iff_getElem?_eq_some.mp ha⟩)
  have hperm : (t.insert k v).toList.Perm (t.toList ++ [(k, v)]) := by
    refine (List.perm_ext_iff_of_nodup (nodup_toList _) ?_).mpr ?_
    · refine hsorted.imp fun {a b} hab he => ?_
      rw [he, hself] at hab
      cases hab
    · intro e
      obtain ⟨a, w⟩ := e
      rw [List.mem_append, List.mem_singleton, Std.ExtTreeMap.mem_toList_iff_getElem?_eq_some,
        Std.ExtTreeMap.mem_toList_iff_getElem?_eq_some, lookup_insert, Prod.mk.injEq]
      split_ifs with ha
      · subst ha
        simp [Std.ExtTreeMap.getElem?_eq_none hnot, eq_comm]
      · have hne : a ≠ k := fun he => ha he.symm
        simp [hne]
  refine hperm.eq_of_pairwise ?_ Std.ExtTreeMap.ordered_keys_toList hsorted
  intro a b _ _ hab hba
  have hswap : cmp a.1 b.1 = (cmp b.1 a.1).swap := Std.OrientedCmp.eq_swap
  rw [hswap, hba] at hab
  cases hab

/-- Up to order, the values are that of one key and those of the others. -/
theorem values_perm {t : Std.ExtTreeMap κ ν cmp} {k : κ} {v : ν} (h : t[k]? = some v) :
    t.values.Perm (v :: (t.erase k).values) := by
  have hlist : t.toList.Perm ((k, v) :: (t.erase k).toList) := by
    refine (List.perm_ext_iff_of_nodup (nodup_toList t) ?_).mpr ?_
    · refine List.nodup_cons.mpr ⟨?_, nodup_toList _⟩
      simp [Std.ExtTreeMap.mem_toList_iff_getElem?_eq_some]
    · intro entry
      obtain ⟨a, w⟩ := entry
      rw [List.mem_cons, Std.ExtTreeMap.mem_toList_iff_getElem?_eq_some,
        Std.ExtTreeMap.mem_toList_iff_getElem?_eq_some, lookup_erase, Prod.mk.injEq]
      by_cases ha : k = a
      · subst ha
        simp [h, eq_comm]
      · have hne : a ≠ k := fun he => ha he.symm
        simp [ha, hne]
  rw [values_eq_map_toList, values_eq_map_toList]
  exact hlist.map Prod.snd

theorem erase_insert (t : Std.ExtTreeMap κ ν cmp) (k : κ) (v : ν) :
    (t.insert k v).erase k = t.erase k := by
  apply Std.ExtTreeMap.ext_getElem?
  intro a
  rw [lookup_erase, lookup_erase, lookup_insert]
  split_ifs <;> rfl

theorem values_insert_perm (t : Std.ExtTreeMap κ ν cmp) (k : κ) (v : ν) :
    (t.insert k v).values.Perm (v :: (t.erase k).values) := by
  have hself : (t.insert k v)[k]? = some v := by simp
  have hperm := values_perm hself
  rwa [erase_insert] at hperm

theorem erase_of_notMem {t : Std.ExtTreeMap κ ν cmp} {k : κ} (h : k ∉ t) : t.erase k = t := by
  apply Std.ExtTreeMap.ext_getElem?
  intro a
  rw [lookup_erase]
  split_ifs with ha
  · rw [← ha, Std.ExtTreeMap.getElem?_eq_none h]
  · rfl

omit [DecidableEq κ] in
theorem mem_values_iff {t : Std.ExtTreeMap κ ν cmp} {v : ν} :
    v ∈ t.values ↔ ∃ k : κ, t[k]? = some v := by
  rw [values_eq_map_toList, List.mem_map]
  constructor
  · intro h
    obtain ⟨⟨k, w⟩, hmem, rfl⟩ := h
    exact ⟨k, Std.ExtTreeMap.mem_toList_iff_getElem?_eq_some.mp hmem⟩
  · intro h
    obtain ⟨k, hk⟩ := h
    exact ⟨(k, v), Std.ExtTreeMap.mem_toList_iff_getElem?_eq_some.mpr hk, rfl⟩

omit [DecidableEq κ] in
/-- The first value that is looked for stands at the key of any such value or before it. -/
theorem find?_values {t : Std.ExtTreeMap κ ν cmp} {p : ν → Bool} {k : κ} {v : ν}
    (hv : t[k]? = some v) (hp : p v = true) :
    ∃ i w, t.values.find? p = some w ∧ t[i]? = some w ∧ p w = true ∧ (i = k ∨ cmp i k = .lt) := by
  have hmem : (k, v) ∈ t.toList := Std.ExtTreeMap.mem_toList_iff_getElem?_eq_some.mpr hv
  have hsome : (t.toList.find? (p ∘ Prod.snd)).isSome := by
    rw [List.find?_isSome]
    exact ⟨(k, v), hmem, hp⟩
  obtain ⟨⟨i, w⟩, hfind⟩ := Option.isSome_iff_exists.mp hsome
  obtain ⟨hw, pre, post, hlist, hpre⟩ := List.find?_eq_some_iff_append.mp hfind
  refine ⟨i, w, ?_, ?_, hw, ?_⟩
  · rw [values_eq_map_toList, List.find?_map, hfind, Option.map_some]
  · rw [← Std.ExtTreeMap.mem_toList_iff_getElem?_eq_some, hlist]
    simp
  · have hsorted := Std.ExtTreeMap.ordered_keys_toList (t := t)
    rw [hlist, List.mem_append, List.mem_cons] at hmem
    rw [hlist] at hsorted
    obtain hbefore | hself | hafter := hmem
    · have := hpre (k, v) hbefore
      simp [hp] at this
    · left
      exact (Prod.mk.inj hself).1.symm
    · right
      exact (List.pairwise_cons.mp (List.pairwise_append.mp hsorted).2.1).1 (k, v) hafter

end Vyoma.OrderedMaps
