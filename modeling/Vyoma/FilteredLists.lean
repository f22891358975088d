import Mathlib.Data.List.Induction
import Mathlib.Data.List.Nodup
import Mathlib.Data.List.Perm.Basic

/-!
# Filtered lists

Two partial functions read the entries of a list, and each drops those it does not know. The
results are equal where the functions agree on every entry. When keys are not repeated and the
first function has one key only for the entries that the second drops, the results are equal in
one more case: one such entry stands for another one, with only dropped entries between them.
Elements that are selected keep their positions when they stand before all others.
-/
namespace Vyoma.FilteredLists

variable {α β κ μ : Type}

/-- What is dropped more often gives less. -/
theorem sublist_filterMap {f g : α → Option β} {l : List α}
    (h : ∀ e ∈ l, f e = g e ∨ f e = none) : (l.filterMap f).Sublist (l.filterMap g) := by
  induction l with
  | nil => simp
  | cons e l ih =>
    have hrest := ih fun e he => h e (List.mem_cons_of_mem _ he)
    cases hg : g e with
    | none =>
      have hf : f e = none := by simpa [hg] using h e List.mem_cons_self
      rwa [List.filterMap_cons_none hf, List.filterMap_cons_none hg]
    | some b =>
      rw [List.filterMap_cons_some hg]
      obtain hf | hf := h e List.mem_cons_self
      · rw [List.filterMap_cons_some (hf.trans hg)]
        exact hrest.cons_cons b
      · rw [List.filterMap_cons_none hf]
        exact hrest.cons b

theorem sublist_flatMap {f g : α → List β} {l : List α} (h : ∀ e ∈ l, (f e).Sublist (g e)) :
    (l.flatMap f).Sublist (l.flatMap g) := by
  induction l with
  | nil => simp
  | cons e l ih =>
    rw [List.flatMap_cons, List.flatMap_cons]
    exact (h e List.mem_cons_self).append (ih fun e he => h e (List.mem_cons_of_mem _ he))

/-- What is read of a sublist is all that is read when the rest is dropped. -/
theorem filterMap_of_sublist {f : α → Option β} {k l : List α} (hnodup : l.Nodup)
    (hsub : k.Sublist l) (h : ∀ e ∈ l, e ∉ k → f e = none) : l.filterMap f = k.filterMap f := by
  induction hsub with
  | slnil => rfl
  | @cons k l a hsub ih =>
    obtain ⟨ha, hrest⟩ := List.nodup_cons.mp hnodup
    have hdropped : f a = none := h a List.mem_cons_self fun hk => ha (hsub.subset hk)
    rw [List.filterMap_cons_none hdropped]
    exact ih hrest fun e he hek => h e (List.mem_cons_of_mem a he) hek
  | @cons_cons k l a hsub ih =>
    obtain ⟨ha, hrest⟩ := List.nodup_cons.mp hnodup
    rw [List.filterMap_cons, List.filterMap_cons, ih hrest fun e he hek => ?_]
    refine h e (List.mem_cons_of_mem a he) fun hmem => ?_
    obtain rfl | hmem := List.mem_cons.mp hmem
    · exact ha he
    · exact hek hmem

/-- What is read without repetition comes from one entry. -/
theorem eq_of_filterMap_nodup {f : α → Option β} {l : List α} (hnodup : (l.filterMap f).Nodup)
    {e e' : α} (he : e ∈ l) (he' : e' ∈ l) {b : β} (h : f e = some b) (h' : f e' = some b) :
    e = e' := by
  induction l with
  | nil => cases he
  | cons a l ih =>
    have hread : ∀ c ∈ l, f c = some b → b ∈ l.filterMap f :=
      fun c hc hfc => List.mem_filterMap.mpr ⟨c, hc, hfc⟩
    have hrest : (l.filterMap f).Nodup := hnodup.sublist ((List.sublist_cons_self a l).filterMap f)
    have hfresh : f a = some b → b ∉ l.filterMap f := by
      intro ha
      rw [List.filterMap_cons_some ha] at hnodup
      exact (List.nodup_cons.mp hnodup).1
    obtain hhead | hlater := List.mem_cons.mp he
    · obtain hhead' | hlater' := List.mem_cons.mp he'
      · exact hhead.trans hhead'.symm
      · exact absurd (hread e' hlater' h') (hfresh (hhead ▸ h))
    · obtain hhead' | hlater' := List.mem_cons.mp he'
      · exact absurd (hread e hlater h) (hfresh (hhead' ▸ h'))
      · exact ih hrest hlater hlater'

/-- Nothing is dropped by one function only. -/
theorem agree_of_filterMap_eq {f g : α → Option β} {l : List α}
    (h : ∀ e ∈ l, f e = g e ∨ f e = none) (heq : l.filterMap f = l.filterMap g) :
    ∀ e ∈ l, f e = g e := by
  induction l with
  | nil => simp
  | cons e l ih =>
    have hlater : ∀ e ∈ l, f e = g e ∨ f e = none := fun e he => h e (List.mem_cons_of_mem _ he)
    have hle := (sublist_filterMap hlater).length_le
    have hhead : f e = g e := by
      obtain hf | hf := h e List.mem_cons_self
      · exact hf
      · cases hg : g e with
        | none => exact hf
        | some b =>
          have hlength := congrArg List.length heq
          rw [List.filterMap_cons_none hf, List.filterMap_cons_some hg, List.length_cons] at hlength
          omega
    have hrest : l.filterMap f = l.filterMap g := by
      cases hg : g e with
      | none => rwa [List.filterMap_cons_none (hhead.trans hg), List.filterMap_cons_none hg] at heq
      | some b =>
        rw [List.filterMap_cons_some (hhead.trans hg), List.filterMap_cons_some hg] at heq
        exact (List.cons.inj heq).2
    exact List.forall_mem_cons.mpr ⟨hhead, ih hlater hrest⟩

theorem filterMap_eq_iff {f g : α → Option β} {l : List α}
    (h : ∀ e ∈ l, f e = g e ∨ f e = none) :
    l.filterMap f = l.filterMap g ↔ ∀ e ∈ l, f e = g e :=
  ⟨agree_of_filterMap_eq h, List.filterMap_congr⟩

/-- One entry is read by the first function only and another by the second only, as the same
pair, with nothing that is read between them. -/
def Exchanged (f g : α → Option (κ × μ)) (k : κ) (l : List α) : Prop :=
  ∃ before between after p q y,
    (l = before ++ p :: (between ++ q :: after) ∨ l = before ++ q :: (between ++ p :: after)) ∧
    (∀ e ∈ before ++ after, f e = g e) ∧ (∀ e ∈ between, f e = none ∧ g e = none) ∧
    (f p = some (k, y) ∧ g p = none) ∧ f q = none ∧ g q = some (k, y)

section Exchange

variable {f g : α → Option (κ × μ)} {k : κ} {l : List α}

theorem Exchanged.cons {e : α} (he : f e = g e) (h : Exchanged f g k l) :
    Exchanged f g k (e :: l) := by
  obtain ⟨before, between, after, p, q, y, hsplit, hagree, hrest⟩ := h
  refine ⟨e :: before, between, after, p, q, y, ?_, List.forall_mem_cons.mpr ⟨he, hagree⟩, hrest⟩
  obtain rfl | rfl := hsplit
  · exact .inl rfl
  · exact .inr rfl

theorem filterMap_eq_of_exchanged (h : Exchanged f g k l) : l.filterMap f = l.filterMap g := by
  obtain ⟨before, between, after, p, q, y, hsplit, hagree, hbetween, ⟨hfp, hgp⟩, hfq, hgq⟩ := h
  have hbefore : before.filterMap f = before.filterMap g :=
    List.filterMap_congr fun e he => hagree e (List.mem_append_left _ he)
  have hafter : after.filterMap f = after.filterMap g :=
    List.filterMap_congr fun e he => hagree e (List.mem_append_right _ he)
  have hf : between.filterMap f = [] := List.filterMap_eq_nil_iff.mpr fun e he => (hbetween e he).1
  have hg : between.filterMap g = [] := List.filterMap_eq_nil_iff.mpr fun e he => (hbetween e he).2
  obtain rfl | rfl := hsplit <;>
    simp [hfp, hgp, hfq, hgq, hbefore, hafter, hf, hg]

/-- How the functions may read an entry: alike, or one of them drops it, and what only the first
one reads has the key. -/
def Kind (f g : α → Option (κ × μ)) (k : κ) (e : α) : Prop :=
  f e = g e ∨ (∃ y, f e = some (k, y) ∧ g e = none) ∨ f e = none

/-- What does not have the key is dropped by the first function or read alike. -/
theorem Kind.agree_or_none {e : α} (h : Kind f g k e) (hkey : ∀ y, f e ≠ some (k, y)) :
    f e = g e ∨ f e = none := by
  obtain hagree | ⟨y, hf, -⟩ | hnone := h
  · exact .inl hagree
  · exact absurd hf (hkey y)
  · exact .inr hnone

theorem fst_mem_of_mem_filterMap {e : α} (he : e ∈ l) {y : μ} (h : f e = some (k, y)) :
    k ∈ (l.filterMap f).map Prod.fst :=
  List.mem_map_of_mem (List.mem_filterMap.mpr ⟨e, he, h⟩)

/-- The first function reads the first entry, and the second one finds the pair later. -/
theorem exchanged_of_first {e : α} {y : μ} (hkind : ∀ e ∈ l, Kind f g k e)
    (hf : f e = some (k, y)) (hg : g e = none) (hnodup : ((l.filterMap g).map Prod.fst).Nodup)
    (heq : (k, y) :: l.filterMap f = l.filterMap g) : Exchanged f g k (e :: l) := by
  obtain ⟨between, q, after, rfl, hbetween, hq, hrest⟩ := List.filterMap_eq_cons_iff.mp heq.symm
  rw [← heq, List.map_cons, List.nodup_cons] at hnodup
  have hkey : ∀ e ∈ between ++ q :: after, ∀ y, f e ≠ some (k, y) :=
    fun e he y h => hnodup.1 (fst_mem_of_mem_filterMap he h)
  have hnone : ∀ e ∈ between ++ q :: after, f e = g e ∨ f e = none :=
    fun e he => (hkind e he).agree_or_none (hkey e he)
  have hfq : f q = none := by
    have hmem : q ∈ between ++ q :: after := List.mem_append_right _ List.mem_cons_self
    exact (hnone q hmem).resolve_left fun h => hkey q hmem y (h.trans hq)
  have hdropped : ∀ e ∈ between, f e = none ∧ g e = none := by
    intro e he
    refine ⟨?_, hbetween e he⟩
    obtain h | h := hnone e (List.mem_append_left _ he)
    · exact h.trans (hbetween e he)
    · exact h
  have hafter : after.filterMap f = after.filterMap g := by
    rw [hrest, List.filterMap_append, List.filterMap_eq_nil_iff.mpr fun e he => (hdropped e he).1,
      List.filterMap_cons_none hfq, List.nil_append]
  have hagree : ∀ e ∈ after, f e = g e := agree_of_filterMap_eq
    (fun e he => hnone e (List.mem_append_right _ (List.mem_cons_of_mem _ he))) hafter
  exact ⟨[], between, after, e, q, y, .inl rfl, hagree, hdropped, ⟨hf, hg⟩, hfq, hq⟩

/-- The second function reads the first entry, and the first one finds the pair later. -/
theorem exchanged_of_second {e : α} {b : κ × μ} (hkind : ∀ e ∈ l, Kind f g k e)
    (hf : f e = none) (hg : g e = some b) (hnodup : (b :: l.filterMap g).map Prod.fst |>.Nodup)
    (heq : l.filterMap f = b :: l.filterMap g) : Exchanged f g k (e :: l) := by
  obtain ⟨between, p, after, rfl, hbetween, hp, hrest⟩ := List.filterMap_eq_cons_iff.mp heq
  rw [List.map_cons, List.nodup_cons] at hnodup
  have hpmem : p ∈ between ++ p :: after := List.mem_append_right _ List.mem_cons_self
  obtain ⟨y, rfl, hgp⟩ : ∃ y, b = (k, y) ∧ g p = none := by
    obtain h | ⟨y, h, hnone⟩ | h := hkind p hpmem
    · exact absurd (fst_mem_of_mem_filterMap hpmem (h.symm.trans hp)) hnodup.1
    · exact ⟨y, Option.some.inj (hp.symm.trans h), hnone⟩
    · rw [hp] at h
      cases h
  have hkey : ∀ e ∈ after, ∀ y, f e ≠ some (k, y) := by
    intro e he y h
    have hmem : k ∈ (after.filterMap f).map Prod.fst := fst_mem_of_mem_filterMap he h
    rw [hrest] at hmem
    exact hnodup.1 hmem
  have hnone : ∀ e ∈ after, f e = g e ∨ f e = none := fun e he =>
    (hkind e (List.mem_append_right _ (List.mem_cons_of_mem _ he))).agree_or_none (hkey e he)
  rw [List.filterMap_append, List.filterMap_cons_none hgp] at hrest
  have hempty : between.filterMap g = [] := by
    have hle := (sublist_filterMap hnone).length_le
    rw [hrest, List.length_append] at hle
    exact List.length_eq_zero_iff.mp (by omega)
  rw [hempty, List.nil_append] at hrest
  refine ⟨[], between, after, p, e, y, .inr rfl, agree_of_filterMap_eq hnone hrest, ?_, ⟨hp, hgp⟩,
    hf, hg⟩
  exact fun e he => ⟨hbetween e he, List.filterMap_eq_nil_iff.mp hempty e he⟩

/-- Where the results are equal and no key is repeated, the functions agree on every entry or
one entry stands for another. -/
theorem agree_or_exchanged
    (hkind : ∀ e ∈ l, Kind f g k e) (hnodup : ((l.filterMap g).map Prod.fst).Nodup)
    (heq : l.filterMap f = l.filterMap g) : (∀ e ∈ l, f e = g e) ∨ Exchanged f g k l := by
  induction l with
  | nil => simp
  | cons e l ih =>
    have hlater : ∀ e ∈ l, Kind f g k e := fun e he => hkind e (List.mem_cons_of_mem _ he)
    by_cases hagree : f e = g e
    · have hrest : l.filterMap f = l.filterMap g ∧ ((l.filterMap g).map Prod.fst).Nodup := by
        cases hg : g e with
        | none =>
          rw [List.filterMap_cons_none (hagree.trans hg), List.filterMap_cons_none hg] at heq
          rw [List.filterMap_cons_none hg] at hnodup
          exact ⟨heq, hnodup⟩
        | some b =>
          rw [List.filterMap_cons_some (hagree.trans hg), List.filterMap_cons_some hg] at heq
          rw [List.filterMap_cons_some hg, List.map_cons] at hnodup
          exact ⟨(List.cons.inj heq).2, hnodup.of_cons⟩
      obtain hall | hexchanged := ih hlater hrest.2 hrest.1
      · exact .inl (List.forall_mem_cons.mpr ⟨hagree, hall⟩)
      · exact .inr (hexchanged.cons hagree)
    · right
      obtain hf | ⟨y, hf, hg⟩ | hf := hkind e List.mem_cons_self
      · exact absurd hf hagree
      · rw [List.filterMap_cons_some hf, List.filterMap_cons_none hg] at heq
        rw [List.filterMap_cons_none hg] at hnodup
        exact exchanged_of_first hlater hf hg hnodup heq
      · cases hg : g e with
        | none => exact absurd (hf.trans hg.symm) hagree
        | some b =>
          rw [List.filterMap_cons_none hf, List.filterMap_cons_some hg] at heq
          rw [List.filterMap_cons_some hg] at hnodup
          exact exchanged_of_second hlater hf hg hnodup heq

end Exchange

/-- The only element that is looked for is found. -/
theorem find?_of_unique {p : α → Bool} {a : α} {l : List α} (ha : a ∈ l) (hp : p a = true)
    (h : ∀ b ∈ l, p b = true → b = a) : l.find? p = some a := by
  obtain ⟨b, hb⟩ := Option.isSome_iff_exists.mp (List.find?_isSome.mpr ⟨a, ha, hp⟩)
  rw [hb, h b (List.mem_of_find?_eq_some hb) (List.find?_some hb)]

/-! ## Positions of selected elements -/

theorem nodup_zipIdx (l : List α) : l.zipIdx.Nodup := by
  refine List.Nodup.of_map Prod.snd ?_
  rw [List.zipIdx_map_snd]
  exact List.nodup_range'

/-- When the selected elements stand before all others, their positions do not change. -/
theorem zipIdx_filter_of_initial {l : List α} {c : α × ℕ → Bool}
    (h : ∀ p ∈ l.zipIdx, c p = true → ∀ q ∈ l.zipIdx, q.2 < p.2 → c q = true) :
    ((l.zipIdx.filter c).map Prod.fst).zipIdx = l.zipIdx.filter c := by
  induction l using List.reverseRecOn with
  | nil => rfl
  | append_singleton l x ih =>
    rw [List.zipIdx_append, List.zipIdx_singleton, Nat.zero_add] at h ⊢
    have hinit : ∀ p ∈ l.zipIdx, c p = true → ∀ q ∈ l.zipIdx, q.2 < p.2 → c q = true :=
      fun p hp hc q hq => h p (List.mem_append_left _ hp) hc q (List.mem_append_left _ hq)
    cases hx : c (x, l.length) with
    | false => simpa [List.filter_append, hx] using ih hinit
    | true =>
      have hall : ∀ q ∈ l.zipIdx, c q = true := by
        intro q hq
        have hlt : q.2 < l.length := List.snd_lt_of_mem_zipIdx hq
        exact h _ (List.mem_append_right _ (List.mem_singleton_self _)) hx q
          (List.mem_append_left _ hq) hlt
      simp [List.filter_append, List.filter_eq_self.mpr hall, hx, List.zipIdx_append]

/-- Numbering some of the selected elements anew gives all of them their positions exactly
when all are among them and stand before all that are not selected. -/
theorem zipIdx_filter_eq_iff (l : List α) {a c : α × ℕ → Bool}
    (hac : ∀ p, a p = true → c p = true) :
    (∀ p, p ∈ ((l.zipIdx.filter a).map Prod.fst).zipIdx ↔ p ∈ l.zipIdx.filter c) ↔
      ∀ p ∈ l.zipIdx, c p = true → a p = true ∧ ∀ q ∈ l.zipIdx, q.2 < p.2 → c q = true := by
  constructor
  · intro h
    have hperm := (List.perm_ext_iff_of_nodup (nodup_zipIdx _)
      ((nodup_zipIdx l).filter c)).mpr h
    have hlength : (l.zipIdx.filter a).length = (l.zipIdx.filter c).length := by
      simpa using hperm.length_eq
    have hsub : (l.zipIdx.filter a).Sublist (l.zipIdx.filter c) := List.monotone_filter_right _ hac
    have heq : l.zipIdx.filter a = l.zipIdx.filter c := hsub.eq_of_length hlength
    intro p hp hc
    have hpc : p ∈ l.zipIdx.filter c := List.mem_filter.mpr ⟨hp, hc⟩
    refine ⟨(List.mem_filter.mp (heq ▸ hpc)).2, fun q hq hlt => ?_⟩
    have hpos : p.2 < ((l.zipIdx.filter a).map Prod.fst).length :=
      List.snd_lt_of_mem_zipIdx ((h p).mpr hpc)
    have hq' := (h (_, q.2)).mp (List.mk_mem_zipIdx_iff_getElem?.mpr
      (List.getElem?_eq_getElem (Nat.lt_trans hlt hpos)))
    obtain ⟨hmem, hcq⟩ := List.mem_filter.mp hq'
    have hfst := (List.mk_mem_zipIdx_iff_getElem?.mp hmem).symm.trans
      (List.mk_mem_zipIdx_iff_getElem?.mp hq)
    rw [Option.some.injEq] at hfst
    rwa [hfst] at hcq
  · intro h p
    have heq : l.zipIdx.filter a = l.zipIdx.filter c := by
      refine List.filter_congr fun p hp => ?_
      rw [Bool.eq_iff_iff]
      exact ⟨hac p, fun hc => (h p hp hc).1⟩
    rw [heq, zipIdx_filter_of_initial fun p hp hc => (h p hp hc).2]

end Vyoma.FilteredLists
