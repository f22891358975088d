import Mathlib.Data.List.Basic
import Mathlib.Tactic.SplitIfs

/-!
# Finding and replacing a part of a text

The first occurrence of a pattern, and the replacement of all that do not overlap, from the left.
A pattern whose first letter is nowhere else in it cannot begin before a place where that letter
stands and end behind it, so such a place can be searched from there on. At the end of a text a
pattern can be cut off as often as it stands there.
-/
namespace Vyoma.TextSearch

variable {α : Type*} [BEq α] [LawfulBEq α]

/-- What follows the first occurrence. -/
def afterFirst (pattern : List α) : List α → Option (List α)
  | [] => if pattern.isPrefixOf [] then some [] else none
  | a :: as =>
    if pattern.isPrefixOf (a :: as) then some ((a :: as).drop pattern.length)
    else afterFirst pattern as

/-- Replacing from the left, after the letters that are still passed over. -/
def replaceFrom (old new : List α) : ℕ → List α → List α
  | _, [] => []
  | skip + 1, _ :: as => replaceFrom old new skip as
  | 0, a :: as =>
    if old.isPrefixOf (a :: as) then new ++ replaceFrom old new (old.length - 1) as
    else a :: replaceFrom old new 0 as

def replaceAll (old new text : List α) : List α := replaceFrom old new 0 text

section Search

variable {pattern as bs rest : List α}

theorem afterFirst_prefix (pattern bs : List α) :
    afterFirst pattern (pattern ++ bs) = some bs := by
  have hprefix : pattern.isPrefixOf (pattern ++ bs) = true :=
    List.isPrefixOf_iff_prefix.mpr (List.prefix_append _ _)
  cases hcases : pattern ++ bs with
  | nil =>
    obtain ⟨rfl, rfl⟩ := List.append_eq_nil_iff.mp hcases
    rfl
  | cons a as =>
    rw [hcases] at hprefix
    rw [afterFirst, if_pos hprefix, ← hcases, List.drop_left]

theorem afterFirst_eq_none_of_append (h : afterFirst pattern (as ++ bs) = none) :
    afterFirst pattern as = none := by
  induction as with
  | nil =>
    have hpattern : pattern.isPrefixOf [] = false := by
      rw [Bool.eq_false_iff]
      intro hnil
      rw [List.prefix_nil.mp (List.isPrefixOf_iff_prefix.mp hnil)] at h
      rw [show afterFirst [] ([] ++ bs) = some bs from afterFirst_prefix [] bs] at h
      cases h
    rw [afterFirst, hpattern]
    rfl
  | cons a as ih =>
    rw [List.cons_append, afterFirst] at h
    split_ifs at h with hprefix
    have hshort : ¬pattern.isPrefixOf (a :: as) = true := fun hp =>
      hprefix (List.isPrefixOf_iff_prefix.mpr
        ((List.isPrefixOf_iff_prefix.mp hp).trans (List.prefix_append (a :: as) bs)))
    rw [afterFirst, if_neg hshort]
    exact ih h

omit [BEq α] [LawfulBEq α] in
/-- What is free of a letter does not reach the place where that letter stands. -/
theorem prefix_before_iff {a : α} {letters : List α} (ha : a ∉ letters) :
    letters <+: as ++ a :: bs ↔ letters <+: as := by
  constructor
  · intro h
    obtain hfits | ⟨more, hmore⟩ := List.prefix_or_prefix_of_prefix h (List.prefix_append as _)
    · exact hfits
    · cases more with
      | nil =>
        have hall : letters = as := hmore.symm.trans (List.append_nil as)
        exact hall ▸ List.prefix_refl letters
      | cons b more =>
        rw [← hmore, List.prefix_append_right_inj, List.cons_prefix_cons] at h
        rw [← hmore, h.1] at ha
        exact absurd (List.mem_append_right _ List.mem_cons_self) ha
  · intro h
    exact h.trans (List.prefix_append _ _)

/-- The search can go on where the first letter of the pattern stands, when it is nowhere else
in the pattern. -/
theorem afterFirst_append {a : α} {letters : List α} (ha : a ∉ letters)
    (h : afterFirst (a :: letters) as = none) (bs : List α) :
    afterFirst (a :: letters) (as ++ a :: bs) = afterFirst (a :: letters) (a :: bs) := by
  induction as with
  | nil => rfl
  | cons b as ih =>
    rw [afterFirst] at h
    split_ifs at h with hshort
    have hlong : ¬(a :: letters).isPrefixOf (b :: (as ++ a :: bs)) = true := by
      intro hprefix
      obtain ⟨hab, htail⟩ := List.cons_prefix_cons.mp (List.isPrefixOf_iff_prefix.mp hprefix)
      exact hshort (List.isPrefixOf_iff_prefix.mpr
        (List.cons_prefix_cons.mpr ⟨hab, (prefix_before_iff ha).mp htail⟩))
    rw [List.cons_append, afterFirst, if_neg hlong]
    exact ih h

end Search

section Replace

variable {old as rest : List α}

omit [LawfulBEq α] in
theorem replaceFrom_eq_drop (old new : List α) (skip : ℕ) (as : List α) :
    replaceFrom old new skip as = replaceFrom old new 0 (as.drop skip) := by
  induction as generalizing skip with
  | nil =>
    rw [List.drop_nil]
    cases skip with
    | zero => rfl
    | succ skip => rfl
  | cons a as ih =>
    cases skip with
    | zero => rfl
    | succ skip => exact ih skip

/-- Up to the first occurrence the text stays, and what follows is searched again. -/
theorem replaceAll_of_afterFirst (hold : old ≠ []) (new : List α)
    (h : afterFirst old as = some rest) :
    ∃ before, as = before ++ old ++ rest ∧
      replaceAll old new as = before ++ new ++ replaceAll old new rest := by
  induction as with
  | nil =>
    rw [afterFirst] at h
    split_ifs at h with hnil
    exact absurd (List.prefix_nil.mp (List.isPrefixOf_iff_prefix.mp hnil)) hold
  | cons a as ih =>
    rw [afterFirst] at h
    by_cases hprefix : old.isPrefixOf (a :: as) = true
    · rw [if_pos hprefix] at h
      cases h
      obtain ⟨rest, hrest⟩ := List.isPrefixOf_iff_prefix.mp hprefix
      refine ⟨[], ?_, ?_⟩
      · rw [← hrest, List.drop_left]
        rfl
      · obtain ⟨b, letters, rfl⟩ := List.exists_cons_of_ne_nil hold
        rw [replaceAll, replaceFrom, if_pos hprefix, replaceFrom_eq_drop]
        rfl
    · rw [if_neg hprefix] at h
      obtain ⟨before, htext, hreplaced⟩ := ih h
      refine ⟨a :: before, by rw [htext]; rfl, ?_⟩
      rw [replaceAll, replaceFrom, if_neg hprefix]
      exact congrArg (a :: ·) hreplaced

end Replace

/-! ## Suffixes that are cut off again and again -/

/-- At most so many suffixes are cut off. -/
def stripSuffixes (pattern : List α) : ℕ → List α → List α
  | 0, as => as
  | fuel + 1, as =>
    if pattern.isSuffixOf as then stripSuffixes pattern fuel (as.take (as.length - pattern.length))
    else as

/-- `str::trim_end_matches`, for a pattern that is not empty. -/
def trimEndMatches (pattern as : List α) : List α := stripSuffixes pattern as.length as

theorem stripSuffixes_fuel {pattern as : List α} (hne : pattern ≠ []) {fuel fuel' : ℕ}
    (h : as.length ≤ fuel) (h' : as.length ≤ fuel') :
    stripSuffixes pattern fuel as = stripSuffixes pattern fuel' as := by
  have hnil : ∀ fuel, stripSuffixes pattern fuel [] = [] := by
    intro fuel
    cases fuel with
    | zero => rfl
    | succ fuel => simp [stripSuffixes, hne]
  induction fuel generalizing fuel' as with
  | zero =>
    obtain rfl := List.length_eq_zero_iff.mp (Nat.le_zero.mp h)
    rw [hnil, hnil]
  | succ fuel ih =>
    cases fuel' with
    | zero =>
      obtain rfl := List.length_eq_zero_iff.mp (Nat.le_zero.mp h')
      rw [hnil, hnil]
    | succ fuel' =>
      have hpattern := List.length_pos_iff.mpr hne
      unfold stripSuffixes
      split_ifs with hsuffix
      · refine ih ?_ ?_
        · rw [List.length_take]
          omega
        · rw [List.length_take]
          omega
      · rfl

@[simp] theorem trimEndMatches_append {pattern : List α} (hne : pattern ≠ []) (as : List α) :
    trimEndMatches pattern (as ++ pattern) = trimEndMatches pattern as := by
  obtain ⟨n, hn⟩ := Nat.exists_eq_succ_of_ne_zero (Nat.ne_of_gt (List.length_pos_iff.mpr hne))
  have hlength : (as ++ pattern).length = (as.length + n) + 1 := by
    rw [List.length_append, hn]
    rfl
  have hsuffix : pattern.isSuffixOf (as ++ pattern) = true :=
    List.isSuffixOf_iff_suffix.mpr (List.suffix_append as pattern)
  unfold trimEndMatches
  rw [hlength, stripSuffixes, if_pos hsuffix, List.length_append, Nat.add_sub_cancel,
    List.take_left']
  · exact stripSuffixes_fuel hne (Nat.le_add_right _ _) (Nat.le_refl _)
  · rfl

theorem trimEndMatches_of_not_suffix {pattern as : List α} (h : ¬pattern <:+ as) :
    trimEndMatches pattern as = as := by
  have hsuffix : ¬pattern.isSuffixOf as = true := fun hs => h (List.isSuffixOf_iff_suffix.mp hs)
  unfold trimEndMatches
  cases as.length with
  | zero => rfl
  | succ n => rw [stripSuffixes, if_neg hsuffix]

end Vyoma.TextSearch
