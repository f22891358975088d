import Vyoma.Numerals

/-!
# Texts cut at separators and trimmed

A text is cut at the first or at the last separator, or at all of them; each lemma says where
the cuts are when the parts on one side are free of the separator. Trimming takes white space
off both ends and leaves a text alone that has none there.
-/
namespace Vyoma.RustText

/-- `str::rsplit_once`: what stands before the last separator, and what follows it. -/
def rsplitOnce (sep : Char) (s : String) : Option (String × String) :=
  match s.toList.rdropWhile (· ≠ sep) with
  | [] => none
  | c :: cs =>
    some (String.ofList (c :: cs).dropLast, String.ofList (s.toList.rtakeWhile (· ≠ sep)))

theorem rsplitOnce_of_notMem {sep : Char} {t : String} (h : sep ∉ t.toList) (r : String) :
    rsplitOnce sep (r ++ String.singleton sep ++ t) = some (r, t) := by
  have htext : (r ++ String.singleton sep ++ t).toList = r.toList ++ [sep] ++ t.toList := by simp
  have hafter : ∀ c ∈ t.toList.reverse, decide (c ≠ sep) = true := by
    intro c hc
    exact decide_eq_true fun he => h (he ▸ List.mem_reverse.mp hc)
  have hdrop : (r.toList ++ [sep] ++ t.toList).rdropWhile (· ≠ sep) = r.toList ++ [sep] := by
    rw [List.rdropWhile, List.reverse_append, List.dropWhile_append_of_pos hafter]
    simp
  have htake : (r.toList ++ [sep] ++ t.toList).rtakeWhile (· ≠ sep) = t.toList := by
    rw [List.rtakeWhile, List.reverse_append, List.takeWhile_append_of_pos hafter]
    simp
  unfold rsplitOnce
  rw [htext, hdrop, htake]
  cases hr : r.toList with
  | nil =>
    have hempty : r = "" := String.toList_eq_nil_iff.mp hr
    simp [hempty]
  | cons c cs =>
    rw [List.cons_append]
    dsimp only
    rw [← List.cons_append, List.dropLast_concat, ← hr, String.ofList_toList, String.ofList_toList]

theorem rsplitOnce_eq_none {sep : Char} {s : String} (h : sep ∉ s.toList) :
    rsplitOnce sep s = none := by
  have hdrop : s.toList.rdropWhile (· ≠ sep) = [] := by
    rw [List.rdropWhile_eq_nil_iff]
    intro c hc
    exact decide_eq_true fun he => h (he ▸ hc)
  unfold rsplitOnce
  rw [hdrop]

theorem splitOnce_eq_none {sep : Char} {s : String} (h : sep ∉ s.toList) :
    splitOnce sep s = none := by
  have hdrop : s.toList.dropWhile (· ≠ sep) = [] := by
    rw [List.dropWhile_eq_nil_iff]
    intro c hc
    exact decide_eq_true fun he => h (he ▸ hc)
  unfold splitOnce
  rw [hdrop]

theorem notMem_of_rsplitOnce {sep : Char} {s : String} (h : rsplitOnce sep s = none) :
    sep ∉ s.toList := by
  unfold rsplitOnce at h
  split at h
  · rename_i hdrop
    intro hmem
    simpa using List.rdropWhile_eq_nil_iff.mp hdrop sep hmem
  · cases h

/-- What is cut at its first separator has none before the cut. -/
theorem splitOnce_eq_some {sep : Char} {s a b : String} (h : splitOnce sep s = some (a, b)) :
    s = a ++ String.singleton sep ++ b ∧ sep ∉ a.toList := by
  unfold splitOnce at h
  split at h
  · cases h
  · rename_i c after hdrop
    obtain ⟨rfl, rfl⟩ := Prod.mk.inj (Option.some.inj h)
    have hsep : c = sep := by
      have hnot := List.head?_dropWhile_not (fun c => decide (c ≠ sep)) s.toList
      rw [hdrop] at hnot
      simpa using hnot
    have htext := List.takeWhile_append_dropWhile (p := fun c => decide (c ≠ sep)) (l := s.toList)
    rw [hdrop, hsep] at htext
    refine ⟨String.toList_inj.mp ?_, ?_⟩
    · simpa using htext.symm
    · intro hmem
      have hne := List.mem_takeWhile_imp (String.toList_ofList ▸ hmem)
      simp at hne

/-- What is cut at its last separator has none behind the cut. -/
theorem rsplitOnce_eq_some {sep : Char} {s a b : String} (h : rsplitOnce sep s = some (a, b)) :
    s = a ++ String.singleton sep ++ b ∧ sep ∉ b.toList := by
  unfold rsplitOnce at h
  split at h
  · cases h
  · rename_i c cs hdrop
    obtain ⟨rfl, rfl⟩ := Prod.mk.inj (Option.some.inj h)
    obtain ⟨-, -, -, hlast⟩ := rdropWhile_spec (fun c => decide (c ≠ sep)) s.toList
    rw [hdrop] at hlast
    have hsep := hlast _ (List.getLast?_eq_some_getLast (List.cons_ne_nil c cs))
    rw [decide_eq_false_iff_not, not_not] at hsep
    have hinit := List.dropLast_append_getLast (List.cons_ne_nil c cs)
    rw [hsep] at hinit
    have htext := List.rdropWhile_append_rtakeWhile (p := fun c => decide (c ≠ sep)) (l := s.toList)
    rw [hdrop, ← hinit] at htext
    refine ⟨String.toList_inj.mp ?_, ?_⟩
    · simpa using htext.symm
    · intro hmem
      have hne := List.mem_rtakeWhile_imp (String.toList_ofList ▸ hmem)
      simp at hne

/-- Texts that end with the same separator are prefixes of each other only when they are equal. -/
theorem prefix_separator_iff {sep : Char} {as bs cs : List Char} (has : sep ∉ as)
    (hbs : sep ∉ bs) : as ++ [sep] <+: bs ++ sep :: cs ↔ as = bs := by
  have hbefore : ∀ ds : List Char, sep ∉ ds → ∀ c ∈ ds, decide (c ≠ sep) = true :=
    fun ds hds c hc => decide_eq_true fun he => hds (he ▸ hc)
  have hend : ∀ rest : List Char, ∀ c ∈ (sep :: rest).head?, decide (c ≠ sep) = false := by
    intro rest c hc
    cases hc
    simp
  constructor
  · rintro ⟨ds, hds⟩
    rw [List.append_assoc, List.singleton_append] at hds
    exact (append_inj_of_numeral (hbefore as has) (hend ds) (hbefore bs hbs) (hend cs) hds).1
  · rintro rfl
    exact ⟨cs, by simp⟩

theorem mem_intercalate {α : Type} {sep x : α} (hx : x ≠ sep) :
    ∀ parts : List (List α), x ∈ [sep].intercalate parts ↔ ∃ part ∈ parts, x ∈ part
  | [] => by simp
  | [part] => by simp
  | part :: next :: parts => by
    have ih := mem_intercalate hx (next :: parts)
    rw [List.intercalate_cons_cons, List.mem_append, List.mem_append, ih, List.mem_singleton]
    simp [hx]

/-- Parts that are cut further are cut in the text that joins them. -/
theorem splitOn_intercalate_eq_flatMap {α : Type*} [BEq α] [LawfulBEq α] (sep : α)
    {parts : List (List α)} (hne : parts ≠ []) :
    ([sep].intercalate parts).splitOn sep = parts.flatMap fun part => part.splitOn sep := by
  induction parts with
  | nil => exact absurd rfl hne
  | cons part parts ih =>
    cases parts with
    | nil => simp
    | cons next parts =>
      have hjoin : [sep].intercalate (part :: next :: parts) =
          part ++ sep :: [sep].intercalate (next :: parts) := by simp
      rw [hjoin, List.splitOn_append_cons_self, ih (List.cons_ne_nil _ _)]
      exact List.flatMap_cons.symm

/-- What is free of the separator stays before the first part. -/
theorem splitOn_append_of_notMem {α : Type*} [BEq α] [LawfulBEq α] {sep : α} {as : List α}
    (h : sep ∉ as) (bs : List α) :
    (as ++ bs).splitOn sep = (bs.splitOn sep).modifyHead (as ++ ·) := by
  obtain ⟨first, more, hparts⟩ := List.exists_cons_of_ne_nil (List.splitOn_ne_nil sep bs)
  induction as with
  | nil => simp [hparts]
  | cons a as ih =>
    have ha : (a == sep) = false := beq_eq_false_iff_ne.mpr fun he => h (he ▸ List.mem_cons_self)
    have has : sep ∉ as := fun hmem => h (List.mem_cons_of_mem a hmem)
    rw [List.cons_append, List.splitOn_cons_eq_if_modifyHead, ha, if_neg Bool.false_ne_true,
      ih has, hparts]
    rfl

/-- A search in the parts of the parts, one after the other. -/
theorem findSome?_flatMap {α β γ : Type*} (f : β → Option γ) (parts : α → List β) (as : List α) :
    (as.flatMap parts).findSome? f = as.findSome? fun a => (parts a).findSome? f := by
  induction as with
  | nil => rfl
  | cons a as ih =>
    rw [List.flatMap_cons, List.findSome?_append, ih, List.findSome?_cons]
    cases (parts a).findSome? f with
    | none => rfl
    | some c => rfl

/-- What is taken off the end stays within the last part when something of it is left. -/
theorem rdropWhile_append_of_ne_nil {α : Type*} {p : α → Bool} (as : List α) {bs : List α}
    (h : bs.rdropWhile p ≠ []) : (as ++ bs).rdropWhile p = as ++ bs.rdropWhile p := by
  have hne : ¬(bs.reverse.dropWhile p).isEmpty = true := fun hempty =>
    h (List.reverse_eq_nil_iff.mpr (List.isEmpty_iff.mp hempty))
  unfold List.rdropWhile
  rw [List.reverse_append, List.dropWhile_append, if_neg hne, List.reverse_append,
    List.reverse_reverse]

/-! ## Trimmed texts -/

/-- White space stands at neither end. -/
def Tight (cs : List Char) : Prop :=
  (∀ c ∈ cs.head?, isWhitespace c = false) ∧ ∀ c ∈ cs.getLast?, isWhitespace c = false

theorem tight_trim (cs : List Char) : Tight (trim cs) := by
  refine ⟨fun c hc => head_trim hc, fun c hc => ?_⟩
  obtain ⟨-, -, -, hlast⟩ := rdropWhile_spec isWhitespace (cs.dropWhile isWhitespace)
  exact hlast c hc

theorem trim_of_tight {cs : List Char} (h : Tight cs) : trim cs = cs := by
  have hhead : cs.dropWhile isWhitespace = cs := by
    cases cs with
    | nil => rfl
    | cons c cs => simp [h.1 c rfl]
  have hlast : cs.rdropWhile isWhitespace = cs := by
    rw [List.rdropWhile_eq_self_iff]
    intro hne
    simp [h.2 _ (List.getLast?_eq_some_getLast hne)]
  show (cs.dropWhile isWhitespace).rdropWhile isWhitespace = cs
  rw [hhead, hlast]

theorem tight_of_no_blank {cs : List Char} (h : ∀ c ∈ cs, isWhitespace c = false) : Tight cs :=
  ⟨fun c hc => h c (List.mem_of_mem_head? hc), fun c hc => h c (List.mem_of_getLast? hc)⟩

/-- Two tight texts stay tight with a character between them that is no white space. -/
theorem Tight.join {as bs : List Char} (has : Tight as) (hbs : Tight bs) {c : Char}
    (hc : isWhitespace c = false) : Tight (as ++ c :: bs) := by
  constructor
  · cases as with
    | nil => simpa using hc
    | cons a as => simpa using has.1
  · cases hlast : bs.getLast? with
    | none =>
      rw [List.getLast?_eq_none_iff.mp hlast]
      simpa using hc
    | some b =>
      have hb := hbs.2 b hlast
      simpa [List.getLast?_append, List.getLast?_cons, hlast] using hb

/-- Nor does a character between them matter when neither is empty. -/
theorem Tight.join_of_ne_nil {as bs : List Char} (has : Tight as) (hbs : Tight bs) (hne : as ≠ [])
    (hne' : bs ≠ []) (c : Char) : Tight (as ++ c :: bs) := by
  constructor
  · cases as with
    | nil => exact absurd rfl hne
    | cons a as => simpa using has.1
  · have hlast : (as ++ c :: bs).getLast? = bs.getLast? := by
      rw [List.getLast?_append, List.getLast?_cons, List.getLast?_eq_some_getLast hne']
      rfl
    rw [hlast]
    exact hbs.2

theorem trim_append_of_blank {indent : List Char} (h : ∀ c ∈ indent, isWhitespace c = true)
    (cs : List Char) : trim (indent ++ cs) = trim cs := by
  unfold trim
  rw [List.dropWhile_append_of_pos h]

/-- White space at the end is trimmed off. -/
theorem trim_append_trailing (cs : List Char) {blanks : List Char}
    (h : ∀ c ∈ blanks, isWhitespace c = true) : trim (cs ++ blanks) = trim cs := by
  show ((cs ++ blanks).dropWhile isWhitespace).rdropWhile isWhitespace =
    (cs.dropWhile isWhitespace).rdropWhile isWhitespace
  rw [List.dropWhile_append]
  split_ifs with hempty
  · rw [List.isEmpty_iff.mp hempty, List.dropWhile_eq_nil_iff.mpr h]
  · exact rdropWhile_append_of_forall _ h

/-- The carriage return of a line terminator is white space at the end of the line. -/
theorem trim_stripReturn (cs : List Char) : trim (stripReturn cs) = trim cs := by
  unfold stripReturn
  split_ifs with hlast
  · obtain ⟨init, rfl⟩ : ∃ init, cs = init ++ ['\r'] := by
      have hne : cs ≠ [] := by
        rintro rfl
        cases hlast
      refine ⟨cs.dropLast, ?_⟩
      rw [List.getLast?_eq_some_getLast hne] at hlast
      rw [← Option.some.inj hlast, List.dropLast_append_getLast]
    rw [List.dropLast_concat]
    exact (trim_append_trailing init (by decide)).symm
  · rfl

/-- A carriage return is looked for at the very end. -/
theorem stripReturn_append (as : List Char) {bs : List Char} (h : bs ≠ []) :
    stripReturn (as ++ bs) = as ++ stripReturn bs := by
  unfold stripReturn
  rw [List.getLast?_append_of_ne_nil as h, List.dropLast_append_of_ne_nil h]
  split_ifs <;> rfl

/-! ## Lines -/

/-- The lines of joined texts: a carriage return is cut off all but the last, which is left out
when it is empty. -/
theorem lines_intercalate {init : List (List Char)} {last : List Char}
    (hlines : ∀ part ∈ init ++ [last], '\n' ∉ part) :
    lines (['\n'].intercalate (init ++ [last])) =
      init.map stripReturn ++ if last = [] then [] else [last] := by
  unfold lines
  rw [List.splitOn_intercalate '\n' hlines (by simp)]
  by_cases hlast : last = []
  · simp [hlast]
  · simp [hlast]

/-- A fold over the lines of joined texts is one over the texts, when it passes over empty
lines and does not mind carriage returns. -/
theorem foldl_lines_intercalate {β : Type*} {f : β → List Char → β} {parts : List (List Char)}
    (hlines : ∀ part ∈ parts, '\n' ∉ part)
    (hreturn : ∀ b, ∀ part ∈ parts, f b (stripReturn part) = f b part)
    (hempty : ∀ b, f b [] = b) (b : β) :
    (lines (['\n'].intercalate parts)).foldl f b = parts.foldl f b := by
  rcases List.eq_nil_or_concat parts with rfl | ⟨init, last, rfl⟩
  · rfl
  · rw [List.concat_eq_append] at *
    have hinit : (init.map stripReturn).foldl f b = init.foldl f b := by
      rw [List.foldl_map]
      refine List.foldl_ext _ _ b fun c part hpart => ?_
      exact hreturn c part (List.mem_append_left _ hpart)
    rw [lines_intercalate hlines, List.foldl_append, List.foldl_append, hinit]
    split_ifs with hlast
    · rw [hlast]
      exact (hempty _).symm
    · rfl

end Vyoma.RustText
