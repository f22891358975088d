import Vyoma.TextSplits

/-!
# Authentication challenges of registries

`extract_field` reads one parameter of a `Www-Authenticate` header. It cuts the header at every
comma, also at the ones between quotes: a value that holds a comma is returned up to the first.
-/
namespace Vyoma.Oci
open RustText

/-- What one piece of the header says of the key. Only the letters of `bearer` matter to
`to_lowercase`, and no other letter than theirs is lowered to one of them. -/
def fieldOf (key p : List Char) : Option String :=
  let part := trim p
  let part :=
    if "bearer ".toList.isPrefixOf (part.map Char.toLower) then trim (part.drop 7) else part
  if (key ++ ['=']).isPrefixOf part then (part.splitOn '"')[1]?.map String.ofList else none

def extractField (header key : String) : Option String :=
  (header.toList.splitOn ',').findSome? (fieldOf key.toList)

/-! ## Challenges built from their parameters -/

/-- A key holds nothing that separates the parts of a header. -/
def IsKey (key : String) : Prop :=
  ∀ c ∈ key.toList, c ≠ ',' ∧ c ≠ '=' ∧ c ≠ '"' ∧ isWhitespace c = false

structure Param where
  key : String
  isKey : IsKey key
  value : String
  no_quote : '"' ∉ value.toList

def Param.text (p : Param) : String := p.key ++ "=\"" ++ p.value ++ "\""

structure Challenge where
  params : List Param
  distinct : (params.map Param.key).Nodup

namespace Challenge

variable (c : Challenge)

def header : String := "Bearer " ++ ",".intercalate (c.params.map Param.text)

/-- Each parameter is read as its value, and nothing else is read. -/
structure Faithful : Prop where
  present : ∀ p ∈ c.params, extractField c.header p.key = some p.value
  absent : ∀ key, IsKey key → key ∉ c.params.map Param.key → extractField c.header key = none

end Challenge

/-! ## One piece -/

variable {key k : String}

/-- What is read from the text behind the opening quote. -/
def valueOf (rest : List Char) : Option String :=
  ((rest.rdropWhile isWhitespace).splitOn '"').head?.map String.ofList

theorem IsKey.notMem (h : IsKey k) : ',' ∉ k.toList ∧ '=' ∉ k.toList ∧ '"' ∉ k.toList :=
  ⟨fun hc => (h _ hc).1 rfl, fun hc => (h _ hc).2.1 rfl, fun hc => (h _ hc).2.2.1 rfl⟩

/-- The key and the opening quote are free of white space. -/
theorem IsKey.no_whitespace (h : IsKey k) :
    ∀ c ∈ k.toList ++ ['=', '"'], isWhitespace c = false := by
  intro c hc
  obtain hc | hc := List.mem_append.mp hc
  · exact (h c hc).2.2.2
  · have hlast : ∀ c ∈ ['=', '"'], isWhitespace c = false :=
      List.all_iff_forall_prop.mp (by decide)
    exact hlast c hc

theorem trim_piece (h : IsKey k) (rest : List Char) : trim (k.toList ++ ['=', '"'] ++ rest) =
    k.toList ++ ['=', '"'] ++ rest.rdropWhile isWhitespace :=
  trim_append_of_no_blank h.no_whitespace (by simp) rest

theorem eq_space_of_toLower {c : Char} (h : c.toLower = ' ') : c = ' ' := by
  cases halpha : c.isAlpha with
  | false => rwa [toLower_of_not_isAlpha halpha] at h
  | true =>
    have hletter := isAlpha_toLower halpha
    rw [h] at hletter
    cases hletter

/-- A key is not taken for the name of the scheme. -/
theorem not_bearer (h : IsKey k) (rest : List Char) :
    "bearer ".toList.isPrefixOf ((k.toList ++ ['=', '"'] ++ rest).map Char.toLower) = false := by
  rw [Bool.eq_false_iff, ne_eq, List.isPrefixOf_iff_prefix]
  intro hbearer
  have hkey : (k.toList ++ ['=']).map Char.toLower <+:
      (k.toList ++ ['=', '"'] ++ rest).map Char.toLower := by
    simp [List.map_append]
  obtain hshort | hlong := List.prefix_or_prefix_of_prefix hbearer hkey
  · have hspace : ' ' ∈ (k.toList ++ ['=']).map Char.toLower := hshort.subset (by decide)
    obtain ⟨c, hc, hlower⟩ := List.mem_map.mp hspace
    rw [eq_space_of_toLower hlower, List.mem_append] at hc
    obtain hc | hc := hc
    · exact absurd (h ' ' hc).2.2.2 (by decide)
    · exact absurd hc (by decide)
  · have hequals : '=' ∈ "bearer ".toList := hlong.subset (by simp)
    exact absurd hequals (by decide)

/-- A piece that starts with a parameter is read for its key only. -/
theorem fieldOf_piece (hk : IsKey k) (hkey : IsKey key) (rest : List Char) :
    fieldOf key.toList (k.toList ++ ['=', '"'] ++ rest) =
      if key = k then valueOf rest else none := by
  have hprefix : (key.toList ++ ['=']).isPrefixOf
      (k.toList ++ ['=', '"'] ++ rest.rdropWhile isWhitespace) = decide (key = k) := by
    rw [Bool.eq_iff_iff, List.isPrefixOf_iff_prefix, List.append_assoc, List.cons_append,
      prefix_separator_iff hkey.notMem.2.1 hk.notMem.2.1, decide_eq_true_iff, String.toList_inj]
  have hquote : '"' ∉ k.toList ++ ['='] := by simp [hk.notMem.2.2]
  have hsplit : (k.toList ++ ['=', '"'] ++ rest.rdropWhile isWhitespace).splitOn '"' =
      (k.toList ++ ['=']) :: (rest.rdropWhile isWhitespace).splitOn '"' := by
    rw [← List.splitOn_append_cons_self_of_not_mem hquote]
    simp
  unfold fieldOf
  dsimp only
  rw [trim_piece hk, not_bearer hk, if_neg Bool.false_ne_true, hprefix, hsplit]
  by_cases heq : key = k
  · simp [heq, valueOf, List.head?_eq_getElem?]
  · simp [heq]

/-- The name of the scheme is left out. -/
theorem fieldOf_bearer (hk : IsKey k) (key rest : List Char) :
    fieldOf key ("Bearer ".toList ++ (k.toList ++ ['=', '"'] ++ rest)) =
      fieldOf key (k.toList ++ ['=', '"'] ++ rest) := by
  have hdrop : (k.toList ++ ['=', '"'] ++ rest).rdropWhile isWhitespace =
      k.toList ++ ['=', '"'] ++ rest.rdropWhile isWhitespace := rdropWhile_append hk.no_whitespace _
  have htrim : trim ("Bearer ".toList ++ (k.toList ++ ['=', '"'] ++ rest)) =
      "Bearer ".toList ++ (k.toList ++ ['=', '"'] ++ rest.rdropWhile isWhitespace) := by
    show ("Bearer ".toList ++ (k.toList ++ ['=', '"'] ++ rest)).rdropWhile isWhitespace = _
    rw [rdropWhile_append_of_ne_nil _ (by rw [hdrop]; simp), hdrop]
  have hscheme : "bearer ".toList.isPrefixOf (("Bearer ".toList ++ (k.toList ++ ['=', '"'] ++
      rest.rdropWhile isWhitespace)).map Char.toLower) = true := by
    rw [List.isPrefixOf_iff_prefix, List.map_append]
    exact List.prefix_append _ _
  have hrest : ("Bearer ".toList ++ (k.toList ++ ['=', '"'] ++
      rest.rdropWhile isWhitespace)).drop 7 =
        k.toList ++ ['=', '"'] ++ rest.rdropWhile isWhitespace := rfl
  unfold fieldOf
  dsimp only
  rw [htrim, hscheme, if_pos rfl, hrest, trim_piece hk, trim_piece hk, not_bearer hk,
    List.rdropWhile_idempotent]
  rfl

/-! ## One parameter -/

theorem valueOf_closed {v : List Char} (h : '"' ∉ v) :
    valueOf (v ++ ['"']) = some (String.ofList v) := by
  have hend : (v ++ ['"']).rdropWhile isWhitespace = v ++ ['"'] :=
    List.rdropWhile_concat_neg _ _ _ (by decide)
  have hsplit : (v ++ ['"']).splitOn '"' = v :: [].splitOn '"' :=
    List.splitOn_append_cons_self_of_not_mem h []
  rw [valueOf, hend, hsplit]
  rfl

/-- What is read of a value that is cut holds none of what follows the cut. -/
theorem valueOf_open {v : List Char} (h : ',' ∉ v) :
    ∃ w : String, valueOf v = some w ∧ ',' ∉ w.toList := by
  obtain ⟨first, more, hparts⟩ :=
    List.exists_cons_of_ne_nil (List.splitOn_ne_nil '"' (v.rdropWhile isWhitespace))
  refine ⟨String.ofList first, by rw [valueOf, hparts]; rfl, fun hcomma => h ?_⟩
  have hjoin : ['"'].intercalate ((v.rdropWhile isWhitespace).splitOn '"') =
      v.rdropWhile isWhitespace := List.intercalate_splitOn '"'
  rw [String.toList_ofList] at hcomma
  have hmem : ',' ∈ v.rdropWhile isWhitespace := by
    rw [← hjoin, hparts]
    cases more with
    | nil => simpa using hcomma
    | cons next more => simp [hcomma]
  exact (List.rdropWhile_prefix _ _).subset hmem

namespace Param

variable (p : Param)

/-- The pieces that the text of the parameter is cut into. -/
def pieces : List (List Char) := p.text.toList.splitOn ','

/-- The first piece has the key; with it the value is cut at its first comma. -/
theorem pieces_eq : ∃ first more, (p.value.toList ++ ['"']).splitOn ',' = first :: more ∧
    p.pieces = (p.key.toList ++ ['=', '"'] ++ first) :: more := by
  obtain ⟨first, more, hparts⟩ :=
    List.exists_cons_of_ne_nil (List.splitOn_ne_nil ',' (p.value.toList ++ ['"']))
  have hkey : ',' ∉ p.key.toList ++ ['=', '"'] := by simp [p.isKey.notMem.1]
  have htext : p.text.toList = p.key.toList ++ ['=', '"'] ++ (p.value.toList ++ ['"']) := by
    simp [text]
  refine ⟨first, more, hparts, ?_⟩
  rw [pieces, htext, splitOn_append_of_notMem hkey, hparts, List.modifyHead_cons]

/-- A value without a comma is read as it is, and nothing else is read from its parameter. -/
theorem findSome?_pieces (hkey : IsKey key) (h : ',' ∉ p.value.toList) :
    p.pieces.findSome? (fieldOf key.toList) = if key = p.key then some p.value else none := by
  obtain ⟨first, more, hparts, hpieces⟩ := p.pieces_eq
  have hcomma : ',' ∉ p.value.toList ++ ['"'] := by simp [h]
  rw [List.splitOn_eq_singleton hcomma] at hparts
  obtain ⟨rfl, rfl⟩ := List.cons.inj hparts
  rw [hpieces, List.findSome?_singleton, fieldOf_piece p.isKey hkey, valueOf_closed p.no_quote,
    String.ofList_toList]

/-- A value with a comma is not read as it is. -/
theorem findSome?_pieces_comma (h : ',' ∈ p.value.toList) :
    ∃ w, p.pieces.findSome? (fieldOf p.key.toList) = some w ∧ w ≠ p.value := by
  obtain ⟨first, more, hparts, hpieces⟩ := p.pieces_eq
  have hfirst : ',' ∉ first := by
    obtain ⟨before, after, hvalue, hbefore⟩ := List.eq_append_cons_of_mem h
    rw [hvalue, List.append_assoc, List.cons_append,
      List.splitOn_append_cons_self_of_not_mem hbefore] at hparts
    exact (List.cons.inj hparts).1 ▸ hbefore
  obtain ⟨w, hw, hcomma⟩ := valueOf_open hfirst
  refine ⟨w, ?_, fun he => hcomma (he ▸ h)⟩
  rw [hpieces, List.findSome?_cons, fieldOf_piece p.isKey p.isKey, if_pos rfl, hw]

end Param

/-! ## The whole header -/

/-- What is read from the parameters one after the other. -/
def found (params : List Param) (key : String) : Option String :=
  params.findSome? fun p => p.pieces.findSome? (fieldOf key.toList)

theorem found_absent {params : List Param} (hkey : IsKey key)
    (hcommas : ∀ p ∈ params, ',' ∉ p.value.toList) (h : key ∉ params.map Param.key) :
    found params key = none := by
  refine List.findSome?_eq_none_iff.mpr fun p hp => ?_
  rw [p.findSome?_pieces hkey (hcommas p hp), if_neg]
  rintro rfl
  exact h (List.mem_map_of_mem hp)

/-- Other parameters, without a comma in their values, are passed over. -/
theorem found_cons {p : Param} {params : List Param} (hp : ',' ∉ p.value.toList)
    (hkey : IsKey key) :
    found (p :: params) key = if key = p.key then some p.value else found params key := by
  rw [found, List.findSome?_cons, p.findSome?_pieces hkey hp]
  split_ifs with heq
  · rfl
  · rfl

theorem found_present_iff {params : List Param} (hdistinct : (params.map Param.key).Nodup) :
    (∀ p ∈ params, found params p.key = some p.value) ↔
      ∀ p ∈ params, ',' ∉ p.value.toList := by
  induction params with
  | nil => simp
  | cons p params ih =>
    obtain ⟨hfresh, hdistinct⟩ := List.nodup_cons.mp hdistinct
    have hother : ∀ q ∈ params, q.key ≠ p.key := fun q hq heq =>
      hfresh (heq ▸ List.mem_map_of_mem hq)
    by_cases hp : ',' ∈ p.value.toList
    · refine iff_of_false (fun h => ?_) fun h => h p List.mem_cons_self hp
      obtain ⟨w, hw, hne⟩ := p.findSome?_pieces_comma hp
      have hfirst := h p List.mem_cons_self
      rw [found, List.findSome?_cons, hw] at hfirst
      exact hne (Option.some.inj hfirst)
    · have hrest : ∀ q ∈ params, found (p :: params) q.key = found params q.key := by
        intro q hq
        rw [found_cons hp q.isKey, if_neg (hother q hq)]
      rw [List.forall_mem_cons, List.forall_mem_cons, ← ih hdistinct,
        found_cons hp p.isKey, if_pos rfl]
      refine and_congr (by simp [hp]) (forall₂_congr fun q hq => ?_)
      rw [hrest q hq]

namespace Challenge

variable (c : Challenge)

/-- The header is read as its parameters are, one after the other. -/
theorem extractField_header (key : String) :
    extractField c.header key = found c.params key := by
  have hscheme : ',' ∉ "Bearer ".toList := by decide
  have htext : c.header.toList =
      "Bearer ".toList ++ [','].intercalate (c.params.map fun p => p.text.toList) := by
    simp [header, Function.comp_def]
  unfold extractField
  rw [htext, splitOn_append_of_notMem hscheme]
  cases hparams : c.params with
  | nil =>
    have htrim : trim ("Bearer ".toList ++ []) = "Bearer".toList := by decide
    have hshort : "bearer ".toList.isPrefixOf ("Bearer".toList.map Char.toLower) = false := by
      decide
    have hnone : (key.toList ++ ['=']).isPrefixOf "Bearer".toList = false := by
      rw [Bool.eq_false_iff, ne_eq, List.isPrefixOf_iff_prefix]
      intro hprefix
      have hequals : '=' ∈ "Bearer".toList := hprefix.subset (by simp)
      exact absurd hequals (by decide)
    rw [List.map_nil, List.intercalate_nil, List.splitOn_nil, List.modifyHead_cons,
      List.findSome?_singleton, fieldOf, htrim, hshort, if_neg Bool.false_ne_true, hnone]
    rfl
  | cons p params =>
    have hne : (p :: params).map (fun p => p.text.toList) ≠ [] := List.cons_ne_nil _ _
    obtain ⟨first, more, -, hpieces⟩ := p.pieces_eq
    have hall : ([','].intercalate ((p :: params).map fun p => p.text.toList)).splitOn ',' =
        (p :: params).flatMap Param.pieces := by
      rw [splitOn_intercalate_eq_flatMap ',' hne, List.flatMap_map]
      rfl
    rw [hall, List.flatMap_cons, hpieces, List.cons_append, List.modifyHead_cons,
      List.findSome?_cons, fieldOf_bearer p.isKey, ← List.findSome?_cons, ← List.cons_append,
      ← hpieces, ← List.flatMap_cons, found, findSome?_flatMap]

/-- A challenge is read faithfully exactly when none of its values holds a comma. -/
theorem faithful_iff : c.Faithful ↔ ∀ p ∈ c.params, ',' ∉ p.value.toList := by
  have hpresent : (∀ p ∈ c.params, extractField c.header p.key = some p.value) ↔
      ∀ p ∈ c.params, found c.params p.key = some p.value := by
    refine forall₂_congr fun p hp => ?_
    rw [c.extractField_header p.key]
  rw [← found_present_iff c.distinct, ← hpresent]
  constructor
  · exact fun h => h.present
  · intro h
    refine ⟨h, fun key hkey hmem => ?_⟩
    rw [c.extractField_header key]
    exact found_absent hkey ((found_present_iff c.distinct).mp (hpresent.mp h)) hmem

/-- A scope with two actions, as registries ask for it when an image may be pulled and pushed. -/
def pullPush : Challenge where
  params :=
    [⟨"realm", List.all_iff_forall_prop.mp (by decide), "https://auth.example", by decide⟩,
      ⟨"scope", List.all_iff_forall_prop.mp (by decide), "repository:app:pull,push", by decide⟩]
  distinct := by decide

/-- The second action is lost. -/
theorem pullPush_cut :
    pullPush.header = "Bearer realm=\"https://auth.example\",scope=\"repository:app:pull,push\"" ∧
    extractField pullPush.header "scope" = some "repository:app:pull" ∧ ¬pullPush.Faithful := by
  have hheader : pullPush.header =
      "Bearer realm=\"https://auth.example\",scope=\"repository:app:pull,push\"" := by
    decide +kernel
  have hscope : extractField pullPush.header "scope" = some "repository:app:pull" := by
    rw [hheader]
    decide +kernel
  refine ⟨hheader, hscope, fun hfaithful => ?_⟩
  have hpresent := hfaithful.present _ (List.mem_cons_of_mem _ List.mem_cons_self)
  have hvalue := hscope.symm.trans hpresent
  exact absurd hvalue (by decide)

end Challenge

end Vyoma.Oci
