import Mathlib.Data.List.Basic
import Mathlib.Logic.Function.Basic
import Mathlib.Tactic.SplitIfs

/-!
# File trees and paths

A tree says for every place whether a directory or a file is there; what is somewhere is in
a directory. A path is the list of its components as they are written, and leads to a place
component by component. There are no links, so the parent of a directory is the place it was
entered from.
-/
namespace Vyoma.FileTrees

/-! ## Paths -/

/-- Where a component leads from a place. -/
def enter (place : List String) (c : String) : List String :=
  if c = "" ∨ c = "." then place else if c = ".." then place.dropLast else place ++ [c]

/-- The component names an entry of its directory. -/
def Plain (c : String) : Prop := c ≠ "" ∧ c ≠ "." ∧ c ≠ ".."

instance (c : String) : Decidable (Plain c) := inferInstanceAs (Decidable (_ ∧ _ ∧ _))

def components (s : String) : List String := (s.toList.splitOn '/').map String.ofList

/-- `PathBuf::join`: an absolute path takes the place of what was there. -/
def join (path : List String) (s : String) : List String :=
  if s.toList.head? = some '/' then components s else path ++ components s

/-- The place to which a path leads from the root. -/
def resolve (path : List String) : List String := path.foldl enter []

/-- `Path::extension`, of a file name: what follows its last dot, unless nothing stands
before it. -/
def extension (name : String) : Option String :=
  let cs := name.toList.reverse
  match cs.dropWhile (· ≠ '.') with
  | [] => none
  | _ :: before =>
    if before = [] ∨ name = ".." then none
    else some (String.ofList (cs.takeWhile (· ≠ '.')).reverse)

theorem extension_append {name ext : String} (hname : name ≠ "") (hext : ext ≠ "")
    (hdot : '.' ∉ ext.toList) : extension (name ++ "." ++ ext) = some ext := by
  have hne : name ++ "." ++ ext ≠ ".." := by
    intro h
    have hlist : name.toList ++ ['.'] ++ ext.toList = ['.', '.'] := by
      have hcongr := congrArg String.toList h
      rwa [String.toList_append, String.toList_append] at hcongr
    have hlast : ext.toList.getLast? = ['.', '.'].getLast? := by
      rw [← hlist, List.getLast?_append_of_ne_nil]
      simpa using hext
    exact hdot (List.mem_of_getLast? hlast)
  have hreverse : (name ++ "." ++ ext).toList.reverse =
      ext.toList.reverse ++ '.' :: name.toList.reverse := by simp
  have hall : ∀ c ∈ ext.toList.reverse, (decide (c ≠ '.')) = true := by
    intro c hc
    rw [List.mem_reverse] at hc
    rw [decide_eq_true_eq]
    rintro rfl
    exact hdot hc
  unfold extension
  simp only [hreverse, List.dropWhile_append_of_pos hall, List.takeWhile_append_of_pos hall]
  simp [hname, hne]

example : extension "build.key.pub" = some "pub" ∧ extension ".pub" = none := by decide

theorem enter_plain {c : String} (h : Plain c) (place : List String) :
    enter place c = place ++ [c] := by
  rw [enter, if_neg (by simp [h.1, h.2.1]), if_neg h.2.2]

theorem foldl_enter_plain {cs : List String} (h : ∀ c ∈ cs, Plain c) (place : List String) :
    cs.foldl enter place = place ++ cs := by
  induction cs generalizing place with
  | nil => rw [List.foldl_nil, List.append_nil]
  | cons c cs ih =>
    rw [List.foldl_cons, enter_plain (h c List.mem_cons_self),
      ih (fun d hd => h d (List.mem_cons_of_mem _ hd)), List.append_assoc, List.singleton_append]

theorem resolve_append (path path' : List String) :
    resolve (path ++ path') = path'.foldl enter (resolve path) := List.foldl_append

theorem length_foldl_enter_le (cs place : List String) :
    (cs.foldl enter place).length ≤ place.length + cs.length := by
  induction cs generalizing place with
  | nil => exact Nat.le_refl _
  | cons c cs ih =>
    have hstep : (enter place c).length ≤ place.length + 1 := by
      unfold enter
      split_ifs
      · omega
      · rw [List.length_dropLast]
        omega
      · simp
    have hrest := ih (enter place c)
    rw [List.foldl_cons, List.length_cons]
    omega

/-- What stands in a place beyond a depth was entered by its name. -/
theorem mem_drop_foldl_enter (n : ℕ) {S : List String} {cs : List String} (hcs : ∀ c ∈ cs, c ∈ S)
    (place : List String) (h : ∀ c ∈ place.drop n, c ∈ S) :
    ∀ c ∈ (cs.foldl enter place).drop n, c ∈ S := by
  induction cs generalizing place with
  | nil => exact h
  | cons d cs ih =>
    refine ih (fun c hc => hcs c (List.mem_cons_of_mem _ hc)) _ fun c hc => ?_
    unfold enter at hc
    split_ifs at hc
    · exact h c hc
    · exact h c (((List.dropLast_sublist place).drop n).subset hc)
    · rw [List.drop_append] at hc
      obtain hc | hc := List.mem_append.mp hc
      · exact h c hc
      · obtain rfl := List.mem_singleton.mp (List.mem_of_mem_drop hc)
        exact hcs c List.mem_cons_self

theorem eq_or_length_lt_of_mem_intercalate (sep : Char) {w : List Char} {parts : List (List Char)}
    (h : w ∈ parts) :
    w = [sep].intercalate parts ∨ w.length < ([sep].intercalate parts).length := by
  induction parts with
  | nil => cases h
  | cons first rest ih =>
    cases rest with
    | nil =>
      rw [List.mem_singleton.mp h, List.intercalate_singleton]
      exact .inl rfl
    | cons second rest =>
      refine .inr ?_
      rw [List.intercalate_cons_cons, List.length_append, List.length_append, List.length_singleton]
      obtain rfl | hrest := List.mem_cons.mp h
      · omega
      · obtain heq | hlt := ih hrest
        · rw [heq]
          omega
        · omega

/-- A component is the whole text or shorter than it. -/
theorem eq_or_length_lt_of_mem_components {s c : String} (h : c ∈ components s) :
    c = s ∨ c.toList.length < s.toList.length := by
  obtain ⟨w, hw, rfl⟩ := List.mem_map.mp h
  have hparts := eq_or_length_lt_of_mem_intercalate '/' hw
  rw [List.intercalate_splitOn] at hparts
  rw [String.toList_ofList]
  obtain rfl | hlt := hparts
  · exact .inl String.ofList_toList
  · exact .inr hlt

/-- A text without a slash is its only component. -/
theorem components_of_notMem {s : String} (h : '/' ∉ s.toList) : components s = [s] := by
  rw [components, List.splitOn_eq_singleton h, List.map_singleton, String.ofList_toList]

/-! ## Trees -/

inductive Node (γ : Type) where
  | dir
  | file (content : γ)
  deriving DecidableEq, Repr

structure FileTree (γ : Type) where
  nodes : List String → Option (Node γ)
  root : nodes [] = some .dir
  parents : ∀ place c, (nodes (place ++ [c])).isSome → nodes place = some .dir

namespace FileTree

variable {γ : Type}

/-- A tree with these files, and the directories they are in. -/
def ofFiles (files : List (List String × γ)) : FileTree γ where
  nodes q :=
    if q = [] ∨ ∃ f ∈ files, q <+: f.1.dropLast then some .dir else (files.lookup q).map .file
  root := if_pos (.inl rfl)
  parents place c h := by
    refine if_pos (.inr ?_)
    split_ifs at h with hdir
    · obtain hnil | ⟨f, hf, hprefix⟩ := hdir
      · simp at hnil
      · exact ⟨f, hf, (List.prefix_append place [c]).trans hprefix⟩
    · rw [Option.isSome_map, List.lookup_isSome_iff] at h
      obtain ⟨f, hf, hpath⟩ := h
      have hplace : f.1.dropLast = place := by
        rw [← beq_iff_eq.mp hpath, List.dropLast_concat]
      exact ⟨f, hf, hplace ▸ List.prefix_rfl⟩

theorem nodes_ofFiles_single (dir : List String) (file : String) (content : γ) :
    (ofFiles [(dir ++ [file], content)]).nodes (dir ++ [file]) = some (.file content) := by
  refine (if_neg ?_).trans (by rw [List.lookup_cons_self, Option.map_some])
  rintro (hnil | ⟨f, hf, hprefix⟩)
  · simp at hnil
  · rw [List.mem_singleton.mp hf, List.dropLast_concat] at hprefix
    have hle := hprefix.length_le
    rw [List.length_append, List.length_singleton] at hle
    omega

theorem lookup_of_nodes_ofFiles {files : List (List String × γ)} {q : List String} {content : γ}
    (h : (ofFiles files).nodes q = some (.file content)) : files.lookup q = some content := by
  simp only [ofFiles] at h
  split_ifs at h
  · cases h
  · obtain ⟨c, hc, hfile⟩ := Option.map_eq_some_iff.mp h
    cases hfile
    exact hc

def isDir (t : FileTree γ) (place : List String) : Bool :=
  match t.nodes place with
  | some .dir => true
  | _ => false

theorem isDir_iff {t : FileTree γ} {place : List String} :
    t.isDir place = true ↔ t.nodes place = some .dir := by
  unfold isDir
  split
  · next h => exact iff_of_true rfl h
  · next h => exact iff_of_false Bool.false_ne_true h

/-- `Path::exists`, of a file or a directory. -/
def isThere (t : FileTree γ) (place : List String) : Bool := (t.nodes place).isSome

/-- A new entry of a directory, in the place of a file at most. -/
def put (t : FileTree γ) (place : List String) (c : String) (node : Node γ) : Option (FileTree γ) :=
  if h : t.isDir place = true ∧ t.isDir (place ++ [c]) = false then
    some
      { nodes := Function.update t.nodes (place ++ [c]) (some node)
        root := by
          rw [Function.update_of_ne (by simp)]
          exact t.root
        parents := by
          intro q d hq
          by_cases hsame : q ++ [d] = place ++ [c]
          · obtain ⟨rfl, -⟩ := List.append_inj' hsame rfl
            rw [Function.update_of_ne (by simp)]
            exact isDir_iff.mp h.1
          · rw [Function.update_of_ne hsame] at hq
            have hdir := t.parents q d hq
            have hne : q ≠ place ++ [c] := by
              rintro rfl
              rw [isDir_iff.mpr hdir] at h
              cases h.2
            rw [Function.update_of_ne hne]
            exact hdir }
  else none

theorem nodes_put {t t' : FileTree γ} {place : List String} {c : String} {node : Node γ}
    (h : t.put place c node = some t') (q : List String) :
    t'.nodes q = if q = place ++ [c] then some node else t.nodes q := by
  unfold put at h
  split_ifs at h with hguard
  cases h
  exact Function.update_apply _ _ _ _

/-- Where a path leads through directories that are there. -/
def walk (t : FileTree γ) (place : List String) : List String → Option (List String)
  | [] => some place
  | c :: cs => if t.isDir place = true then walk t (enter place c) cs else none

/-- What a path leads to. -/
def find (t : FileTree γ) (path : List String) : Option (Node γ) := (t.walk [] path).bind t.nodes

/-- A file in the directory to which a path leads. -/
def write (t : FileTree γ) (dir : List String) (file : String) (content : γ) :
    Option (FileTree γ) :=
  (t.walk [] dir).bind fun place => t.put place file (.file content)

/-- `create_dir_all` from a directory on: each component is entered, and made where there is
nothing. -/
def createDirs (t : FileTree γ) (place : List String) : List String → Option (FileTree γ)
  | [] => some t
  | c :: cs =>
    match t.nodes (enter place c) with
    | some .dir => createDirs t (enter place c) cs
    | some (.file _) => none
    | none => (t.put place c .dir).bind fun t => createDirs t (enter place c) cs

theorem walk_eq {t : FileTree γ} {place q : List String} {cs : List String}
    (h : t.walk place cs = some q) : q = cs.foldl enter place := by
  induction cs generalizing place with
  | nil => exact (Option.some.inj h).symm
  | cons c cs ih =>
    unfold walk at h
    split_ifs at h
    exact ih h

theorem nodes_write {t t' : FileTree γ} {dir : List String} {file : String} {content : γ}
    (h : t.write dir file content = some t') (q : List String) :
    t'.nodes q = if q = resolve dir ++ [file] then some (.file content) else t.nodes q := by
  obtain ⟨place, hwalk, hput⟩ := Option.bind_eq_some_iff.mp h
  rw [nodes_put hput, walk_eq hwalk, resolve]

theorem walk_append {t : FileTree γ} {place q : List String} {cs : List String}
    (h : t.walk place cs = some q) (cs' : List String) :
    t.walk place (cs ++ cs') = t.walk q cs' := by
  induction cs generalizing place with
  | nil =>
    cases h
    rfl
  | cons c cs ih =>
    rw [List.cons_append, walk]
    rw [walk] at h
    split_ifs at h ⊢
    exact ih h

theorem walk_of_isDir {t t' : FileTree γ} (hdirs : ∀ q, t.isDir q = true → t'.isDir q = true)
    {place q : List String} {cs : List String} (h : t.walk place cs = some q) :
    t'.walk place cs = some q := by
  induction cs generalizing place with
  | nil => exact h
  | cons c cs ih =>
    rw [walk] at h ⊢
    split_ifs at h with hdir
    rw [if_pos (hdirs place hdir)]
    exact ih h

theorem isDir_put {t t' : FileTree γ} {place : List String} {c : String} {node : Node γ}
    (h : t.put place c node = some t') {q : List String} (hq : t.isDir q = true) :
    t'.isDir q = true := by
  have hne : q ≠ place ++ [c] := by
    rintro rfl
    unfold put at h
    split_ifs at h with hguard
    rw [hq] at hguard
    cases hguard.2
  rw [isDir_iff, nodes_put h, if_neg hne]
  exact isDir_iff.mp hq

/-- A file that is written is found. -/
theorem find_write {t t' : FileTree γ} {dir : List String} {file : String} {content : γ}
    (hfile : Plain file) (h : t.write dir file content = some t') :
    t'.find (dir ++ [file]) = some (.file content) := by
  obtain ⟨place, hwalk, hput⟩ := Option.bind_eq_some_iff.mp h
  unfold find
  have hwalk' := walk_of_isDir (fun q hq => isDir_put hput hq) hwalk
  have hplace : t.isDir place = true := by
    unfold put at hput
    split_ifs at hput with hguard
    exact hguard.1
  rw [walk_append hwalk', walk, if_pos (isDir_put hput hplace), walk, Option.bind_some,
    enter_plain hfile, nodes_put hput, if_pos rfl]

/-- A file can be written where a directory is and nothing is in the way. -/
theorem exists_write {t : FileTree γ} {dir place : List String} (hwalk : t.walk [] dir = some place)
    (hdir : t.isDir place = true) {file : String} (h : t.isDir (place ++ [file]) = false)
    (content : γ) : ∃ t', t.write dir file content = some t' := by
  unfold write
  rw [hwalk, Option.bind_some]
  exact ⟨_, dif_pos ⟨hdir, h⟩⟩

/-- What is somewhere is in a directory. -/
theorem nodes_of_not_isDir {t : FileTree γ} {place : List String} (h : t.isDir place = false)
    (c : String) : t.nodes (place ++ [c]) = none := by
  cases hnode : t.nodes (place ++ [c]) with
  | none => rfl
  | some node =>
    have hdir := isDir_iff.mpr (t.parents place c (by rw [hnode]; rfl))
    rw [h] at hdir
    cases hdir

/-- A plain name stands for what is in the directory to which a path leads. -/
theorem find_append {t : FileTree γ} {path q : List String} (h : t.walk [] path = some q)
    {c : String} (hc : Plain c) : t.find (path ++ [c]) = t.nodes (q ++ [c]) := by
  unfold find
  rw [walk_append h, walk]
  cases hdir : t.isDir q with
  | false => exact (nodes_of_not_isDir hdir c).symm
  | true => exact congrArg t.nodes (enter_plain hc q)

/-- A file that is written leaves the others of its directory alone. -/
theorem find_write_of_ne {t t' : FileTree γ} {dir : List String} {file other : String} {content : γ}
    (hplain : Plain other) (hne : other ≠ file) (h : t.write dir file content = some t') :
    t'.find (dir ++ [other]) = t.find (dir ++ [other]) := by
  obtain ⟨place, hwalk, hput⟩ := Option.bind_eq_some_iff.mp h
  have hwalk' := walk_of_isDir (fun q hq => isDir_put hput hq) hwalk
  have hother : place ++ [other] ≠ resolve dir ++ [file] := by
    intro heq
    exact hne (List.singleton_inj.mp (List.append_inj' heq rfl).2)
  rw [find_append hwalk' hplain, find_append hwalk hplain, nodes_write h, if_neg hother]

theorem isDir_dropLast {t : FileTree γ} {place : List String} (h : t.isDir place = true) :
    t.isDir place.dropLast = true := by
  obtain rfl | hne := eq_or_ne place []
  · exact h
  · refine isDir_iff.mpr (t.parents place.dropLast (place.getLast hne) ?_)
    rw [List.dropLast_append_getLast, isDir_iff.mp h]
    rfl

/-- Only a plain name leads from a directory to where nothing is. -/
theorem plain_of_nodes_enter {t : FileTree γ} {place : List String} {c : String}
    (hdir : t.isDir place = true) (h : t.nodes (enter place c) = none) : Plain c := by
  unfold enter at h
  split_ifs at h with hstay hup
  · rw [isDir_iff.mp hdir] at h
    cases h
  · rw [isDir_iff.mp (isDir_dropLast hdir)] at h
    cases h
  · exact ⟨fun hc => hstay (.inl hc), fun hc => hstay (.inr hc), hup⟩

/-- What making directories does to a place: nothing, unless it is on the way. -/
theorem nodes_createDirs {t t' : FileTree γ} {place : List String} {cs : List String}
    (h : t.createDirs place cs = some t') (hdir : t.isDir place = true) (q : List String) :
    t'.nodes q = t.nodes q ∨ t.nodes q = none ∧ t'.nodes q = some .dir ∧
      ∃ k < cs.length, q = (cs.take (k + 1)).foldl enter place := by
  induction cs generalizing t place with
  | nil =>
    cases h
    exact .inl rfl
  | cons c cs ih =>
    -- a component that leads to a directory, as it is or made on the way
    have hstep : ∀ t₁ : FileTree γ, t₁.createDirs (enter place c) cs = some t' →
        t₁.isDir (enter place c) = true → t'.nodes q = t₁.nodes q ∨ t₁.nodes q = none ∧
          t'.nodes q = some .dir ∧
          ∃ k < (c :: cs).length, q = ((c :: cs).take (k + 1)).foldl enter place := by
      intro t₁ h₁ hdir₁
      obtain hsame | ⟨hnone, hmade, k, hk, hq⟩ := ih h₁ hdir₁
      · exact .inl hsame
      · exact .inr ⟨hnone, hmade, k + 1, Nat.succ_lt_succ hk, hq⟩
    unfold createDirs at h
    split at h
    · next hnode => exact hstep t h (isDir_iff.mpr hnode)
    · cases h
    · next hnode =>
      obtain ⟨t₁, hput, hrest⟩ := Option.bind_eq_some_iff.mp h
      have hplain := plain_of_nodes_enter hdir hnode
      rw [enter_plain hplain] at hnode
      have hnew : t₁.isDir (enter place c) = true := by
        rw [isDir_iff, nodes_put hput, enter_plain hplain, if_pos rfl]
      have hnodes := nodes_put hput q
      obtain hsame | ⟨hnone, hmade, hk⟩ := hstep t₁ hrest hnew
      · by_cases hq : q = place ++ [c]
        · rw [hnodes, if_pos hq] at hsame
          refine .inr ⟨hq ▸ hnode, hsame, 0, Nat.succ_pos _, ?_⟩
          rw [hq, ← enter_plain hplain]
          rfl
        · rw [hnodes, if_neg hq] at hsame
          exact .inl hsame
      · by_cases hq : q = place ++ [c]
        · rw [hnodes, if_pos hq] at hnone
          cases hnone
        · rw [hnodes, if_neg hq] at hnone
          exact .inr ⟨hnone, hmade, hk⟩

theorem isDir_createDirs_of_isDir {t t' : FileTree γ} {place : List String} {cs : List String}
    (h : t.createDirs place cs = some t') (hdir : t.isDir place = true) {q : List String}
    (hq : t.isDir q = true) : t'.isDir q = true := by
  obtain hsame | ⟨-, hmade, -⟩ := nodes_createDirs h hdir q
  · rw [isDir_iff, hsame]
    exact isDir_iff.mp hq
  · exact isDir_iff.mpr hmade

/-- The directories that were made can be walked through. -/
theorem walk_createDirs {t t' : FileTree γ} {place : List String} {cs : List String}
    (h : t.createDirs place cs = some t') (hdir : t.isDir place = true) :
    t'.walk place cs = some (cs.foldl enter place) ∧ t'.isDir (cs.foldl enter place) = true := by
  induction cs generalizing t place with
  | nil =>
    cases h
    exact ⟨rfl, hdir⟩
  | cons c cs ih =>
    have hplace := isDir_createDirs_of_isDir h hdir hdir
    unfold createDirs at h
    rw [walk, if_pos hplace, List.foldl_cons]
    split at h
    · next hnode => exact ih h (isDir_iff.mpr hnode)
    · cases h
    · next hnode =>
      obtain ⟨t₁, hput, hrest⟩ := Option.bind_eq_some_iff.mp h
      refine ih hrest ?_
      have hplain := plain_of_nodes_enter hdir hnode
      rw [isDir_iff, nodes_put hput, enter_plain hplain, if_pos rfl]

/-- Past a first component that is a directory, or is made one, the rest of the way decides. -/
theorem way_cons_iff {t t' : FileTree γ} {place cs : List String} {c : String}
    (hdir : t.isDir place = true) (hfree : ∀ content, t.nodes (place ++ [c]) ≠ some (.file content))
    (hsame : ∀ q, q ≠ place ++ [c] → t'.nodes q = t.nodes q)
    (hdir' : t'.isDir (place ++ [c]) = true) :
    (∀ k content, t'.nodes (place ++ [c] ++ cs.take k) ≠ some (.file content)) ↔
      ∀ k content, t.nodes (place ++ (c :: cs).take k) ≠ some (.file content) := by
  have hbeyond : ∀ k, place ++ [c] ++ cs.take k = place ++ (c :: cs).take (k + 1) := by
    intro k
    rw [List.take_succ_cons, List.append_assoc, List.singleton_append]
  constructor
  · intro h k content
    cases k with
    | zero =>
      rw [List.take_zero, List.append_nil, isDir_iff.mp hdir]
      exact nofun
    | succ k =>
      have hk := h k content
      rw [hbeyond] at hk
      by_cases hq : place ++ (c :: cs).take (k + 1) = place ++ [c]
      · rw [hq]
        exact hfree content
      · rwa [hsame _ hq] at hk
  · intro h k content
    rw [hbeyond]
    by_cases hq : place ++ (c :: cs).take (k + 1) = place ++ [c]
    · rw [hq, isDir_iff.mp hdir']
      exact nofun
    · rw [hsame _ hq]
      exact h (k + 1) content

/-- Directories are made along plain names unless a file is in the way. -/
theorem isSome_createDirs_iff {t : FileTree γ} {place : List String} {cs : List String}
    (hdir : t.isDir place = true) (hplain : ∀ c ∈ cs, Plain c) :
    (t.createDirs place cs).isSome = true ↔
      ∀ k content, t.nodes (place ++ cs.take k) ≠ some (.file content) := by
  induction cs generalizing t place with
  | nil =>
    refine iff_of_true rfl fun k content => ?_
    rw [List.take_nil, List.append_nil, isDir_iff.mp hdir]
    exact nofun
  | cons c cs ih =>
    have hc := enter_plain (hplain c List.mem_cons_self) place
    have hcs := fun d hd => hplain d (List.mem_cons_of_mem c hd)
    unfold createDirs
    rw [hc]
    split
    · next hnode =>
      have hdir' := isDir_iff.mpr hnode
      exact (ih hdir' hcs).trans
        (way_cons_iff hdir (fun content => by rw [hnode]; exact nofun) (fun _ _ => rfl) hdir')
    · next content hnode =>
      refine iff_of_false Bool.false_ne_true fun h => ?_
      exact h 1 content (by simpa using hnode)
    · next hnode =>
      have hnot : t.isDir (place ++ [c]) = false := by
        rw [isDir, hnode]
      have hput : t.put place c .dir = some _ := dif_pos ⟨hdir, hnot⟩
      rw [hput, Option.bind_some]
      have hdir' : FileTree.isDir _ (place ++ [c]) = true :=
        isDir_iff.mpr ((nodes_put hput _).trans (if_pos rfl))
      refine (ih hdir' hcs).trans
        (way_cons_iff hdir (fun content => by rw [hnode]; exact nofun) (fun q hq => ?_) hdir')
      rw [nodes_put hput, if_neg hq]

end FileTree

end Vyoma.FileTrees
