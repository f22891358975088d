import Vyoma.TextSplits
import Mathlib.Data.List.Infix

/-!
# References to images in a registry

`parse_image_ref` cuts a reference at its last colon and the rest at its first slash. The last
colon is taken for the one before the tag even where it stands before a port, and the name of
the registry is replaced only after the repository has been completed.
-/
namespace Vyoma.Oci
open RustText

def hubRegistry : String := "registry-1.docker.io"

/-- Whether the text holds the other one. -/
def contains (s word : String) : Bool := decide (word.toList <:+: s.toList)

/-- Whether the first component is taken for a registry. -/
def looksLikeRegistry (reg : String) : Bool :=
  contains reg "." || (contains reg ":" && !contains reg "docker.io") || reg == "localhost"

/-- The repository, with `library/` before a single component at Docker Hub. -/
def finalRepo (registry repository : String) : String :=
  if registry = hubRegistry ∧ contains repository "/" = false then "library/" ++ repository
  else repository

/-- The registry, with the alias of Docker Hub replaced. -/
def finalReg (registry : String) : String :=
  if registry = "docker.io" then hubRegistry else registry

/-- The tag follows the last colon. -/
def splitTag (image : String) : String × String := (rsplitOnce ':' image).getD (image, "latest")

/-- The registry is the first of several components, if that looks like one. -/
def splitRegistry (rest : String) : String × String :=
  match splitOnce '/' rest with
  | some (reg, repo) => if looksLikeRegistry reg then (reg, repo) else (hubRegistry, rest)
  | none => (hubRegistry, rest)

def parseImageRef (image : String) : String × String × String :=
  let (rest, tag) := splitTag image
  let (registry, repository) := splitRegistry rest
  (finalReg registry, finalRepo registry repository, tag)

/-! ## References built from their parts -/

/-- A component of a repository path, a host or a tag: free of what separates the parts. -/
structure Name where
  text : String
  ne_empty : text ≠ ""
  no_colon : ':' ∉ text.toList
  no_slash : '/' ∉ text.toList

/-- The host of a registry holds a dot or is `localhost`. -/
def IsHost (text : String) : Prop := '.' ∈ text.toList ∨ text = "localhost"

structure Registry where
  host : Name
  isHost : IsHost host.text
  port : Option String
  port_digits : ∀ p ∈ port, p ≠ "" ∧ ∀ c ∈ p.toList, c.isDigit = true

/-- A registry, a repository path of one component or more and a tag. Without a registry the
first of several components is not a host: it would be read as one. -/
structure ImageRef where
  registry : Option Registry
  first : Name
  rest : List Name
  tag : Option Name
  first_not_host : registry = none → rest ≠ [] → ¬IsHost first.text

def Registry.text (reg : Registry) : String :=
  match reg.port with
  | none => reg.host.text
  | some port => reg.host.text ++ ":" ++ port

namespace ImageRef

variable (ref : ImageRef)

/-- The components of the path, with slashes between them. -/
def path : String := String.join (ref.first.text :: ref.rest.map fun c => "/" ++ c.text)

/-- The registry and the path. -/
def name : String :=
  match ref.registry with
  | none => ref.path
  | some reg => reg.text ++ "/" ++ ref.path

def text : String :=
  match ref.tag with
  | none => ref.name
  | some tag => ref.name ++ ":" ++ tag.text

/-- Docker Hub, named in one way or the other or not at all. -/
def AtHub : Prop := ∀ reg ∈ ref.registry, reg.text = "docker.io" ∨ reg.text = hubRegistry

instance : Decidable ref.AtHub := inferInstanceAs (Decidable (∀ reg ∈ ref.registry, _))

/-- What the parts stand for: the registry to ask, the repository there and the tag. -/
def parts : String × String × String :=
  (if ref.AtHub then hubRegistry else (ref.registry.map Registry.text).getD "",
    if ref.AtHub ∧ ref.rest = [] then "library/" ++ ref.path else ref.path,
    (ref.tag.map Name.text).getD "latest")

/-- A port comes with a tag, and `docker.io` alone with a path of several components. -/
def ReadRight : Prop :=
  (∀ reg ∈ ref.registry, reg.port ≠ none → ref.tag ≠ none) ∧
    ∀ reg ∈ ref.registry, reg.text = "docker.io" → ref.rest ≠ []

end ImageRef

/-! ## What is found in the parts -/

theorem contains_iff_mem {c : Char} {word : String} (hword : word.toList = [c]) (s : String) :
    contains s word = true ↔ c ∈ s.toList := by
  rw [contains, decide_eq_true_iff, hword, List.singleton_infix_iff]

namespace Registry

variable (reg : Registry)

theorem port_no_separator {port : String} (hport : reg.port = some port) {c : Char}
    (hc : c ∈ port.toList) : c.isDigit = true := (reg.port_digits port hport).2 c hc

theorem slash_notMem_text : '/' ∉ reg.text.toList := by
  unfold text
  cases hport : reg.port with
  | none => exact reg.host.no_slash
  | some port =>
    intro hslash
    simp only [String.toList_append, List.mem_append] at hslash
    obtain (hhost | hcolon) | hdigits := hslash
    · exact reg.host.no_slash hhost
    · simp at hcolon
    · exact absurd (reg.port_no_separator hport hdigits) (by decide)

theorem colon_mem_text_iff : ':' ∈ reg.text.toList ↔ reg.port ≠ none := by
  unfold text
  cases reg.port with
  | none => simp [reg.host.no_colon]
  | some port => simp

/-- A registry is recognised, with its port and without. -/
theorem looksLikeRegistry_text : looksLikeRegistry reg.text = true := by
  have hdot : ∀ s : String, '.' ∈ s.toList → looksLikeRegistry s = true := by
    intro s hs
    have hcontains : contains s "." = true := (contains_iff_mem rfl s).mpr hs
    simp [looksLikeRegistry, hcontains]
  unfold text
  obtain hhost | hhost := reg.isHost
  · cases reg.port with
    | none => exact hdot _ hhost
    | some port => exact hdot _ (by simp [hhost])
  · rw [hhost]
    cases hport : reg.port with
    | none => rfl
    | some port =>
      have hcolon : contains ("localhost" ++ ":" ++ port) ":" = true :=
        (contains_iff_mem (c := ':') rfl _).mpr (by simp)
      have hhub : contains ("localhost" ++ ":" ++ port) "docker.io" = false := by
        rw [Bool.eq_false_iff]
        intro hcontains
        have hinfix := of_decide_eq_true hcontains
        have hmem : '.' ∈ ("localhost" ++ ":" ++ port).toList :=
          hinfix.subset (by decide)
        simp only [String.toList_append, List.mem_append] at hmem
        obtain hmem | hmem := hmem
        · exact absurd hmem (by decide)
        · exact absurd (reg.port_no_separator hport hmem) (by decide)
      unfold looksLikeRegistry
      rw [hcolon, hhub, Bool.not_false, Bool.and_true, Bool.or_true, Bool.true_or]

end Registry

namespace ImageRef

variable (ref : ImageRef)

theorem toList_path : ref.path.toList =
    ref.first.text.toList ++ ref.rest.flatMap fun c => '/' :: c.text.toList := by
  simp [path, List.flatMap_map]

theorem colon_notMem_path : ':' ∉ ref.path.toList := by
  rw [toList_path, List.mem_append, List.mem_flatMap]
  rintro (hfirst | ⟨c, -, hc⟩)
  · exact ref.first.no_colon hfirst
  · obtain hslash | hc := List.mem_cons.mp hc
    · cases hslash
    · exact c.no_colon hc

theorem slash_mem_path_iff : '/' ∈ ref.path.toList ↔ ref.rest ≠ [] := by
  rw [toList_path, List.mem_append, List.mem_flatMap]
  cases ref.rest with
  | nil => simp [ref.first.no_slash]
  | cons c cs => simp

/-- The first of several components is what stands before the first slash. -/
theorem splitOnce_path (h : ref.rest ≠ []) :
    ∃ repo, splitOnce '/' ref.path = some (ref.first.text, repo) := by
  obtain ⟨c, cs, hrest⟩ := List.exists_cons_of_ne_nil h
  refine ⟨c.text ++ String.join (cs.map fun c => "/" ++ c.text), ?_⟩
  have hpath : ref.path = ref.first.text ++ String.singleton '/' ++
      (c.text ++ String.join (cs.map fun c => "/" ++ c.text)) := by
    rw [path, hrest, List.map_cons, String.join_cons, String.join_cons, String.append_assoc,
      String.append_assoc]
    rfl
  rw [hpath, splitOnce_of_notMem ref.first.no_slash]

/-- Only the colon before a port is found in the name. -/
theorem colon_mem_name_iff :
    ':' ∈ ref.name.toList ↔ ∃ reg ∈ ref.registry, reg.port ≠ none := by
  unfold name
  cases ref.registry with
  | none => simp [ref.colon_notMem_path]
  | some reg => simp [ref.colon_notMem_path, reg.colon_mem_text_iff]

/-- The registry that the text of the name is cut at. -/
def asked : String := (ref.registry.map Registry.text).getD hubRegistry

theorem splitRegistry_name : splitRegistry ref.name = (ref.asked, ref.path) := by
  unfold splitRegistry name asked
  cases hregistry : ref.registry with
  | some reg =>
    have hcut : splitOnce '/' (reg.text ++ "/" ++ ref.path) = some (reg.text, ref.path) :=
      splitOnce_of_notMem reg.slash_notMem_text ref.path
    simp [hcut, reg.looksLikeRegistry_text]
  | none =>
    by_cases hrest : ref.rest = []
    · have hslash : '/' ∉ ref.path.toList := fun h => ref.slash_mem_path_iff.mp h hrest
      simp [splitOnce_eq_none hslash]
    · obtain ⟨repo, hcut⟩ := ref.splitOnce_path hrest
      have hhost := ref.first_not_host hregistry hrest
      have hdot : contains ref.first.text "." = false := by
        rw [Bool.eq_false_iff, ne_eq, contains_iff_mem (c := '.') rfl]
        exact fun h => hhost (.inl h)
      have hcolon : contains ref.first.text ":" = false := by
        rw [Bool.eq_false_iff, ne_eq, contains_iff_mem (c := ':') rfl]
        exact ref.first.no_colon
      have hlocal : ref.first.text ≠ "localhost" := fun h => hhost (.inr h)
      simp [hcut, looksLikeRegistry, hdot, hcolon, hlocal]

/-- Where a port comes with a tag, the last colon is the one before the tag. -/
theorem splitTag_text (h : ∀ reg ∈ ref.registry, reg.port ≠ none → ref.tag ≠ none) :
    splitTag ref.text = (ref.name, (ref.tag.map Name.text).getD "latest") := by
  unfold splitTag text
  cases htag : ref.tag with
  | none =>
    have hcolon : ':' ∉ ref.name.toList := by
      intro hcolon
      obtain ⟨reg, hreg, hport⟩ := ref.colon_mem_name_iff.mp hcolon
      exact h reg hreg hport htag
    simp [rsplitOnce_eq_none hcolon]
  | some tag =>
    have hcut : rsplitOnce ':' (ref.name ++ ":" ++ tag.text) = some (ref.name, tag.text) :=
      rsplitOnce_of_notMem tag.no_colon ref.name
    simp [hcut]

/-- A port without a tag is read as the start of one. -/
theorem splitTag_port {reg : Registry} (hreg : ref.registry = some reg) {port : String}
    (hport : reg.port = some port) (htag : ref.tag = none) :
    splitTag ref.text = (reg.host.text, port ++ "/" ++ ref.path) := by
  have htext : ref.text = reg.host.text ++ String.singleton ':' ++ (port ++ "/" ++ ref.path) := by
    rw [text, htag, name, hreg]
    dsimp only
    rw [Registry.text, hport]
    dsimp only
    rw [String.append_assoc, String.append_assoc, String.append_assoc, String.append_assoc,
      String.append_assoc]
    rfl
  have hcolon : ':' ∉ (port ++ "/" ++ ref.path).toList := by
    intro hcolon
    simp only [String.toList_append, List.mem_append] at hcolon
    obtain (hdigits | hslash) | hpath := hcolon
    · exact absurd (reg.port_no_separator hport hdigits) (by decide)
    · exact absurd hslash (by decide)
    · exact ref.colon_notMem_path hpath
  rw [splitTag, htext, rsplitOnce_of_notMem hcolon]
  rfl

theorem finalRepo_path : finalRepo ref.asked ref.path =
    if ref.asked = hubRegistry ∧ ref.rest = [] then "library/" ++ ref.path else ref.path := by
  have hslash : contains ref.path "/" = false ↔ ref.rest = [] := by
    rw [Bool.eq_false_iff, ne_eq, contains_iff_mem (c := '/') rfl, ref.slash_mem_path_iff, not_not]
  unfold finalRepo
  simp only [hslash]

theorem ne_library (s : String) : s ≠ "library/" ++ s := by
  intro h
  have hlength := congrArg (fun s : String => s.toList.length) h
  simp only [String.toList_append, List.length_append] at hlength
  have hlibrary : "library/".toList.length = 8 := by decide
  omega

/-- A reference is parsed into its parts exactly when a port comes with a tag and `docker.io`
alone with a path of several components. -/
theorem parseImageRef_eq_parts_iff : parseImageRef ref.text = ref.parts ↔ ref.ReadRight := by
  by_cases hport : ∀ reg ∈ ref.registry, reg.port ≠ none → ref.tag ≠ none
  · have hparse : parseImageRef ref.text = (finalReg ref.asked, finalRepo ref.asked ref.path,
        (ref.tag.map Name.text).getD "latest") := by
      rw [parseImageRef, ref.splitTag_text hport]
      dsimp only
      rw [ref.splitRegistry_name]
    have hright : ref.ReadRight ↔ ∀ reg ∈ ref.registry, reg.text = "docker.io" → ref.rest ≠ [] :=
      and_iff_right hport
    rw [hparse, hright, finalRepo_path, parts, asked]
    cases hregistry : ref.registry with
    | none => simp [AtHub, hregistry, finalReg, hubRegistry]
    | some reg =>
      by_cases halias : reg.text = "docker.io"
      · simp [AtHub, hregistry, finalReg, halias, hubRegistry, ne_library]
      · by_cases hhub : reg.text = hubRegistry
        · simp [AtHub, hregistry, finalReg, hhub, hubRegistry]
        · simp [AtHub, hregistry, finalReg, halias, hhub]
  · push Not at hport
    obtain ⟨reg, hreg, hport, htag⟩ := hport
    obtain ⟨port, hport⟩ := Option.ne_none_iff_exists'.mp hport
    refine iff_of_false ?_ fun hright => hright.1 reg hreg (by simp [hport]) htag
    intro hparse
    have htags := congrArg (fun parts => parts.2.2) hparse
    rw [parseImageRef, ref.splitTag_port hreg hport htag] at htags
    have hlatest : port ++ "/" ++ ref.path = "latest" := by simpa [parts, htag] using htags
    have hslash : '/' ∈ (port ++ "/" ++ ref.path).toList := by simp
    rw [hlatest] at hslash
    exact absurd hslash (by decide)

/-- `localhost:5000/app`, without a tag. -/
def localApp : ImageRef where
  registry := some
    { host := ⟨"localhost", by decide, by decide, by decide⟩
      isHost := .inr rfl
      port := some "5000"
      port_digits := by
        intro port hport
        cases hport
        exact ⟨by decide, List.all_iff_forall_prop.mp (by decide)⟩ }
  first := ⟨"app", by decide, by decide, by decide⟩
  rest := []
  tag := none
  first_not_host h := by cases h

/-- The port and the path become the tag, and the host becomes a repository at Docker Hub. -/
theorem localApp_misread : localApp.text = "localhost:5000/app" ∧
    parseImageRef localApp.text = ("registry-1.docker.io", "library/localhost", "5000/app") ∧
    parseImageRef localApp.text ≠ localApp.parts := by
  have htext : localApp.text = "localhost:5000/app" := by decide +kernel
  have hparts : localApp.parts = ("localhost:5000", "app", "latest") := by decide +kernel
  have hparse : parseImageRef "localhost:5000/app" =
      ("registry-1.docker.io", "library/localhost", "5000/app") := by decide +kernel
  rw [hparts, htext, hparse]
  decide

end ImageRef

end Vyoma.Oci
