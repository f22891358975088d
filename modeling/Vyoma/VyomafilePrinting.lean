import Vyoma.TextSplits
import Vyoma.Vyomafile

/-!
# Vyomafiles printed and read back

An instruction is printed on one line as its keyword, in any case and with any indentation, and
its arguments. Blank lines and comments may stand anywhere. The parser returns the instructions
that were printed, for all instructions with well-formed fields.
-/
namespace Vyoma.Build
open RustText

/-- Lists of strings as `serde_json` writes and reads them. -/
structure StringArrays where
  toText : List String → List Char
  fromStr : FromStr

/-- An array stands in brackets and on one line, and is read back. -/
structure StringArrays.RoundTrips (arrays : StringArrays) (args : List String) : Prop where
  brackets : ∃ inner, arrays.toText args = '[' :: inner ++ [']']
  one_line : '\n' ∉ arrays.toText args
  reads : arrays.fromStr (arrays.toText args) = .ok args

/-- A field without white space at its ends and without line feeds. -/
structure IsField (s : String) : Prop where
  trimmed : trim s.toList = s.toList
  one_line : '\n' ∉ s.toList

/-- A field of `COPY`. -/
def IsWord (s : String) : Prop := s ≠ "" ∧ ∀ c ∈ s.toList, isWhitespace c = false

namespace Instruction

def keyword : Instruction → String
  | .«from» _ => "FROM"
  | .run _ => "RUN"
  | .copy _ _ => "COPY"
  | .cmd _ => "CMD"
  | .entrypoint _ => "ENTRYPOINT"
  | .env _ _ => "ENV"
  | .workdir _ => "WORKDIR"
  | .vmMeasuredBoot => "VM_MEASURED_BOOT"

def arguments (arrays : StringArrays) : Instruction → List Char
  | .«from» image => image.toList
  | .run command => command.toList
  | .copy src dst => src.toList ++ ' ' :: dst.toList
  | .cmd args => arrays.toText args
  | .entrypoint args => arrays.toText args
  | .env key value => key.toList ++ '=' :: value.toList
  | .workdir path => path.toList
  | .vmMeasuredBoot => []

def WellFormed : Instruction → Prop
  | .«from» image => IsField image ∧ image ≠ ""
  | .run command => IsField command ∧ command ≠ ""
  | .copy src dst => IsWord src ∧ IsWord dst
  | .cmd _ => True
  | .entrypoint _ => True
  | .env key value => IsField key ∧ IsField value ∧ '=' ∉ key.toList
  | .workdir path => IsField path ∧ path ≠ ""
  | .vmMeasuredBoot => True

/-- The lists of strings that are printed as arrays. -/
def arrayArgs : Instruction → List (List String)
  | .cmd args => [args]
  | .entrypoint args => [args]
  | _ => []

end Instruction

/-- White space within a line. -/
def IsBlank (cs : List Char) : Prop := ∀ c ∈ cs, isWhitespace c = true ∧ c ≠ '\n'

/-- An instruction with the way its line is written. -/
structure PrintedLine where
  instruction : Instruction
  wellFormed : instruction.WellFormed
  indent : List Char
  indent_blank : IsBlank indent
  keyword : List Char
  /-- The keyword in any case. -/
  keyword_case : keyword.map Char.toUpper = instruction.keyword.toList

def PrintedLine.text (arrays : StringArrays) (l : PrintedLine) : List Char :=
  let arguments := l.instruction.arguments arrays
  l.indent ++ l.keyword ++ if arguments = [] then [] else ' ' :: arguments

inductive SourceLine where
  | blank (text : List Char) (isBlank : IsBlank text)
  | comment (indent note : List Char) (isBlank : IsBlank indent) (one_line : '\n' ∉ note)
  | printed (line : PrintedLine)

namespace SourceLine

def text (arrays : StringArrays) : SourceLine → List Char
  | .blank text _ => text
  | .comment indent note _ _ => indent ++ '#' :: note
  | .printed line => line.text arrays

def instruction? : SourceLine → Option Instruction
  | .printed line => some line.instruction
  | _ => none

end SourceLine

def fileText (arrays : StringArrays) (file : List SourceLine) : List Char :=
  ['\n'].intercalate (file.map (SourceLine.text arrays))

def instructions (file : List SourceLine) : List Instruction :=
  file.filterMap SourceLine.instruction?

/-! ## Fields -/

theorem IsField.tight {s : String} (h : IsField s) : Tight s.toList := h.trimmed ▸ tight_trim _

theorem splitWhitespace_words {src dst : List Char} (hsrc : ∀ c ∈ src, isWhitespace c = false)
    (hdst : ∀ c ∈ dst, isWhitespace c = false) (hne : src ≠ []) (hne' : dst ≠ []) :
    splitWhitespace (src ++ ' ' :: dst) = [src, dst] := by
  unfold splitWhitespace
  rw [List.splitOnP_append_cons_of_forall_mem hsrc ' ' (by decide), List.splitOnP_eq_singleton hdst]
  simp [hne, hne']

/-! ## One line -/

theorem toList_ne_nil {s : String} (h : s ≠ "") : s.toList ≠ [] :=
  fun hnil => h (String.toList_eq_nil_iff.mp hnil)

theorem toNat_lt_of_toUpper {c : Char} (h : c.toUpper.toNat < 128) : c.toNat < 128 := by
  cases halpha : c.isAlpha with
  | true =>
    have hval : c.toNat = c.val.toNat := rfl
    rw [isAlpha_iff] at halpha
    omega
  | false => rwa [toUpper_of_not_isAlpha halpha] at h

theorem keyword_plain (i : Instruction) :
    ∀ c ∈ i.keyword.toList, c.toNat < 128 ∧ isWhitespace c = false := by
  cases i <;> simp [Instruction.keyword] <;> decide +kernel

namespace PrintedLine

variable (l : PrintedLine)

theorem toUpper_mem {c : Char} (h : c ∈ l.keyword) : c.toUpper ∈ l.instruction.keyword.toList := by
  rw [← l.keyword_case]
  exact List.mem_map_of_mem h

theorem keyword_not_blank : ∀ c ∈ l.keyword, isWhitespace c = false := by
  intro c hc
  cases halpha : c.isAlpha with
  | true => exact isWhitespace_of_isAlpha halpha
  | false =>
    have hplain := (keyword_plain _ _ (l.toUpper_mem hc)).2
    rwa [toUpper_of_not_isAlpha halpha] at hplain

theorem uppercase_keyword (t : Unicode) : t.uppercase l.keyword = l.instruction.keyword.toList := by
  rw [t.uppercase_ascii fun c hc => toNat_lt_of_toUpper (keyword_plain _ _ (l.toUpper_mem hc)).1,
    l.keyword_case]

theorem keyword_ne_nil : l.keyword ≠ [] := by
  intro hnil
  have hcase := l.keyword_case
  rw [hnil] at hcase
  have hno : ∀ i : Instruction, [] ≠ i.keyword.toList := by
    intro i
    cases i <;> simp [Instruction.keyword]
  exact hno _ hcase

/-- The line starts with a letter of the keyword, so that it is no comment. -/
theorem keyword_head : l.keyword.head? ≠ some '#' := by
  intro hhead
  have hmem := l.toUpper_mem (List.mem_of_mem_head? hhead)
  have hno : ∀ i : Instruction, '#'.toUpper ∉ i.keyword.toList := by
    intro i
    cases i <;> simp [Instruction.keyword]
  exact hno _ hmem

end PrintedLine

namespace Instruction

variable {arrays : StringArrays} {i : Instruction}

theorem tight_arguments (h : i.WellFormed)
    (harrays : ∀ args ∈ i.arrayArgs, arrays.RoundTrips args) : Tight (i.arguments arrays) := by
  have hbrackets : ∀ args, arrays.RoundTrips args → Tight (arrays.toText args) := by
    intro args hargs
    obtain ⟨inner, htext⟩ := hargs.brackets
    rw [htext]
    refine ⟨?_, ?_⟩
    · simp only [List.cons_append, List.head?_cons, Option.mem_some_iff, forall_eq']
      decide
    · rw [List.getLast?_append]
      simp only [List.getLast?_singleton, Option.some_or, Option.mem_some_iff, forall_eq']
      decide
  cases i with
  | «from» image => exact h.1.tight
  | run command => exact h.1.tight
  | copy src dst =>
    exact (tight_of_no_blank h.1.2).join_of_ne_nil (tight_of_no_blank h.2.2)
      (toList_ne_nil h.1.1) (toList_ne_nil h.2.1) ' '
  | cmd args => exact hbrackets args (harrays args (List.mem_singleton_self _))
  | entrypoint args => exact hbrackets args (harrays args (List.mem_singleton_self _))
  | env key value => exact h.1.tight.join h.2.1.tight (by decide)
  | workdir path => exact h.1.tight
  | vmMeasuredBoot => exact ⟨nofun, nofun⟩

/-- Line feeds are in neither the fields nor the arrays. -/
theorem one_line_arguments (h : i.WellFormed)
    (harrays : ∀ args ∈ i.arrayArgs, arrays.RoundTrips args) : '\n' ∉ i.arguments arrays := by
  have hword : ∀ s, IsWord s → '\n' ∉ s.toList := by
    intro s hs hmem
    exact absurd (hs.2 _ hmem) (by decide)
  cases i with
  | «from» image => exact h.1.one_line
  | run command => exact h.1.one_line
  | copy src dst => simp [arguments, hword _ h.1, hword _ h.2]
  | cmd args => exact (harrays args (List.mem_singleton_self _)).one_line
  | entrypoint args => exact (harrays args (List.mem_singleton_self _)).one_line
  | env key value => simp [arguments, h.1.one_line, h.2.1.one_line]
  | workdir path => exact h.1.one_line
  | vmMeasuredBoot => exact List.not_mem_nil

theorem requireArgs_field {s : String} (h : s ≠ "") (message : String) (n : ℕ)
    (make : String → Instruction) : requireArgs message n s.toList make = .ok (make s) := by
  unfold requireArgs
  rw [if_neg (toList_ne_nil h), String.ofList_toList]

theorem parseShellArgs_array {args : List String} (h : arrays.RoundTrips args) :
    parseShellArgs arrays.fromStr (arrays.toText args) = .ok args := by
  have htight : Tight (arrays.toText args) :=
    tight_arguments (i := .cmd args) trivial fun a ha => by
      rw [List.mem_singleton.mp ha]
      exact h
  obtain ⟨inner, htext⟩ := h.brackets
  unfold parseShellArgs
  dsimp only
  rw [trim_of_tight htight, if_pos, h.reads]
  · rfl
  · rw [htext]
    exact ⟨rfl, by rw [List.getLast?_append]; rfl⟩

/-- The grammar of each instruction reads back what was printed for it. -/
theorem parseInstruction_arguments (h : i.WellFormed)
    (harrays : ∀ args ∈ i.arrayArgs, arrays.RoundTrips args) (n : ℕ) :
    parseInstruction arrays.fromStr i.keyword.toList (i.arguments arrays) n = .ok i := by
  cases i with
  | «from» image => simp [parseInstruction, keyword, arguments, requireArgs_field h.2]
  | run command => simp [parseInstruction, keyword, arguments, requireArgs_field h.2]
  | copy src dst =>
    have hwords := splitWhitespace_words h.1.2 h.2.2 (toList_ne_nil h.1.1) (toList_ne_nil h.2.1)
    simp [parseInstruction, keyword, arguments, hwords]
  | cmd args =>
    have hparse := parseShellArgs_array (harrays args (List.mem_singleton_self _))
    simp [parseInstruction, keyword, arguments, hparse, Except.map]
  | entrypoint args =>
    have hparse := parseShellArgs_array (harrays args (List.mem_singleton_self _))
    simp [parseInstruction, keyword, arguments, hparse, Except.map]
  | env key value =>
    have htext : String.ofList (key.toList ++ '=' :: value.toList) =
        key ++ String.singleton '=' ++ value := String.toList_inj.mp (by simp)
    have hsplit := splitOnce_of_notMem h.2.2 value
    rw [← htext] at hsplit
    -- the arguments stay one text, as `hsplit` has them
    simp [parseInstruction, keyword, arguments, hsplit, h.1.trimmed, h.2.1.trimmed,
      -String.ofList_append]
  | workdir path => simp [parseInstruction, keyword, arguments, requireArgs_field h.2]
  | vmMeasuredBoot => simp [parseInstruction, keyword, arguments]

end Instruction

namespace PrintedLine

variable {arrays : StringArrays} (l : PrintedLine)

/-- The line without its indentation. -/
def body (arrays : StringArrays) : List Char :=
  l.keyword ++ if l.instruction.arguments arrays = [] then [] else
    ' ' :: l.instruction.arguments arrays

theorem tight_body (harrays : ∀ args ∈ l.instruction.arrayArgs, arrays.RoundTrips args) :
    Tight (l.body arrays) := by
  have hkeyword : Tight l.keyword := tight_of_no_blank l.keyword_not_blank
  unfold body
  split_ifs with hempty
  · rwa [List.append_nil]
  · exact hkeyword.join_of_ne_nil (Instruction.tight_arguments l.wellFormed harrays)
      l.keyword_ne_nil hempty ' '

theorem trim_text (harrays : ∀ args ∈ l.instruction.arrayArgs, arrays.RoundTrips args) :
    trim (l.text arrays) = l.body arrays := by
  have htext : l.text arrays = l.indent ++ l.body arrays := List.append_assoc _ _ _
  rw [htext, trim_append_of_blank fun c hc => (l.indent_blank c hc).1,
    trim_of_tight (l.tight_body harrays)]

theorem not_skipped : isSkipped (l.body arrays) = false := by
  obtain ⟨c, rest, hkeyword⟩ := List.exists_cons_of_ne_nil l.keyword_ne_nil
  have hc : c ≠ '#' := by
    intro hc
    exact l.keyword_head (by rw [hkeyword, hc]; rfl)
  simp [isSkipped, body, hkeyword, hc]

/-- The keyword ends where the arguments start. -/
theorem parseLine_body (t : Unicode)
    (harrays : ∀ args ∈ l.instruction.arrayArgs, arrays.RoundTrips args) (n : ℕ) :
    parseLine t arrays.fromStr (l.body arrays) n = .ok l.instruction := by
  have hkeyword : ∀ c ∈ l.keyword, (!isWhitespace c) = true := by
    intro c hc
    simp [l.keyword_not_blank c hc]
  have hrest : ∀ c ∈ (if l.instruction.arguments arrays = [] then [] else
      ' ' :: l.instruction.arguments arrays).head?, (!isWhitespace c) = false := by
    intro c hc
    split_ifs at hc
    · cases hc
    · cases hc
      decide
  obtain ⟨htake, hdrop⟩ := takeWhile_numeral hkeyword hrest
  have hargs : trim ((if l.instruction.arguments arrays = [] then [] else
      ' ' :: l.instruction.arguments arrays).drop 1) = l.instruction.arguments arrays := by
    split_ifs with hempty
    · rw [hempty]
      rfl
    · exact trim_of_tight (Instruction.tight_arguments l.wellFormed harrays)
  unfold parseLine body
  dsimp only
  rw [htake, hdrop, hargs, l.uppercase_keyword]
  exact Instruction.parseInstruction_arguments l.wellFormed harrays n

end PrintedLine

/-! ## The whole file -/

variable {t : Unicode} {arrays : StringArrays}

/-- The line contributes the given instruction or none, wherever it stands. -/
def Contributes (t : Unicode) (fromStr : FromStr) (line : List Char) (i : Option Instruction) :
    Prop :=
  isSkipped (trim line) = i.isNone ∧
    ∀ instruction ∈ i, ∀ n, parseLine t fromStr (trim line) n = .ok instruction

theorem parseLines_of_contributes {fromStr : FromStr} {ls : List (List Char × Option Instruction)}
    (h : ∀ l ∈ ls, Contributes t fromStr l.1 l.2) (n : ℕ) :
    parseLines t fromStr n (ls.map Prod.fst) = .ok (ls.filterMap Prod.snd) := by
  induction ls generalizing n with
  | nil => rfl
  | cons l ls ih =>
    obtain ⟨line, i⟩ := l
    obtain ⟨hskip, hparse⟩ := h (line, i) List.mem_cons_self
    have hrest := ih (fun l hl => h l (List.mem_cons_of_mem _ hl)) (n + 1)
    simp only [List.map_cons, parseLines, hskip, hrest]
    cases i with
    | none => rfl
    | some instruction =>
      simp only [Option.mem_some_iff, forall_eq'] at hparse
      simp only [hparse]
      rfl

/-- The lines that `str::lines` makes of the joined lines contribute the same: carriage returns
are white space, and an empty last line is left out. -/
theorem parseContent_of_contributes {fromStr : FromStr}
    {ls : List (List Char × Option Instruction)} (h : ∀ l ∈ ls, Contributes t fromStr l.1 l.2)
    (hlines : ∀ l ∈ ls, '\n' ∉ l.1) :
    parseContent t fromStr (['\n'].intercalate (ls.map Prod.fst)) = .ok (ls.filterMap Prod.snd) := by
  unfold parseContent
  rcases List.eq_nil_or_concat ls with rfl | ⟨init, last, rfl⟩
  · rfl
  · rw [List.concat_eq_append] at *
    have hfree : ∀ line ∈ init.map Prod.fst ++ [last.1], '\n' ∉ line := by
      intro line hline
      obtain hline | hline := List.mem_append.mp hline
      · obtain ⟨l, hl, rfl⟩ := List.mem_map.mp hline
        exact hlines l (List.mem_append_left _ hl)
      · rw [List.mem_singleton.mp hline]
        exact hlines last (List.mem_append_right _ List.mem_cons_self)
    have hstrip : ∀ l ∈ init.map (fun l => (stripReturn l.1, l.2)),
        Contributes t fromStr l.1 l.2 := by
      intro l hl
      obtain ⟨l₀, hl₀, rfl⟩ := List.mem_map.mp hl
      obtain ⟨hskip, hparse⟩ := h l₀ (List.mem_append_left _ hl₀)
      rw [← trim_stripReturn] at hskip hparse
      exact ⟨hskip, hparse⟩
    rw [List.map_append, List.map_cons, List.map_nil, lines_intercalate hfree]
    split_ifs with hlast
    · have hnone : last.2 = none := by
        have hskip := (h last (List.mem_append_right _ List.mem_cons_self)).1
        rw [hlast] at hskip
        exact Option.isNone_iff_eq_none.mp hskip.symm
      have hparse := parseLines_of_contributes hstrip 1
      simpa [hnone, Function.comp_def] using hparse
    · have hall : ∀ l ∈ init.map (fun l => (stripReturn l.1, l.2)) ++ [last],
          Contributes t fromStr l.1 l.2 := by
        intro l hl
        obtain hl | hl := List.mem_append.mp hl
        · exact hstrip l hl
        · exact h l (List.mem_append_right _ hl)
      have hparse := parseLines_of_contributes hall 1
      simpa [Function.comp_def] using hparse

theorem SourceLine.contributes (line : SourceLine)
    (harrays : ∀ i ∈ line.instruction?, ∀ args ∈ i.arrayArgs, arrays.RoundTrips args) :
    Contributes t arrays.fromStr (line.text arrays) line.instruction? := by
  cases line with
  | blank text hblank =>
    have htrim : trim text = [] := by
      have happend := trim_append_of_blank (fun c hc => (hblank c hc).1) []
      rwa [List.append_nil] at happend
    simp [Contributes, SourceLine.instruction?, SourceLine.text, isSkipped, htrim]
  | comment indent note hblank hnote =>
    have hhash : ∀ c ∈ ['#'], isWhitespace c = false := List.all_iff_forall_prop.mp (by decide)
    have htrim : (trim (indent ++ '#' :: note)).head? = some '#' := by
      rw [trim_append_of_blank fun c hc => (hblank c hc).1, ← List.singleton_append,
        trim_append_of_no_blank hhash (List.cons_ne_nil _ _)]
      rfl
    simp [Contributes, SourceLine.instruction?, SourceLine.text, isSkipped, htrim]
  | printed line =>
    have htrim := line.trim_text (harrays _ rfl)
    refine ⟨?_, ?_⟩
    · show isSkipped (trim (line.text arrays)) = false
      rw [htrim, line.not_skipped]
    · intro i hi n
      obtain rfl := Option.some.inj hi
      show parseLine t arrays.fromStr (trim (line.text arrays)) n = _
      rw [htrim, line.parseLine_body t (harrays _ rfl)]

theorem SourceLine.one_line (line : SourceLine)
    (harrays : ∀ i ∈ line.instruction?, ∀ args ∈ i.arrayArgs, arrays.RoundTrips args) :
    '\n' ∉ line.text arrays := by
  have hindent : ∀ cs, IsBlank cs → '\n' ∉ cs := fun cs hcs hmem => (hcs _ hmem).2 rfl
  cases line with
  | blank text hblank => exact hindent text hblank
  | comment indent note hblank hnote => simp [SourceLine.text, hindent indent hblank, hnote]
  | printed line =>
    have hkeyword : '\n' ∉ line.keyword := fun hmem =>
      absurd (line.keyword_not_blank _ hmem) (by decide)
    have harguments := Instruction.one_line_arguments line.wellFormed (harrays _ rfl)
    simp only [SourceLine.text, PrintedLine.text, List.mem_append, not_or]
    refine ⟨⟨hindent _ line.indent_blank, hkeyword⟩, ?_⟩
    split_ifs
    · exact List.not_mem_nil
    · simp [harguments]

/-- A printed file is parsed to its instructions, in their order: with any case of the keywords,
any indentation, and blank lines and comments anywhere. -/
theorem parseContent_fileText (t : Unicode) (arrays : StringArrays) (file : List SourceLine)
    (h : ∀ i ∈ instructions file, ∀ args ∈ i.arrayArgs, arrays.RoundTrips args) :
    parseContent t arrays.fromStr (fileText arrays file) = .ok (instructions file) := by
  have harrays : ∀ line ∈ file, ∀ i ∈ line.instruction?, ∀ args ∈ i.arrayArgs,
      arrays.RoundTrips args := by
    intro line hline i hi
    exact h i (List.mem_filterMap.mpr ⟨line, hline, hi⟩)
  have hcontributes : ∀ l ∈ file.map (fun line => (line.text arrays, line.instruction?)),
      Contributes t arrays.fromStr l.1 l.2 := by
    intro l hl
    obtain ⟨line, hline, rfl⟩ := List.mem_map.mp hl
    exact line.contributes (harrays line hline)
  have hlines : ∀ l ∈ file.map (fun line => (line.text arrays, line.instruction?)),
      '\n' ∉ l.1 := by
    intro l hl
    obtain ⟨line, hline, rfl⟩ := List.mem_map.mp hl
    exact line.one_line (harrays line hline)
  have hparse := parseContent_of_contributes hcontributes hlines
  simpa [fileText, instructions, Function.comp_def, List.filterMap_map] using hparse

/-- What `serde_json` does with the one array of `echoFile`. -/
def echoArrays : StringArrays where
  toText args := if args = ["echo", "done"] then "[\"echo\",\"done\"]".toList else []
  fromStr text :=
    if text = "[\"echo\",\"done\"]".toList then .ok ["echo", "done"] else .error "EOF"

/-- A comment, `  From alpine:latest`, an empty line and `cmd ["echo","done"]`. -/
def echoFile : List SourceLine :=
  [.comment [] " base".toList nofun (by decide +kernel),
    .printed
      { instruction := .from "alpine:latest"
        wellFormed := ⟨⟨by decide +kernel, by decide⟩, by decide⟩
        indent := [' ', ' ']
        indent_blank := List.all_iff_forall_prop.mp (by decide)
        keyword := "From".toList
        keyword_case := by decide +kernel },
    .blank [] nofun,
    .printed
      { instruction := .cmd ["echo", "done"]
        wellFormed := trivial
        indent := []
        indent_blank := List.all_iff_forall_prop.mp (by decide)
        keyword := "cmd".toList
        keyword_case := by decide +kernel }]

theorem echoArrays_roundTrips : echoArrays.RoundTrips ["echo", "done"] where
  brackets := ⟨"\"echo\",\"done\"".toList, by decide +kernel⟩
  one_line := by decide +kernel
  reads := by decide +kernel

theorem parseContent_echoFile :
    fileText echoArrays echoFile =
      "# base\n  From alpine:latest\n\ncmd [\"echo\",\"done\"]".toList ∧
    parseContent .ascii echoArrays.fromStr (fileText echoArrays echoFile) =
      .ok [.from "alpine:latest", .cmd ["echo", "done"]] := by
  refine ⟨by decide +kernel, parseContent_fileText .ascii echoArrays echoFile ?_⟩
  intro i hi args hargs
  obtain rfl | rfl : .from "alpine:latest" = i ∨ .cmd ["echo", "done"] = i := by
    simpa [instructions, echoFile, SourceLine.instruction?] using hi
  · cases hargs
  · rw [List.mem_singleton.mp hargs]
    exact echoArrays_roundTrips

end Vyoma.Build
