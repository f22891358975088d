import Vyoma.BuildRunner
import Vyoma.TextSplits

/-!
# The parser of Vyomafiles

A file is read line by line. A line is trimmed and cut at its first white space; the keyword is
compared in capitals, and what follows is read by one grammar for each instruction. The arguments
of `CMD` and `ENTRYPOINT` are a JSON array, or words that a loop over the characters collects.
-/
namespace Vyoma.Build
open RustText

/-- `serde_json::from_str` at a list of strings; the error is the text that is displayed. -/
abbrev FromStr : Type := List Char → Except String (List String)

/-- What the loop of `parse_shell_args` carries. -/
structure ShellWords where
  result : List (List Char)
  current : List Char
  inQuotes : Bool
  quoteChar : Char

namespace ShellWords

def start : ShellWords := ⟨[], [], false, '"'⟩

/-- A word that is not empty is added. -/
def flush (w : ShellWords) : ShellWords :=
  if w.current = [] then w else { w with result := w.result ++ [w.current], current := [] }

/-- One turn of the loop: the arms of the `match` in their order. -/
def push (w : ShellWords) (ch : Char) : ShellWords :=
  if (ch = '"' ∨ ch = '\'') ∧ w.inQuotes = false then
    { w with inQuotes := true, quoteChar := ch }
  else if (ch = '"' ∨ ch = '\'') ∧ w.inQuotes = true ∧ ch = w.quoteChar then
    { w with inQuotes := false }
  else if ch = ' ' ∧ w.inQuotes = false then w.flush
  else { w with current := w.current ++ [ch] }

end ShellWords

/-- The words of an argument text that is not an array. -/
def shellWords (args : List Char) : List String :=
  (args.foldl ShellWords.push .start).flush.result.map String.ofList

def parseShellArgs (fromStr : FromStr) (args : List Char) : Except String (List String) :=
  let trimmed := trim args
  if trimmed.head? = some '[' ∧ trimmed.getLast? = some ']' then
    (fromStr trimmed).mapError fun e => "Failed to parse CMD args as JSON: " ++ e
  else .ok (shellWords args)

/-- `str::split_whitespace`. -/
def splitWhitespace (cs : List Char) : List (List Char) :=
  (cs.splitOnP isWhitespace).filter (· ≠ [])

def atLine (message : String) (lineNum : ℕ) : String := message ++ " at line " ++ toString lineNum

/-- An instruction with one argument, which may not be empty. -/
def requireArgs (message : String) (lineNum : ℕ) (args : List Char)
    (make : String → Instruction) : Except String Instruction :=
  if args = [] then .error (atLine message lineNum) else .ok (make (String.ofList args))

/-- The instruction that a keyword in capitals starts. -/
def parseInstruction (fromStr : FromStr) (instruction args : List Char) (lineNum : ℕ) :
    Except String Instruction :=
  if instruction = "FROM".toList then
    requireArgs "FROM requires an image name" lineNum args .from
  else if instruction = "RUN".toList then
    requireArgs "RUN requires a command" lineNum args .run
  else if instruction = "COPY".toList then
    match splitWhitespace args with
    | [src, dst] => .ok (.copy (String.ofList src) (String.ofList dst))
    | _ => .error (atLine "COPY requires src and dst arguments" lineNum)
  else if instruction = "CMD".toList then (parseShellArgs fromStr args).map .cmd
  else if instruction = "ENTRYPOINT".toList then (parseShellArgs fromStr args).map .entrypoint
  else if instruction = "ENV".toList then
    match splitOnce '=' (String.ofList args) with
    | some (key, value) =>
      .ok (.env (String.ofList (trim key.toList)) (String.ofList (trim value.toList)))
    | none => .error (atLine "ENV requires KEY=VALUE format" lineNum)
  else if instruction = "WORKDIR".toList then
    requireArgs "WORKDIR requires a path" lineNum args .workdir
  else if instruction = "VM_MEASURED_BOOT".toList then
    if args ≠ [] then .error (atLine "VM_MEASURED_BOOT does not take arguments" lineNum)
    else .ok .vmMeasuredBoot
  else .error (atLine ("Unknown instruction '" ++ String.ofList instruction ++ "'") lineNum)

/-- The line is cut at its first white space; a line has at least one part. -/
def parseLine (t : Unicode) (fromStr : FromStr) (line : List Char) (lineNum : ℕ) :
    Except String Instruction :=
  let instruction := t.uppercase (line.takeWhile fun c => !isWhitespace c)
  let args := trim ((line.dropWhile fun c => !isWhitespace c).drop 1)
  parseInstruction fromStr instruction args lineNum

/-- A line without an instruction, once it is trimmed. -/
def isSkipped (line : List Char) : Bool := line = [] || line.head? = some '#'

/-- The lines from the given number on. -/
def parseLines (t : Unicode) (fromStr : FromStr) : ℕ → List (List Char) →
    Except String (List Instruction)
  | _, [] => .ok []
  | lineNum, line :: rest =>
    if isSkipped (trim line) then parseLines t fromStr (lineNum + 1) rest
    else do
      let instruction ← parseLine t fromStr (trim line) lineNum
      let instructions ← parseLines t fromStr (lineNum + 1) rest
      return instruction :: instructions

def parseContent (t : Unicode) (fromStr : FromStr) (content : List Char) :
    Except String (List Instruction) := parseLines t fromStr 1 (lines content)

/-! ## Arguments in double quotes -/

/-- Arguments free of double quotes, each with the number of further spaces behind the one that
separates it from the next. -/
structure QuotedArgs where
  args : List (String × ℕ)
  no_quote : ∀ a ∈ args, '"' ∉ a.1.toList

def quoted (arg : String) : List Char := '"' :: arg.toList ++ ['"']

/-- The arguments in double quotes, with one space or more between them. -/
def quotedText : List (String × ℕ) → List Char
  | [] => []
  | [a] => quoted a.1
  | a :: b :: rest => quoted a.1 ++ List.replicate (a.2 + 1) ' ' ++ quotedText (b :: rest)

def QuotedArgs.text (q : QuotedArgs) : List Char := quotedText q.args

namespace ShellWords

variable {w : ShellWords}

theorem foldl_push_inside {cs : List Char} (hw : w.inQuotes = true ∧ w.quoteChar = '"')
    (h : '"' ∉ cs) : cs.foldl push w = { w with current := w.current ++ cs } := by
  induction cs generalizing w with
  | nil => simp
  | cons c cs ih =>
    have hc : c ≠ '"' := fun he => h (he ▸ List.mem_cons_self)
    have hpush : w.push c = { w with current := w.current ++ [c] } := by
      simp [push, hw, hc]
    rw [List.foldl_cons, hpush, ih (by exact hw) fun hmem => h (List.mem_cons_of_mem c hmem)]
    simp

/-- A quoted argument is added to the current word as it is. -/
theorem foldl_push_quoted {arg : String} (hw : w.inQuotes = false) (h : '"' ∉ arg.toList) :
    (quoted arg).foldl push w =
      { w with current := w.current ++ arg.toList, quoteChar := '"' } := by
  have hopen : w.push '"' = { w with inQuotes := true, quoteChar := '"' } := by simp [push, hw]
  rw [quoted, List.cons_append, List.foldl_cons, hopen, List.foldl_append,
    foldl_push_inside ⟨rfl, rfl⟩ h]
  simp [push, hw]

@[simp] theorem flush_current : w.flush.current = [] := by
  unfold flush
  split_ifs with h
  · exact h
  · rfl

@[simp] theorem flush_inQuotes : w.flush.inQuotes = w.inQuotes := by
  unfold flush
  split_ifs <;> rfl

theorem flush_of_empty (h : w.current = []) : w.flush = w := if_pos h

theorem flush_result : w.flush.result = w.result ++ [w.current].filter (· ≠ []) := by
  unfold flush
  split_ifs with h <;> simp [h]

/-- Spaces end a word, and one of them is enough. -/
theorem foldl_push_spaces (hw : w.inQuotes = false) (n : ℕ) :
    (List.replicate (n + 1) ' ').foldl push w = w.flush := by
  have hspace : ∀ v : ShellWords, v.inQuotes = false → v.push ' ' = v.flush := by
    intro v hv
    simp [push, hv]
  induction n generalizing w with
  | zero => simpa using hspace w hw
  | succ n ih =>
    rw [List.replicate_succ, List.foldl_cons, hspace w hw, ih (by simpa using hw),
      flush_of_empty flush_current]

end ShellWords

open ShellWords

/-- The words of the text are the arguments that are not empty. -/
theorem result_quotedText {args : List (String × ℕ)} (h : ∀ a ∈ args, '"' ∉ a.1.toList)
    {w : ShellWords} (hw : w.inQuotes = false ∧ w.current = []) :
    ((quotedText args).foldl push w).flush.result =
      w.result ++ (args.map fun a => a.1.toList).filter (· ≠ []) := by
  induction args generalizing w with
  | nil => simp [quotedText, flush_result, hw]
  | cons a args ih =>
    have ha : '"' ∉ a.1.toList := h a List.mem_cons_self
    cases args with
    | nil =>
      rw [quotedText, foldl_push_quoted hw.1 ha, flush_result]
      simp [hw]
    | cons b rest =>
      have hrest := ih (fun c hc => h c (List.mem_cons_of_mem a hc))
        (w := { w with current := w.current ++ a.1.toList, quoteChar := '"' }.flush)
        ⟨by simp [hw], by simp⟩
      rw [quotedText, List.foldl_append, List.foldl_append, foldl_push_quoted hw.1 ha,
        foldl_push_spaces (by exact hw.1), hrest, flush_result]
      by_cases hempty : a.1.toList = []
      · simp [hw, hempty]
      · simp [hw, hempty]

namespace QuotedArgs

variable (q : QuotedArgs)

theorem shellWords_text :
    shellWords q.text = (q.args.map Prod.fst).filter (· ≠ "") := by
  unfold shellWords text
  rw [result_quotedText q.no_quote ⟨rfl, rfl⟩]
  have hmap : q.args.map (fun a => a.1.toList) = (q.args.map Prod.fst).map String.toList := by
    simp
  have hfilter : ((q.args.map Prod.fst).map String.toList).filter (fun cs => decide (cs ≠ [])) =
      ((q.args.map Prod.fst).filter fun s => decide (s ≠ "")).map String.toList := by
    rw [List.filter_map]
    simp [Function.comp_def]
  rw [hmap, hfilter]
  simp [start, Function.comp_def]

/-- The text is not taken for an array. -/
theorem head_trim_text : (trim q.text).head? ≠ some '[' := by
  have hquote : ∀ c ∈ ['"'], isWhitespace c = false := List.all_iff_forall_prop.mp (by decide)
  unfold text
  cases q.args with
  | nil => exact nofun
  | cons a rest =>
    obtain ⟨tail, htail⟩ : ∃ tail, quotedText (a :: rest) = ['"'] ++ tail := by
      cases rest with
      | nil => exact ⟨_, rfl⟩
      | cons b rest => exact ⟨_, rfl⟩
    rw [htail, trim_append_of_no_blank hquote (List.cons_ne_nil _ _)]
    simp

/-- The arguments are recovered exactly when none of them is empty. -/
theorem parseShellArgs_recovers_iff (fromStr : FromStr) :
    parseShellArgs fromStr q.text = .ok (q.args.map Prod.fst) ↔ "" ∉ q.args.map Prod.fst := by
  have hparse : parseShellArgs fromStr q.text = .ok ((q.args.map Prod.fst).filter (· ≠ "")) := by
    unfold parseShellArgs
    dsimp only
    rw [if_neg fun h => q.head_trim_text h.1, shellWords_text]
  rw [hparse, Except.ok.injEq, List.filter_eq_self]
  simp only [ne_eq, decide_not, Bool.not_eq_true', decide_eq_false_iff_not]
  exact List.forall_mem_ne'

/-- The arguments `"echo" ""`. -/
def echoEmpty : QuotedArgs where
  args := [("echo", 0), ("", 0)]
  no_quote := by decide

/-- The empty argument is lost. -/
theorem echoEmpty_lost : echoEmpty.text = "\"echo\" \"\"".toList ∧
    parseShellArgs (fun _ => .error "") echoEmpty.text = .ok ["echo"] ∧
    echoEmpty.args.map Prod.fst = ["echo", ""] := by
  refine ⟨?_, ?_, ?_⟩ <;> decide +kernel

end QuotedArgs

end Vyoma.Build
