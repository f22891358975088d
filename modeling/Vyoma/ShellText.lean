import Vyoma.Runs

/-!
# Text as the POSIX shell reads it

Token recognition, quoting and here-documents, one character at a time. What is read is the
input without its NUL characters, which shells delete. Tokens are kept with their quotes
removed. What is beyond words is not read further: an expansion that starts inside a token,
`<<-`, and a here-document whose delimiter is not quoted, leave the reader stuck. Unquoted
pattern characters and tildes are kept and marked, since they may be expanded later.
-/
namespace Vyoma.ShellText
open Runs

/-- What a shell reads of a text. -/
def input (text : List Char) : List Char := text.filter (· ≠ '\x00')

@[simp] theorem input_append (a b : List Char) : input (a ++ b) = input a ++ input b :=
  List.filter_append a b

theorem input_of_notMem {text : List Char} (h : '\x00' ∉ text) : input text = text :=
  List.filter_eq_self.mpr fun c hc => decide_eq_true fun (heq : c = '\x00') => h (heq ▸ hc)

theorem input_eq_self_iff {text : List Char} : input text = text ↔ '\x00' ∉ text := by
  refine ⟨fun h hmem => ?_, input_of_notMem⟩
  rw [← h, input, List.mem_filter] at hmem
  exact of_decide_eq_true hmem.2 rfl

theorem input_flatMap {α : Type*} (f : α → List Char) (l : List α) :
    input (l.flatMap f) = l.flatMap fun a => input (f a) := by
  induction l with
  | nil => rfl
  | cons a l ih => rw [List.flatMap_cons, input_append, ih, List.flatMap_cons]

/-- A word after quote removal, read so far or to its end. -/
structure Word where
  text : List Char
  quoted : Bool
  special : Bool
  deriving DecidableEq, Repr

/-- The operator `<<` is a token of its own; any other operator is read by characters. -/
inductive Token where
  | word (w : Word)
  | operator (c : Char)
  | hereDoc
  deriving DecidableEq, Repr

inductive Mode where
  /-- Outside quotes, inside a word or not. -/
  | plain (inWord : Bool)
  | escape (inWord : Bool)
  | single
  | double
  | doubleEscape
  | comment
  | less
  | hereDoc
  /-- In a here-document: its delimiter, those that are still to come, the line and the
  lines before it. -/
  | document (delimiter : List Char) (more : List (List Char)) (line doc : List Char)
  | stuck
  deriving DecidableEq, Repr

structure Reader where
  mode : Mode
  word : Word
  /-- The tokens of the current line. -/
  tokens : List Token
  deriving DecidableEq, Repr

/-- What is complete: a line that is not blank, or a here-document. -/
inductive Piece where
  | line (tokens : List Token)
  | document (text : List Char)
  deriving DecidableEq, Repr

def Word.empty : Word := ⟨[], false, false⟩

/-- The delimiters of the here-documents of a line, if each is a quoted word. -/
def delimiters : List Token → Option (List (List Char))
  | [] => some []
  | .hereDoc :: .word w :: tokens =>
    if w.quoted then (delimiters tokens).map (w.text :: ·) else none
  | .hereDoc :: _ => none
  | _ :: tokens => delimiters tokens

namespace Reader

def start : Reader := ⟨.plain false, .empty, []⟩

/-- The tokens of the line if it ended here. -/
def lineTokens (r : Reader) : List Token :=
  if r.mode = .plain true then r.tokens ++ [.word r.word] else r.tokens

def push (r : Reader) (mode : Mode) (text : List Char) : Reader :=
  { r with mode := mode, word.text := r.word.text ++ text }

def endWord (r : Reader) (mode : Mode) (operators : List Token) : Reader :=
  ⟨mode, .empty, r.lineTokens ++ operators⟩

def endLine (r : Reader) : Reader :=
  match delimiters r.lineTokens with
  | none => { start with mode := .stuck }
  | some [] => start
  | some (d :: more) => { start with mode := .document d more [] [] }

/-- A character outside quotes. -/
def unquoted (r : Reader) (inWord : Bool) (c : Char) : Reader :=
  if c = '\n' then r.endLine
  else if c = ' ' ∨ c = '\t' then r.endWord (.plain false) []
  else if c = '\'' then { r with mode := .single, word.quoted := true }
  else if c = '"' then { r with mode := .double, word.quoted := true }
  else if c = '\\' then { r with mode := .escape inWord }
  else if c = '$' ∨ c = '`' then { r with mode := .stuck }
  else if c = '<' then r.endWord .less [.operator '<']
  else if c ∈ ['|', '&', ';', '(', ')', '>'] then r.endWord (.plain false) [.operator c]
  else if c = '#' ∧ inWord = false then { r with mode := .comment }
  else if c ∈ ['*', '?', '[', '~'] then { r.push (.plain true) [c] with word.special := true }
  else r.push (.plain true) [c]

def inDouble (r : Reader) (c : Char) : Reader :=
  if c = '"' then { r with mode := .plain true }
  else if c = '\\' then { r with mode := .doubleEscape }
  else if c = '$' ∨ c = '`' then { r with mode := .stuck }
  else r.push .double [c]

/-- After a backslash in double quotes, which stays unless it hides something. -/
def inDoubleEscape (r : Reader) (c : Char) : Reader :=
  if c = '\n' then { r with mode := .double }
  else if c ∈ ['$', '`', '"', '\\'] then r.push .double [c]
  else r.push .double ['\\', c]

def inDocument (r : Reader) (d : List Char) (more : List (List Char)) (line doc : List Char)
    (c : Char) : Reader :=
  if c ≠ '\n' then { r with mode := .document d more (line ++ [c]) doc }
  else if line ≠ d then { r with mode := .document d more [] (doc ++ line ++ ['\n']) }
  else
    match more with
    | [] => { r with mode := .plain false }
    | d' :: more => { r with mode := .document d' more [] [] }

def step (r : Reader) (c : Char) : Reader :=
  match r.mode with
  | .plain inWord => r.unquoted inWord c
  | .escape inWord =>
    -- an escaped newline is removed together with the backslash
    if c = '\n' then { r with mode := .plain inWord }
    else { r.push (.plain true) [c] with word.quoted := true }
  | .single => if c = '\'' then { r with mode := .plain true } else r.push .single [c]
  | .double => r.inDouble c
  | .doubleEscape => r.inDoubleEscape c
  | .comment => if c = '\n' then r.endLine else r
  | .less =>
    if c = '<' then { r with mode := .hereDoc, tokens := r.tokens.dropLast ++ [.hereDoc] }
    else r.unquoted false c
  | .hereDoc => if c = '-' ∨ c = '<' then { r with mode := .stuck } else r.unquoted false c
  | .document d more line doc => r.inDocument d more line doc c
  | .stuck => r

/-- A line that ends here, unless it is blank. -/
def endedLine (r : Reader) : Option Piece :=
  if r.lineTokens = [] then none else some (.line r.lineTokens)

/-- What a character completes. -/
def completed (r : Reader) (c : Char) : Option Piece :=
  if c ≠ '\n' then none
  else
    match r.mode with
    | .document d _ line doc => if line = d then some (.document doc) else none
    | .plain _ | .comment | .less | .hereDoc => r.endedLine
    | _ => none

def read (r : Reader) (text : List Char) : Reader := exec step r text

def pieces (r : Reader) (text : List Char) : List Piece := emitted step completed r text

@[simp] theorem read_nil (r : Reader) : r.read [] = r := rfl

@[simp] theorem read_cons (r : Reader) (c : Char) (text : List Char) :
    r.read (c :: text) = (r.step c).read text := rfl

@[simp] theorem read_append (r : Reader) (a b : List Char) :
    r.read (a ++ b) = (r.read a).read b := exec_append r a b

@[simp] theorem pieces_nil (r : Reader) : r.pieces [] = [] := rfl

@[simp] theorem pieces_cons (r : Reader) (c : Char) (text : List Char) :
    r.pieces (c :: text) = (r.completed c).toList ++ (r.step c).pieces text := rfl

@[simp] theorem pieces_append (r : Reader) (a b : List Char) :
    r.pieces (a ++ b) = r.pieces a ++ (r.read a).pieces b := emitted_append r a b

end Reader

/-! ## Words -/

open Reader

/-- The characters that stand for themselves outside quotes, wherever they stand. -/
def ordinary (c : Char) : Bool :=
  c ∉ ['\n', ' ', '\t', '\'', '"', '\\', '$', '`', '<', '|', '&', ';', '(', ')', '>', '#', '*',
    '?', '[', '~', '\x00']

theorem unquoted_ordinary {c : Char} (h : ordinary c = true) (r : Reader) (inWord : Bool) :
    r.unquoted inWord c = r.push (.plain true) [c] := by
  simp only [ordinary, List.mem_cons, List.not_mem_nil, or_false, not_or, decide_eq_true_eq] at h
  simp [unquoted, h]

/-- Ordinary characters go into the word. -/
theorem read_ordinary {text : List Char} (h : ∀ c ∈ text, ordinary c = true) (inWord : Bool)
    (w : Word) (tokens : List Token) :
    (⟨.plain inWord, w, tokens⟩ : Reader).read text =
      ⟨.plain (inWord || !text.isEmpty), { w with text := w.text ++ text }, tokens⟩ := by
  induction text generalizing inWord w with
  | nil => simp
  | cons c text ih =>
    have hc := h c List.mem_cons_self
    have hstep : (⟨.plain inWord, w, tokens⟩ : Reader).step c =
        ⟨.plain true, { w with text := w.text ++ [c] }, tokens⟩ := unquoted_ordinary hc _ inWord
    rw [read_cons, hstep, ih fun d hd => h d (List.mem_cons_of_mem c hd)]
    simp

theorem pieces_of_notMem {text : List Char} (h : '\n' ∉ text) (r : Reader) :
    r.pieces text = [] := by
  induction text generalizing r with
  | nil => rfl
  | cons c text ih =>
    rw [List.mem_cons, not_or] at h
    rw [pieces_cons, ih h.2, completed, if_pos (Ne.symm h.1)]
    rfl

/-- Each single quote is closed, escaped and opened again. -/
def escapeQuotes (text : List Char) : List Char :=
  text.flatMap fun c => if c = '\'' then ['\'', '\\', '\'', '\''] else [c]

def singleQuoted (text : List Char) : List Char := '\'' :: escapeQuotes text ++ ['\'']

theorem escapeQuotes_cons (c : Char) (text : List Char) : escapeQuotes (c :: text) =
    (if c = '\'' then ['\'', '\\', '\'', '\''] else [c]) ++ escapeQuotes text :=
  List.flatMap_cons

theorem escapeQuotes_append (a b : List Char) :
    escapeQuotes (a ++ b) = escapeQuotes a ++ escapeQuotes b := List.flatMap_append

theorem escapeQuotes_of_notMem {text : List Char} (h : '\'' ∉ text) : escapeQuotes text = text := by
  induction text with
  | nil => rfl
  | cons c text ih =>
    rw [List.mem_cons, not_or] at h
    rw [escapeQuotes_cons, if_neg (Ne.symm h.1), ih h.2]
    rfl

theorem input_escapeQuotes (text : List Char) :
    input (escapeQuotes text) = escapeQuotes (input text) := by
  induction text with
  | nil => rfl
  | cons c text ih =>
    by_cases hnul : c = '\x00'
    · subst hnul
      rw [escapeQuotes_cons, input_append, ih]
      rfl
    · have hinput : input (c :: text) = c :: input text :=
        List.filter_cons_of_pos (decide_eq_true hnul)
      have hkept : input [c] = [c] := input_of_notMem (by simpa using Ne.symm hnul)
      rw [escapeQuotes_cons, input_append, ih, hinput, escapeQuotes_cons]
      split_ifs
      · rfl
      · rw [hkept]

theorem input_singleQuoted (text : List Char) :
    input (singleQuoted text) = singleQuoted (input text) := by
  have hsplit : singleQuoted text = ['\''] ++ escapeQuotes text ++ ['\''] := rfl
  rw [hsplit, input_append, input_append, input_escapeQuotes]
  rfl

theorem read_escapeQuotes (text : List Char) (w : Word) (tokens : List Token)
    (h : w.quoted = true) :
    (⟨.single, w, tokens⟩ : Reader).read (escapeQuotes text) =
      ⟨.single, { w with text := w.text ++ text }, tokens⟩ := by
  induction text generalizing w with
  | nil => simp [escapeQuotes]
  | cons c text ih =>
    have hw : w = { w with quoted := true } := by rw [← h]
    rw [escapeQuotes_cons, read_append]
    by_cases hc : c = '\''
    · have hquote : (⟨.single, w, tokens⟩ : Reader).read ['\'', '\\', '\'', '\''] =
          ⟨.single, { w with text := w.text ++ ['\''] }, tokens⟩ := by
        rw [hw]
        rfl
      rw [if_pos hc, hquote, ih { w with text := w.text ++ ['\''] } h, hc]
      simp
    · have hchar : (⟨.single, w, tokens⟩ : Reader).read [c] =
          ⟨.single, { w with text := w.text ++ [c] }, tokens⟩ := by
        simp [step, hc, push]
      rw [if_neg hc, hchar, ih { w with text := w.text ++ [c] } h]
      simp

theorem step_openQuote (inWord : Bool) (w : Word) (tokens : List Token) :
    (⟨.plain inWord, w, tokens⟩ : Reader).step '\'' =
      ⟨.single, { w with quoted := true }, tokens⟩ := rfl

/-- Quoted text goes into the word as it is. -/
theorem read_singleQuoted (text : List Char) (inWord : Bool) (w : Word) (tokens : List Token) :
    (⟨.plain inWord, w, tokens⟩ : Reader).read (singleQuoted text) =
      ⟨.plain true, ⟨w.text ++ text, true, w.special⟩, tokens⟩ := by
  rw [singleQuoted, List.cons_append, read_cons, step_openQuote, read_append,
    read_escapeQuotes text _ _ rfl]
  rfl

theorem pieces_escapeQuotes (text : List Char) (w : Word) (tokens : List Token)
    (h : w.quoted = true) :
    (⟨.single, w, tokens⟩ : Reader).pieces (escapeQuotes text) = [] := by
  induction text generalizing w with
  | nil => rfl
  | cons c text ih =>
    have hread := read_escapeQuotes [c] w tokens h
    rw [escapeQuotes, List.flatMap_singleton] at hread
    rw [escapeQuotes_cons, pieces_append, hread, ih { w with text := w.text ++ [c] } h,
      List.append_nil]
    split_ifs with hc
    · exact pieces_of_notMem (by simp) _
    · simp [completed]

theorem pieces_singleQuoted (text : List Char) (inWord : Bool) (w : Word) (tokens : List Token) :
    (⟨.plain inWord, w, tokens⟩ : Reader).pieces (singleQuoted text) = [] := by
  rw [singleQuoted, List.cons_append, pieces_cons, step_openQuote, pieces_append,
    pieces_escapeQuotes text _ _ rfl, pieces_of_notMem (by simp)]
  rfl

/-! ## Lines of words -/

/-- The line as words, if it is nothing else and leaves nothing to expand. -/
def Token.asWord : Token → Option String
  | .word w => if w.special then none else some (String.ofList w.text)
  | _ => none

def Piece.asWords : Piece → Option (List String)
  | .line tokens => tokens.mapM Token.asWord
  | .document _ => none

/-- The text as lines of words, the last of which need not be complete. -/
def commands (text : List Char) : Option (List (List String)) :=
  match (start.read text).mode with
  | .plain _ => (start.pieces text ++ (start.read text).endedLine.toList).mapM Piece.asWords
  | _ => none

/-! ## Complete lines -/

def documents (pieces : List Piece) : List (List Char) :=
  pieces.filterMap fun
    | .document text => some text
    | .line _ => none

def lines (pieces : List Piece) : List (List Token) :=
  pieces.filterMap fun
    | .document _ => none
    | .line tokens => some tokens

/-- Within a line, outside quotes, before any here-document is announced. -/
def InLine (r : Reader) : Prop := (∃ inWord, r.mode = .plain inWord) ∧ .hereDoc ∉ r.tokens

/-- Text that does not leave the line. -/
def Stays (text : List Char) : Prop :=
  ∀ r, InLine r → InLine (r.read text) ∧ r.pieces text = []

/-- Text that is some complete lines, without a here-document. -/
structure Settles (text : List Char) : Prop where
  read_eq : start.read text = start
  no_document : documents (start.pieces text) = []

theorem stays_append {a b : List Char} (ha : Stays a) (hb : Stays b) : Stays (a ++ b) := by
  intro r hr
  obtain ⟨hread, hpieces⟩ := ha r hr
  rw [read_append, pieces_append, hpieces, (hb _ hread).2]
  exact ⟨(hb _ hread).1, rfl⟩

theorem stays_nil : Stays [] := fun _ hr => ⟨hr, rfl⟩

theorem hereDoc_notMem_lineTokens {r : Reader} (h : .hereDoc ∉ r.tokens) :
    Token.hereDoc ∉ r.lineTokens := by
  unfold lineTokens
  split_ifs <;> simp [h]

/-- The characters outside quotes that stay within a line. -/
def calm (c : Char) : Bool := c ∉ ['\n', '\'', '"', '\\', '$', '`', '<', '#', '\x00']

theorem input_of_calm {text : List Char} (h : ∀ c ∈ text, calm c = true) : input text = text :=
  input_of_notMem fun hnul => absurd (h _ hnul) (by decide)

theorem stays_calm {text : List Char} (h : ∀ c ∈ text, calm c = true) : Stays text := by
  induction text with
  | nil => exact stays_nil
  | cons c text ih =>
    have hc := h c List.mem_cons_self
    simp only [calm, List.mem_cons, List.not_mem_nil, or_false, not_or, decide_eq_true_eq] at hc
    refine stays_append (a := [c]) ?_ (ih fun d hd => h d (List.mem_cons_of_mem c hd))
    intro r hr
    refine ⟨?_, pieces_of_notMem (by simpa using Ne.symm hc.1) r⟩
    obtain ⟨⟨inWord, hmode⟩, htokens⟩ := hr
    have hline := hereDoc_notMem_lineTokens htokens
    have hstep : r.read [c] = r.unquoted inWord c := by
      rw [read_cons, read_nil, step, hmode]
    rw [hstep, unquoted]
    simp only [hc, if_false, false_or, false_and]
    split_ifs
    · exact ⟨⟨_, rfl⟩, by simpa [endWord] using hline⟩
    · exact ⟨⟨_, rfl⟩, by simpa [endWord] using hline⟩
    · exact ⟨⟨_, rfl⟩, htokens⟩
    · exact ⟨⟨_, rfl⟩, htokens⟩

theorem stays_singleQuoted (text : List Char) : Stays (singleQuoted text) := by
  intro r hr
  obtain ⟨mode, w, tokens⟩ := r
  obtain ⟨⟨inWord, hmode⟩, htokens⟩ := hr
  obtain rfl : mode = .plain inWord := hmode
  rw [read_singleQuoted, pieces_singleQuoted]
  exact ⟨⟨⟨true, rfl⟩, htokens⟩, rfl⟩

theorem delimiters_of_notMem {tokens : List Token} (h : .hereDoc ∉ tokens) :
    delimiters tokens = some [] := by
  induction tokens with
  | nil => rfl
  | cons token tokens ih =>
    rw [List.mem_cons, not_or] at h
    cases token with
    | hereDoc => exact absurd rfl h.1
    | word w => exact ih h.2
    | operator c => exact ih h.2

/-- Text that stays in the line, and the newline that ends it. -/
theorem settles_line {text : List Char} (h : Stays text) : Settles (text ++ ['\n']) := by
  obtain ⟨⟨⟨inWord, hmode⟩, htokens⟩, hpieces⟩ := h start ⟨⟨false, rfl⟩, by simp [start]⟩
  have hend : (start.read text).step '\n' = start := by
    rw [step, hmode]
    show (start.read text).endLine = start
    rw [endLine, delimiters_of_notMem (hereDoc_notMem_lineTokens htokens)]
  refine ⟨by rw [read_append, read_cons, hend, read_nil], ?_⟩
  rw [pieces_append, hpieces, List.nil_append, pieces_cons, pieces_nil, List.append_nil, completed,
    hmode, if_neg (by simp), endedLine]
  split_ifs <;> rfl

theorem settles_append {a b : List Char} (ha : Settles a) (hb : Settles b) :
    Settles (a ++ b) := by
  refine ⟨by rw [read_append, ha.1, hb.1], ?_⟩
  have hdocs : documents (start.pieces a ++ start.pieces b) =
      documents (start.pieces a) ++ documents (start.pieces b) := List.filterMap_append
  rw [pieces_append, ha.1, hdocs, ha.2, hb.2, List.append_nil]

theorem settles_flatMap {texts : List String} (h : ∀ text ∈ texts, Settles (input text.toList)) :
    Settles (input (texts.flatMap String.toList)) := by
  induction texts with
  | nil => exact ⟨rfl, rfl⟩
  | cons text texts ih =>
    rw [List.flatMap_cons, input_append]
    exact settles_append (h text List.mem_cons_self)
      (ih fun t ht => h t (List.mem_cons_of_mem _ ht))

/-! ## Here-documents -/

section Infixes

variable {α : Type*} [DecidableEq α]

/-- What stands before the first occurrence of an element is determined. -/
theorem append_cons_inj {a : α} {l l' r r' : List α} (hl : a ∉ l) (hl' : a ∉ l')
    (h : l ++ a :: r = l' ++ a :: r') : l = l' := by
  have htake : ∀ {l r : List α}, a ∉ l → (l ++ a :: r).takeWhile (· ≠ a) = l := by
    intro l r hl
    have hbefore : ∀ b ∈ l, (decide (b ≠ a)) = true := by
      intro b hb
      simpa using fun he : b = a => hl (he ▸ hb)
    rw [List.takeWhile_append_of_pos hbefore]
    simp
  rw [← htake (r := r) hl, h, htake hl']

omit [DecidableEq α] in
theorem infix_of_infix_append {a : α} {p l r : List α} (hl : a ∉ l) (h : a :: p <:+: l ++ r) :
    a :: p <:+: r := by
  induction l with
  | nil => exact h
  | cons b l ih =>
    rw [List.mem_cons, not_or] at hl
    rw [List.cons_append, List.infix_cons_iff] at h
    obtain h | h := h
    · exact absurd (List.cons_prefix_cons.mp h).1 hl.1
    · exact ih hl.2 h

omit [DecidableEq α] in
/-- An element that a pattern does not have keeps what is before it apart from what is
behind. -/
theorem infix_append_cons_iff {a : α} {p l r : List α} (hp : a ∉ p) :
    p <:+: l ++ a :: r ↔ p <:+: l ∨ p <:+: r := by
  rw [List.infix_append_iff, List.infix_cons_iff]
  constructor
  · intro h
    obtain h | (h | h) | ⟨x, y, rfl, hx, hy⟩ := h
    · exact .inl h
    · cases p with
      | nil => exact .inl List.nil_infix
      | cons b p => exact absurd (List.mem_cons_self) ((List.cons_prefix_cons.mp h).1 ▸ hp)
    · exact .inr h
    · cases y with
      | nil => exact .inl (by simpa using hx.isInfix)
      | cons b y =>
        have hb : b = a := (List.cons_prefix_cons.mp hy).1
        exact absurd (by simp [hb]) hp
  · intro h
    obtain h | h := h
    · exact .inl h
    · exact .inr (.inl (.inr h))

/-- A line that is not the one looked for may be left out. -/
theorem infix_line_iff {a : α} {d line rest : List α} (hd : a ∉ d) (hline : a ∉ line)
    (hne : line ≠ d) :
    a :: d ++ [a] <:+: a :: line ++ a :: rest ↔ a :: d ++ [a] <:+: a :: rest := by
  constructor
  · intro h
    rw [List.cons_append, List.cons_append, List.infix_cons_iff] at h
    obtain ⟨tail, htail⟩ | h := h
    · have hbody : d ++ a :: tail = line ++ a :: rest := by simpa using htail
      exact absurd (append_cons_inj hline hd hbody.symm) hne
    · exact infix_of_infix_append hline h
  · exact fun h => h.trans (List.IsSuffix.isInfix ⟨a :: line, by simp⟩)

end Infixes

section Documents

variable {d line : List Char} (more : List (List Char)) (doc : List Char) (w : Word)
  (tokens : List Token)

theorem step_document_char {c : Char} (hc : c ≠ '\n') :
    (⟨.document d more line doc, w, tokens⟩ : Reader).step c =
      ⟨.document d more (line ++ [c]) doc, w, tokens⟩ := by
  simp [step, inDocument, hc]

theorem step_document_line (hne : line ≠ d) :
    (⟨.document d more line doc, w, tokens⟩ : Reader).step '\n' =
      ⟨.document d more [] (doc ++ line ++ ['\n']), w, tokens⟩ := by
  simp [step, inDocument, hne]

end Documents

/-- The text goes into the document as long as none of its lines is the delimiter. -/
theorem read_document {d : List Char} (more : List (List Char)) (w : Word) (tokens : List Token)
    {text line : List Char} (doc : List Char) (hline : '\n' ∉ line)
    (h : ¬ '\n' :: d ++ ['\n'] <:+: '\n' :: line ++ text) :
    (⟨.document d more line doc, w, tokens⟩ : Reader).pieces text = [] ∧
    ∃ line' doc', '\n' ∉ line' ∧ doc' ++ line' = doc ++ line ++ text ∧
      (⟨.document d more line doc, w, tokens⟩ : Reader).read text =
        ⟨.document d more line' doc', w, tokens⟩ := by
  induction text generalizing line doc with
  | nil => exact ⟨rfl, line, doc, hline, by simp, rfl⟩
  | cons c text ih =>
    by_cases hc : c = '\n'
    · subst hc
      have hne : line ≠ d := by
        rintro rfl
        apply h
        exact ⟨[], text, by simp⟩
      have hrest : ¬ '\n' :: d ++ ['\n'] <:+: '\n' :: [] ++ text := fun hin =>
        h (hin.trans (List.IsSuffix.isInfix ⟨'\n' :: line, by simp⟩))
      obtain ⟨hpieces, line', doc', hline', htext, hread⟩ :=
        ih (doc ++ line ++ ['\n']) List.not_mem_nil hrest
      refine ⟨?_, line', doc', hline', by simpa using htext, ?_⟩
      · rw [pieces_cons, step_document_line more doc w tokens hne, hpieces]
        simp [completed, hne]
      · rw [read_cons, step_document_line more doc w tokens hne, hread]
    · obtain ⟨hpieces, line', doc', hline', htext, hread⟩ :=
        @ih (line ++ [c]) doc (by simp [hline, Ne.symm hc]) (by simpa using h)
      refine ⟨?_, line', doc', hline', by simpa using htext, ?_⟩
      · rw [pieces_cons, step_document_char more doc w tokens hc, hpieces]
        simp [completed, hc]
      · rw [read_cons, step_document_char more doc w tokens hc, hread]

/-- A line that is the delimiter ends the document before its text does. -/
theorem pieces_document {d : List Char} (hd : '\n' ∉ d) (more : List (List Char)) (w : Word)
    (tokens : List Token) {text line : List Char} (doc : List Char) (hline : '\n' ∉ line)
    (h : '\n' :: d ++ ['\n'] <:+: '\n' :: line ++ text) :
    ∃ doc' rest, (⟨.document d more line doc, w, tokens⟩ : Reader).pieces text =
        .document doc' :: rest ∧ doc'.length < (doc ++ line ++ text).length := by
  induction text generalizing line doc with
  | nil =>
    have hcount := h.sublist.count_le '\n'
    have hzero := List.count_eq_zero.mpr hline
    simp [hzero] at hcount
  | cons c text ih =>
    by_cases hc : c = '\n'
    · subst hc
      by_cases heq : line = d
      · refine ⟨doc, ((⟨.document d more line doc, w, tokens⟩ : Reader).step '\n').pieces text, ?_,
          ?_⟩
        · rw [pieces_cons]
          simp only [completed, heq, ne_eq, not_true_eq_false, if_false, if_true]
          rfl
        · rw [List.length_append, List.length_append, List.length_cons]
          omega
      · have hrest : '\n' :: d ++ ['\n'] <:+: '\n' :: [] ++ text :=
          (infix_line_iff hd hline heq).mp h
        obtain ⟨doc', rest, hpieces, hlength⟩ :=
          ih (doc ++ line ++ ['\n']) List.not_mem_nil hrest
        refine ⟨doc', rest, ?_, by simpa using hlength⟩
        rw [pieces_cons, step_document_line more doc w tokens heq, hpieces]
        simp [completed, heq]
    · obtain ⟨doc', rest, hpieces, hlength⟩ :=
        @ih (line ++ [c]) doc (by simp [hline, Ne.symm hc]) (by simpa using h)
      refine ⟨doc', rest, ?_, by simpa using hlength⟩
      rw [pieces_cons, step_document_char more doc w tokens hc, hpieces]
      simp [completed, hc]

/-- A here-document of complete lines, none of which is the delimiter, and the line that
ends it. -/
theorem read_hereDocument {d body : List Char} (hd : '\n' ∉ d)
    (hbody : ∃ text, body = text ++ ['\n']) (h : ¬ '\n' :: d ++ ['\n'] <:+: '\n' :: body) :
    (⟨.document d [] [] [], .empty, []⟩ : Reader).read (body ++ (d ++ ['\n'])) = start ∧
    (⟨.document d [] [] [], .empty, []⟩ : Reader).pieces (body ++ (d ++ ['\n'])) =
      [.document body] := by
  obtain ⟨hpieces, line', doc', hline', htext, hread⟩ :=
    read_document [] .empty [] [] List.not_mem_nil h
  have hnil : line' = [] := by
    obtain ⟨text, rfl⟩ := hbody
    by_contra hne
    obtain ⟨line'', c, rfl⟩ := List.eq_nil_or_concat' line' |>.resolve_left hne
    have hc : c = '\n' := by
      rw [← List.append_assoc, List.nil_append, List.nil_append] at htext
      exact (List.append_inj' htext rfl).2 |> List.singleton_inj.mp
    simp [hc] at hline'
  subst hnil
  obtain rfl : doc' = body := by simpa using htext
  have hdelim : ∀ {t line : List Char}, '\n' ∉ t →
      (⟨.document d [] line doc', .empty, []⟩ : Reader).read t =
        ⟨.document d [] (line ++ t) doc', .empty, []⟩ := by
    intro t
    induction t with
    | nil => simp
    | cons c t ih =>
      intro line ht
      rw [List.mem_cons, not_or] at ht
      rw [read_cons, step_document_char [] doc' .empty [] (Ne.symm ht.1), ih ht.2]
      simp
  rw [read_append, pieces_append, hread, hpieces, read_append, pieces_append, hdelim hd,
    pieces_of_notMem hd]
  simp [step, inDocument, completed, start]

end Vyoma.ShellText
