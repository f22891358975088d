import Vyoma.PcrQuotes
import Vyoma.TextSplits
import Vyoma.Utf8Chunks

/-!
# PCR values written as text and read back

Each register is written on a line of its own as `index : hash`. The reader drops what it
does not understand, so a lost line would look like a register that was not quoted. No line
of a rendered map is lost and none replaces another.
-/
namespace Vyoma.Attest
open RustText

/-- White space within a line. -/
def IsBlank (cs : List Char) : Prop := ∀ c ∈ cs, isWhitespace c = true ∧ c ≠ '\n'

instance (cs : List Char) : Decidable (IsBlank cs) :=
  inferInstanceAs (Decidable (∀ c ∈ cs, isWhitespace c = true ∧ c ≠ '\n'))

/-- A hash that its line can hold. -/
structure IsHash (s : String) : Prop where
  trimmed : trim s.toList = s.toList
  no_colon : ':' ∉ s.toList
  one_line : '\n' ∉ s.toList

/-- A register with the way its line is written. What follows the hash is white space, such
as the carriage return of a line terminator. -/
structure PcrLine where
  indent : List Char
  indent_blank : IsBlank indent
  index : UInt32
  hash : String
  isHash : IsHash hash
  ending : List Char
  ending_blank : IsBlank ending

namespace PcrLine

variable (l : PcrLine)

def entry : UInt32 × String := (l.index, l.hash)

def number : List Char := (toString l.index.toNat).toList

def text : List Char := l.indent ++ l.number ++ " : ".toList ++ l.hash.toList ++ l.ending

/-- What stands before the colon, and after it. -/
def before : List Char := l.indent ++ (l.number ++ [' '])

def after : List Char := ' ' :: (l.hash.toList ++ l.ending)

theorem text_eq : l.text = l.before ++ ':' :: l.after := by
  have hcolon : " : ".toList = [' ', ':', ' '] := by decide
  simp [text, before, after, hcolon]

theorem isDigit_of_mem_number {c : Char} (h : c ∈ l.number) : c.isDigit = true :=
  isDigit_of_mem_toString h

theorem number_ne_nil : l.number ≠ [] := by
  rw [number, Nat.toString_eq_repr, Nat.toList_repr]
  exact Nat.toDigits_ne_nil

theorem colon_notMem_before : ':' ∉ l.before := by
  have hblank : isWhitespace ':' = false := by decide
  have hindent : ':' ∉ l.indent := by
    intro hmem
    have hwhite := (l.indent_blank ':' hmem).1
    rw [hblank] at hwhite
    cases hwhite
  have hnumber : ':' ∉ l.number := fun hmem => absurd (l.isDigit_of_mem_number hmem) (by decide)
  simp [before, hindent, hnumber]

theorem colon_notMem_after : ':' ∉ l.after := by
  have hending : ':' ∉ l.ending := by
    intro hmem
    exact absurd (l.ending_blank ':' hmem).1 (by decide)
  simp [after, l.isHash.no_colon, hending]

theorem newline_notMem_text : '\n' ∉ l.text := by
  have hindent : '\n' ∉ l.indent := fun hmem => (l.indent_blank _ hmem).2 rfl
  have hending : '\n' ∉ l.ending := fun hmem => (l.ending_blank _ hmem).2 rfl
  have hnumber : '\n' ∉ l.number := fun hmem => absurd (l.isDigit_of_mem_number hmem) (by decide)
  simp [text, hindent, hending, hnumber, l.isHash.one_line]

theorem trim_before : trim l.before = l.number := by
  have hblank : ∀ c ∈ l.number, isWhitespace c = false :=
    fun c hc => isWhitespace_of_isDigit (l.isDigit_of_mem_number hc)
  rw [before, trim_append_of_blank fun c hc => (l.indent_blank c hc).1]
  exact trim_append_blanks hblank l.number_ne_nil (by decide)

theorem trim_after : trim l.after = l.hash.toList := by
  have hspace : ∀ c ∈ [' '], isWhitespace c = true := by decide
  rw [after, ← List.singleton_append, trim_append_of_blank hspace,
    trim_append_trailing _ fun c hc => (l.ending_blank c hc).1, l.isHash.trimmed]

theorem trim_stripReturn_after : trim (stripReturn l.after) = l.hash.toList := by
  rw [trim_stripReturn, l.trim_after]

/-- A line of these two parts sets its register. -/
theorem parsePcrLine_parts (pcrs : HashMap UInt32 String) {rest : List Char} (hrest : ':' ∉ rest)
    (htrim : trim rest = l.hash.toList) :
    parsePcrLine pcrs (l.before ++ ':' :: rest) = pcrs.insert l.index l.hash := by
  have hindex : parseUnsigned 32 (String.ofList l.number) = some l.index.toNat := by
    rw [number, String.ofList_toList]
    exact parseUnsigned_toString l.index.toNat_lt
  unfold parsePcrLine
  rw [List.splitOn_append_cons_self_of_not_mem l.colon_notMem_before,
    List.splitOn_eq_singleton hrest]
  simp only [l.trim_before, hindex, htrim, String.ofList_toList, UInt32.ofNat_toNat]

theorem parsePcrLine_text (pcrs : HashMap UInt32 String) :
    parsePcrLine pcrs l.text = pcrs.insert l.index l.hash := by
  rw [text_eq]
  exact l.parsePcrLine_parts pcrs l.colon_notMem_after l.trim_after

theorem parsePcrLine_stripReturn (pcrs : HashMap UInt32 String) :
    parsePcrLine pcrs (stripReturn l.text) = parsePcrLine pcrs l.text := by
  have hcolon : ':' ∉ stripReturn l.after := by
    unfold stripReturn
    split_ifs
    · exact fun hmem => l.colon_notMem_after (List.dropLast_subset _ hmem)
    · exact l.colon_notMem_after
  have hstrip : stripReturn l.text = l.before ++ ':' :: stripReturn l.after := by
    have hafter : l.after ≠ [] := List.cons_ne_nil _ _
    rw [text_eq, List.append_cons, stripReturn_append _ hafter, ← List.append_cons]
  rw [hstrip, l.parsePcrLine_parts pcrs hcolon l.trim_stripReturn_after, l.parsePcrLine_text]

end PcrLine

/-- The lines joined, with or without a line feed after the last one. -/
def pcrText (ls : List PcrLine) (newline : Bool) : List Char :=
  ['\n'].intercalate (ls.map PcrLine.text ++ if newline then [[]] else [])

/-- A rendered map is read back, whatever the order of its lines, their indentation and
what white space ends them. -/
theorem parsePcrValues_pcrText (m : HashMap UInt32 String) (ls : List PcrLine)
    (h : (ls.map PcrLine.entry).Perm m.pairs) (newline : Bool) :
    ∃ pcrs, parsePcrValues (utf8 (String.ofList (pcrText ls newline))) = .ok pcrs ∧
      HashMap.SameContents pcrs m := by
  refine ⟨_, rfl, HashMap.SameContents.of_pairs ?_⟩
  rw [fromUtf8Lossy_utf8, String.toList_ofList, pcrText]
  have hempty : ∀ pcrs, parsePcrLine pcrs [] = pcrs := fun _ => rfl
  have hnil : '\n' ∉ ([] : List Char) := List.not_mem_nil
  have hlines : ∀ part ∈ ls.map PcrLine.text ++ (if newline then [[]] else []), '\n' ∉ part := by
    intro part hpart
    obtain hpart | hpart := List.mem_append.mp hpart
    · obtain ⟨l, _, rfl⟩ := List.mem_map.mp hpart
      exact l.newline_notMem_text
    · split_ifs at hpart
      · rwa [List.mem_singleton.mp hpart]
      · cases hpart
  rw [foldl_lines_intercalate hlines ?_ hempty, List.foldl_append, List.foldl_map]
  · have htail : ∀ pcrs, (if newline then [[]] else []).foldl parsePcrLine pcrs = pcrs := by
      intro pcrs
      split_ifs <;> rfl
    have hinsert : ls.foldl (fun pcrs l => parsePcrLine pcrs l.text) ∅ =
        (ls.map PcrLine.entry).foldl (fun pcrs e => pcrs.insert e.1 e.2) ∅ := by
      rw [List.foldl_map]
      exact List.foldl_ext _ _ _ fun pcrs l _ => l.parsePcrLine_text pcrs
    have hnodup : ((ls.map PcrLine.entry ++ HashMap.pairs ∅).map Prod.fst).Nodup := by
      rw [HashMap.pairs_empty, List.append_nil, (h.map Prod.fst).nodup_iff, HashMap.keys_pairs]
      exact m.keys_nodup
    have hperm := HashMap.pairs_foldl_insert_perm hnodup
    rw [HashMap.pairs_empty, List.append_nil] at hperm
    rw [htail, hinsert]
    exact hperm.trans h
  · intro pcrs part hpart
    obtain hpart | hpart := List.mem_append.mp hpart
    · obtain ⟨l, _, rfl⟩ := List.mem_map.mp hpart
      exact l.parsePcrLine_stripReturn pcrs
    · split_ifs at hpart
      · rw [List.mem_singleton.mp hpart]
        rfl
      · cases hpart

/-- The lines `0 : abc123` and `\t9 : def456`, with a carriage return after the second. -/
def indentedLines : List PcrLine :=
  [⟨[], by decide, 0, "abc123", ⟨by decide, by decide, by decide⟩, [], by decide⟩,
    ⟨['\t'], by decide, 9, "def456", ⟨by decide, by decide, by decide⟩, ['\r'], by decide⟩]

theorem indentedLines_read_back :
    ∃ pcrs, parsePcrValues (utf8 (String.ofList (pcrText indentedLines true))) = .ok pcrs ∧
      HashMap.SameContents pcrs ((AList.singleton 0 "abc123").insert 9 "def456") :=
  parsePcrValues_pcrText _ indentedLines (by decide) true

end Vyoma.Attest
