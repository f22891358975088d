import Vyoma.RustText

/-!
# Strings of Go

A string of Go is any sequence of bytes. Where it is read as text, a byte that does not
start a character of UTF-8 stands for U+FFFD.
-/
namespace Vyoma.GoStrings
open RustText

abbrev GoString : Type := List UInt8

/-- The characters that `range` yields after the first `skip` bytes. -/
def runes : ℕ → GoString → List Char
  | _, [] => []
  | 0, b :: rest =>
    match (b :: rest).toByteArray.utf8DecodeChar? 0 with
    | none => Char.ofNat 0xFFFD :: runes 0 rest
    | some c => c :: runes (c.utf8Size - 1) rest
  | skip + 1, _ :: rest => runes skip rest

def toText (s : GoString) : String := String.ofList (runes 0 s)

/-- The string is the bytes of a text. -/
def IsUtf8 (s : GoString) : Prop := ∃ text : String, utf8 text = s

theorem runes_length_append (skipped rest : GoString) :
    runes skipped.length (skipped ++ rest) = runes 0 rest := by
  induction skipped with
  | nil => rfl
  | cons b skipped ih => exact ih

theorem runes_utf8EncodeChar_append (c : Char) (rest : GoString) :
    runes 0 (String.utf8EncodeChar c ++ rest) = c :: runes 0 rest := by
  have hdecode : (String.utf8EncodeChar c ++ rest).toByteArray.utf8DecodeChar? 0 = some c := by
    rw [List.toByteArray_append]
    exact ByteArray.utf8DecodeChar?_utf8EncodeChar_append
  have hlength := String.length_utf8EncodeChar c
  cases hbytes : String.utf8EncodeChar c with
  | nil =>
    rw [hbytes] at hlength
    have hpos := c.utf8Size_pos
    rw [← hlength] at hpos
    cases hpos
  | cons b tail =>
    rw [hbytes, List.cons_append] at hdecode
    rw [hbytes, List.length_cons] at hlength
    rw [List.cons_append, runes, hdecode]
    simp only [← hlength, Nat.add_sub_cancel, runes_length_append]

theorem runes_flatMap_utf8EncodeChar (cs : List Char) :
    runes 0 (cs.flatMap String.utf8EncodeChar) = cs := by
  induction cs with
  | nil => rfl
  | cons c cs ih => rw [List.flatMap_cons, runes_utf8EncodeChar_append, ih]

/-- A text is read back from its bytes. -/
theorem toText_utf8 (text : String) : toText (utf8 text) = text := by
  rw [toText, utf8_eq_flatMap, runes_flatMap_utf8EncodeChar, String.ofList_toList]

/-- Reading as text changes exactly the strings that are not UTF-8. -/
theorem utf8_toText_eq_iff (s : GoString) : utf8 (toText s) = s ↔ IsUtf8 s := by
  constructor
  · intro h
    exact ⟨toText s, h⟩
  · rintro ⟨text, rfl⟩
    rw [toText_utf8]

end Vyoma.GoStrings
