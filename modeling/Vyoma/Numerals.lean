import Vyoma.RustText
import Mathlib.Algebra.Order.Floor.Ring
import Mathlib.Data.Bool.AllAny
import Mathlib.Data.List.DropRight
import Mathlib.Data.List.TakeWhile
import Mathlib.Data.Rat.Floor
import Mathlib.Tactic.NormNum

/-!
# Numerals, and the character tables they are read with

`str::parse::<f64>` is read over the rationals: a numeral stands for its exact value and no
operation rounds. The casts to integers saturate, as they do in Rust. What the Unicode tables
say is a parameter, of which only the ASCII part is fixed.
-/
namespace Vyoma.RustText

/-! ## Character tables -/

/-- The tables of Unicode: full upper case, decimal digits and the property Alphabetic. -/
structure Unicode where
  upper : Char → List Char
  decimal : Char → Option ℕ
  alphabetic : Char → Bool
  upper_ascii : ∀ c, c.toNat < 128 → upper c = [c.toUpper]
  upper_ne_nil : ∀ c, upper c ≠ []
  /-- Case mapping makes no ASCII character other than a letter. -/
  upper_from : ∀ c d, d ∈ upper c → d.toNat < 128 → d.isAlpha = false → d = c
  decimal_ascii : ∀ c, c.toNat < 128 → decimal c = digit c
  decimal_whitespace : ∀ c, isWhitespace c = true → decimal c = none
  alphabetic_ascii : ∀ c, c.toNat < 128 → alphabetic c = c.isAlpha
  alphabetic_whitespace : ∀ c, isWhitespace c = true → alphabetic c = false

/-- `str::to_uppercase`. -/
def Unicode.uppercase (t : Unicode) (cs : List Char) : List Char := cs.flatMap t.upper

theorem isAlpha_iff {c : Char} : c.isAlpha = true ↔
    (65 ≤ c.val.toNat ∧ c.val.toNat ≤ 90) ∨ (97 ≤ c.val.toNat ∧ c.val.toNat ≤ 122) := by
  have halpha : c.isAlpha = (c.isUpper || c.isLower) := rfl
  have hupper : c.isUpper = decide ('A'.val ≤ c.val ∧ c.val ≤ 'Z'.val) := rfl
  have hlower : c.isLower = (decide ('a'.val ≤ c.val) && decide (c.val ≤ 'z'.val)) := rfl
  simp only [halpha, hupper, hlower, Bool.or_eq_true, Bool.and_eq_true, decide_eq_true_eq,
    UInt32.le_iff_toNat_le]
  rfl

theorem isDigit_of_digit {c : Char} {d : ℕ} (h : digit c = some d) : c.isDigit = true := by
  unfold digit at h
  split_ifs at h with hrange
  rw [Char.isDigit, Bool.and_eq_true, decide_eq_true_eq, decide_eq_true_eq]
  exact hrange

theorem toNat_lt_of_isDigit {c : Char} (h : c.isDigit = true) : c.toNat < 128 := by
  have hrange : c.val.toNat ≤ 57 := (toNat_of_isDigit h).2
  exact Nat.lt_of_le_of_lt hrange (by decide)

theorem isAlpha_of_isDigit {c : Char} (h : c.isDigit = true) : c.isAlpha = false := by
  obtain ⟨-, hhigh⟩ := toNat_of_isDigit h
  rw [Bool.eq_false_iff, ne_eq, isAlpha_iff]
  omega

theorem isDigit_of_isAlpha {c : Char} (h : c.isAlpha = true) : c.isDigit = false := by
  rw [Bool.eq_false_iff]
  intro hdigit
  rw [isAlpha_of_isDigit hdigit] at h
  cases h

theorem isWhitespace_of_isAlpha {c : Char} (h : c.isAlpha = true) : isWhitespace c = false := by
  rw [isAlpha_iff] at h
  have hval : c.toNat = c.val.toNat := rfl
  rw [Bool.eq_false_iff]
  simp only [isWhitespace, ne_eq, Bool.or_eq_true, Bool.and_eq_true, decide_eq_true_eq]
  omega

/-- The capital of a letter is a letter. -/
theorem isAlpha_toUpper {c : Char} (h : c.isAlpha = true) : c.toUpper.isAlpha = true := by
  rw [isAlpha_iff] at h ⊢
  unfold Char.toUpper
  split_ifs with hlower
  · rw [UInt32.le_iff_toNat_le, UInt32.le_iff_toNat_le] at hlower
    have hlow : 97 ≤ c.val.toNat := hlower.1
    have hhigh : c.val.toNat ≤ 122 := hlower.2
    have hvalue : (c.val + ('A'.val - 'a'.val)).toNat = (c.val.toNat + 4294967264) % 4294967296 :=
      UInt32.toNat_add _ _
    dsimp only
    omega
  · exact h

/-- The small form of a letter is a letter. -/
theorem isAlpha_toLower {c : Char} (h : c.isAlpha = true) : c.toLower.isAlpha = true := by
  rw [isAlpha_iff] at h ⊢
  unfold Char.toLower
  split_ifs with hupper
  · rw [ge_iff_le, UInt32.le_iff_toNat_le, UInt32.le_iff_toNat_le] at hupper
    have hlow : 65 ≤ c.val.toNat := hupper.1
    have hhigh : c.val.toNat ≤ 90 := hupper.2
    have hvalue : (c.val + ('a'.val - 'A'.val)).toNat = (c.val.toNat + 32) % 4294967296 :=
      UInt32.toNat_add _ _
    dsimp only
    omega
  · exact h

theorem toUpper_of_not_isAlpha {c : Char} (h : c.isAlpha = false) : c.toUpper = c := by
  rw [Bool.eq_false_iff, ne_eq, isAlpha_iff] at h
  refine dif_neg ?_
  rw [UInt32.le_iff_toNat_le, UInt32.le_iff_toNat_le]
  have hlow : 'a'.val.toNat = 97 := rfl
  have hhigh : 'z'.val.toNat = 122 := rfl
  omega

theorem toLower_of_not_isAlpha {c : Char} (h : c.isAlpha = false) : c.toLower = c := by
  rw [Bool.eq_false_iff, ne_eq, isAlpha_iff] at h
  refine dif_neg ?_
  rw [ge_iff_le, UInt32.le_iff_toNat_le, UInt32.le_iff_toNat_le]
  have hlow : 'A'.val.toNat = 65 := rfl
  have hhigh : 'Z'.val.toNat = 90 := rfl
  omega

theorem trim_of_forall {cs : List Char} (h : ∀ c ∈ cs, isWhitespace c = false) : trim cs = cs := by
  have hreverse : ∀ c ∈ cs.reverse, isWhitespace c = false := fun c hc =>
    h c (List.mem_reverse.mp hc)
  unfold trim
  rw [dropWhile_of_forall h, dropWhile_of_forall hreverse, List.reverse_reverse]

theorem rdropWhile_append {p : Char → Bool} {cs : List Char} (h : ∀ c ∈ cs, p c = false)
    (ds : List Char) : List.rdropWhile p (cs ++ ds) = cs ++ List.rdropWhile p ds := by
  unfold List.rdropWhile
  rw [List.reverse_append, List.dropWhile_append]
  split_ifs with hempty
  · have hcs : cs.reverse.dropWhile p = cs.reverse := by
      cases hreverse : cs.reverse with
      | nil => rfl
      | cons c rest =>
        have hc : p c = false := h c (List.mem_reverse.mp (hreverse ▸ List.mem_cons_self))
        simp [hc]
    rw [hcs, List.isEmpty_iff.mp hempty]
    simp
  · simp

/-- The end that is taken off, and the character before it. -/
theorem rdropWhile_spec (p : Char → Bool) (cs : List Char) :
    ∃ tail, cs = List.rdropWhile p cs ++ tail ∧ (∀ c ∈ tail, p c = true) ∧
      ∀ c ∈ (List.rdropWhile p cs).getLast?, p c = false := by
  refine ⟨cs.rtakeWhile p, ?_, fun c hc => List.mem_rtakeWhile_imp hc, fun c hc => ?_⟩
  · rw [List.rdropWhile_append_rtakeWhile]
  · unfold List.rdropWhile at hc
    rw [List.getLast?_reverse] at hc
    have hhead := List.head?_dropWhile_not p cs.reverse
    rw [Option.mem_def.mp hc] at hhead
    simpa using hhead

theorem rdropWhile_append_of_forall {p : Char → Bool} (cs : List Char) {tail : List Char}
    (h : ∀ c ∈ tail, p c = true) : List.rdropWhile p (cs ++ tail) = List.rdropWhile p cs := by
  unfold List.rdropWhile
  rw [List.reverse_append, List.dropWhile_append_of_pos fun c hc => h c (List.mem_reverse.mp hc)]

theorem dropWhile_append_of_neg {p : Char → Bool} {cs : List Char} (h : ∀ c ∈ cs, p c = false)
    (hne : cs ≠ []) (ds : List Char) : (cs ++ ds).dropWhile p = cs ++ ds := by
  cases cs with
  | nil => exact absurd rfl hne
  | cons c cs =>
    have hc : p c = false := h c List.mem_cons_self
    simp [hc]

/-- The numeral, and no more than it, is taken for the number when the rest starts with
neither a digit nor a point. -/
theorem takeWhile_numeral {p : Char → Bool} {number rest : List Char}
    (hnumber : ∀ c ∈ number, p c = true) (hrest : ∀ c ∈ rest.head?, p c = false) :
    (number ++ rest).takeWhile p = number ∧ (number ++ rest).dropWhile p = rest := by
  rw [List.takeWhile_append_of_pos hnumber, List.dropWhile_append_of_pos hnumber]
  cases rest with
  | nil => simp
  | cons c rest =>
    have hc : ¬p c = true := by simp [hrest c rfl]
    simp [hc]

/-- A text is a numeral and its rest in one way. -/
theorem append_inj_of_numeral {p : Char → Bool} {number number' rest rest' : List Char}
    (hnumber : ∀ c ∈ number, p c = true) (hrest : ∀ c ∈ rest.head?, p c = false)
    (hnumber' : ∀ c ∈ number', p c = true) (hrest' : ∀ c ∈ rest'.head?, p c = false)
    (h : number ++ rest = number' ++ rest') : number = number' ∧ rest = rest' := by
  have hsplit := takeWhile_numeral hnumber hrest
  have hsplit' := takeWhile_numeral hnumber' hrest'
  rw [h] at hsplit
  exact ⟨hsplit.1.symm.trans hsplit'.1, hsplit.2.symm.trans hsplit'.2⟩

/-- White space on both sides is what is taken off. -/
theorem trim_spec (cs : List Char) : ∃ lead blanks, cs = lead ++ trim cs ++ blanks ∧
    (∀ c ∈ lead, isWhitespace c = true) ∧ ∀ c ∈ blanks, isWhitespace c = true := by
  obtain ⟨blanks, hsplit, hblanks, -⟩ := rdropWhile_spec isWhitespace (cs.dropWhile isWhitespace)
  refine ⟨cs.takeWhile isWhitespace, blanks, ?_, fun c hc => List.mem_takeWhile_imp hc, hblanks⟩
  have htrim : trim cs = List.rdropWhile isWhitespace (cs.dropWhile isWhitespace) := rfl
  rw [htrim, List.append_assoc, ← hsplit, List.takeWhile_append_dropWhile]

/-- Behind a text without white space only the end is trimmed. -/
theorem trim_append_of_no_blank {cs : List Char} (h : ∀ c ∈ cs, isWhitespace c = false)
    (hne : cs ≠ []) (rest : List Char) :
    trim (cs ++ rest) = cs ++ List.rdropWhile isWhitespace rest := by
  show List.rdropWhile isWhitespace ((cs ++ rest).dropWhile isWhitespace) = _
  rw [dropWhile_append_of_neg h hne, rdropWhile_append h]

/-- A text without white space keeps what follows it at the end out. -/
theorem trim_append_blanks {cs blanks : List Char} (h : ∀ c ∈ cs, isWhitespace c = false)
    (hne : cs ≠ []) (hblanks : ∀ c ∈ blanks, isWhitespace c = true) : trim (cs ++ blanks) = cs := by
  rw [trim_append_of_no_blank h hne, List.rdropWhile_eq_nil_iff.mpr hblanks, List.append_nil]

/-- A trimmed text does not start with white space. -/
theorem head_trim {cs : List Char} {c : Char} (h : c ∈ (trim cs).head?) :
    isWhitespace c = false := by
  obtain ⟨blanks, hsplit, -⟩ := rdropWhile_spec isWhitespace (cs.dropWhile isWhitespace)
  have htrim : trim cs = List.rdropWhile isWhitespace (cs.dropWhile isWhitespace) := rfl
  rw [← htrim] at hsplit
  have hhead : c ∈ (cs.dropWhile isWhitespace).head? := by
    rw [hsplit, List.head?_append, Option.mem_def.mp h]
    rfl
  have hnot := List.head?_dropWhile_not isWhitespace cs
  rw [Option.mem_def.mp hhead] at hnot
  simpa using hnot

theorem digits_eq_some_iff {cs : List Char} {n : ℕ} : digits 0 cs = some n ↔
    (∀ c ∈ cs, c.isDigit = true) ∧ Nat.ofDigitChars 10 cs 0 = n := by
  constructor
  · intro h
    have hdigits : ∀ c ∈ cs, c.isDigit = true := by
      intro c hc
      obtain ⟨d, hd⟩ := Option.isSome_iff_exists.mp (isSome_digit_of_mem h hc)
      exact isDigit_of_digit hd
    rw [digits_of_isDigit hdigits] at h
    exact ⟨hdigits, Option.some.inj h⟩
  · rintro ⟨hdigits, rfl⟩
    exact digits_of_isDigit hdigits 0

/-- What parses as an unsigned number: a sign, digits and a value that fits. -/
theorem parseUnsigned_eq_some_iff {bits n : ℕ} {cs : List Char} :
    parseUnsigned bits (String.ofList cs) = some n ↔ ∃ sign number, cs = sign ++ number ∧
      (sign = [] ∨ sign = ['+']) ∧ number ≠ [] ∧ (∀ c ∈ number, c.isDigit = true) ∧
      Nat.ofDigitChars 10 number 0 = n ∧ n < 2 ^ bits := by
  have hbody : ∀ body : List Char,
      (if body = [] then none else (digits 0 body).filter fun n => n < 2 ^ bits) = some n ↔
        body ≠ [] ∧ (∀ c ∈ body, c.isDigit = true) ∧ Nat.ofDigitChars 10 body 0 = n ∧
          n < 2 ^ bits := by
    intro body
    split_ifs with hempty
    · simp [hempty]
    · simp [hempty, Option.filter_eq_some_iff, digits_eq_some_iff, and_assoc]
  unfold parseUnsigned
  rw [String.toList_ofList]
  dsimp only
  split
  · rename_i rest
    rw [hbody]
    constructor
    · rintro ⟨hne, hdigits, hvalue, hlt⟩
      exact ⟨['+'], rest, rfl, .inr rfl, hne, hdigits, hvalue, hlt⟩
    · rintro ⟨sign, number, hsplit, rfl | rfl, hne, hdigits, hrest⟩
      · rw [List.nil_append] at hsplit
        have hplus := hdigits '+' (hsplit ▸ List.mem_cons_self)
        cases hplus
      · obtain ⟨-, rfl⟩ := List.cons.inj hsplit
        exact ⟨hne, hdigits, hrest⟩
  · rename_i hplus
    rw [hbody]
    constructor
    · rintro ⟨hne, hdigits, hvalue, hlt⟩
      exact ⟨[], cs, rfl, .inl rfl, hne, hdigits, hvalue, hlt⟩
    · rintro ⟨sign, number, rfl, rfl | rfl, hrest⟩
      · exact hrest
      · exact absurd rfl (hplus number)

/-! ## Numerals of one length -/

theorem ofDigitChars_lt_pow {cs : List Char} (h : ∀ c ∈ cs, c.isDigit = true) :
    Nat.ofDigitChars 10 cs 0 < 10 ^ cs.length := by
  induction cs with
  | nil => decide
  | cons c cs ih =>
    have hrest := ih fun d hd => h d (List.mem_cons_of_mem _ hd)
    have hc := toNat_of_isDigit (h c List.mem_cons_self)
    have hval : c.toNat = c.val.toNat := rfl
    have hzero : '0'.toNat = 48 := rfl
    have hlead : c.toNat - '0'.toNat ≤ 9 := by omega
    have hscaled := Nat.mul_le_mul_left (10 ^ cs.length) hlead
    rw [Nat.ofDigitChars_cons, Nat.ofDigitChars_eq_ofDigitChars_zero, List.length_cons, pow_succ,
      Nat.mul_zero, Nat.zero_add]
    omega

/-- Numerals of one length are ordered as their numbers, whatever follows them. -/
theorem numeral_append_lt {cs ds : List Char} (hcs : ∀ c ∈ cs, c.isDigit = true)
    (hds : ∀ c ∈ ds, c.isDigit = true) (hlength : cs.length = ds.length)
    (h : Nat.ofDigitChars 10 cs 0 < Nat.ofDigitChars 10 ds 0) (after after' : List Char) :
    cs ++ after < ds ++ after' := by
  induction cs generalizing ds with
  | nil =>
    rw [List.length_eq_zero_iff.mp hlength.symm] at h
    exact absurd h (Nat.lt_irrefl _)
  | cons c cs ih =>
    cases ds with
    | nil => cases hlength
    | cons d ds =>
      have hlength : cs.length = ds.length := Nat.succ.inj hlength
      have hcs' : ∀ e ∈ cs, e.isDigit = true := fun e he => hcs e (List.mem_cons_of_mem _ he)
      have hds' : ∀ e ∈ ds, e.isDigit = true := fun e he => hds e (List.mem_cons_of_mem _ he)
      have hc := toNat_of_isDigit (hcs c List.mem_cons_self)
      have hd := toNat_of_isDigit (hds d List.mem_cons_self)
      have hcval : c.toNat = c.val.toNat := rfl
      have hdval : d.toNat = d.val.toNat := rfl
      have hzero : '0'.toNat = 48 := rfl
      rw [Nat.ofDigitChars_cons, Nat.ofDigitChars_cons, Nat.ofDigitChars_eq_ofDigitChars_zero,
        Nat.ofDigitChars_eq_ofDigitChars_zero (l := ds), hlength, Nat.mul_zero, Nat.zero_add,
        Nat.zero_add] at h
      rw [List.cons_append, List.cons_append, List.cons_lt_cons_iff]
      obtain hlt | heq | hgt := Nat.lt_trichotomy c.val.toNat d.val.toNat
      · exact .inl (UInt32.lt_iff_toNat_lt.mpr hlt)
      · have hcd : c = d := Char.ext (UInt32.toNat_inj.mp heq)
        rw [hcd] at h
        exact .inr ⟨hcd, ih hcs' hds' hlength (by omega)⟩
      · -- A greater leading digit outweighs all digits that follow.
        have hrest := ofDigitChars_lt_pow hds'
        have hlead : d.toNat - '0'.toNat + 1 ≤ c.toNat - '0'.toNat := by omega
        have hscaled := Nat.mul_le_mul_left (10 ^ ds.length) hlead
        rw [Nat.mul_succ] at hscaled
        omega

/-- A number has `k + 1` digits when it lies between these powers of ten. -/
theorem length_toString {n k : ℕ} (hlow : 10 ^ k ≤ n) (hhigh : n < 10 ^ (k + 1)) :
    (toString n).toList.length = k + 1 := by
  rw [Nat.toString_eq_repr, Nat.toList_repr]
  have hle := (Nat.length_toDigits_le_iff (by decide) (Nat.succ_pos k)).mpr hhigh
  have hlt : k < (Nat.toDigits 10 n).length := by
    cases k with
    | zero => exact Nat.length_toDigits_pos
    | succ k =>
      refine Nat.lt_of_not_le fun hshort => ?_
      have := (Nat.length_toDigits_le_iff (by decide) (Nat.succ_pos k)).mp hshort
      omega
  omega

/-- Texts that start with numbers of one length compare as the numbers. -/
theorem compare_toString_append {m n k : ℕ} (hlow : 10 ^ k ≤ m) (h : m < n)
    (hhigh : n < 10 ^ (k + 1)) (s t : String) :
    compare (toString m ++ s) (toString n ++ t) = .lt := by
  have hdigits : ∀ n : ℕ, ∀ c ∈ (toString n).toList, c.isDigit = true :=
    fun n c hc => isDigit_of_mem_toString hc
  have hvalue : ∀ n : ℕ, Nat.ofDigitChars 10 (toString n).toList 0 = n := by
    intro n
    rw [Nat.toString_eq_repr, Nat.toList_repr, Nat.ofDigitChars_ten_toDigits]
  have hlength : (toString m).toList.length = (toString n).toList.length := by
    rw [length_toString hlow (by omega), length_toString (by omega) hhigh]
  have hlt := numeral_append_lt (hdigits m) (hdigits n) hlength
    (by rw [hvalue, hvalue]; exact h) s.toList t.toList
  rw [← String.toList_append, ← String.toList_append] at hlt
  exact compareOfLessAndEq_eq_lt.mpr hlt

namespace Unicode

variable (t : Unicode)

theorem uppercase_append (cs ds : List Char) :
    t.uppercase (cs ++ ds) = t.uppercase cs ++ t.uppercase ds := List.flatMap_append

theorem uppercase_ascii {cs : List Char} (h : ∀ c ∈ cs, c.toNat < 128) :
    t.uppercase cs = cs.map Char.toUpper := by
  induction cs with
  | nil => rfl
  | cons c cs ih =>
    have hrest : cs.flatMap t.upper = cs.map Char.toUpper :=
      ih fun d hd => h d (List.mem_cons_of_mem _ hd)
    rw [uppercase, List.flatMap_cons, hrest, t.upper_ascii c (h c List.mem_cons_self)]
    rfl

/-- Digits have no case. -/
theorem uppercase_digits {cs : List Char} (h : ∀ c ∈ cs, c.isDigit = true) :
    t.uppercase cs = cs := by
  rw [t.uppercase_ascii fun c hc => toNat_lt_of_isDigit (h c hc),
    List.map_congr_left fun c hc => toUpper_of_not_isAlpha (isAlpha_of_isDigit (h c hc)),
    List.map_id']

/-- A character of a text in capitals comes from one of the text. -/
theorem mem_uppercase {cs : List Char} {d : Char} :
    d ∈ t.uppercase cs ↔ ∃ c ∈ cs, d ∈ t.upper c := List.mem_flatMap

/-- ASCII characters that are not letters stand for themselves. -/
theorem mem_of_mem_uppercase {cs : List Char} {d : Char} (h : d ∈ t.uppercase cs)
    (hascii : d.toNat < 128) (halpha : d.isAlpha = false) : d ∈ cs := by
  obtain ⟨c, hc, hd⟩ := t.mem_uppercase.mp h
  rwa [t.upper_from c d hd hascii halpha]

/-- The tables cut off at ASCII. -/
def ascii : Unicode where
  upper c := if c.toNat < 128 then [c.toUpper] else [c]
  decimal := digit
  alphabetic c := c.isAlpha
  upper_ascii c h := if_pos h
  upper_ne_nil c := by
    split_ifs
    · exact List.cons_ne_nil _ _
    · exact List.cons_ne_nil _ _
  upper_from c d hmem _ halpha := by
    split_ifs at hmem with hc
    · rw [List.mem_singleton] at hmem
      cases hletter : c.isAlpha with
      | true =>
        rw [hmem, isAlpha_toUpper hletter] at halpha
        cases halpha
      | false => rw [hmem, toUpper_of_not_isAlpha hletter]
    · exact List.mem_singleton.mp hmem
  decimal_ascii c h := rfl
  decimal_whitespace c h := by
    cases hdigit : digit c with
    | none => rfl
    | some d =>
      rw [isWhitespace_of_isDigit (isDigit_of_digit hdigit)] at h
      cases h
  alphabetic_ascii c h := rfl
  alphabetic_whitespace c h := by
    rw [Bool.eq_false_iff]
    intro halpha
    rw [isWhitespace_of_isAlpha halpha] at h
    cases h

end Unicode

/-! ## Floating-point numbers, read exactly -/

/-- The values of `f64`, of which the finite ones are not rounded. -/
inductive F64 where
  | finite (q : ℚ)
  | infinite (negative : Bool)
  | nan
  deriving DecidableEq

namespace F64

def neg : F64 → F64
  | finite q => finite (-q)
  | infinite negative => infinite !negative
  | nan => nan

/-- The product with a positive constant. -/
def scale (x : F64) (factor : ℚ) : F64 :=
  match x with
  | finite q => finite (q * factor)
  | x => x

/-- `f64::ceil`. -/
def ceil : F64 → F64
  | finite q => finite ⌈q⌉
  | x => x

/-- `f64::round`: a half goes away from zero. -/
def round : F64 → F64
  | finite q => finite (if 0 ≤ q then ⌊q + 1 / 2⌋ else ⌈q - 1 / 2⌉)
  | x => x

/-- `as u32`: towards zero, and to the nearest bound where the value is out of range. -/
def toU32 : F64 → UInt32
  | finite q => UInt32.ofNat (min ⌊q⌋.toNat (2 ^ 32 - 1))
  | infinite negative => if negative then 0 else UInt32.ofNat (2 ^ 32 - 1)
  | nan => 0

theorem toNat_toU32_ceil {q : ℚ} (h : ⌈q⌉₊ < 2 ^ 32) :
    ((finite q).ceil.toU32).toNat = ⌈q⌉₊ := by
  have hbound : min ⌈q⌉₊ (2 ^ 32 - 1) = ⌈q⌉₊ := by omega
  rw [ceil, toU32, Int.floor_intCast, Int.ceil_toNat, hbound, UInt32.toNat_ofNat_of_lt' h]

theorem toNat_toU32_round {q : ℚ} (hq : 0 ≤ q) (h : ⌊q + 1 / 2⌋₊ < 2 ^ 32) :
    ((finite q).round.toU32).toNat = ⌊q + 1 / 2⌋₊ := by
  have hbound : min ⌊q + 1 / 2⌋₊ (2 ^ 32 - 1) = ⌊q + 1 / 2⌋₊ := by omega
  rw [round, if_pos hq, toU32, Int.floor_intCast, Int.floor_toNat, hbound,
    UInt32.toNat_ofNat_of_lt' h]

/-- `x <= 0.0`. -/
def nonpositive : F64 → Bool
  | finite q => q ≤ 0
  | infinite negative => negative
  | nan => false

end F64

/-- One digit or more and nothing else. -/
def natural (cs : List Char) : Option ℕ := if cs = [] then none else digits 0 cs

/-- The exponent of a literal. -/
def parseExponent : List Char → Option ℤ
  | [] => some 0
  | c :: cs =>
    if c = 'e' ∨ c = 'E' then
      match cs with
      | '-' :: ds => (natural ds).map fun n => -(n : ℤ)
      | '+' :: ds => (natural ds).map Int.ofNat
      | ds => (natural ds).map Int.ofNat
    else none

/-- Digits, a point and digits, of which there is one at least, and an exponent. -/
def parseDecimal (cs : List Char) : Option F64 :=
  let whole := cs.takeWhile Char.isDigit
  let rest := cs.dropWhile Char.isDigit
  let (fraction, rest) := match rest with
    | '.' :: ds => (ds.takeWhile Char.isDigit, ds.dropWhile Char.isDigit)
    | ds => ([], ds)
  if whole ++ fraction = [] then none
  else (parseExponent rest).map fun e =>
    .finite (Nat.ofDigitChars 10 (whole ++ fraction) 0 / 10 ^ fraction.length * 10 ^ e)

/-- A literal without its sign. -/
def parseMagnitude (cs : List Char) : Option F64 :=
  let lower := cs.map Char.toLower
  if lower = "inf".toList ∨ lower = "infinity".toList then some (.infinite false)
  else if lower = "nan".toList then some .nan
  else parseDecimal cs

/-- `str::parse` at `f64`. -/
def parseF64 : List Char → Option F64
  | '-' :: cs => (parseMagnitude cs).map F64.neg
  | '+' :: cs => parseMagnitude cs
  | cs => parseMagnitude cs

/-- A decimal numeral: digits, and perhaps a point with further digits. -/
structure Decimal where
  whole : List Char
  fraction : Option (List Char)
  whole_digits : ∀ c ∈ whole, c.isDigit = true
  fraction_digits : ∀ ds ∈ fraction, ∀ c ∈ ds, c.isDigit = true
  nonempty : whole ++ fraction.getD [] ≠ []

namespace Decimal

def text (d : Decimal) : List Char :=
  d.whole ++ match d.fraction with
    | none => []
    | some ds => '.' :: ds

def value (d : Decimal) : ℚ :=
  Nat.ofDigitChars 10 (d.whole ++ d.fraction.getD []) 0 / 10 ^ (d.fraction.getD []).length

theorem mem_text {d : Decimal} {c : Char} (h : c ∈ d.text) : c.isDigit = true ∨ c = '.' := by
  unfold text at h
  obtain hwhole | hrest := List.mem_append.mp h
  · exact .inl (d.whole_digits c hwhole)
  · cases hfraction : d.fraction with
    | none =>
      rw [hfraction] at hrest
      cases hrest
    | some ds =>
      rw [hfraction] at hrest
      obtain hpoint | hmem := List.mem_cons.mp hrest
      · exact .inr hpoint
      · exact .inl (d.fraction_digits ds hfraction c hmem)

theorem parseDecimal_text (d : Decimal) : parseDecimal d.text = some (.finite d.value) := by
  obtain ⟨whole, fraction, hwhole, hfraction, hnonempty⟩ := d
  cases fraction with
  | none =>
    rw [Option.getD_none, List.append_nil] at hnonempty
    have htake : whole.takeWhile Char.isDigit = whole := List.takeWhile_eq_self_iff.mpr hwhole
    have hdrop : whole.dropWhile Char.isDigit = [] := List.dropWhile_eq_nil_iff.mpr hwhole
    simp only [text, value, parseDecimal, List.append_nil, Option.getD_none, htake, hdrop,
      if_neg hnonempty, parseExponent, Option.map_some, zpow_zero, mul_one]
  | some ds =>
    have hdigits : ∀ c ∈ ds, c.isDigit = true := hfraction ds rfl
    rw [Option.getD_some] at hnonempty
    have htake : (whole ++ '.' :: ds).takeWhile Char.isDigit = whole := by
      rw [List.takeWhile_append_of_pos hwhole, List.takeWhile_cons_of_neg (by decide),
        List.append_nil]
    have hdrop : (whole ++ '.' :: ds).dropWhile Char.isDigit = '.' :: ds := by
      rw [List.dropWhile_append_of_pos hwhole, List.dropWhile_cons_of_neg (by decide)]
    have htail : ds.dropWhile Char.isDigit = [] := List.dropWhile_eq_nil_iff.mpr hdigits
    simp only [text, value, parseDecimal, Option.getD_some, htake, hdrop,
      List.takeWhile_eq_self_iff.mpr hdigits, htail, if_neg hnonempty, parseExponent,
      Option.map_some, zpow_zero, mul_one]

/-- A numeral is read as its value. -/
theorem parseF64_text (d : Decimal) : parseF64 d.text = some (.finite d.value) := by
  have hplain : ∀ c ∈ d.text, c.isAlpha = false ∧ c ≠ '-' ∧ c ≠ '+' := by
    intro c hc
    obtain hdigit | rfl := mem_text hc
    · refine ⟨isAlpha_of_isDigit hdigit, ?_, ?_⟩
      · rintro rfl
        cases hdigit
      · rintro rfl
        cases hdigit
    · decide
  have hlower : d.text.map Char.toLower = d.text := by
    rw [List.map_congr_left fun c hc => toLower_of_not_isAlpha (hplain c hc).1, List.map_id']
  have hword : ∀ word : List Char, (∃ c ∈ word, c.isAlpha = true) → d.text ≠ word := by
    rintro word ⟨c, hc, hletter⟩ rfl
    rw [(hplain c hc).1] at hletter
    cases hletter
  have hmagnitude : parseMagnitude d.text = some (.finite d.value) := by
    unfold parseMagnitude
    rw [hlower, if_neg, if_neg (hword _ ⟨'n', by decide, by decide⟩), parseDecimal_text]
    rintro (h | h)
    · exact hword _ ⟨'i', by decide, by decide⟩ h
    · exact hword _ ⟨'i', by decide, by decide⟩ h
  unfold parseF64
  split
  · rename_i cs hcs
    exact absurd rfl (hplain '-' (hcs ▸ List.mem_cons_self)).2.1
  · rename_i cs hcs
    exact absurd rfl (hplain '+' (hcs ▸ List.mem_cons_self)).2.2
  · exact hmagnitude

/-- Digits alone. -/
def ofDigits (whole : List Char) (hdigits : ∀ c ∈ whole, c.isDigit = true) (hne : whole ≠ []) :
    Decimal where
  whole := whole
  fraction := none
  whole_digits := hdigits
  fraction_digits := nofun
  nonempty := by rwa [Option.getD_none, List.append_nil]

end Decimal

theorem parseF64_digits {cs : List Char} (hdigits : ∀ c ∈ cs, c.isDigit = true) (hne : cs ≠ []) :
    parseF64 cs = some (.finite (Nat.ofDigitChars 10 cs 0)) := by
  have hparse := (Decimal.ofDigits cs hdigits hne).parseF64_text
  simp only [Decimal.ofDigits, Decimal.text, Decimal.value, Option.getD_none, List.append_nil,
    List.length_nil, pow_zero, div_one] at hparse
  exact hparse

end Vyoma.RustText
