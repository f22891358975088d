import Vyoma.Numerals

/-!
# Sizes of disks

`parse_size_str` reads the size for a live resize. The unit is found by the end of the text and
the number by what stands before it, so that more is accepted than numerals with a unit: a sign,
white space before the unit and, before a unit of two letters or three, any text that starts with
a letter. The product wraps.
-/
namespace Vyoma.DiskSizes
open RustText

/-- Whether the text ends with one of the words. -/
def endsWithAny (words : List String) (s : List Char) : Bool :=
  words.any fun word => word.toList.isSuffixOf s

/-- What stands before the first letter, if there is one. -/
def beforeLetters (t : Unicode) (s : List Char) : List Char :=
  s.takeWhile fun c => !t.alphabetic c

def gibWords : List String := ["GB", "gb", "GiB", "gib"]

def mibWords : List String := ["MB", "mb", "MiB", "mib"]

/-- The text of the number and the multiplier. -/
def numberPart (t : Unicode) (s : List Char) : List Char × UInt64 :=
  if s.getLast? = some 'G' ∨ s.getLast? = some 'g' then (s.dropLast, 1024 * 1024 * 1024)
  else if endsWithAny gibWords s then (beforeLetters t s, 1024 * 1024 * 1024)
  else if s.getLast? = some 'M' ∨ s.getLast? = some 'm' then (s.dropLast, 1024 * 1024)
  else if endsWithAny mibWords s then (beforeLetters t s, 1024 * 1024)
  else if s.getLast? = some 'K' ∨ s.getLast? = some 'k' then (s.dropLast, 1024)
  else (s, 1)

/-- The first character that stops `parse` at an unsigned type of the given width. -/
def digitsError (bits acc : ℕ) : List Char → String
  | [] => "invalid digit found in string"
  | c :: cs =>
    match digit c with
    | none => "invalid digit found in string"
    | some d =>
      if 10 * acc + d < 2 ^ bits then digitsError bits (10 * acc + d) cs
      else "number too large to fit in target type"

/-- The error of `parse` where there is one. -/
def parseError (bits : ℕ) : List Char → String
  | [] => "cannot parse integer from empty string"
  | '+' :: cs => digitsError bits 0 cs
  | cs => digitsError bits 0 cs

def parseSizeStr (t : Unicode) (s : String) : Except String UInt64 :=
  let s := trim s.toList
  if s = [] then .error "Size cannot be empty"
  else
    let part := numberPart t s
    match parseUnsigned 64 (String.ofList (trim part.1)) with
    | none => .error (parseError 64 (trim part.1))
    | some val => .ok (UInt64.ofNat val * part.2)

/-! ## Sizes as they are meant, and as they are read -/

/-- The units and what they stand for. -/
def unitMultiplier : String → Option ℕ
  | "" => some 1
  | "K" | "k" => some 1024
  | "M" | "m" | "MB" | "mb" | "MiB" | "mib" => some (1024 ^ 2)
  | "G" | "g" | "GB" | "gb" | "GiB" | "gib" => some (1024 ^ 3)
  | _ => none

/-- A numeral and a unit. -/
def IsSize (s : List Char) (v m : ℕ) : Prop :=
  ∃ number unit, s = number ++ unit ∧ number ≠ [] ∧ (∀ c ∈ number, c.isDigit = true) ∧
    Nat.ofDigitChars 10 number 0 = v ∧ unitMultiplier (String.ofList unit) = some m

def letterMultiplier : Char → Option ℕ
  | 'G' | 'g' => some (1024 ^ 3)
  | 'M' | 'm' => some (1024 ^ 2)
  | 'K' | 'k' => some 1024
  | _ => none

/-- The multiplier by the end of a text that starts with a letter. -/
def wordMultiplier (s : List Char) : Option ℕ :=
  if endsWithAny gibWords s then some (1024 ^ 3)
  else if endsWithAny mibWords s then some (1024 ^ 2)
  else none

/-- What is taken for a unit: nothing, a letter, or a text that starts with a letter. -/
inductive Tail (t : Unicode) : List Char → ℕ → Prop
  | none : Tail t [] 1
  | letter {c : Char} {m : ℕ} (h : letterMultiplier c = some m) : Tail t [c] m
  | word {c : Char} {rest : List Char} {m : ℕ} (hc : t.alphabetic c = true)
      (h : wordMultiplier (c :: rest) = some m) : Tail t (c :: rest) m

/-- What is read as a size: a sign, digits, white space and a tail. -/
structure Reads (t : Unicode) (s sign number blanks tail : List Char) (m : ℕ) : Prop where
  text : s = sign ++ number ++ (blanks ++ tail)
  sign : sign = [] ∨ sign = ['+']
  number_ne : number ≠ []
  number_digits : ∀ c ∈ number, c.isDigit = true
  blanks : ∀ c ∈ blanks, isWhitespace c = true
  tail : Tail t tail m

/-- A size is a numeral and a unit with their exact product, and everything else is refused. -/
structure Exact (t : Unicode) (s : String) : Prop where
  sound : ∀ n, parseSizeStr t s = .ok n → ∃ v m, IsSize (trim s.toList) v m ∧ n.toNat = v * m
  other : (¬∃ v m, IsSize (trim s.toList) v m) → ∃ e, parseSizeStr t s = .error e
  large : ∀ v m, IsSize (trim s.toList) v m → 2 ^ 64 ≤ v * m → ∃ e, parseSizeStr t s = .error e

/-- What is read has neither a sign nor white space, its tail is a unit, and the product fits. -/
def OnlySizes (t : Unicode) (s : String) : Prop :=
  ∀ sign number blanks tail m, Reads t (trim s.toList) sign number blanks tail m →
    Nat.ofDigitChars 10 number 0 < 2 ^ 64 → sign = [] ∧ blanks = [] ∧
      unitMultiplier (String.ofList tail) = some m ∧ Nat.ofDigitChars 10 number 0 * m < 2 ^ 64

/-! ## The number and the tail -/

/-- The units of two letters or three. -/
def IsWords (t : Unicode) (words : List String) : Prop :=
  ∀ word ∈ words, (∀ c ∈ word.toList, t.alphabetic c = true) ∧
    (word.toList.getLast? = some 'B' ∨ word.toList.getLast? = some 'b')

variable {t : Unicode}

/-- ASCII letters are letters of every table. -/
theorem isWords_of_ascii {words : List String}
    (h : ∀ word ∈ words, (word.toList.all fun c => c.toNat < 128 ∧ c.isAlpha = true) = true ∧
      (word.toList.getLast? = some 'B' ∨ word.toList.getLast? = some 'b')) : IsWords t words := by
  intro word hword
  obtain ⟨hletters, hlast⟩ := h word hword
  refine ⟨fun c hc => ?_, hlast⟩
  obtain ⟨hascii, halpha⟩ := List.all_iff_forall_prop.mp hletters c hc
  rw [t.alphabetic_ascii c hascii, halpha]

theorem isWords_gib (t : Unicode) : IsWords t gibWords := isWords_of_ascii (by decide)

theorem isWords_mib (t : Unicode) : IsWords t mibWords := isWords_of_ascii (by decide)

theorem endsWithAny_iff {words : List String} {s : List Char} :
    endsWithAny words s = true ↔ ∃ word ∈ words, word.toList <:+ s := by
  simp [endsWithAny]

theorem getLast_of_endsWithAny {words : List String} (hwords : IsWords t words) {s : List Char}
    (h : endsWithAny words s = true) : s.getLast? = some 'B' ∨ s.getLast? = some 'b' := by
  obtain ⟨word, hword, before, rfl⟩ := endsWithAny_iff.mp h
  have hlast := (hwords word hword).2
  have hne : word.toList ≠ [] := by
    intro hempty
    simp [hempty] at hlast
  rwa [List.getLast?_append_of_ne_nil _ hne]

/-- Characters that are not letters do not help a text to end with a word. -/
theorem endsWithAny_append {words : List String} (hwords : IsWords t words) {number : List Char}
    (hnumber : ∀ c ∈ number, t.alphabetic c = false) (tail : List Char) :
    endsWithAny words (number ++ tail) = endsWithAny words tail := by
  rw [Bool.eq_iff_iff, endsWithAny_iff, endsWithAny_iff]
  refine exists_congr fun word => and_congr_right fun hword => ?_
  constructor
  · intro hsuffix
    obtain hword' | ⟨front, hfront⟩ := List.suffix_or_suffix_of_suffix hsuffix
      (List.suffix_append number tail)
    · exact hword'
    · cases front with
      | nil => exact hfront ▸ List.suffix_refl tail
      | cons c front =>
        obtain ⟨before, hbefore⟩ := hsuffix
        rw [← hfront, ← List.append_assoc, List.append_left_inj] at hbefore
        have hc : c ∈ number := hbefore ▸ List.mem_append_right _ List.mem_cons_self
        have halpha := (hwords word hword).1 c (hfront ▸ List.mem_append_left _ List.mem_cons_self)
        rw [hnumber c hc] at halpha
        cases halpha
  · intro hsuffix
    exact hsuffix.trans (List.suffix_append number tail)

theorem endsWithAny_singleton {words : List String}
    (hlength : ∀ word ∈ words, 2 ≤ word.toList.length) {c : Char} :
    endsWithAny words [c] = false := by
  rw [Bool.eq_false_iff, ne_eq, endsWithAny_iff]
  rintro ⟨word, hword, hsuffix⟩
  have hle := hsuffix.length_le
  have htwo := hlength word hword
  rw [List.length_singleton] at hle
  omega

theorem beforeLetters_append {number tail : List Char}
    (hnumber : ∀ c ∈ number, t.alphabetic c = false)
    (htail : ∀ c ∈ tail.head?, t.alphabetic c = true) :
    beforeLetters t (number ++ tail) = number :=
  (takeWhile_numeral (fun c hc => by simp [hnumber c hc]) fun c hc => by simp [htail c hc]).1

/-- The number and the tail are told apart. -/
theorem numberPart_append {number tail : List Char} {m : ℕ}
    (hnumber : ∀ c ∈ number, t.alphabetic c = false) (htail : Tail t tail m) :
    (numberPart t (number ++ tail)).1 = number ∧ (numberPart t (number ++ tail)).2.toNat = m := by
  have hgib := endsWithAny_append (isWords_gib t) hnumber tail
  have hmib := endsWithAny_append (isWords_mib t) hnumber tail
  cases htail with
  | none =>
    have hlast : ∀ c, c.toNat < 128 → c.isAlpha = true → number.getLast? ≠ some c := by
      intro c hascii halpha h
      have hc := hnumber c (List.mem_of_getLast? h)
      rw [t.alphabetic_ascii c hascii, halpha] at hc
      cases hc
    have hgib' : endsWithAny gibWords number = false := by rwa [List.append_nil] at hgib
    have hmib' : endsWithAny mibWords number = false := by rwa [List.append_nil] at hmib
    rw [List.append_nil]
    unfold numberPart
    rw [if_neg (by simp [hlast]), hgib', if_neg Bool.false_ne_true, if_neg (by simp [hlast]), hmib',
      if_neg Bool.false_ne_true, if_neg (by simp [hlast])]
    exact ⟨rfl, rfl⟩
  | @letter c m h =>
    have hlast : (number ++ [c]).getLast? = some c := List.getLast?_concat
    unfold numberPart
    rw [hlast, hgib, endsWithAny_singleton (by decide), hmib, endsWithAny_singleton (by decide),
      List.dropLast_concat]
    unfold letterMultiplier at h
    split at h <;> cases h <;> exact ⟨rfl, rfl⟩
  | @word c rest m hc h =>
    have hlast : (number ++ c :: rest).getLast? = (c :: rest).getLast? :=
      List.getLast?_append_of_ne_nil _ (List.cons_ne_nil _ _)
    have hbefore : beforeLetters t (number ++ c :: rest) = number :=
      beforeLetters_append hnumber fun d hd => by rwa [← Option.some.inj hd]
    unfold wordMultiplier at h
    unfold numberPart
    rw [hlast, hgib, hmib, hbefore]
    split_ifs at h with hg hm
    · cases h
      rw [hg]
      obtain hend | hend := getLast_of_endsWithAny (isWords_gib t) hg
      · rw [hend]
        exact ⟨rfl, rfl⟩
      · rw [hend]
        exact ⟨rfl, rfl⟩
    · cases h
      rw [hm, Bool.eq_false_iff.mpr hg]
      obtain hend | hend := getLast_of_endsWithAny (isWords_mib t) hm
      · rw [hend]
        exact ⟨rfl, rfl⟩
      · rw [hend]
        exact ⟨rfl, rfl⟩

/-- A text that ends with a word is cut at its first letter. -/
theorem letters_split {words : List String} (hwords : IsWords t words) {s : List Char}
    (h : endsWithAny words s = true) : ∃ c rest, s = beforeLetters t s ++ c :: rest ∧
      (∀ d ∈ beforeLetters t s, t.alphabetic d = false) ∧ t.alphabetic c = true := by
  have hnumber : ∀ d ∈ beforeLetters t s, t.alphabetic d = false := fun d hd => by
    simpa using List.mem_takeWhile_imp hd
  have hsplit : s = beforeLetters t s ++ s.dropWhile fun c => !t.alphabetic c :=
    List.takeWhile_append_dropWhile.symm
  have hhead := List.head?_dropWhile_not (fun c => !t.alphabetic c) s
  cases htail : s.dropWhile fun c => !t.alphabetic c with
  | nil =>
    rw [htail] at hsplit
    rw [hsplit, endsWithAny_append hwords hnumber] at h
    simpa using getLast_of_endsWithAny hwords h
  | cons c rest =>
    rw [htail] at hsplit hhead
    exact ⟨c, rest, hsplit, hnumber, by simpa using hhead⟩

/-- The text is the number and a tail. -/
theorem numberPart_spec (t : Unicode) (s : List Char) :
    ∃ tail m, s = (numberPart t s).1 ++ tail ∧ Tail t tail m ∧ (numberPart t s).2.toNat = m := by
  have hletter : ∀ c m, s.getLast? = some c → letterMultiplier c = some m →
      s = s.dropLast ++ [c] ∧ Tail t [c] m := fun c m hlast h =>
    ⟨(List.dropLast_append_getLast? c hlast).symm, .letter h⟩
  unfold numberPart
  split_ifs with hG hgib hM hmib hK
  · obtain h | h := hG
    · exact ⟨_, _, (hletter _ _ h rfl).1, (hletter _ _ h rfl).2, rfl⟩
    · exact ⟨_, _, (hletter _ _ h rfl).1, (hletter _ _ h rfl).2, rfl⟩
  · obtain ⟨c, rest, hsplit, hnumber, hc⟩ := letters_split (isWords_gib t) hgib
    have hend := endsWithAny_append (isWords_gib t) hnumber (c :: rest)
    rw [← hsplit, hgib] at hend
    exact ⟨c :: rest, 1024 ^ 3, hsplit, .word hc (if_pos hend.symm), rfl⟩
  · obtain h | h := hM
    · exact ⟨_, _, (hletter _ _ h rfl).1, (hletter _ _ h rfl).2, rfl⟩
    · exact ⟨_, _, (hletter _ _ h rfl).1, (hletter _ _ h rfl).2, rfl⟩
  · obtain ⟨c, rest, hsplit, hnumber, hc⟩ := letters_split (isWords_mib t) hmib
    have hend := endsWithAny_append (isWords_mib t) hnumber (c :: rest)
    have hother := endsWithAny_append (isWords_gib t) hnumber (c :: rest)
    rw [← hsplit, hmib] at hend
    rw [← hsplit] at hother
    refine ⟨c :: rest, 1024 ^ 2, hsplit, .word hc ?_, rfl⟩
    rw [wordMultiplier, if_neg (hother ▸ hgib), if_pos hend.symm]
  · obtain h | h := hK
    · exact ⟨_, _, (hletter _ _ h rfl).1, (hletter _ _ h rfl).2, rfl⟩
    · exact ⟨_, _, (hletter _ _ h rfl).1, (hletter _ _ h rfl).2, rfl⟩
  · exact ⟨[], 1, (List.append_nil s).symm, .none, rfl⟩

/-! ## What is accepted -/

theorem Reads.eq_plus {s sign number blanks tail : List Char} {m : ℕ}
    (h : Reads t s sign number blanks tail m) {c : Char} (hc : c ∈ sign) : c = '+' := by
  obtain hsign | hsign := h.sign
  · rw [hsign] at hc
    cases hc
  · rwa [hsign, List.mem_singleton] at hc

/-- Signs, digits and white space are not letters. -/
theorem Reads.no_letters {s sign number blanks tail : List Char} {m : ℕ}
    (h : Reads t s sign number blanks tail m) :
    ∀ c ∈ sign ++ number ++ blanks, t.alphabetic c = false := by
  intro c hc
  obtain hc | hc := List.mem_append.mp hc
  · obtain hc | hc := List.mem_append.mp hc
    · rw [h.eq_plus hc, t.alphabetic_ascii '+' (by decide)]
      decide
    · have hdigit := h.number_digits c hc
      rw [t.alphabetic_ascii c (toNat_lt_of_isDigit hdigit), isAlpha_of_isDigit hdigit]
  · exact t.alphabetic_whitespace c (h.blanks c hc)

/-- Signs and digits are not white space. -/
theorem Reads.no_blanks {s sign number blanks tail : List Char} {m : ℕ}
    (h : Reads t s sign number blanks tail m) : ∀ c ∈ sign ++ number, isWhitespace c = false := by
  intro c hc
  obtain hc | hc := List.mem_append.mp hc
  · rw [h.eq_plus hc]
    decide
  · exact isWhitespace_of_isDigit (h.number_digits c hc)

theorem ofNat_mul_eq {v m : ℕ} {multiplier : UInt64} (h : multiplier.toNat = m) :
    UInt64.ofNat v * multiplier = UInt64.ofNat (v * m) := by
  rw [← h, UInt64.ofNat_mul, UInt64.ofNat_toNat]

/-- The text that is parsed for the number is a sign, digits and white space. -/
theorem reads_of_parse {s : List Char} (hs : ∀ c ∈ s.head?, isWhitespace c = false) {v : ℕ}
    (h : parseUnsigned 64 (String.ofList (trim (numberPart t s).1)) = some v) :
    ∃ sign number blanks tail m, Reads t s sign number blanks tail m ∧
      Nat.ofDigitChars 10 number 0 = v ∧ v < 2 ^ 64 ∧ (numberPart t s).2.toNat = m := by
  obtain ⟨tail, m, hsplit, htail, hm⟩ := numberPart_spec t s
  obtain ⟨sign, number, hnumber, hsign, hne, hdigits, hv, hlt⟩ := parseUnsigned_eq_some_iff.mp h
  obtain ⟨lead, blanks, hpart, hlead, hblanks⟩ := trim_spec (numberPart t s).1
  have hlead' : lead = [] := by
    cases lead with
    | nil => rfl
    | cons c lead =>
      have hfirst : c ∈ s.head? := by
        rw [hsplit, hpart]
        rfl
      have hc := hs c hfirst
      rw [hlead c List.mem_cons_self] at hc
      cases hc
  rw [hlead', List.nil_append, hnumber] at hpart
  rw [hpart, List.append_assoc] at hsplit
  exact ⟨sign, number, blanks, tail, m, ⟨hsplit, hsign, hne, hdigits, hblanks, htail⟩, hv, hlt, hm⟩

/-- Exactly what is read is accepted, with the product up to the width of the machine word. -/
theorem parseSizeStr_ok_iff {s : String} {n : UInt64} : parseSizeStr t s = .ok n ↔
    ∃ sign number blanks tail m, Reads t (trim s.toList) sign number blanks tail m ∧
      Nat.ofDigitChars 10 number 0 < 2 ^ 64 ∧
      n = UInt64.ofNat (Nat.ofDigitChars 10 number 0 * m) := by
  have hhead : ∀ c ∈ (trim s.toList).head?, isWhitespace c = false := fun c hc => head_trim hc
  unfold parseSizeStr
  generalize trim s.toList = s at hhead
  constructor
  · intro h
    dsimp only at h
    split_ifs at h with hempty
    split at h
    · cases h
    · rename_i v hv
      obtain ⟨sign, number, blanks, tail, m, hreads, rfl, hlt, hm⟩ := reads_of_parse hhead hv
      cases h
      exact ⟨sign, number, blanks, tail, m, hreads, hlt, ofNat_mul_eq hm⟩
  · rintro ⟨sign, number, blanks, tail, m, hreads, hlt, rfl⟩
    have htext : s = sign ++ number ++ blanks ++ tail := by
      rw [hreads.text, List.append_assoc (sign ++ number)]
    have hnumber : sign ++ number ≠ [] := fun h => hreads.number_ne (List.append_eq_nil_iff.mp h).2
    have hne : s ≠ [] := by
      intro hempty
      rw [hempty] at htext
      simp [hreads.number_ne] at htext
    obtain ⟨hpart, hm⟩ := numberPart_append hreads.no_letters hreads.tail
    rw [← htext] at hpart hm
    have hparse : parseUnsigned 64 (String.ofList (sign ++ number)) =
        some (Nat.ofDigitChars 10 number 0) := parseUnsigned_eq_some_iff.mpr
      ⟨sign, number, rfl, hreads.sign, hreads.number_ne, hreads.number_digits, rfl, hlt⟩
    dsimp only
    rw [if_neg hne, hpart, trim_append_blanks hreads.no_blanks hnumber hreads.blanks, hparse]
    exact congrArg Except.ok (ofNat_mul_eq hm)

/-! ## Sizes among what is accepted -/

theorem letterMultiplier_alphabetic {c : Char} {m : ℕ} (h : letterMultiplier c = some m) :
    t.alphabetic c = true := by
  unfold letterMultiplier at h
  split at h
  · exact t.alphabetic_ascii 'G' (by decide)
  · exact t.alphabetic_ascii 'g' (by decide)
  · exact t.alphabetic_ascii 'M' (by decide)
  · exact t.alphabetic_ascii 'm' (by decide)
  · exact t.alphabetic_ascii 'K' (by decide)
  · exact t.alphabetic_ascii 'k' (by decide)
  · cases h

/-- A tail starts with a letter. -/
theorem Tail.head {tail : List Char} {m : ℕ} (h : Tail t tail m) {c : Char} (hc : c ∈ tail.head?) :
    t.alphabetic c = true := by
  cases h with
  | none => cases hc
  | letter h =>
    cases hc
    exact letterMultiplier_alphabetic h
  | word hletter h =>
    cases hc
    exact hletter

theorem wordMultiplier_singleton (c : Char) : wordMultiplier [c] = none := by
  unfold wordMultiplier
  rw [endsWithAny_singleton (by decide), endsWithAny_singleton (by decide)]
  rfl

/-- A tail stands for one multiplier. -/
theorem Tail.unique {tail : List Char} {m m' : ℕ} (h : Tail t tail m) (h' : Tail t tail m') :
    m = m' := by
  cases h with
  | none =>
    cases h'
    rfl
  | letter h =>
    cases h' with
    | letter h' => exact Option.some.inj (h.symm.trans h')
    | word hc h' =>
      rw [wordMultiplier_singleton] at h'
      cases h'
  | word hc h =>
    cases h' with
    | letter h' =>
      rw [wordMultiplier_singleton] at h
      cases h
    | word hc' h' => exact Option.some.inj (h.symm.trans h')

/-- The units are tails. -/
theorem tail_of_unit {unit : String} {m : ℕ} (h : unitMultiplier unit = some m) :
    Tail t unit.toList m := by
  have hG : t.alphabetic 'G' = true := t.alphabetic_ascii 'G' (by decide)
  have hg : t.alphabetic 'g' = true := t.alphabetic_ascii 'g' (by decide)
  have hM : t.alphabetic 'M' = true := t.alphabetic_ascii 'M' (by decide)
  have hm : t.alphabetic 'm' = true := t.alphabetic_ascii 'm' (by decide)
  unfold unitMultiplier at h
  split at h
  · cases h
    exact .none
  · exact .letter h
  · exact .letter h
  · exact .letter h
  · exact .letter h
  · exact .word hM h
  · exact .word hm h
  · exact .word hM h
  · exact .word hm h
  · exact .letter h
  · exact .letter h
  · exact .word hG h
  · exact .word hg h
  · exact .word hG h
  · exact .word hg h
  · cases h

theorem isDigit_of_alphabetic {c : Char} (h : t.alphabetic c = true) : c.isDigit = false := by
  rw [Bool.eq_false_iff]
  intro hdigit
  rw [t.alphabetic_ascii c (toNat_lt_of_isDigit hdigit), isAlpha_of_isDigit hdigit] at h
  cases h

/-- The text goes on with white space or a letter where the digits end. -/
theorem Reads.end_of_digits {s sign number blanks tail : List Char} {m : ℕ}
    (h : Reads t s sign number blanks tail m) :
    ∀ c ∈ (blanks ++ tail).head?, c.isDigit = false := by
  intro c hc
  cases hblanks : blanks with
  | nil =>
    rw [hblanks] at hc
    exact isDigit_of_alphabetic (h.tail.head hc)
  | cons b blanks =>
    rw [hblanks] at hc
    cases hc
    rw [Bool.eq_false_iff]
    intro hdigit
    have hb := h.blanks c (hblanks ▸ List.mem_cons_self)
    rw [isWhitespace_of_isDigit hdigit] at hb
    cases hb

/-- A size is read in one way: as its numeral and its unit. -/
theorem Reads.size {s sign number blanks tail : List Char} {v m m' : ℕ}
    (h : Reads t s sign number blanks tail m) (hsize : IsSize s v m') :
    sign = [] ∧ blanks = [] ∧ unitMultiplier (String.ofList tail) = some m ∧ m = m' ∧
      Nat.ofDigitChars 10 number 0 = v := by
  obtain ⟨number', unit, hs, hne, hdigits, rfl, hunit⟩ := hsize
  have hunit' : Tail t unit m' := by simpa using tail_of_unit hunit
  obtain ⟨c, rest, hnumber'⟩ := List.exists_cons_of_ne_nil hne
  have hsign : sign = [] := by
    obtain hsign | hsign := h.sign
    · exact hsign
    · have hfirst := h.text.symm.trans hs
      rw [hsign, hnumber', List.append_assoc] at hfirst
      have hplus := hdigits '+' (hnumber' ▸ (List.cons.inj hfirst).1 ▸ List.mem_cons_self)
      cases hplus
  have hend : ∀ c ∈ unit.head?, c.isDigit = false := fun c hc =>
    isDigit_of_alphabetic (hunit'.head hc)
  have htext : number ++ (blanks ++ tail) = number' ++ unit := by
    rw [← hs, h.text, hsign, List.nil_append]
  obtain ⟨hnumber, hrest⟩ :=
    append_inj_of_numeral h.number_digits h.end_of_digits hdigits hend htext
  have hblanks : blanks = [] := by
    cases hblanks : blanks with
    | nil => rfl
    | cons b blanks =>
      have hb := h.blanks b (hblanks ▸ List.mem_cons_self)
      have hletter : t.alphabetic b = true := hunit'.head (by rw [← hrest, hblanks]; rfl)
      rw [t.alphabetic_whitespace b hb] at hletter
      cases hletter
  rw [hblanks, List.nil_append] at hrest
  have hm : m = m' := h.tail.unique (hrest ▸ hunit')
  rw [hrest, hnumber, hm]
  exact ⟨hsign, hblanks, hunit, rfl, rfl⟩

/-- Disk sizes are exact or refused where nothing but a size that fits is read from the text. -/
theorem exact_iff (t : Unicode) (s : String) : Exact t s ↔ OnlySizes t s := by
  constructor
  · intro hexact sign number blanks tail m hreads hlt
    have hok : parseSizeStr t s = .ok (UInt64.ofNat (Nat.ofDigitChars 10 number 0 * m)) :=
      parseSizeStr_ok_iff.mpr ⟨sign, number, blanks, tail, m, hreads, hlt, rfl⟩
    obtain ⟨v, m', hsize, -⟩ := hexact.sound _ hok
    obtain ⟨hsign, hblanks, hunit, rfl, rfl⟩ := hreads.size hsize
    refine ⟨hsign, hblanks, hunit, ?_⟩
    by_contra hlarge
    obtain ⟨e, herror⟩ := hexact.large _ _ hsize (Nat.le_of_not_lt hlarge)
    rw [hok] at herror
    cases herror
  · intro honly
    have hsound : ∀ n, parseSizeStr t s = .ok n →
        ∃ v m, IsSize (trim s.toList) v m ∧ n.toNat = v * m ∧ v * m < 2 ^ 64 := by
      intro n hok
      obtain ⟨sign, number, blanks, tail, m, hreads, hlt, rfl⟩ := parseSizeStr_ok_iff.mp hok
      obtain ⟨hsign, hblanks, hunit, hfits⟩ := honly sign number blanks tail m hreads hlt
      refine ⟨_, m, ⟨number, tail, ?_, hreads.number_ne, hreads.number_digits, rfl, hunit⟩,
        UInt64.toNat_ofNat_of_lt' hfits, hfits⟩
      rw [hreads.text, hsign, hblanks, List.nil_append, List.nil_append]
    refine ⟨fun n hok => ?_, fun hother => ?_, fun v m hsize hlarge => ?_⟩
    · obtain ⟨v, m, hsize, hn, -⟩ := hsound n hok
      exact ⟨v, m, hsize, hn⟩
    · cases hparse : parseSizeStr t s with
      | error e => exact ⟨e, rfl⟩
      | ok n =>
        obtain ⟨v, m, hsize, -⟩ := hsound n hparse
        exact absurd ⟨v, m, hsize⟩ hother
    · cases hparse : parseSizeStr t s with
      | error e => exact ⟨e, rfl⟩
      | ok n =>
        obtain ⟨sign, number, blanks, tail, m', hreads, hlt, -⟩ := parseSizeStr_ok_iff.mp hparse
        obtain ⟨-, -, -, rfl, rfl⟩ := hreads.size hsize
        have hfits := (honly sign number blanks tail m' hreads hlt).2.2.2
        omega

/-- The product wraps: a size of 2⁶⁴ bytes is read as zero. -/
theorem wholeRange_inexact : parseSizeStr .ascii "17179869184G" = .ok 0 ∧
    ¬Exact .ascii "17179869184G" := by
  have hzero : parseSizeStr .ascii "17179869184G" = .ok 0 := by decide +kernel
  refine ⟨hzero, fun hexact => ?_⟩
  have hsize : IsSize (trim "17179869184G".toList) 17179869184 (1024 ^ 3) :=
    ⟨"17179869184".toList, ['G'], by decide +kernel, by decide,
      List.all_iff_forall_prop.mp (by decide), by decide, by decide⟩
  obtain ⟨e, herror⟩ := hexact.large _ _ hsize (by decide)
  rw [hzero] at herror
  cases herror

end Vyoma.DiskSizes
