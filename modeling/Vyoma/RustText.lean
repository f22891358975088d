import Mathlib.Algebra.Group.Nat.Defs
import Mathlib.Data.List.Basic
import Mathlib.Tactic.SplitIfs

/-!
# Text primitives of the Rust standard library

Strings are read as their lists of characters. The definitions follow the
documented behaviour of the `str` methods they are named after; comparison of
strings by code point agrees with comparison of their UTF-8 bytes.
-/
namespace Vyoma.RustText

/-- A statement about the characters of a list is decided on the list, not on all characters. -/
instance (priority := 2000) decidableForallMem (p : Char → Prop) [DecidablePred p]
    (cs : List Char) : Decidable (∀ c ∈ cs, p c) := List.decidableBAll p cs

/-- The value of a decimal digit, as `char::to_digit(10)` reads it. -/
def digit (c : Char) : Option ℕ :=
  if '0' ≤ c ∧ c ≤ '9' then some (c.toNat - '0'.toNat) else none

/-- Positional reading of a digit string; the first other character stops it. -/
def digits (acc : ℕ) : List Char → Option ℕ
  | [] => some acc
  | c :: cs => (digit c).bind fun d => digits (10 * acc + d) cs

/-- `str::parse` at an unsigned type of the given width: one optional plus sign,
at least one digit and nothing else, with a value that fits the type. -/
def parseUnsigned (bits : ℕ) (s : String) : Option ℕ :=
  let body := match s.toList with
    | '+' :: cs => cs
    | cs => cs
  if body = [] then none else (digits 0 body).filter (fun n => n < 2 ^ bits)

/-- `str::strip_prefix`. -/
def stripPrefix (p s : String) : Option String :=
  (p.toList.isPrefixOf? s.toList).map String.ofList

/-- The characters left when a prefix is taken off as long as it is there, at most `n` times. -/
def dropPrefixes (p : List Char) : ℕ → List Char → List Char
  | 0, cs => cs
  | n + 1, cs =>
    match p.isPrefixOf? cs with
    | some rest => dropPrefixes p n rest
    | none => cs

/-- `str::trim_start_matches` with a string that is not empty. -/
def trimStartMatches (p s : String) : String :=
  String.ofList (dropPrefixes p.toList s.toList.length s.toList)

/-- `str::splitn(2, sep)` when it yields two parts: what stands before the first
separator and all that follows it. -/
def splitOnce (sep : Char) (s : String) : Option (String × String) :=
  match s.toList.dropWhile (· ≠ sep) with
  | [] => none
  | _ :: after => some (String.ofList (s.toList.takeWhile (· ≠ sep)), String.ofList after)

/-- `char::is_whitespace`: the Unicode property White_Space. -/
def isWhitespace (c : Char) : Bool :=
  let n := c.toNat
  (9 ≤ n && n ≤ 13) || n = 32 || n = 0x85 || n = 0xA0 || n = 0x1680 || (0x2000 ≤ n && n ≤ 0x200A) ||
    n = 0x2028 || n = 0x2029 || n = 0x202F || n = 0x205F || n = 0x3000

/-- `str::trim`. -/
def trim (cs : List Char) : List Char :=
  ((cs.dropWhile isWhitespace).reverse.dropWhile isWhitespace).reverse

/-- A carriage return at the end of a line belongs to its terminator. -/
def stripReturn (cs : List Char) : List Char :=
  if cs.getLast? = some '\r' then cs.dropLast else cs

/-- `str::lines`: each line feed ends a line, and a carriage return right before it is
not part of the line; what follows the last line feed is a line unless it is empty. -/
def lines (cs : List Char) : List (List Char) :=
  let parts := cs.splitOn '\n'
  parts.dropLast.map stripReturn ++ (parts.getLast?.toList.filter (· ≠ []))

def continuation (b : UInt8) : Bool := 0x80 ≤ b && b ≤ 0xBF

/-- Whether the second byte of a longer sequence can follow its first. -/
def secondByte (b c : UInt8) : Bool :=
  if b = 0xE0 then 0xA0 ≤ c && c ≤ 0xBF
  else if b = 0xED then 0x80 ≤ c && c ≤ 0x9F
  else if b = 0xF0 then 0x90 ≤ c && c ≤ 0xBF
  else if b = 0xF4 then 0x80 ≤ c && c ≤ 0x8F
  else continuation c

/-- One step of `String::from_utf8_lossy`: the character at the start of the bytes and how
many bytes beyond the first it takes. A sequence that breaks off is replaced as a whole. -/
def decodeChar (b : UInt8) (rest : List UInt8) : Char × ℕ :=
  let replacement := Char.ofNat 0xFFFD
  if b < 0x80 then (Char.ofNat b.toNat, 0)
  else if 0xC2 ≤ b && b ≤ 0xDF then
    match rest with
    | c :: _ =>
      if continuation c then (Char.ofNat ((b.toNat % 32) * 64 + c.toNat % 64), 1)
      else (replacement, 0)
    | [] => (replacement, 0)
  else if 0xE0 ≤ b && b ≤ 0xEF then
    match rest with
    | c :: d :: _ =>
      if secondByte b c then
        if continuation d then
          (Char.ofNat ((b.toNat % 16) * 4096 + (c.toNat % 64) * 64 + d.toNat % 64), 2)
        else (replacement, 1)
      else (replacement, 0)
    | [c] => (replacement, if secondByte b c then 1 else 0)
    | [] => (replacement, 0)
  else if 0xF0 ≤ b && b ≤ 0xF4 then
    match rest with
    | c :: d :: e :: _ =>
      if secondByte b c then
        if continuation d then
          if continuation e then
            (Char.ofNat ((b.toNat % 8) * 262144 + (c.toNat % 64) * 4096 + (d.toNat % 64) * 64 +
              e.toNat % 64), 3)
          else (replacement, 2)
        else (replacement, 1)
      else (replacement, 0)
    | [c, d] => (replacement, if secondByte b c then if continuation d then 2 else 1 else 0)
    | [c] => (replacement, if secondByte b c then 1 else 0)
    | [] => (replacement, 0)
  else (replacement, 0)

/-- `String::from_utf8_lossy` from the byte after the first `skip` ones. -/
def decodeFrom : ℕ → List UInt8 → List Char
  | _, [] => []
  | 0, b :: rest => (decodeChar b rest).1 :: decodeFrom (decodeChar b rest).2 rest
  | skip + 1, _ :: rest => decodeFrom skip rest

def fromUtf8Lossy (bytes : List UInt8) : List Char := decodeFrom 0 bytes

/-- `str::as_bytes`. -/
def utf8 (s : String) : List UInt8 := s.toByteArray.data.toList

/-- `String::from_utf8` succeeds with the string that has these bytes. -/
theorem fromUTF8?_eq_some_iff {bytes : ByteArray} {s : String} :
    String.fromUTF8? bytes = some s ↔ s.toByteArray = bytes := by
  unfold String.fromUTF8?
  constructor
  · intro h
    split_ifs at h
    cases h
    rfl
  · rintro rfl
    rw [dif_pos s.isValidUTF8]
    rfl

theorem toByteArray_utf8 (s : String) : (utf8 s).toByteArray = s.toByteArray := by
  refine ByteArray.ext ?_
  rw [List.data_toByteArray, utf8, Array.toArray_toList]

theorem fromUTF8?_utf8 (s : String) : String.fromUTF8? (utf8 s).toByteArray = some s :=
  fromUTF8?_eq_some_iff.mpr (toByteArray_utf8 s).symm

theorem utf8_injective : Function.Injective utf8 := by
  intro s t h
  refine String.toByteArray_inj.mp ?_
  rw [← toByteArray_utf8, h, toByteArray_utf8]

theorem utf8_eq_flatMap (s : String) : utf8 s = s.toList.flatMap String.utf8EncodeChar := by
  rw [utf8, ← String.utf8Encode_toList, List.utf8Encode, List.toList_data_toByteArray]

theorem utf8_append (s t : String) : utf8 (s ++ t) = utf8 s ++ utf8 t := by
  rw [utf8_eq_flatMap, utf8_eq_flatMap, utf8_eq_flatMap, String.toList_append, List.flatMap_append]

/-- A byte below 128 stands for its own character only. -/
theorem notMem_utf8_of_ascii {s : String} {b : UInt8} (hascii : ∀ c ∈ s.toList, c.val ≤ 127)
    (h : ∀ c ∈ s.toList, c.val.toUInt8 ≠ b) : b ∉ utf8 s := by
  rw [utf8_eq_flatMap, List.mem_flatMap]
  rintro ⟨c, hc, hb⟩
  rw [String.utf8EncodeChar_eq_singleton (Char.utf8Size_eq_one_iff.mpr (hascii c hc)),
    List.mem_singleton] at hb
  exact h c hc hb.symm

theorem length_dropPrefixes_le (p : List Char) (n : ℕ) (cs : List Char) :
    (dropPrefixes p n cs).length ≤ cs.length := by
  induction n generalizing cs with
  | zero => exact Nat.le_refl _
  | succ n ih =>
    unfold dropPrefixes
    cases hrest : p.isPrefixOf? cs with
    | none => exact Nat.le_refl _
    | some rest =>
      have happend := List.isPrefixOf?_eq_some_iff_append_eq.mp hrest
      have hlength := congrArg List.length happend
      rw [List.length_append] at hlength
      have := ih rest
      show (dropPrefixes p n rest).length ≤ cs.length
      omega

/-- A prefix that is there is taken off. -/
theorem length_trimStartMatches_append_le {p : String} (hp : p ≠ "") (s : String) :
    (trimStartMatches p (p ++ s)).toList.length ≤ s.toList.length := by
  have hrest : p.toList.isPrefixOf? (p.toList ++ s.toList) = some s.toList :=
    List.isPrefixOf?_eq_some_iff_append_eq.mpr rfl
  obtain ⟨n, hn⟩ : ∃ n, (p.toList ++ s.toList).length = n + 1 := by
    have hlength : p.toList.length ≠ 0 := fun h =>
      hp (String.toList_eq_nil_iff.mp (List.length_eq_zero_iff.mp h))
    rw [List.length_append]
    exact Nat.exists_eq_succ_of_ne_zero (by omega)
  unfold trimStartMatches
  rw [String.toList_append, String.toList_ofList, hn]
  unfold dropPrefixes
  rw [hrest]
  exact length_dropPrefixes_le _ _ _

/-- A prefix that is there once is taken off once. -/
theorem trimStartMatches_append {p s : String} (hp : p ≠ "") (h : ¬p.toList <+: s.toList) :
    trimStartMatches p (p ++ s) = s := by
  have hfirst : p.toList.isPrefixOf? (p.toList ++ s.toList) = some s.toList :=
    List.isPrefixOf?_eq_some_iff_append_eq.mpr rfl
  have hsecond : p.toList.isPrefixOf? s.toList = none := by
    cases hrest : p.toList.isPrefixOf? s.toList with
    | none => rfl
    | some rest => exact absurd ⟨rest, List.isPrefixOf?_eq_some_iff_append_eq.mp hrest⟩ h
  obtain ⟨n, hn⟩ : ∃ n, (p.toList ++ s.toList).length = n + 1 := by
    have hlength : p.toList.length ≠ 0 := fun h =>
      hp (String.toList_eq_nil_iff.mp (List.length_eq_zero_iff.mp h))
    rw [List.length_append]
    exact Nat.exists_eq_succ_of_ne_zero (by omega)
  have hstop : dropPrefixes p.toList n s.toList = s.toList := by
    cases n with
    | zero => rfl
    | succ n => rw [dropPrefixes, hsecond]
  unfold trimStartMatches
  rw [String.toList_append, hn, dropPrefixes, hfirst]
  dsimp only
  rw [hstop, String.ofList_toList]

theorem splitOnce_of_notMem {sep : Char} {t : String} (h : sep ∉ t.toList) (v : String) :
    splitOnce sep (t ++ String.singleton sep ++ v) = some (t, v) := by
  have htext : (t ++ String.singleton sep ++ v).toList = t.toList ++ sep :: v.toList := by simp
  have hbefore : ∀ c ∈ t.toList, decide (c ≠ sep) = true := by
    intro c hc
    exact decide_eq_true fun he => h (he ▸ hc)
  unfold splitOnce
  rw [htext, List.takeWhile_append_of_pos hbefore, List.dropWhile_append_of_pos hbefore]
  simp

/-- Two pairs of texts joined by one separator give the same text exactly when they are
equal, or when the longer first part holds a separator itself and the cut moves there. -/
theorem join_eq_join_iff (sep : Char) {a b a' b' : String} :
    a ++ String.singleton sep ++ b = a' ++ String.singleton sep ++ b' ↔
      (a = a' ∧ b = b') ∨
      (∃ x, a = a' ++ String.singleton sep ++ x ∧ b' = x ++ String.singleton sep ++ b) ∨
      ∃ x, a' = a ++ String.singleton sep ++ x ∧ b = x ++ String.singleton sep ++ b' := by
  constructor
  · intro h
    have hlist : a.toList ++ sep :: b.toList = a'.toList ++ sep :: b'.toList := by
      simpa using congrArg String.toList h
    obtain ⟨cs, ha', hb⟩ | ⟨cs, ha, hb'⟩ := List.append_eq_append_iff.mp hlist
    · cases cs with
      | nil =>
        refine .inl ⟨?_, ?_⟩
        · exact (String.toList_inj.mp (by simpa using ha')).symm
        · exact String.toList_inj.mp (by simpa using hb)
      | cons c cs =>
        obtain ⟨rfl, hrest⟩ := List.cons.inj hb
        refine .inr (.inr ⟨String.ofList cs, ?_, ?_⟩)
        · exact String.toList_inj.mp (by simpa using ha')
        · exact String.toList_inj.mp (by simpa using hrest)
    · cases cs with
      | nil =>
        refine .inl ⟨?_, ?_⟩
        · exact String.toList_inj.mp (by simpa using ha)
        · exact (String.toList_inj.mp (by simpa using hb')).symm
      | cons c cs =>
        obtain ⟨rfl, hrest⟩ := List.cons.inj hb'
        refine .inr (.inl ⟨String.ofList cs, ?_, ?_⟩)
        · exact String.toList_inj.mp (by simpa using ha)
        · exact String.toList_inj.mp (by simpa using hrest)
  · intro h
    obtain ⟨rfl, rfl⟩ | ⟨x, rfl, rfl⟩ | ⟨x, rfl, rfl⟩ := h
    · rfl
    · simp only [String.append_assoc]
    · simp only [String.append_assoc]

theorem isSome_digit_of_mem {cs : List Char} {acc n : ℕ} (h : digits acc cs = some n) {c : Char}
    (hc : c ∈ cs) : (digit c).isSome := by
  induction cs generalizing acc with
  | nil => cases hc
  | cons d cs ih =>
    rw [digits, Option.bind_eq_some_iff] at h
    obtain ⟨k, hk, hrest⟩ := h
    obtain rfl | hc := List.mem_cons.mp hc
    · rw [hk]
      rfl
    · exact ih hrest hc

/-- A number that parses holds no character besides digits and a plus sign. -/
theorem notMem_of_parseUnsigned {bits n : ℕ} {t : String} (h : parseUnsigned bits t = some n)
    {c : Char} (hdigit : digit c = none) (hplus : c ≠ '+') : c ∉ t.toList := by
  intro hc
  simp only [parseUnsigned] at h
  split_ifs at h
  rw [Option.filter_eq_some_iff] at h
  have hbody := h.1
  split at hbody
  · rename_i cs heq
    rw [heq] at hc
    have hsome := isSome_digit_of_mem hbody ((List.mem_cons.mp hc).resolve_left hplus)
    rw [hdigit] at hsome
    cases hsome
  · have hsome := isSome_digit_of_mem hbody hc
    rw [hdigit] at hsome
    cases hsome

/-! ## Numbers written and read -/

theorem toNat_of_isDigit {c : Char} (h : c.isDigit = true) :
    48 ≤ c.val.toNat ∧ c.val.toNat ≤ 57 := by
  rw [Char.isDigit, Bool.and_eq_true, decide_eq_true_eq, decide_eq_true_eq] at h
  exact h

theorem isWhitespace_of_isDigit {c : Char} (h : c.isDigit = true) : isWhitespace c = false := by
  obtain ⟨hlow, hhigh⟩ := toNat_of_isDigit h
  have hval : c.toNat = c.val.toNat := rfl
  rw [Bool.eq_false_iff]
  simp only [isWhitespace, ne_eq, Bool.or_eq_true, Bool.and_eq_true, decide_eq_true_eq]
  omega

theorem digit_of_isDigit {c : Char} (h : c.isDigit = true) :
    digit c = some (c.toNat - '0'.toNat) := by
  unfold digit
  refine if_pos ?_
  rw [Char.isDigit, Bool.and_eq_true, decide_eq_true_eq, decide_eq_true_eq] at h
  exact h

theorem digits_of_isDigit {cs : List Char} (h : ∀ c ∈ cs, c.isDigit = true) (acc : ℕ) :
    digits acc cs = some (Nat.ofDigitChars 10 cs acc) := by
  induction cs generalizing acc with
  | nil => rfl
  | cons c cs ih =>
    rw [digits, digit_of_isDigit (h c List.mem_cons_self), Option.bind_some,
      ih (fun d hd => h d (List.mem_cons_of_mem _ hd))]
    rfl

theorem isDigit_of_mem_toString {n : ℕ} {c : Char} (h : c ∈ (toString n).toList) :
    c.isDigit = true := by
  rw [Nat.toString_eq_repr, Nat.toList_repr] at h
  exact Nat.isDigit_of_mem_toDigits (by decide) (by decide) h

/-- A number within its type is read back from its text. -/
theorem parseUnsigned_toString {bits n : ℕ} (h : n < 2 ^ bits) :
    parseUnsigned bits (toString n) = some n := by
  have hdigits : ∀ c ∈ (toString n).toList, c.isDigit = true := fun c => isDigit_of_mem_toString
  have hlist : (toString n).toList = Nat.toDigits 10 n := by
    rw [Nat.toString_eq_repr, Nat.toList_repr]
  have hvalue : digits 0 (toString n).toList = some n := by
    rw [digits_of_isDigit hdigits, hlist, Nat.ofDigitChars_toDigits (by decide) (by decide)]
  have hplus : ∀ cs, (toString n).toList ≠ '+' :: cs := by
    intro cs hcs
    have hdigit := hdigits '+' (hcs ▸ List.mem_cons_self)
    cases hdigit
  unfold parseUnsigned
  generalize (toString n).toList = cs at *
  have hne : cs ≠ [] := by
    rw [hlist]
    exact Nat.toDigits_ne_nil
  split
  · exact absurd rfl (hplus _)
  · simp only [if_neg hne, hvalue, Option.filter_some, decide_eq_true h, if_true]

theorem dropWhile_of_forall {cs : List Char} (h : ∀ c ∈ cs, isWhitespace c = false) :
    cs.dropWhile isWhitespace = cs := by
  cases cs with
  | nil => rfl
  | cons c cs => rw [List.dropWhile_cons_of_neg (by rw [h c List.mem_cons_self]; decide)]

theorem trim_line {cs : List Char} (h : ∀ c ∈ cs, isWhitespace c = false) :
    trim (cs ++ ['\n']) = cs := by
  cases cs with
  | nil => decide
  | cons c rest =>
    have hfirst : ¬isWhitespace c = true := by
      rw [h c List.mem_cons_self]
      decide
    have hback : ∀ d ∈ (c :: rest).reverse, isWhitespace d = false :=
      fun d hd => h d (List.mem_reverse.mp hd)
    unfold trim
    rw [List.cons_append, List.dropWhile_cons_of_neg hfirst, ← List.cons_append,
      List.reverse_append, List.reverse_singleton, List.singleton_append,
      List.dropWhile_cons_of_pos (by decide), dropWhile_of_forall hback, List.reverse_reverse]

theorem natRepr_injective {m n : ℕ} (h : m.repr = n.repr) : m = n := by
  have hdigits : Nat.toDigits 10 m = Nat.toDigits 10 n := by
    rw [← Nat.toList_repr, ← Nat.toList_repr, h]
  have hvalue := congrArg (fun ds => Nat.ofDigitChars 10 ds 0) hdigits
  simpa using hvalue

/-- A literal is checked by its characters, without reading its bytes. -/
theorem of_ofList {p : List Char → Prop} {s : String} {cs : List Char} (h : s = String.ofList cs)
    (hp : p cs) : p s.toList := by
  rw [h, String.toList_ofList]
  exact hp

theorem append_eq_ofList {a b : String} {cs ds : List Char} (ha : a = String.ofList cs)
    (hb : b = String.ofList ds) : a ++ b = String.ofList (cs ++ ds) := by
  rw [ha, hb, String.ofList_append]

end Vyoma.RustText
