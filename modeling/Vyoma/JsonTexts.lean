import Vyoma.Utf8Chunks

/-!
# JSON texts

The texts of the JSON grammar with all that a value does not show: the blanks between the
tokens, the escapes in the strings, the spelling of the numbers. A text whose UTF-8 bytes are
read as one character each is a text again.
-/
namespace Vyoma.JsonTexts

open RustText

inductive Blank
  | space
  | tab
  | newline
  | carriageReturn

def Blank.char : Blank → Char
  | .space => ' '
  | .tab => '\t'
  | .newline => '\n'
  | .carriageReturn => '\r'

/-- The characters that are escaped by a letter. -/
inductive Escape
  | quote
  | backslash
  | slash
  | backspace
  | formFeed
  | newline
  | carriageReturn
  | tab

def Escape.letter : Escape → Char
  | .quote => '"'
  | .backslash => '\\'
  | .slash => '/'
  | .backspace => 'b'
  | .formFeed => 'f'
  | .newline => 'n'
  | .carriageReturn => 'r'
  | .tab => 't'

def Escape.char : Escape → Char
  | .quote => '"'
  | .backslash => '\\'
  | .slash => '/'
  | .backspace => Char.ofNat 8
  | .formFeed => Char.ofNat 12
  | .newline => '\n'
  | .carriageReturn => '\r'
  | .tab => '\t'

structure HexDigit where
  value : Fin 16
  upper : Bool

def HexDigit.char (d : HexDigit) : Char :=
  if d.value.val < 10 then Char.ofNat (48 + d.value.val)
  else if d.upper then Char.ofNat (55 + d.value.val)
  else Char.ofNat (87 + d.value.val)

/-- The characters that stand in a string for themselves. -/
def Plain (c : Char) : Prop := c ≠ '"' ∧ c ≠ '\\' ∧ 0x20 ≤ c.val

instance (c : Char) : Decidable (Plain c) :=
  inferInstanceAs (Decidable (c ≠ '"' ∧ c ≠ '\\' ∧ 0x20 ≤ c.val))

inductive Piece
  | plain (c : Char) (h : Plain c)
  | escape (e : Escape)
  | unicode (a b c d : HexDigit)

def Piece.text : Piece → List Char
  | .plain c _ => [c]
  | .escape e => ['\\', e.letter]
  | .unicode a b c d => ['\\', 'u', a.char, b.char, c.char, d.char]

/-- The number that the four digits of an escape stand for. -/
def codeUnit (a b c d : HexDigit) : ℕ :=
  ((a.value.val * 16 + b.value.val) * 16 + c.value.val) * 16 + d.value.val

def surrogates (high low : ℕ) : Char :=
  Char.ofNat (0x10000 + (high - 0xD800) * 0x400 + (low - 0xDC00))

/-- The text that a string stands for: beyond the first plane a character is a pair of
surrogates, which have no meaning alone. -/
def content : List Piece → Option (List Char)
  | [] => some []
  | .plain c _ :: s => (content s).map (c :: ·)
  | .escape e :: s => (content s).map (e.char :: ·)
  | .unicode a b c d :: s =>
    if codeUnit a b c d < 0xD800 ∨ 0xE000 ≤ codeUnit a b c d then
      (content s).map (Char.ofNat (codeUnit a b c d) :: ·)
    else if codeUnit a b c d < 0xDC00 then
      match s with
      | .unicode a' b' c' d' :: s =>
        if 0xDC00 ≤ codeUnit a' b' c' d' ∧ codeUnit a' b' c' d' < 0xE000 then
          (content s).map (surrogates (codeUnit a b c d) (codeUnit a' b' c' d') :: ·)
        else none
      | _ => none
    else none

/-- A string as it is written. -/
def quoted (s : List Piece) : List Char := '"' :: s.flatMap Piece.text ++ ['"']

structure Digits where
  first : Fin 10
  more : List (Fin 10)

def Digits.text (ds : Digits) : List Char :=
  (ds.first :: ds.more).map fun d => Char.ofNat (48 + d.val)

structure Exponent where
  upper : Bool
  /-- Whether there is a sign, and whether it is a minus. -/
  sign : Option Bool
  digits : Digits

def Exponent.text (e : Exponent) : List Char :=
  (if e.upper then 'E' else 'e') ::
    (e.sign.toList.map fun minus => if minus then '-' else '+') ++ e.digits.text

structure Number where
  minus : Bool
  integer : ℕ
  fraction : Option Digits
  exponent : Option Exponent

def Number.text (n : Number) : List Char :=
  (if n.minus then ['-'] else []) ++ (toString n.integer).toList ++
    (n.fraction.toList.flatMap fun ds => '.' :: ds.text) ++
    n.exponent.toList.flatMap Exponent.text

inductive Word
  | null
  | true
  | false

def Word.text : Word → List Char
  | .null => ['n', 'u', 'l', 'l']
  | .true => ['t', 'r', 'u', 'e']
  | .false => ['f', 'a', 'l', 's', 'e']

/-- What stands before the value of a member. -/
structure Key where
  before : List Blank
  pieces : List Piece
  after : List Blank
  gap : List Blank

def Key.text (k : Key) : List Char :=
  k.before.map Blank.char ++ quoted k.pieces ++ k.after.map Blank.char ++ ':' :: k.gap.map Blank.char

inductive Part
  | value
  | items
  | members
  | body

/-- A text of the grammar: a value, the items of an array, the members of an object, or what
stands between the braces of an object. -/
inductive Tree : Part → Type
  | word (w : Word) : Tree .value
  | number (n : Number) : Tree .value
  | string (s : List Piece) : Tree .value
  | emptyArray (blanks : List Blank) : Tree .value
  | array (items : Tree .items) : Tree .value
  | object (body : Tree .body) : Tree .value
  | lastItem (before : List Blank) (v : Tree .value) (after : List Blank) : Tree .items
  | item (before : List Blank) (v : Tree .value) (after : List Blank) (more : Tree .items) :
    Tree .items
  | lastMember (key : Key) (v : Tree .value) (after : List Blank) : Tree .members
  | member (key : Key) (v : Tree .value) (after : List Blank) (more : Tree .members) :
    Tree .members
  | noMembers (blanks : List Blank) : Tree .body
  | members (ms : Tree .members) : Tree .body

namespace Tree

def text : {p : Part} → Tree p → List Char
  | _, .word w => w.text
  | _, .number n => n.text
  | _, .string s => quoted s
  | _, .emptyArray blanks => '[' :: blanks.map Blank.char ++ [']']
  | _, .array items => '[' :: items.text ++ [']']
  | _, .object body => '{' :: body.text ++ ['}']
  | _, .lastItem before v after => before.map Blank.char ++ v.text ++ after.map Blank.char
  | _, .item before v after more =>
    before.map Blank.char ++ v.text ++ after.map Blank.char ++ [','] ++ more.text
  | _, .lastMember key v after => key.text ++ v.text ++ after.map Blank.char
  | _, .member key v after more =>
    key.text ++ v.text ++ after.map Blank.char ++ [','] ++ more.text
  | _, .noMembers blanks => blanks.map Blank.char
  | _, .members ms => ms.text

/-- How deep the braces are nested. -/
def nesting : {p : Part} → Tree p → ℕ
  | _, .word _ | _, .number _ | _, .string _ | _, .emptyArray _ | _, .noMembers _ => 0
  | _, .array items => items.nesting
  | _, .object body => body.nesting + 1
  | _, .lastItem _ v _ => v.nesting
  | _, .item _ v _ more => max v.nesting more.nesting
  | _, .lastMember _ v _ => v.nesting
  | _, .member _ v _ more => max v.nesting more.nesting
  | _, .members ms => ms.nesting

/-- How deep arrays and objects are nested. -/
def depth : {p : Part} → Tree p → ℕ
  | _, .word _ | _, .number _ | _, .string _ | _, .noMembers _ => 0
  | _, .emptyArray _ => 1
  | _, .array items => items.depth + 1
  | _, .object body => body.depth + 1
  | _, .lastItem _ v _ => v.depth
  | _, .item _ v _ more => max v.depth more.depth
  | _, .lastMember _ v _ => v.depth
  | _, .member _ v _ more => max v.depth more.depth
  | _, .members ms => ms.depth

end Tree

/-! ## Characters -/

/-- The characters between the strings and the braces. -/
def between (c : Char) : Bool :=
  c.val ≤ 127 && c != '"' && c != '\\' && c != '{' && c != '}'

theorem Blank.between (b : Blank) : between b.char = true := by
  cases b <;> decide

theorem between_blanks (blanks : List Blank) : ∀ c ∈ blanks.map Blank.char, between c = true := by
  rw [List.forall_mem_map]
  exact fun b _ => b.between

theorem between_word (w : Word) : ∀ c ∈ w.text, between c = true := by
  cases w <;> decide

theorem Digits.between (ds : Digits) : ∀ c ∈ ds.text, between c = true := by
  have hdigit : ∀ d : Fin 10, JsonTexts.between (Char.ofNat (48 + d.val)) = true := by decide
  rw [Digits.text, List.forall_mem_map]
  exact fun d _ => hdigit d

theorem between_of_isDigit {c : Char} (h : c.isDigit = true) : between c = true := by
  have hascii : c.val ≤ 127 := by
    have hdigit := toNat_of_isDigit h
    rw [UInt32.le_iff_toNat_le]
    exact hdigit.2.trans (by decide)
  have hne : ∀ d : Char, d.isDigit = false → c ≠ d := by
    rintro d hd rfl
    exact Bool.false_ne_true (hd.symm.trans h)
  simp [between, hascii, hne]

theorem Exponent.between (e : Exponent) : ∀ c ∈ e.text, between c = true := by
  have hsign : ∀ c ∈ e.sign.toList.map fun minus => if minus then '-' else '+',
      JsonTexts.between c = true := by
    rw [List.forall_mem_map]
    intro minus _
    cases minus <;> decide
  rw [Exponent.text, List.cons_append, List.forall_mem_cons, List.forall_mem_append]
  exact ⟨by cases e.upper <;> decide, hsign, e.digits.between⟩

theorem Number.between (n : Number) : ∀ c ∈ n.text, between c = true := by
  have hfraction : ∀ c ∈ n.fraction.toList.flatMap fun ds => '.' :: ds.text,
      JsonTexts.between c = true := by
    intro c hc
    obtain ⟨ds, -, hc⟩ := List.mem_flatMap.mp hc
    exact List.forall_mem_cons.mpr ⟨by decide, ds.between⟩ c hc
  have hexponent : ∀ c ∈ n.exponent.toList.flatMap Exponent.text, JsonTexts.between c = true := by
    intro c hc
    obtain ⟨e, -, hc⟩ := List.mem_flatMap.mp hc
    exact e.between c hc
  rw [Number.text, List.forall_mem_append, List.forall_mem_append, List.forall_mem_append]
  exact ⟨⟨⟨by cases n.minus <;> decide, fun c hc => between_of_isDigit (isDigit_of_mem_toString hc)⟩,
    hfraction⟩, hexponent⟩

theorem HexDigit.plain (d : HexDigit) : Plain d.char ∧ d.char.val ≤ 127 := by
  obtain ⟨value, upper⟩ := d
  unfold Plain
  cases upper <;> revert value <;> decide

theorem Escape.ascii (e : Escape) : e.letter.val ≤ 127 := by
  cases e <;> decide

/-- The bytes of a plain character are plain characters. -/
theorem plain_byteChar {c : Char} (h : Plain c) :
    ∀ b ∈ String.utf8EncodeChar c, Plain (byteChar b) := by
  intro b hb
  by_cases hc : c.val ≤ 127
  · obtain ⟨d, hd, hchar⟩ := encodeChar_ascii hc
    rw [hd, List.mem_singleton] at hb
    rwa [hb, hchar]
  · have hhigh : 128 ≤ (byteChar b).val.toNat := toNat_byteChar b ▸ (encodeChar_high hc).2 b hb
    have hne : ∀ a : Char, a.val.toNat < 128 → byteChar b ≠ a := by
      rintro a ha rfl
      omega
    refine ⟨hne _ (by decide), hne _ (by decide), ?_⟩
    rw [UInt32.le_iff_toNat_le]
    exact le_trans (by decide) hhigh

/-! ## Texts read byte by byte -/

theorem ascii_of_between {cs : List Char} (h : ∀ c ∈ cs, between c = true) :
    ∀ c ∈ cs, c.val ≤ 127 := by
  intro c hc
  have hbetween := h c hc
  simp only [between, Bool.and_eq_true, decide_eq_true_eq] at hbetween
  exact hbetween.1.1.1.1

theorem forall_mem_brackets {p : Char → Prop} {a b : Char} {cs : List Char} :
    (∀ c ∈ a :: cs ++ [b], p c) ↔ p a ∧ (∀ c ∈ cs, p c) ∧ p b := by
  rw [List.cons_append, List.forall_mem_cons, List.forall_mem_append, List.forall_mem_singleton]

theorem bytewise_brackets {a b : Char} (ha : a.val ≤ 127) (hb : b.val ≤ 127) (cs : List Char) :
    bytewise (a :: cs ++ [b]) = a :: bytewise cs ++ [b] := by
  have hone : ∀ {c : Char}, c.val ≤ 127 → bytewise [c] = [c] :=
    fun h => bytewise_of_ascii (List.forall_mem_singleton.mpr h)
  rw [← List.singleton_append, bytewise_append, bytewise_append, hone ha, hone hb]
  rfl

theorem ascii_quoted {s : List Piece} (h : ∀ c ∈ s.flatMap Piece.text, c.val ≤ 127) :
    ∀ c ∈ quoted s, c.val ≤ 127 :=
  forall_mem_brackets.mpr ⟨by decide, h, by decide⟩

theorem ascii_blanks (blanks : List Blank) : ∀ c ∈ blanks.map Blank.char, c.val ≤ 127 :=
  ascii_of_between (between_blanks blanks)

theorem bytewise_blanks (blanks : List Blank) :
    bytewise (blanks.map Blank.char) = blanks.map Blank.char :=
  bytewise_of_ascii (ascii_blanks blanks)

theorem Key.ascii {k : Key} (h : ∀ c ∈ k.pieces.flatMap Piece.text, c.val ≤ 127) :
    ∀ c ∈ k.text, c.val ≤ 127 := by
  rw [Key.text, List.forall_mem_append, List.forall_mem_append, List.forall_mem_append,
    List.forall_mem_cons]
  exact ⟨⟨⟨ascii_blanks k.before, ascii_quoted h⟩, ascii_blanks k.after⟩, by decide,
    ascii_blanks k.gap⟩

/-- What stands for a piece when its bytes are read as characters. -/
def Piece.bytewise : Piece → List Piece
  | .plain c h => (String.utf8EncodeChar c).pmap (fun b hb => .plain (byteChar b) hb)
      (plain_byteChar h)
  | .escape e => [.escape e]
  | .unicode a b c d => [.unicode a b c d]

def Key.bytewise (k : Key) : Key := { k with pieces := k.pieces.flatMap Piece.bytewise }

def Tree.bytewise : {p : Part} → Tree p → Tree p
  | _, .word w => .word w
  | _, .number n => .number n
  | _, .string s => .string (s.flatMap Piece.bytewise)
  | _, .emptyArray blanks => .emptyArray blanks
  | _, .array items => .array items.bytewise
  | _, .object body => .object body.bytewise
  | _, .lastItem before v after => .lastItem before v.bytewise after
  | _, .item before v after more => .item before v.bytewise after more.bytewise
  | _, .lastMember key v after => .lastMember key.bytewise v.bytewise after
  | _, .member key v after more => .member key.bytewise v.bytewise after more.bytewise
  | _, .noMembers blanks => .noMembers blanks
  | _, .members ms => .members ms.bytewise

theorem Escape.ascii_text (e : Escape) : ∀ c ∈ (Piece.escape e).text, c.val ≤ 127 :=
  List.forall_mem_cons.mpr ⟨by decide, List.forall_mem_singleton.mpr e.ascii⟩

theorem ascii_unicode (a b c d : HexDigit) : ∀ x ∈ (Piece.unicode a b c d).text, x.val ≤ 127 := by
  have hdigits : ∀ x ∈ [a, b, c, d].map HexDigit.char, x.val ≤ 127 := by
    rw [List.forall_mem_map]
    exact fun x _ => x.plain.2
  exact List.forall_mem_cons.mpr ⟨by decide, List.forall_mem_cons.mpr ⟨by decide, hdigits⟩⟩

theorem text_bytewise_plain {c : Char} (h : Plain c) :
    (Piece.plain c h).bytewise.flatMap Piece.text = bytewise [c] := by
  have hpieces : ∀ (bytes : List UInt8) (hbytes : ∀ b ∈ bytes, Plain (byteChar b)),
      (bytes.pmap (fun b hb => Piece.plain (byteChar b) hb) hbytes).flatMap Piece.text =
        bytes.map byteChar := by
    intro bytes hbytes
    induction bytes with
    | nil => rfl
    | cons b bytes ih =>
      rw [List.pmap, List.flatMap_cons, ih, List.map_cons]
      rfl
  rw [Piece.bytewise, hpieces, bytewise, encoded, List.flatMap_singleton]

theorem text_bytewise_piece (p : Piece) : p.bytewise.flatMap Piece.text = bytewise p.text := by
  cases p with
  | plain c h => exact text_bytewise_plain h
  | escape e =>
    rw [bytewise_of_ascii e.ascii_text]
    exact List.append_nil _
  | unicode a b c d =>
    rw [bytewise_of_ascii (ascii_unicode a b c d)]
    exact List.append_nil _

theorem quoted_bytewise (s : List Piece) :
    quoted (s.flatMap Piece.bytewise) = bytewise (quoted s) := by
  have hpieces : (s.flatMap Piece.bytewise).flatMap Piece.text =
      bytewise (s.flatMap Piece.text) := by
    induction s with
    | nil => rfl
    | cons p s ih =>
      rw [List.flatMap_cons, List.flatMap_append, text_bytewise_piece, ih, List.flatMap_cons,
        bytewise_append]
  rw [quoted, quoted, hpieces, bytewise_brackets (by decide) (by decide)]

theorem Key.text_bytewise (k : Key) : k.bytewise.text = RustText.bytewise k.text := by
  have hcolon : RustText.bytewise (':' :: k.gap.map Blank.char) = ':' :: k.gap.map Blank.char := by
    rw [← List.singleton_append, bytewise_append, bytewise_blanks, bytewise_of_ascii (by decide)]
  rw [Key.text, Key.text, bytewise_append, bytewise_append, bytewise_append, hcolon,
    bytewise_blanks, bytewise_blanks, ← quoted_bytewise]
  rfl

theorem Tree.text_bytewise {p : Part} (t : Tree p) : t.bytewise.text = RustText.bytewise t.text := by
  have hcomma : RustText.bytewise [','] = [','] := bytewise_of_ascii (by decide)
  induction t with
  | word w => exact (bytewise_of_ascii (ascii_of_between (between_word w))).symm
  | number n => exact (bytewise_of_ascii (ascii_of_between n.between)).symm
  | string s => exact quoted_bytewise s
  | emptyArray blanks =>
    rw [Tree.bytewise, Tree.text, bytewise_brackets (by decide) (by decide), bytewise_blanks]
  | array items ih =>
    rw [Tree.bytewise, Tree.text, Tree.text, bytewise_brackets (by decide) (by decide), ih]
  | object body ih =>
    rw [Tree.bytewise, Tree.text, Tree.text, bytewise_brackets (by decide) (by decide), ih]
  | lastItem before v after ih =>
    rw [Tree.bytewise, Tree.text, Tree.text, bytewise_append, bytewise_append, bytewise_blanks,
      bytewise_blanks, ih]
  | item before v after more ih ihmore =>
    rw [Tree.bytewise, Tree.text, Tree.text, bytewise_append, bytewise_append, bytewise_append,
      bytewise_append, bytewise_blanks, bytewise_blanks, hcomma, ih, ihmore]
  | lastMember key v after ih =>
    rw [Tree.bytewise, Tree.text, Tree.text, bytewise_append, bytewise_append, bytewise_blanks,
      Key.text_bytewise, ih]
  | member key v after more ih ihmore =>
    rw [Tree.bytewise, Tree.text, Tree.text, bytewise_append, bytewise_append, bytewise_append,
      bytewise_append, bytewise_blanks, Key.text_bytewise, hcomma, ih, ihmore]
  | noMembers blanks => exact (bytewise_blanks blanks).symm
  | members ms ih => exact ih

/-! ## The strings of such a text -/

theorem bytewise_of_ascii_pieces {s : List Piece} (h : ∀ c ∈ s.flatMap Piece.text, c.val ≤ 127) :
    s.flatMap Piece.bytewise = s := by
  induction s with
  | nil => rfl
  | cons p s ih =>
    rw [List.flatMap_cons, List.forall_mem_append] at h
    rw [List.flatMap_cons, ih h.2]
    cases p with
    | plain c hplain =>
      obtain ⟨b, hb, hchar⟩ := encodeChar_ascii (h.1 c (List.mem_singleton_self c))
      simp only [Piece.bytewise, hb, List.pmap, hchar]
      rfl
    | escape e => rfl
    | unicode a b c d => rfl

theorem content_escape (e : Escape) (s : List Piece) :
    content (.escape e :: s) = (content s).map (e.char :: ·) := by
  simp [content]

theorem content_unicode {a b c d : HexDigit}
    (h : codeUnit a b c d < 0xD800 ∨ 0xE000 ≤ codeUnit a b c d) (s : List Piece) :
    content (.unicode a b c d :: s) = (content s).map (Char.ofNat (codeUnit a b c d) :: ·) := by
  conv_lhs => unfold content
  exact if_pos h

theorem content_pair {a b c d a' b' c' d' : HexDigit}
    (h : ¬(codeUnit a b c d < 0xD800 ∨ 0xE000 ≤ codeUnit a b c d)) (hlead : codeUnit a b c d < 0xDC00)
    (htrail : 0xDC00 ≤ codeUnit a' b' c' d' ∧ codeUnit a' b' c' d' < 0xE000) (s : List Piece) :
    content (.unicode a b c d :: .unicode a' b' c' d' :: s) =
      (content s).map (surrogates (codeUnit a b c d) (codeUnit a' b' c' d') :: ·) := by
  conv_lhs => unfold content
  rw [if_neg h, if_pos hlead]
  exact if_pos htrail

/-- A text stands for ASCII only when it is ASCII but for its escapes. -/
theorem ascii_pieces {s : List Piece} {cs : List Char} (h : content s = some cs)
    (hcs : ∀ c ∈ cs, c.val ≤ 127) : ∀ c ∈ s.flatMap Piece.text, c.val ≤ 127 := by
  fun_induction content s generalizing cs with
  | case1 => simp
  | case2 c hplain s ih =>
    obtain ⟨ds, hds, rfl⟩ := Option.map_eq_some_iff.mp h
    rw [List.forall_mem_cons] at hcs
    exact List.forall_mem_cons.mpr ⟨hcs.1, ih hds hcs.2⟩
  | case3 e s ih =>
    obtain ⟨ds, hds, rfl⟩ := Option.map_eq_some_iff.mp h
    rw [List.forall_mem_cons] at hcs
    exact List.forall_mem_append.mpr ⟨e.ascii_text, ih hds hcs.2⟩
  | case4 a b c d s hunit ih =>
    obtain ⟨ds, hds, rfl⟩ := Option.map_eq_some_iff.mp h
    rw [List.forall_mem_cons] at hcs
    exact List.forall_mem_append.mpr ⟨ascii_unicode a b c d, ih hds hcs.2⟩
  | case5 a b c d hunit hlead a' b' c' d' s htrail ih =>
    obtain ⟨ds, hds, rfl⟩ := Option.map_eq_some_iff.mp h
    rw [List.forall_mem_cons] at hcs
    exact List.forall_mem_append.mpr ⟨ascii_unicode a b c d,
      List.forall_mem_append.mpr ⟨ascii_unicode a' b' c' d', ih hds hcs.2⟩⟩
  | _ => cases h

theorem content_plains {bytes : List UInt8} (hbytes : ∀ b ∈ bytes, Plain (byteChar b))
    (s : List Piece) :
    content (bytes.pmap (fun b hb => Piece.plain (byteChar b) hb) hbytes ++ s) =
      (content s).map (bytes.map byteChar ++ ·) := by
  induction bytes with
  | nil => exact Option.map_id'.symm
  | cons b bytes ih =>
    rw [List.pmap, List.cons_append, content, ih, Option.map_map]
    rfl

/-- Read byte by byte a string does not get shorter, and gets longer beyond ASCII. -/
theorem content_bytewise {s : List Piece} {cs : List Char} (h : content s = some cs) :
    ∃ ds, content (s.flatMap Piece.bytewise) = some ds ∧ cs.length ≤ ds.length ∧
      (ds.length = cs.length → ∀ c ∈ s.flatMap Piece.text, c.val ≤ 127) := by
  fun_induction content s generalizing cs with
  | case1 =>
    cases h
    exact ⟨[], rfl, le_rfl, by simp⟩
  | case2 c hplain s ih =>
    obtain ⟨es, hes, rfl⟩ := Option.map_eq_some_iff.mp h
    obtain ⟨ds, hds, hle, hascii⟩ := ih hes
    refine ⟨(String.utf8EncodeChar c).map byteChar ++ ds, ?_, ?_⟩
    · rw [List.flatMap_cons, Piece.bytewise, content_plains, hds]
      rfl
    · rw [List.length_append, List.length_map, List.length_cons, List.flatMap_cons, Piece.text,
        List.singleton_append, List.forall_mem_cons]
      by_cases hc : c.val ≤ 127
      · obtain ⟨b, hb, -⟩ := encodeChar_ascii hc
        rw [hb, List.length_singleton]
        exact ⟨by omega, fun heq => ⟨hc, hascii (by omega)⟩⟩
      · have hhigh := (encodeChar_high hc).1
        exact ⟨by omega, fun heq => by omega⟩
  | case3 e s ih =>
    obtain ⟨es, hes, rfl⟩ := Option.map_eq_some_iff.mp h
    obtain ⟨ds, hds, hle, hascii⟩ := ih hes
    refine ⟨e.char :: ds, ?_, Nat.succ_le_succ hle, fun heq => ?_⟩
    · rw [List.flatMap_cons, Piece.bytewise, List.singleton_append, content_escape, hds]
      rfl
    · exact List.forall_mem_append.mpr ⟨e.ascii_text, hascii (Nat.succ.inj heq)⟩
  | case4 a b c d s hunit ih =>
    obtain ⟨es, hes, rfl⟩ := Option.map_eq_some_iff.mp h
    obtain ⟨ds, hds, hle, hascii⟩ := ih hes
    refine ⟨Char.ofNat (codeUnit a b c d) :: ds, ?_, Nat.succ_le_succ hle, fun heq => ?_⟩
    · rw [List.flatMap_cons, Piece.bytewise, List.singleton_append, content_unicode hunit, hds]
      rfl
    · exact List.forall_mem_append.mpr ⟨ascii_unicode a b c d, hascii (Nat.succ.inj heq)⟩
  | case5 a b c d hunit hlead a' b' c' d' s htrail ih =>
    obtain ⟨es, hes, rfl⟩ := Option.map_eq_some_iff.mp h
    obtain ⟨ds, hds, hle, hascii⟩ := ih hes
    refine ⟨surrogates (codeUnit a b c d) (codeUnit a' b' c' d') :: ds, ?_, Nat.succ_le_succ hle,
      fun heq => ?_⟩
    · rw [List.flatMap_cons, List.flatMap_cons, Piece.bytewise, Piece.bytewise,
        List.singleton_append, List.singleton_append, content_pair hunit hlead htrail, hds]
      rfl
    · exact List.forall_mem_append.mpr ⟨ascii_unicode a b c d, List.forall_mem_append.mpr
        ⟨ascii_unicode a' b' c' d', hascii (Nat.succ.inj heq)⟩⟩
  | _ => cases h

theorem Tree.depth_bytewise {p : Part} (t : Tree p) : t.bytewise.depth = t.depth := by
  induction t with
  | array items ih => exact congrArg (· + 1) ih
  | object body ih => exact congrArg (· + 1) ih
  | lastItem before v after ih => exact ih
  | item before v after more ih ihmore => exact congrArg₂ max ih ihmore
  | lastMember key v after ih => exact ih
  | member key v after more ih ihmore => exact congrArg₂ max ih ihmore
  | members ms ih => exact ih
  | _ => rfl

/-- The braces are not nested deeper than arrays and objects are. -/
theorem Tree.nesting_le_depth {p : Part} (t : Tree p) : t.nesting ≤ t.depth := by
  induction t with
  | array items ih => exact Nat.le_succ_of_le ih
  | object body ih => exact Nat.succ_le_succ ih
  | lastItem before v after ih => exact ih
  | item before v after more ih ihmore => exact max_le_max ih ihmore
  | lastMember key v after ih => exact ih
  | member key v after more ih ihmore => exact max_le_max ih ihmore
  | members ms ih => exact ih
  | _ => exact Nat.zero_le _

theorem bytewise_of_quoted {s : List Piece} (h : ∀ c ∈ quoted s, c.val ≤ 127) :
    s.flatMap Piece.bytewise = s :=
  bytewise_of_ascii_pieces (forall_mem_brackets.mp h).2.1

theorem Key.bytewise_of_ascii {k : Key} (h : ∀ c ∈ k.text, c.val ≤ 127) : k.bytewise = k := by
  rw [Key.text, List.forall_mem_append, List.forall_mem_append, List.forall_mem_append] at h
  rw [Key.bytewise, bytewise_of_quoted h.1.1.2]

/-- Nothing is changed in a text that is ASCII. -/
theorem Tree.bytewise_of_ascii {p : Part} {t : Tree p} (h : ∀ c ∈ t.text, c.val ≤ 127) :
    t.bytewise = t := by
  induction t with
  | string s => exact congrArg Tree.string (bytewise_of_quoted h)
  | array items ih => exact congrArg Tree.array (ih (forall_mem_brackets.mp h).2.1)
  | object body ih => exact congrArg Tree.object (ih (forall_mem_brackets.mp h).2.1)
  | lastItem before v after ih =>
    rw [Tree.text, List.forall_mem_append, List.forall_mem_append] at h
    rw [Tree.bytewise, ih h.1.2]
  | item before v after more ih ihmore =>
    rw [Tree.text, List.forall_mem_append, List.forall_mem_append, List.forall_mem_append,
      List.forall_mem_append] at h
    rw [Tree.bytewise, ih h.1.1.1.2, ihmore h.2]
  | lastMember key v after ih =>
    rw [Tree.text, List.forall_mem_append, List.forall_mem_append] at h
    rw [Tree.bytewise, Key.bytewise_of_ascii h.1.1, ih h.1.2]
  | member key v after more ih ihmore =>
    rw [Tree.text, List.forall_mem_append, List.forall_mem_append, List.forall_mem_append,
      List.forall_mem_append] at h
    rw [Tree.bytewise, Key.bytewise_of_ascii h.1.1.1.1, ih h.1.1.1.2, ihmore h.2]
  | members ms ih => exact congrArg Tree.members (ih h)
  | _ => rfl

end Vyoma.JsonTexts
