import Vyoma.JsonTexts

/-!
# Events cut out of the monitor's file

The event monitor reads the hypervisor's file byte by byte. It follows strings and braces, and
where the braces are closed it hands what it has read to the JSON parser.
-/
namespace Vyoma.VmmEvents

open RustText JsonTexts

structure EventMonitor where
  buffer : List Char
  braceDepth : Int32
  inString : Bool
  escape : Bool

namespace EventMonitor

def start : EventMonitor := ⟨[], 0, false, false⟩

/-- One byte, and the text that is handed to the parser after it. -/
def read (m : EventMonitor) (b : UInt8) : EventMonitor × Option (List Char) :=
  let c := byteChar b
  let m := { m with buffer := m.buffer ++ [c] }
  if m.escape then ({ m with escape := false }, none)
  else if c = '\\' then ({ m with escape := true }, none)
  else if c = '"' then ({ m with inString := !m.inString }, none)
  else if !m.inString then
    if c = '{' then ({ m with braceDepth := m.braceDepth + 1 }, none)
    else if c = '}' then
      let m := { m with braceDepth := m.braceDepth - 1 }
      if m.braceDepth = 0 then
        let trimmed := trim m.buffer
        ({ m with buffer := [] }, if trimmed = [] then none else some trimmed)
      else (m, none)
    else (m, none)
  else (m, none)

def readAll (m : EventMonitor) : List UInt8 → EventMonitor × List (List Char)
  | [] => (m, [])
  | b :: bytes =>
    let step := m.read b
    let more := step.1.readAll bytes
    (more.1, step.2.toList ++ more.2)

theorem readAll_append (m : EventMonitor) (bytes more : List UInt8) :
    m.readAll (bytes ++ more) = (((m.readAll bytes).1.readAll more).1,
      (m.readAll bytes).2 ++ ((m.readAll bytes).1.readAll more).2) := by
  induction bytes generalizing m with
  | nil => rfl
  | cons b bytes ih =>
    rw [List.cons_append, readAll, readAll, ih, List.append_assoc]

end EventMonitor

open EventMonitor

/-! ## Strings -/

/-- Outside of strings, at a depth of braces. -/
def outside (buffer : List Char) (d : ℕ) : EventMonitor := ⟨buffer, Int32.ofNat d, false, false⟩

def inside (buffer : List Char) (d : ℕ) : EventMonitor := ⟨buffer, Int32.ofNat d, true, false⟩

theorem read_inside {buffer : List Char} {d : ℕ} {b : UInt8} (h : Plain (byteChar b)) :
    (inside buffer d).read b = (inside (buffer ++ [byteChar b]) d, none) := by
  obtain ⟨hquote, hbackslash, -⟩ := h
  simp [EventMonitor.read, inside, hquote, hbackslash]

theorem readAll_inside {bytes : List UInt8} (h : ∀ b ∈ bytes, Plain (byteChar b))
    (buffer : List Char) (d : ℕ) : (inside buffer d).readAll bytes =
      (inside (buffer ++ bytes.map byteChar) d, []) := by
  induction bytes generalizing buffer with
  | nil => simp [readAll]
  | cons b bytes ih =>
    obtain ⟨hb, hbytes⟩ := List.forall_mem_cons.mp h
    rw [readAll, read_inside hb, ih hbytes]
    simp

/-- A backslash, and the character after it. -/
theorem readAll_escape {c : Char} (h : c.val ≤ 127) (buffer : List Char) (d : ℕ) :
    (inside buffer d).readAll (encoded ['\\', c]) = (inside (buffer ++ ['\\', c]) d, []) := by
  obtain ⟨b, hb, hbchar⟩ := encodeChar_ascii (c := '\\') (by decide)
  obtain ⟨e, he, hechar⟩ := encodeChar_ascii h
  have hbytes : encoded ['\\', c] = [b, e] := by simp [encoded, hb, he]
  rw [hbytes]
  simp [readAll, EventMonitor.read, inside, hbchar, hechar]

theorem readAll_piece (p : Piece) (buffer : List Char) (d : ℕ) :
    (inside buffer d).readAll (encoded p.text) = (inside (buffer ++ bytewise p.text) d, []) := by
  cases p with
  | plain c h =>
    rw [Piece.text, bytewise, encoded, List.flatMap_singleton]
    exact readAll_inside (plain_byteChar h) buffer d
  | escape e =>
    have hascii : ∀ c ∈ ['\\', e.letter], c.val ≤ 127 := by
      rw [List.forall_mem_cons, List.forall_mem_singleton]
      exact ⟨by decide, e.ascii⟩
    rw [Piece.text, readAll_escape e.ascii, bytewise_of_ascii hascii]
  | unicode a b c e =>
    have hhead : ∀ c ∈ ['\\', 'u'], c.val ≤ 127 := by decide
    have hdigits : ∀ x ∈ [a, b, c, e].map HexDigit.char, Plain x := by
      rw [List.forall_mem_map]
      exact fun x _ => x.plain.1
    have hbytes : ∀ x ∈ encoded ([a, b, c, e].map HexDigit.char), Plain (byteChar x) := by
      intro x hx
      obtain ⟨y, hy, hx⟩ := List.mem_flatMap.mp hx
      exact plain_byteChar (hdigits y hy) x hx
    have htext : (Piece.unicode a b c e).text = ['\\', 'u'] ++ [a, b, c, e].map HexDigit.char := rfl
    rw [htext, encoded_append, readAll_append, readAll_escape (by decide), readAll_inside hbytes,
      bytewise_append, bytewise_of_ascii hhead, List.append_assoc]
    rfl

theorem readAll_pieces (s : List Piece) (buffer : List Char) (d : ℕ) :
    (inside buffer d).readAll (encoded (s.flatMap Piece.text)) =
      (inside (buffer ++ bytewise (s.flatMap Piece.text)) d, []) := by
  induction s generalizing buffer with
  | nil => simp [encoded, bytewise, readAll]
  | cons p s ih =>
    rw [List.flatMap_cons, encoded_append, readAll_append, readAll_piece, ih, bytewise_append,
      List.append_assoc]
    rfl

/-! ## Between strings -/

/-- A text that leads from one depth of braces to another, with how many texts are handed on
the way: when there is none, all stays in the buffer. -/
def Passes (cs : List Char) (d e n : ℕ) : Prop :=
  ∀ buffer, ∃ left handed, (outside buffer d).readAll (encoded cs) = (outside left e, handed) ∧
    handed.length = n ∧ (n = 0 → left = buffer ++ bytewise cs)

theorem Passes.append {cs ds : List Char} {d e f m n : ℕ} (h : Passes cs d e m)
    (hds : Passes ds e f n) : Passes (cs ++ ds) d f (m + n) := by
  intro buffer
  obtain ⟨mid, handed, hread, rfl, hmid⟩ := h buffer
  obtain ⟨left, handed', hread', rfl, hleft⟩ := hds mid
  refine ⟨left, handed ++ handed', ?_, List.length_append, fun hn => ?_⟩
  · rw [encoded_append, readAll_append, hread, hread']
  · obtain ⟨hm, hn⟩ := Nat.add_eq_zero_iff.mp hn
    rw [hleft hn, hmid hm, bytewise_append, List.append_assoc]

theorem passes_char {c : Char} (h : between c = true) (d : ℕ) : Passes [c] d d 0 := by
  intro buffer
  simp only [between, Bool.and_eq_true, decide_eq_true_eq, bne_iff_ne] at h
  obtain ⟨⟨⟨⟨hascii, hquote⟩, hbackslash⟩, hopen⟩, hclose⟩ := h
  obtain ⟨b, hb, hchar⟩ := encodeChar_ascii hascii
  have hbytes : encoded [c] = [b] := hb ▸ List.flatMap_singleton _ _
  refine ⟨buffer ++ [c], [], ?_, rfl, fun _ => by rw [bytewise, hbytes, List.map_singleton, hchar]⟩
  rw [hbytes]
  simp [readAll, EventMonitor.read, outside, hchar, hquote, hbackslash, hopen, hclose]

theorem passes_between {cs : List Char} (h : ∀ c ∈ cs, between c = true) (d : ℕ) :
    Passes cs d d 0 := by
  induction cs with
  | nil => exact fun buffer => ⟨buffer, [], rfl, rfl, fun _ => (List.append_nil _).symm⟩
  | cons c cs ih =>
    obtain ⟨hc, hcs⟩ := List.forall_mem_cons.mp h
    exact (passes_char hc d).append (ih hcs)

theorem passes_quoted (s : List Piece) (d : ℕ) : Passes (quoted s) d d 0 := by
  intro buffer
  obtain ⟨b, hb, hchar⟩ := encodeChar_ascii (c := '"') (by decide)
  have hquote : encoded ['"'] = [b] := hb
  have hopen : (outside buffer d).readAll (encoded ['"']) = (inside (buffer ++ ['"']) d, []) := by
    rw [hquote]
    simp [readAll, EventMonitor.read, outside, inside, hchar]
  have hclose : ∀ held, (inside held d).readAll (encoded ['"']) = (outside (held ++ ['"']) d, []) := by
    intro held
    rw [hquote]
    simp [readAll, EventMonitor.read, outside, inside, hchar]
  refine ⟨_, [], ?_, rfl, fun _ => rfl⟩
  have htext : quoted s = ['"'] ++ (s.flatMap Piece.text ++ ['"']) := rfl
  have hascii : bytewise ['"'] = ['"'] := bytewise_of_ascii (by decide)
  rw [htext, encoded_append, encoded_append, readAll_append, hopen, readAll_append,
    readAll_pieces, hclose, bytewise_append, bytewise_append, hascii]
  simp

/-! ## Braces -/

theorem ofNat_eq_zero_iff (d : ℕ) : Int32.ofNat d = 0 ↔ 2 ^ 32 ∣ d := by
  rw [← Int32.toBitVec_inj, Int32.toBitVec_zero, Int32.toBitVec_ofNat', ← BitVec.toNat_inj,
    BitVec.toNat_ofNat, Nat.dvd_iff_mod_eq_zero]
  rfl

theorem ofNat_succ_sub_one (d : ℕ) : Int32.ofNat (d + 1) - 1 = Int32.ofNat d := by
  rw [Int32.sub_eq_iff_eq_add, Int32.ofNat_add]
  rfl

theorem passes_open (d : ℕ) : Passes ['{'] d (d + 1) 0 := by
  intro buffer
  obtain ⟨b, hb, hchar⟩ := encodeChar_ascii (c := '{') (by decide)
  have hbytes : encoded ['{'] = [b] := hb
  refine ⟨buffer ++ ['{'], [], ?_, rfl, fun _ => by rw [bytewise, hbytes, List.map_singleton, hchar]⟩
  rw [hbytes]
  simp [readAll, EventMonitor.read, outside, hchar]

/-- The counter is zero at every multiple of its range. -/
theorem readAll_close (buffer : List Char) (d : ℕ) : (outside buffer (d + 1)).readAll (encoded ['}']) =
    if 2 ^ 32 ∣ d then (outside [] d, [trim (buffer ++ ['}'])])
    else (outside (buffer ++ ['}']) d, []) := by
  obtain ⟨b, hb, hchar⟩ := encodeChar_ascii (c := '}') (by decide)
  have hbytes : encoded ['}'] = [b] := hb
  have htrim : trim (buffer ++ ['}']) ≠ [] := by
    intro hnil
    obtain ⟨lead, blanks, hsplit, hlead, hblanks⟩ := trim_spec (buffer ++ ['}'])
    have hmem : '}' ∈ lead ++ trim (buffer ++ ['}']) ++ blanks := hsplit ▸ by simp
    rw [hnil, List.append_nil, List.mem_append] at hmem
    have hblank : isWhitespace '}' = true := hmem.elim (hlead _) (hblanks _)
    exact absurd hblank (by decide)
  have hread : (outside buffer (d + 1)).read b =
      if 2 ^ 32 ∣ d then (outside [] d, some (trim (buffer ++ ['}'])))
      else (outside (buffer ++ ['}']) d, none) := by
    simp only [EventMonitor.read, outside, hchar, ofNat_succ_sub_one, ofNat_eq_zero_iff, if_neg htrim]
    rfl
  rw [hbytes, readAll, hread]
  split_ifs <;> rfl

theorem passes_close (d : ℕ) : Passes ['}'] (d + 1) d (if 2 ^ 32 ∣ d then 1 else 0) := by
  intro buffer
  rw [readAll_close]
  split_ifs with h
  · exact ⟨[], _, rfl, rfl, by simp⟩
  · have hascii : bytewise ['}'] = ['}'] := bytewise_of_ascii (by decide)
    exact ⟨_, [], rfl, rfl, fun _ => congrArg _ hascii.symm⟩

/-- How many texts are handed within a text that starts at a depth of braces. -/
def cuts : {p : Part} → ℕ → Tree p → ℕ
  | _, _, .word _ | _, _, .number _ | _, _, .string _ | _, _, .emptyArray _
  | _, _, .noMembers _ => 0
  | _, d, .array items => cuts d items
  | _, d, .object body => cuts (d + 1) body + if 2 ^ 32 ∣ d then 1 else 0
  | _, d, .lastItem _ v _ => cuts d v
  | _, d, .item _ v _ more => cuts d v + cuts d more
  | _, d, .lastMember _ v _ => cuts d v
  | _, d, .member _ v _ more => cuts d v + cuts d more
  | _, d, .members ms => cuts d ms

theorem passes_blanks (blanks : List Blank) (d : ℕ) : Passes (blanks.map Blank.char) d d 0 :=
  passes_between (between_blanks blanks) d

theorem passes_key (k : Key) (d : ℕ) : Passes k.text d d 0 := by
  have hcolon : ∀ c ∈ ':' :: k.gap.map Blank.char, between c = true :=
    List.forall_mem_cons.mpr ⟨by decide, between_blanks k.gap⟩
  exact (((passes_blanks k.before d).append (passes_quoted k.pieces d)).append
    (passes_blanks k.after d)).append (passes_between hcolon d)

theorem passes_tree {p : Part} (t : Tree p) (d : ℕ) : Passes t.text d d (cuts d t) := by
  have hcomma : ∀ d, Passes [','] d d 0 := passes_char rfl
  induction t generalizing d with
  | word w => exact passes_between (between_word w) d
  | number n => exact passes_between n.between d
  | string s => exact passes_quoted s d
  | emptyArray blanks =>
    exact ((passes_char rfl d).append (passes_blanks blanks d)).append (passes_char rfl d)
  | array items ih =>
    have h := ((passes_char (c := '[') rfl d).append (ih d)).append (passes_char (c := ']') rfl d)
    rwa [Nat.zero_add] at h
  | object body ih =>
    have h := ((passes_open d).append (ih (d + 1))).append (passes_close d)
    rwa [Nat.zero_add] at h
  | lastItem before v after ih =>
    have h := ((passes_blanks before d).append (ih d)).append (passes_blanks after d)
    rwa [Nat.zero_add] at h
  | item before v after more ih ihmore =>
    have h := ((((passes_blanks before d).append (ih d)).append (passes_blanks after d)).append
      (hcomma d)).append (ihmore d)
    rwa [Nat.zero_add] at h
  | lastMember key v after ih =>
    have h := ((passes_key key d).append (ih d)).append (passes_blanks after d)
    rwa [Nat.zero_add] at h
  | member key v after more ih ihmore =>
    have h := ((((passes_key key d).append (ih d)).append (passes_blanks after d)).append
      (hcomma d)).append (ihmore d)
    rwa [Nat.zero_add] at h
  | noMembers blanks => exact passes_blanks blanks d
  | members ms ih => exact ih d

theorem forall_lt_max_iff {p : ℕ → Prop} {m n : ℕ} :
    (∀ i < max m n, p i) ↔ (∀ i < m, p i) ∧ ∀ i < n, p i := by
  simp only [lt_max_iff, or_imp, forall_and]

theorem ite_one_eq_zero_iff {p : Prop} [Decidable p] : (if p then 1 else 0) = 0 ↔ ¬p := by
  split_ifs with h <;> simp [h]

/-- Every depth of the nesting is left once, or more often. -/
theorem cuts_eq_zero_iff {p : Part} (t : Tree p) (d : ℕ) :
    cuts d t = 0 ↔ ∀ i < t.nesting, ¬2 ^ 32 ∣ d + i := by
  induction t generalizing d with
  | array items ih => exact ih d
  | object body ih =>
    have hshift : ∀ i, d + (i + 1) = d + 1 + i := fun i => by omega
    rw [cuts, Nat.add_eq_zero_iff, ih, ite_one_eq_zero_iff]
    constructor
    · rintro ⟨hbody, hd⟩ i hi
      cases i with
      | zero => exact hd
      | succ i => exact hshift i ▸ hbody i (Nat.lt_of_succ_lt_succ hi)
    · intro h
      exact ⟨fun i hi => hshift i ▸ h (i + 1) (Nat.succ_lt_succ hi), h 0 (Nat.succ_pos _)⟩
  | lastItem before v after ih => exact ih d
  | item before v after more ih ihmore =>
    rw [cuts, Tree.nesting, Nat.add_eq_zero_iff, ih, ihmore, forall_lt_max_iff]
  | lastMember key v after ih => exact ih d
  | member key v after more ih ihmore =>
    rw [cuts, Tree.nesting, Nat.add_eq_zero_iff, ih, ihmore, forall_lt_max_iff]
  | members ms ih => exact ih d
  | _ => exact iff_of_true rfl fun i hi => absurd hi (Nat.not_lt_zero i)

theorem cuts_body_iff (body : Tree .body) : cuts 1 body = 0 ↔ (Tree.object body).nesting ≤ 2 ^ 32 := by
  rw [cuts_eq_zero_iff, Tree.nesting]
  constructor
  · intro h
    by_contra hdeep
    exact h (2 ^ 32 - 1) (by omega) (by norm_num)
  · intro h i hi hdvd
    have hle := Nat.le_of_dvd (by omega) hdvd
    omega

/-! ## The file -/

/-- The objects of the file, each with the blanks before it, and the blanks at its end. -/
def fileText (objects : List (List Blank × Tree .body)) (after : List Blank) : List Char :=
  (objects.flatMap fun o => o.1.map Blank.char ++ (Tree.object o.2).text) ++ after.map Blank.char

theorem trim_object (blanks : List Blank) (body : Tree .body) :
    trim (blanks.map Blank.char ++ bytewise (Tree.object body).text) =
      bytewise (Tree.object body).text := by
  have hblank : ∀ c ∈ blanks.map Blank.char, isWhitespace c = true := by
    rw [List.forall_mem_map]
    intro b _
    cases b <;> decide
  rw [trim_append_of_blank hblank, Tree.text, bytewise_brackets (by decide) (by decide)]
  refine trim_of_tight ⟨?_, ?_⟩
  · intro c hc
    obtain rfl := Option.some.inj hc
    decide
  · intro c hc
    rw [List.getLast?_concat] at hc
    obtain rfl := Option.some.inj hc
    decide

/-- An object: one text is handed at its end, and it is the object when none is handed before. -/
theorem readAll_object (blanks : List Blank) (body : Tree .body) : ∃ handed,
    (outside [] 0).readAll (encoded (blanks.map Blank.char ++ (Tree.object body).text)) =
        (outside [] 0, handed) ∧
      handed.length = cuts 1 body + 1 ∧
      (cuts 1 body = 0 → handed = [bytewise (Tree.object body).text]) := by
  obtain ⟨left, handed, hread, hlength, hleft⟩ :=
    ((passes_blanks blanks 0).append (passes_open 0)).append (passes_tree body 1) []
  simp only [Nat.zero_add] at hlength hleft
  have htext : blanks.map Blank.char ++ (Tree.object body).text =
      blanks.map Blank.char ++ ['{'] ++ body.text ++ ['}'] := by simp [Tree.text]
  refine ⟨handed ++ [trim (left ++ ['}'])], ?_, by rw [List.length_append, hlength]; rfl, fun h => ?_⟩
  · rw [htext, encoded_append, readAll_append, hread, readAll_close, if_pos (dvd_zero _)]
  · have hclose : bytewise ['}'] = ['}'] := bytewise_of_ascii (by decide)
    rw [List.length_eq_zero_iff.mp (hlength.trans h), hleft h, List.nil_append, List.nil_append,
      ← hclose, ← bytewise_append, ← htext, bytewise_append, bytewise_blanks, trim_object]

theorem readAll_objects (objects : List (List Blank × Tree .body)) : ∃ handed,
    (outside [] 0).readAll (encoded (fileText objects [])) = (outside [] 0, handed) ∧
      objects.length ≤ handed.length ∧
      (handed.length = objects.length → ∀ o ∈ objects, cuts 1 o.2 = 0) ∧
      ((∀ o ∈ objects, cuts 1 o.2 = 0) →
        handed = objects.map fun o => bytewise (Tree.object o.2).text) := by
  induction objects with
  | nil => exact ⟨[], rfl, le_rfl, by simp, fun _ => rfl⟩
  | cons o objects ih =>
    obtain ⟨handed, hread, hlength, hhanded⟩ := readAll_object o.1 o.2
    obtain ⟨more, hmore, hle, hzero, heq⟩ := ih
    have htext : fileText (o :: objects) [] =
        o.1.map Blank.char ++ (Tree.object o.2).text ++ fileText objects [] := by simp [fileText]
    refine ⟨handed ++ more, ?_, ?_, ?_, ?_⟩
    · rw [htext, encoded_append, readAll_append, hread, hmore]
    · rw [List.length_append, List.length_cons]
      omega
    · rw [List.length_append, List.length_cons, List.forall_mem_cons]
      exact fun h => ⟨by omega, hzero (by omega)⟩
    · rw [List.forall_mem_cons]
      rintro ⟨ho, hobjects⟩
      rw [hhanded ho, heq hobjects]
      rfl

/-- The monitor on a whole file. -/
theorem readAll_file (objects : List (List Blank × Tree .body)) (after : List Blank) :
    ∃ left handed, start.readAll (encoded (fileText objects after)) = (outside left 0, handed) ∧
      (handed.length = objects.length → ∀ o ∈ objects, (Tree.object o.2).nesting ≤ 2 ^ 32) ∧
      ((∀ o ∈ objects, (Tree.object o.2).nesting ≤ 2 ^ 32) → left = after.map Blank.char ∧
        handed = objects.map fun o => bytewise (Tree.object o.2).text) := by
  obtain ⟨handed, hread, -, hzero, heq⟩ := readAll_objects objects
  obtain ⟨left, more, hafter, hmore, hleft⟩ := passes_blanks after 0 []
  have htext : fileText objects after = fileText objects [] ++ after.map Blank.char := by
    simp [fileText]
  have hblanks : bytewise (after.map Blank.char) = after.map Blank.char := bytewise_blanks after
  simp only [cuts_body_iff] at hzero heq
  refine ⟨left, handed, ?_, hzero, fun h => ⟨?_, heq h⟩⟩
  · have hstart : start = outside [] 0 := rfl
    rw [htext, encoded_append, readAll_append, hstart, hread, hafter,
      List.length_eq_zero_iff.mp hmore, List.append_nil]
  · rw [hleft rfl, hblanks]
    rfl

/-- The file is cut into its objects, and nothing but the blanks at its end is left, when no
object is nested deeper than the counter of braces reaches. -/
theorem readAll_iff (objects : List (List Blank × Tree .body)) (after : List Blank) :
    start.readAll (encoded (fileText objects after)) = (outside (after.map Blank.char) 0,
        objects.map fun o => bytewise (Tree.object o.2).text) ↔
      ∀ o ∈ objects, (Tree.object o.2).nesting ≤ 2 ^ 32 := by
  obtain ⟨left, handed, hread, hnesting, heq⟩ := readAll_file objects after
  rw [hread]
  constructor
  · intro h
    refine hnesting ?_
    rw [(Prod.mk.inj h).2, List.length_map]
  · intro h
    obtain ⟨hleft, hhanded⟩ := heq h
    rw [hleft, hhanded]

/-- What stands between the braces of an object in an object in an object, and so on. -/
def nested : ℕ → Tree .body
  | 0 => .noMembers []
  | n + 1 => .members (.lastMember ⟨[], [], [], []⟩ (.object (nested n)) [])

theorem nesting_nested (n : ℕ) : (Tree.object (nested n)).nesting = n + 1 := by
  induction n with
  | zero => rfl
  | succ n ih => exact congrArg (· + 1) ih

/-- At the depth at which the counter is back at zero, an object is cut before its end. -/
theorem readAll_nested : (start.readAll (encoded (fileText [([], nested (2 ^ 32))] []))).2 ≠
    [bytewise (Tree.object (nested (2 ^ 32))).text] := by
  intro h
  obtain ⟨left, handed, hread, hnesting, -⟩ := readAll_file [([], nested (2 ^ 32))] []
  rw [hread] at h
  have hle := hnesting (congrArg List.length h) _ List.mem_cons_self
  rw [nesting_nested] at hle
  exact absurd hle (Nat.not_succ_le_self _)

end Vyoma.VmmEvents
