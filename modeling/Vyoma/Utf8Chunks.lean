import Vyoma.TextSplits

/-!
# Lossy decoding of a text that arrives in chunks

The chunks are decoded one by one. A character within one chunk decodes to itself; of a
character that the chunks cut, every piece becomes at least one replacement character.
-/
namespace Vyoma.RustText

/-- What `String::from_utf8_lossy` writes for bytes that are not a character. -/
def replacement : Char := Char.ofNat 0xFFFD

theorem continuation_iff {b : UInt8} : continuation b = true ↔ 128 ≤ b.toNat ∧ b.toNat ≤ 191 := by
  simp [continuation, UInt8.le_iff_toNat_le]

theorem secondByte_iff {b c : UInt8} : secondByte b c = true ↔
    (if b.toNat = 224 then 160 else if b.toNat = 240 then 144 else 128) ≤ c.toNat ∧
      c.toNat ≤ (if b.toNat = 237 then 159 else if b.toNat = 244 then 143 else 191) := by
  simp only [secondByte, continuation, ← UInt8.toNat_inj, UInt8.le_iff_toNat_le]
  have he0 : (0xE0 : UInt8).toNat = 224 := rfl
  have hed : (0xED : UInt8).toNat = 237 := rfl
  have hf0 : (0xF0 : UInt8).toNat = 240 := rfl
  have hf4 : (0xF4 : UInt8).toNat = 244 := rfl
  rw [he0, hed, hf0, hf4]
  split_ifs <;> simp <;> omega

section Bytes

variable {b c d e : UInt8}

theorem decodeChar_one (hb : b.toNat < 128) (rest : List UInt8) :
    decodeChar b rest = (Char.ofNat b.toNat, 0) := by
  have hfirst : b < 0x80 := by simpa [UInt8.lt_iff_toNat_lt] using hb
  simp only [decodeChar, if_pos hfirst]

theorem decodeChar_two (hb : 194 ≤ b.toNat ∧ b.toNat ≤ 223) (hc : continuation c = true)
    (rest : List UInt8) : decodeChar b (c :: rest) =
      (Char.ofNat (b.toNat % 32 * 64 + c.toNat % 64), 1) := by
  have hfirst : ¬ b.toNat < 128 := by omega
  simp [decodeChar, UInt8.lt_iff_toNat_lt, UInt8.le_iff_toNat_le, hb, hfirst, hc]

theorem decodeChar_three (hb : 224 ≤ b.toNat ∧ b.toNat ≤ 239) (hc : secondByte b c = true)
    (hd : continuation d = true) (rest : List UInt8) : decodeChar b (c :: d :: rest) =
      (Char.ofNat (b.toNat % 16 * 4096 + c.toNat % 64 * 64 + d.toNat % 64), 2) := by
  have hfirst : ¬ b.toNat < 128 ∧ ¬ b.toNat ≤ 223 := by omega
  simp [decodeChar, UInt8.lt_iff_toNat_lt, UInt8.le_iff_toNat_le, hb, hfirst, hc, hd]

theorem decodeChar_four (hb : 240 ≤ b.toNat ∧ b.toNat ≤ 244) (hc : secondByte b c = true)
    (hd : continuation d = true) (he : continuation e = true) (rest : List UInt8) :
    decodeChar b (c :: d :: e :: rest) = (Char.ofNat (b.toNat % 8 * 262144 +
      c.toNat % 64 * 4096 + d.toNat % 64 * 64 + e.toNat % 64), 3) := by
  have hfirst : ¬ b.toNat < 128 ∧ ¬ b.toNat ≤ 223 ∧ ¬ b.toNat ≤ 239 := by omega
  simp [decodeChar, UInt8.lt_iff_toNat_lt, UInt8.le_iff_toNat_le, hb, hfirst, hc, hd, he]

theorem decodeChar_continuation (hb : continuation b = true) (rest : List UInt8) :
    decodeChar b rest = (replacement, 0) := by
  have hfirst : ¬ b.toNat < 128 ∧ ¬ 194 ≤ b.toNat ∧ ¬ 224 ≤ b.toNat ∧ ¬ 240 ≤ b.toNat := by
    rw [continuation_iff] at hb
    omega
  simp [decodeChar, UInt8.lt_iff_toNat_lt, UInt8.le_iff_toNat_le, hfirst, replacement]

/-- How many bytes follow the first byte of a character. -/
def following (b : UInt8) : ℕ :=
  if b.toNat < 192 then 0 else if b.toNat < 224 then 1 else if b.toNat < 240 then 2 else 3

/-- A character that breaks off is replaced. -/
theorem decodeChar_short {rest : List UInt8} (h : rest.length < following b) :
    (decodeChar b rest).1 = replacement := by
  have hfirst : ¬ b.toNat < 128 := by
    unfold following at h
    split_ifs at h <;> omega
  have hone : 1 ≤ rest.length → ¬ b.toNat ≤ 223 := by
    unfold following at h
    split_ifs at h <;> omega
  have htwo : 2 ≤ rest.length → ¬ b.toNat ≤ 239 := by
    unfold following at h
    split_ifs at h <;> omega
  have hthree : rest.length < 3 := by
    unfold following at h
    split_ifs at h <;> omega
  match rest with
  | [] =>
    simp only [decodeChar, UInt8.lt_iff_toNat_lt]
    simp [hfirst, replacement]
  | [c] =>
    have hone := hone (by simp)
    simp [decodeChar, UInt8.lt_iff_toNat_lt, UInt8.le_iff_toNat_le, hfirst, hone, replacement]
    split_ifs <;> rfl
  | [c, d] =>
    have hone := hone (by simp)
    have htwo := htwo (by simp)
    simp [decodeChar, UInt8.lt_iff_toNat_lt, UInt8.le_iff_toNat_le, hfirst, hone, htwo, replacement]
    split_ifs <;> rfl
  | c :: d :: e :: rest =>
    rw [List.length_cons, List.length_cons, List.length_cons] at hthree
    omega

/-! ## Encoded characters -/

theorem toNat_ofNat_lt {n : ℕ} (h : n < 256) : (UInt8.ofNat n).toNat = n := by
  rw [UInt8.toNat_ofNat', Nat.mod_eq_of_lt h]

theorem continuation_ofNat (n : ℕ) : continuation (UInt8.ofNat (n % 64 + 0x80)) = true := by
  rw [continuation_iff, toNat_ofNat_lt (by omega)]
  omega

/-- The bytes of a character: the first says how many follow, and they decode to the
character whatever stands behind them. -/
theorem encodeChar_spec (ch : Char) : ∃ b more, String.utf8EncodeChar ch = b :: more ∧
    more.length = following b ∧ (∀ c ∈ more, continuation c = true) ∧
    ∀ rest, decodeChar b (more ++ rest) = (ch, more.length) := by
  have hvalid : ch.val.toNat < 0xd800 ∨ 0xdfff < ch.val.toNat ∧ ch.val.toNat < 0x110000 := ch.valid
  have hchar : Char.ofNat ch.val.toNat = ch := Char.ofNat_toNat ch
  unfold String.utf8EncodeChar
  generalize ch.val.toNat = n at hvalid hchar
  simp only
  split_ifs with hone htwo hthree
  · have hb := toNat_ofNat_lt (n := n) (by omega)
    refine ⟨_, [], rfl, ?_, by simp, fun rest => ?_⟩
    · rw [following, hb, if_pos (by omega)]
      rfl
    · rw [List.nil_append, decodeChar_one (by omega), hb, hchar]
      rfl
  · have hb := toNat_ofNat_lt (n := n / 64 % 32 + 0xc0) (by omega)
    have hc := toNat_ofNat_lt (n := n % 64 + 0x80) (by omega)
    refine ⟨_, _, rfl, ?_, List.forall_mem_singleton.mpr (continuation_ofNat n), fun rest => ?_⟩
    · rw [following, hb, if_neg (by omega), if_pos (by omega)]
      rfl
    · have hvalue : (n / 64 % 32 + 0xc0) % 32 * 64 + (n % 64 + 0x80) % 64 = n := by omega
      rw [List.singleton_append, decodeChar_two (by omega) (continuation_ofNat n), hb, hc, hvalue,
        hchar]
      rfl
  · have hb := toNat_ofNat_lt (n := n / 4096 % 16 + 0xe0) (by omega)
    have hc := toNat_ofNat_lt (n := n / 64 % 64 + 0x80) (by omega)
    have hd := toNat_ofNat_lt (n := n % 64 + 0x80) (by omega)
    refine ⟨_, _, rfl, ?_, ?_, fun rest => ?_⟩
    · rw [following, hb, if_neg (by omega), if_neg (by omega), if_pos (by omega)]
      rfl
    · exact List.forall_mem_cons.mpr ⟨continuation_ofNat _,
        List.forall_mem_singleton.mpr (continuation_ofNat n)⟩
    · have hvalue : (n / 4096 % 16 + 0xe0) % 16 * 4096 + (n / 64 % 64 + 0x80) % 64 * 64 +
          (n % 64 + 0x80) % 64 = n := by omega
      have hsecond : secondByte (UInt8.ofNat (n / 4096 % 16 + 0xe0))
          (UInt8.ofNat (n / 64 % 64 + 0x80)) = true := by
        rw [secondByte_iff, hb, hc]
        split_ifs <;> omega
      rw [List.cons_append, List.singleton_append,
        decodeChar_three (by omega) hsecond (continuation_ofNat n), hb, hc, hd, hvalue, hchar]
      rfl
  · have hb := toNat_ofNat_lt (n := n / 262144 % 8 + 0xf0) (by omega)
    have hc := toNat_ofNat_lt (n := n / 4096 % 64 + 0x80) (by omega)
    have hd := toNat_ofNat_lt (n := n / 64 % 64 + 0x80) (by omega)
    have he := toNat_ofNat_lt (n := n % 64 + 0x80) (by omega)
    refine ⟨_, _, rfl, ?_, ?_, fun rest => ?_⟩
    · rw [following, hb, if_neg (by omega), if_neg (by omega), if_neg (by omega)]
      rfl
    · exact List.forall_mem_cons.mpr ⟨continuation_ofNat _, List.forall_mem_cons.mpr
        ⟨continuation_ofNat _, List.forall_mem_singleton.mpr (continuation_ofNat n)⟩⟩
    · have hvalue : (n / 262144 % 8 + 0xf0) % 8 * 262144 + (n / 4096 % 64 + 0x80) % 64 * 4096 +
          (n / 64 % 64 + 0x80) % 64 * 64 + (n % 64 + 0x80) % 64 = n := by omega
      have hsecond : secondByte (UInt8.ofNat (n / 262144 % 8 + 0xf0))
          (UInt8.ofNat (n / 4096 % 64 + 0x80)) = true := by
        rw [secondByte_iff, hb, hc]
        split_ifs <;> omega
      rw [List.cons_append, List.cons_append, List.singleton_append,
        decodeChar_four (by omega) hsecond (continuation_ofNat _) (continuation_ofNat n),
        hb, hc, hd, he, hvalue, hchar]
      rfl

end Bytes

/-! ## Decoding a run of bytes -/

theorem decodeFrom_eq_drop (skip : ℕ) (bytes : List UInt8) :
    decodeFrom skip bytes = fromUtf8Lossy (bytes.drop skip) := by
  induction bytes generalizing skip with
  | nil => cases skip <;> rfl
  | cons b bytes ih =>
    cases skip with
    | zero => rfl
    | succ skip => exact ih skip

theorem fromUtf8Lossy_cons (b : UInt8) (rest : List UInt8) : fromUtf8Lossy (b :: rest) =
    (decodeChar b rest).1 :: fromUtf8Lossy (rest.drop (decodeChar b rest).2) :=
  congrArg _ (decodeFrom_eq_drop _ _)

theorem fromUtf8Lossy_encodeChar (ch : Char) (rest : List UInt8) :
    fromUtf8Lossy (String.utf8EncodeChar ch ++ rest) = ch :: fromUtf8Lossy rest := by
  obtain ⟨b, more, hbytes, -, -, hdecode⟩ := encodeChar_spec ch
  rw [hbytes, List.cons_append, fromUtf8Lossy_cons, hdecode, List.drop_left]

/-- Bytes that can only continue a character are replaced one by one. -/
theorem fromUtf8Lossy_continuations {bytes : List UInt8} (h : ∀ b ∈ bytes, continuation b = true)
    (rest : List UInt8) : fromUtf8Lossy (bytes ++ rest) =
      List.replicate bytes.length replacement ++ fromUtf8Lossy rest := by
  induction bytes with
  | nil => rfl
  | cons b bytes ih =>
    obtain ⟨hb, hbytes⟩ := List.forall_mem_cons.mp h
    rw [List.cons_append, fromUtf8Lossy_cons, decodeChar_continuation hb, List.drop_zero,
      ih hbytes]
    rfl

theorem fromUtf8Lossy_of_continuations {bytes : List UInt8}
    (h : ∀ b ∈ bytes, continuation b = true) :
    fromUtf8Lossy bytes = List.replicate bytes.length replacement := by
  have hbytes := fromUtf8Lossy_continuations h []
  have hnil : fromUtf8Lossy [] = [] := rfl
  rwa [List.append_nil, hnil, List.append_nil] at hbytes

theorem continuation_of_append {ch : Char} {p q : List UInt8}
    (h : p ++ q = String.utf8EncodeChar ch) (hp : p ≠ []) : ∀ b ∈ q, continuation b = true := by
  obtain ⟨b, more, hbytes, -, hcontinue, -⟩ := encodeChar_spec ch
  obtain ⟨b', p, rfl⟩ := List.exists_cons_of_ne_nil hp
  rw [List.cons_append, hbytes] at h
  obtain ⟨rfl, rfl⟩ := List.cons.inj h
  exact fun c hc => hcontinue c (List.mem_append_right p hc)

/-- The first piece of a character that is cut. -/
theorem fromUtf8Lossy_piece {ch : Char} {p q : List UInt8} (h : p ++ q = String.utf8EncodeChar ch)
    (hp : p ≠ []) (hq : q ≠ []) : ∃ n, fromUtf8Lossy p = List.replicate (n + 1) replacement := by
  obtain ⟨b, more, hbytes, hmore, hcontinue, -⟩ := encodeChar_spec ch
  obtain ⟨b', p, rfl⟩ := List.exists_cons_of_ne_nil hp
  rw [List.cons_append, hbytes] at h
  obtain ⟨rfl, rfl⟩ := List.cons.inj h
  have hshort : p.length < following b' := by
    have hlong := List.length_pos_iff.mpr hq
    rw [← hmore, List.length_append]
    omega
  have hdrop : ∀ c ∈ p.drop (decodeChar b' p).2, continuation c = true :=
    fun c hc => hcontinue c (List.mem_append_left q (List.mem_of_mem_drop hc))
  have hrest := fromUtf8Lossy_of_continuations hdrop
  exact ⟨_, by rw [fromUtf8Lossy_cons, decodeChar_short hshort, hrest, List.replicate_succ]⟩

/-! ## Bytes as characters -/

/-- The bytes of a text. -/
def encoded (cs : List Char) : List UInt8 := cs.flatMap String.utf8EncodeChar

/-- `u8 as char`. -/
def byteChar (b : UInt8) : Char := Char.ofNat b.toNat

/-- A text with each of its bytes read as one character. -/
def bytewise (cs : List Char) : List Char := (encoded cs).map byteChar

theorem toNat_byteChar (b : UInt8) : (byteChar b).val.toNat = b.toNat := by
  have hvalid : b.toNat.isValidChar := Or.inl (b.toNat_lt.trans (by decide))
  rw [byteChar, Char.ofNat, dif_pos hvalid]
  rfl

theorem encodeChar_ascii {c : Char} (h : c.val ≤ 127) :
    ∃ b, String.utf8EncodeChar c = [b] ∧ byteChar b = c := by
  refine ⟨c.val.toUInt8, String.utf8EncodeChar_eq_singleton (Char.utf8Size_eq_one_iff.mpr h), ?_⟩
  have hnat : c.val.toUInt8.toNat = c.val.toNat := by
    rw [UInt32.toNat_toUInt8]
    exact Nat.mod_eq_of_lt ((UInt32.le_iff_toNat_le.mp h).trans_lt (by decide))
  rw [byteChar, hnat]
  exact Char.ofNat_toNat c

/-- Beyond ASCII there are at least two bytes, and none of them is ASCII. -/
theorem encodeChar_high {c : Char} (h : ¬c.val ≤ 127) :
    2 ≤ (String.utf8EncodeChar c).length ∧ ∀ b ∈ String.utf8EncodeChar c, 128 ≤ b.toNat := by
  obtain ⟨b, more, hbytes, hmore, hcontinue, -⟩ := encodeChar_spec c
  have hlength : 1 < (String.utf8EncodeChar c).length := by
    rw [String.length_utf8EncodeChar]
    have hone := mt Char.utf8Size_eq_one_iff.mp h
    have hpos := Char.utf8Size_pos c
    omega
  refine ⟨hlength, ?_⟩
  rw [hbytes, List.length_cons, hmore] at hlength
  rw [hbytes, List.forall_mem_cons]
  constructor
  · unfold following at hlength
    split_ifs at hlength <;> omega
  · exact fun d hd => (continuation_iff.mp (hcontinue d hd)).1

theorem encoded_append (cs ds : List Char) : encoded (cs ++ ds) = encoded cs ++ encoded ds :=
  List.flatMap_append

theorem fromUtf8Lossy_encoded (cs : List Char) : fromUtf8Lossy (encoded cs) = cs := by
  induction cs with
  | nil => rfl
  | cons c cs ih => rw [encoded, List.flatMap_cons, fromUtf8Lossy_encodeChar, ← encoded, ih]

/-- The bytes of a string are read back as its characters. -/
theorem fromUtf8Lossy_utf8 (s : String) : fromUtf8Lossy (utf8 s) = s.toList := by
  rw [utf8_eq_flatMap]
  exact fromUtf8Lossy_encoded s.toList

theorem bytewise_append (cs ds : List Char) : bytewise (cs ++ ds) = bytewise cs ++ bytewise ds := by
  rw [bytewise, encoded_append, List.map_append]
  rfl

theorem bytewise_of_ascii {cs : List Char} (h : ∀ c ∈ cs, c.val ≤ 127) : bytewise cs = cs := by
  induction cs with
  | nil => rfl
  | cons c cs ih =>
    obtain ⟨hc, hcs⟩ := List.forall_mem_cons.mp h
    obtain ⟨b, hb, hchar⟩ := encodeChar_ascii hc
    rw [← List.singleton_append, bytewise_append, ih hcs, bytewise, encoded, List.flatMap_singleton,
      hb, List.map_singleton, hchar]

/-! ## Chunks -/

/-- The positions at which the chunks end. -/
def ends {α : Type*} : List (List α) → List ℕ
  | [] => []
  | chunk :: chunks => chunk.length :: (ends chunks).map (chunk.length + ·)

section Cuts

variable {α : Type*}

theorem mem_ends_append {pre post : List (List α)} {n : ℕ} : n ∈ ends (pre ++ post) ↔
    n ∈ ends pre ∨ ∃ k ∈ ends post, n = pre.flatten.length + k := by
  induction pre generalizing n with
  | nil => simp [ends]
  | cons chunk pre ih =>
    simp only [List.cons_append, ends, List.mem_cons, List.mem_map, ih, List.flatten_cons,
      List.length_append]
    constructor
    · rintro (rfl | ⟨m, hm | ⟨k, hk, rfl⟩, rfl⟩)
      · exact Or.inl (Or.inl rfl)
      · exact Or.inl (Or.inr ⟨m, hm, rfl⟩)
      · exact Or.inr ⟨k, hk, (Nat.add_assoc _ _ _).symm⟩
    · rintro ((rfl | ⟨m, hm, rfl⟩) | ⟨k, hk, rfl⟩)
      · exact Or.inl rfl
      · exact Or.inr ⟨m, Or.inl hm, rfl⟩
      · exact Or.inr ⟨_, Or.inr ⟨k, hk, rfl⟩, (Nat.add_assoc _ _ _).symm⟩

theorem le_of_mem_ends {chunks : List (List α)} {n : ℕ} (h : n ∈ ends chunks) :
    n ≤ chunks.flatten.length := by
  induction chunks generalizing n with
  | nil => cases h
  | cons chunk chunks ih =>
    rw [List.flatten_cons, List.length_append]
    obtain rfl | h := List.mem_cons.mp h
    · exact Nat.le_add_right _ _
    · obtain ⟨k, hk, rfl⟩ := List.mem_map.mp h
      exact Nat.add_le_add_left (ih hk) _

theorem length_mem_ends {chunks : List (List α)} (h : chunks ≠ []) :
    chunks.flatten.length ∈ ends chunks := by
  induction chunks with
  | nil => exact absurd rfl h
  | cons chunk chunks ih =>
    cases chunks with
    | nil => simp [ends]
    | cons next chunks =>
      rw [List.flatten_cons, List.length_append]
      exact List.mem_cons_of_mem _ (List.mem_map_of_mem (ih (List.cons_ne_nil _ _)))

/-- The chunk in which a first part of the whole ends. -/
theorem exists_chunk {chunks : List (List α)} {e r : List α} (h : chunks.flatten = e ++ r)
    (he : e ≠ []) : ∃ pre q y post, chunks = pre ++ (q ++ y) :: post ∧ pre.flatten ++ q = e ∧
      q ≠ [] ∧ (y :: post).flatten = r := by
  induction chunks generalizing e with
  | nil => exact absurd (List.append_eq_nil_iff.mp h.symm).1 he
  | cons chunk chunks ih =>
    rw [List.flatten_cons, List.append_eq_append_iff] at h
    obtain ⟨d, rfl, h⟩ | ⟨y, rfl, rfl⟩ := h
    · by_cases hd : d = []
      · subst hd
        rw [List.append_nil] at he
        exact ⟨[], chunk, [], chunks, by simp, by simp, he, h⟩
      · obtain ⟨pre, q, y, post, rfl, rfl, hq, hr⟩ := ih h hd
        exact ⟨chunk :: pre, q, y, post, rfl, by simp, hq, hr⟩
    · exact ⟨[], e, y, chunks, rfl, rfl, he, rfl⟩

theorem mem_ends_rest {pre : List (List α)} {q y : List α} {post : List (List α)} {n : ℕ}
    (hq : q ≠ []) : (pre.flatten ++ q).length + n ∈ ends (pre ++ (q ++ y) :: post) ↔
      n ∈ ends (y :: post) := by
  have hlength := List.length_pos_iff.mpr hq
  have hbefore : (pre.flatten ++ q).length + n ∉ ends pre := by
    intro hn
    have hle := le_of_mem_ends hn
    rw [List.length_append] at hle
    omega
  rw [mem_ends_append, or_iff_right hbefore]
  simp only [ends, List.mem_cons, List.mem_map, List.length_append]
  constructor
  · rintro ⟨k, rfl | ⟨m, hm, rfl⟩, hk⟩
    · exact Or.inl (by omega)
    · exact Or.inr ⟨m, hm, by omega⟩
  · rintro (rfl | ⟨m, hm, rfl⟩)
    · exact ⟨_, Or.inl rfl, by omega⟩
    · exact ⟨_, Or.inr ⟨m, hm, rfl⟩, by omega⟩

/-- A first part of the whole is cut when chunks before the one in which it ends have some of it. -/
theorem exists_end_iff {pre : List (List α)} {q y : List α} {post : List (List α)} (hq : q ≠ []) :
    (∃ n ∈ ends (pre ++ (q ++ y) :: post), 0 < n ∧ n < (pre.flatten ++ q).length) ↔
      pre.flatten ≠ [] := by
  have hlength := List.length_pos_iff.mpr hq
  rw [← List.length_pos_iff, List.length_append]
  constructor
  · rintro ⟨n, hn, hpos, hlt⟩
    rw [mem_ends_append] at hn
    obtain hn | ⟨k, hk, rfl⟩ := hn
    · exact hpos.trans_le (le_of_mem_ends hn)
    · simp only [ends, List.mem_cons, List.mem_map, List.length_append] at hk
      obtain rfl | ⟨m, -, rfl⟩ := hk <;> omega
  · intro hpos
    have hpre : pre ≠ [] := by
      rintro rfl
      exact absurd hpos (lt_irrefl 0)
    exact ⟨_, mem_ends_append.mpr (Or.inl (length_mem_ends hpre)), hpos, by omega⟩

end Cuts

/-- The characters of a text whose bytes start at a position, each with whether it is cut: a
chunk ends between two of its bytes. -/
def marked (cuts : List ℕ) : ℕ → List Char → List (Char × Bool)
  | _, [] => []
  | start, c :: cs =>
    (c, decide (∃ n ∈ cuts, start < n ∧ n < start + c.utf8Size)) ::
      marked cuts (start + c.utf8Size) cs

/-- What the characters are decoded to: each to itself or, when it is cut, to replacements. -/
inductive Decoded : List (Char × Bool) → List Char → Prop
  | nil : Decoded [] []
  | whole (c : Char) {ms : List (Char × Bool)} {ds : List Char} (h : Decoded ms ds) :
    Decoded ((c, false) :: ms) (c :: ds)
  | pieces {c : Char} (hc : 1 < c.utf8Size) (n : ℕ) {ms : List (Char × Bool)} {ds : List Char}
    (h : Decoded ms ds) :
    Decoded ((c, true) :: ms) (List.replicate (n + 2) replacement ++ ds)

theorem flatMap_continuations {chunks : List (List UInt8)}
    (h : ∀ b ∈ chunks.flatten, continuation b = true) : chunks.flatMap fromUtf8Lossy =
      List.replicate chunks.flatten.length replacement := by
  induction chunks with
  | nil => rfl
  | cons chunk chunks ih =>
    rw [List.flatten_cons, List.forall_mem_append] at h
    rw [List.flatMap_cons, fromUtf8Lossy_of_continuations h.1, ih h.2, List.flatten_cons,
      List.length_append, List.replicate_append_replicate]

/-- The chunks over which a character is spread, up to the one with its last byte. -/
theorem flatMap_pieces {c : Char} {pre : List (List UInt8)} {q : List UInt8}
    (h : pre.flatten ++ q = String.utf8EncodeChar c) (hpre : pre.flatten ≠ []) (hq : q ≠ []) :
    ∃ n, pre.flatMap fromUtf8Lossy = List.replicate (n + 1) replacement := by
  induction pre with
  | nil => exact absurd rfl hpre
  | cons chunk pre ih =>
    by_cases hchunk : chunk = []
    · subst hchunk
      exact ih h hpre
    · rw [List.flatten_cons, List.append_assoc] at h
      have hrest := continuation_of_append h hchunk
      obtain ⟨n, hpiece⟩ := fromUtf8Lossy_piece h hchunk fun hnil =>
        hq (List.append_eq_nil_iff.mp hnil).2
      have hmore := flatMap_continuations fun b hb => hrest b (List.mem_append_left q hb)
      refine ⟨n + pre.flatten.length, ?_⟩
      rw [List.flatMap_cons, hpiece, hmore, List.replicate_append_replicate, Nat.add_right_comm]

/-- A text decoded chunk by chunk, character by character. -/
theorem decoded_chunks {cuts : List ℕ} {start : ℕ} {cs : List Char} {chunks : List (List UInt8)}
    (hchunks : chunks.flatten = cs.flatMap String.utf8EncodeChar)
    (hcuts : ∀ n, start + n ∈ cuts ↔ n ∈ ends chunks) :
    Decoded (marked cuts start cs) (chunks.flatMap fromUtf8Lossy) := by
  induction cs generalizing start chunks with
  | nil =>
    have hempty : ∀ chunk ∈ chunks, fromUtf8Lossy chunk = [] := by
      intro chunk hchunk
      rw [List.flatten_eq_nil_iff.mp hchunks chunk hchunk]
      rfl
    rw [List.flatMap_eq_nil_iff.mpr hempty]
    exact Decoded.nil
  | cons c cs ih =>
    rw [List.flatMap_cons] at hchunks
    obtain ⟨pre, q, y, post, rfl, hc, hq, hrest⟩ := exists_chunk hchunks (by simp)
    have hlength := congrArg List.length hc
    rw [String.length_utf8EncodeChar] at hlength
    have hcut : (∃ n ∈ cuts, start < n ∧ n < start + c.utf8Size) ↔ pre.flatten ≠ [] := by
      rw [← exists_end_iff hq, hlength]
      constructor
      · rintro ⟨n, hn, hlt, hend⟩
        obtain ⟨k, rfl⟩ := Nat.exists_eq_add_of_lt hlt
        exact ⟨k + 1, (hcuts _).mp hn, Nat.succ_pos k, by omega⟩
      · rintro ⟨n, hn, hpos, hend⟩
        exact ⟨start + n, (hcuts n).mpr hn, by omega, by omega⟩
    have hafter : ∀ n, start + c.utf8Size + n ∈ cuts ↔ n ∈ ends (y :: post) := by
      intro n
      rw [Nat.add_assoc, hcuts, ← hlength, mem_ends_rest hq]
    have hmore := ih hrest hafter
    rw [List.flatMap_cons] at hmore
    rw [marked, List.flatMap_append, List.flatMap_cons]
    by_cases hpre : pre.flatten = []
    · have hfirst : pre.flatMap fromUtf8Lossy = [] := by
        rw [flatMap_continuations (by simp [hpre]), hpre]
        rfl
      rw [hpre, List.nil_append] at hc
      rw [decide_eq_false fun hex => hcut.mp hex hpre, hfirst, hc, fromUtf8Lossy_encodeChar]
      exact Decoded.whole c hmore
    · obtain ⟨n, hfirst⟩ := flatMap_pieces hc hpre hq
      obtain ⟨k, hk⟩ := Nat.exists_eq_add_of_lt (List.length_pos_iff.mpr hq)
      have hpieces : n + 1 + (0 + k + 1) = n + k + 2 := by omega
      obtain ⟨cut, -, hlt, hgt⟩ := hcut.mpr hpre
      rw [decide_eq_true (hcut.mpr hpre), hfirst,
        fromUtf8Lossy_continuations (continuation_of_append hc hpre), hk, List.append_assoc,
        ← List.append_assoc, List.replicate_append_replicate, hpieces]
      exact Decoded.pieces (by omega) _ hmore

/-! ## What a cut changes -/

theorem map_fst_marked (cuts : List ℕ) (start : ℕ) (cs : List Char) :
    (marked cuts start cs).map Prod.fst = cs := by
  induction cs generalizing start with
  | nil => rfl
  | cons c cs ih => rw [marked, List.map_cons, ih]

theorem marked_append (cuts : List ℕ) (start : ℕ) (cs ds : List Char) :
    marked cuts start (cs ++ ds) =
      marked cuts start cs ++ marked cuts (start + (cs.map Char.utf8Size).sum) ds := by
  induction cs generalizing start with
  | nil => rfl
  | cons c cs ih =>
    rw [List.cons_append, marked, marked, ih, List.map_cons, List.sum_cons, Nat.add_assoc,
      List.cons_append]

section Changes

variable {ms : List (Char × Bool)} {ds : List Char}

theorem Decoded.eq_map_fst (h : Decoded ms ds) (hwhole : ∀ m ∈ ms, m.2 = false) :
    ds = ms.map Prod.fst := by
  induction h with
  | nil => rfl
  | whole c _ ih => rw [List.map_cons, ih (List.forall_mem_cons.mp hwhole).2]
  | pieces _ _ _ => cases (List.forall_mem_cons.mp hwhole).1

/-- A cut makes the text longer. -/
theorem Decoded.length (h : Decoded ms ds) :
    ms.length ≤ ds.length ∧ (ds.length = ms.length → ∀ m ∈ ms, m.2 = false) := by
  induction h with
  | nil => exact ⟨le_rfl, by simp⟩
  | whole c _ ih =>
    rw [List.length_cons, List.length_cons, List.forall_mem_cons]
    exact ⟨Nat.succ_le_succ ih.1, fun heq => ⟨rfl, ih.2 (Nat.succ.inj heq)⟩⟩
  | pieces _ n _ ih =>
    rw [List.length_cons, List.length_append, List.length_replicate]
    exact ⟨by omega, fun heq => by omega⟩

theorem Decoded.eq_map_fst_iff (h : Decoded ms ds) :
    ds = ms.map Prod.fst ↔ ∀ m ∈ ms, m.2 = false := by
  refine ⟨fun heq => h.length.2 ?_, h.eq_map_fst⟩
  rw [heq, List.length_map]

/-- Whether a text starts with ASCII text is not changed. -/
theorem Decoded.isPrefixOf (h : Decoded ms ds) {w : List Char} (hw : ∀ c ∈ w, c.val ≤ 127) :
    w.isPrefixOf ds = w.isPrefixOf (ms.map Prod.fst) := by
  induction h generalizing w with
  | nil => rfl
  | whole c _ ih =>
    cases w with
    | nil => rfl
    | cons a w =>
      rw [List.map_cons, List.isPrefixOf_cons_cons, List.isPrefixOf_cons_cons,
        ih (List.forall_mem_cons.mp hw).2]
  | @pieces c hc n ms ds _ _ =>
    cases w with
    | nil => rfl
    | cons a w =>
      have ha := (List.forall_mem_cons.mp hw).1
      have hreplacement : (a == replacement) = false := by
        rw [beq_eq_false_iff_ne]
        rintro rfl
        exact absurd ha (by decide)
      have hchar : (a == c) = false := by
        rw [beq_eq_false_iff_ne]
        rintro rfl
        rw [Char.utf8Size_eq_one_iff.mpr ha] at hc
        exact lt_irrefl 1 hc
      rw [List.map_cons, List.replicate_succ, List.cons_append, List.isPrefixOf_cons_cons,
        List.isPrefixOf_cons_cons, hreplacement, hchar, Bool.false_and, Bool.false_and]

theorem forall₂_modifyHead {α β : Type*} {R : α → β → Prop} {f : α → α} {g : β → β}
    (hfg : ∀ a b, R a b → R (f a) (g b)) {as : List α} {bs : List β} (h : List.Forall₂ R as bs) :
    List.Forall₂ R (as.modifyHead f) (bs.modifyHead g) := by
  cases h with
  | nil => exact List.Forall₂.nil
  | cons hab h => exact List.Forall₂.cons (hfg _ _ hab) h

/-- The text is decoded part by part between the separators, as an ASCII character is not cut. -/
theorem Decoded.splitOn (h : Decoded ms ds) {sep : Char} (hsep : sep.val ≤ 127) :
    List.Forall₂ Decoded (ms.splitOnP fun m => m.1 == sep) (ds.splitOn sep) := by
  induction h with
  | nil => exact List.Forall₂.cons Decoded.nil List.Forall₂.nil
  | @whole c ms ds _ ih =>
    rw [List.splitOnP_cons_eq_if_modifyHead, List.splitOn_cons_eq_if_modifyHead]
    split_ifs
    · exact List.Forall₂.cons Decoded.nil ih
    · exact forall₂_modifyHead (fun _ _ => Decoded.whole c) ih
  | @pieces c hc n ms ds _ ih =>
    have hchar : ¬(c == sep) = true := by
      rw [beq_iff_eq]
      rintro rfl
      rw [Char.utf8Size_eq_one_iff.mpr hsep] at hc
      exact lt_irrefl 1 hc
    have hreplacement : sep ∉ List.replicate (n + 2) replacement := by
      intro hmem
      rw [List.eq_of_mem_replicate hmem] at hsep
      exact absurd hsep (by decide)
    rw [List.splitOnP_cons_eq_if_modifyHead, if_neg hchar, splitOn_append_of_notMem hreplacement]
    exact forall₂_modifyHead (fun _ _ => Decoded.pieces hc n) ih

/-- A last ASCII character is decoded to itself, behind the others. -/
theorem Decoded.concat {c : Char} {b : Bool} (h : Decoded (ms ++ [(c, b)]) ds) (hc : c.val ≤ 127) :
    ∃ es, ds = es ++ [c] ∧ Decoded ms es := by
  induction ms generalizing ds with
  | nil =>
    cases h with
    | whole _ h =>
      cases h
      exact ⟨[], rfl, Decoded.nil⟩
    | pieces hsize n h =>
      rw [Char.utf8Size_eq_one_iff.mpr hc] at hsize
      exact absurd hsize (lt_irrefl 1)
  | cons m ms ih =>
    cases h with
    | whole d h =>
      obtain ⟨es, rfl, hes⟩ := ih h
      exact ⟨d :: es, rfl, Decoded.whole d hes⟩
    | pieces hsize n h =>
      obtain ⟨es, rfl, hes⟩ := ih h
      exact ⟨_, (List.append_assoc _ _ _).symm, Decoded.pieces hsize n hes⟩

theorem splitOn_map_fst (ms : List (Char × Bool)) (sep : Char) : (ms.map Prod.fst).splitOn sep =
    (ms.splitOnP fun m => m.1 == sep).map (List.map Prod.fst) := by
  induction ms with
  | nil => rfl
  | cons m ms ih =>
    rw [List.map_cons, List.splitOn_cons_eq_if_modifyHead, List.splitOnP_cons_eq_if_modifyHead, ih]
    split_ifs
    · rfl
    · cases ms.splitOnP (fun m => m.1 == sep) <;> rfl

end Changes

end Vyoma.RustText
