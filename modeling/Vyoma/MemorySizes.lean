import Vyoma.ResourceLimits

/-!
# Sizes of memory in three parsers

The command line, the compose translator and the Python client read sizes such as `512M` into
MiB. They have tables of units of their own: the translator takes a unit with an `i` for MB. They
round parts of a MiB to the nearest, up and down.
-/
namespace Vyoma.Compose
open RustText

/-! ## The command line -/

/-- MiB to the unit. -/
def unitMib : String → Option ℚ
  | "" | "M" | "MB" | "MIB" => some 1
  | "G" | "GB" | "GIB" => some 1024
  | "K" | "KB" | "KIB" => some (1 / 1024)
  | "T" | "TB" | "TIB" => some (1024 * 1024)
  | _ => none

def unitMessage (unit s : String) : String :=
  "Invalid memory unit '" ++ unit ++ "' in '" ++ s ++
    "'. Supported units: M, MB, MiB, G, GB, GiB"

def parseMemorySize (t : Unicode) (s : String) : Except String UInt32 :=
  let trimmed := trim s.toList
  if trimmed = [] then .error "Memory size cannot be empty"
  else
    let upper := t.uppercase trimmed
    let numPart := upper.takeWhile ResourceTranslator.numeric
    let unitPart := upper.dropWhile ResourceTranslator.numeric
    if numPart = [] then .error ("Invalid memory size '" ++ s ++ "': missing numerical value")
    else
      match parseF64 numPart with
      | none => .error ("Invalid memory size '" ++ s ++ "': invalid float literal")
      | some val =>
        if val.nonpositive then .error ("Memory size must be greater than 0, got " ++ s)
        else
          match unitMib (String.ofList (trim unitPart)) with
          | none => .error (unitMessage (String.ofList (trim unitPart)) s)
          | some multiplier =>
            let mib := (val.scale multiplier).round.toU32
            if mib = 0 then .error ("Memory size '" ++ s ++ "' resolves to 0 MiB") else .ok mib

/-! ## The Python client -/

/-- `str.isspace`, which knows four separators besides the white space of Unicode. -/
def isSpace (c : Char) : Bool := isWhitespace c || (0x1C ≤ c.toNat && c.toNat ≤ 0x1F)

/-- `str.strip`. -/
def strip (cs : List Char) : List Char := List.rdropWhile isSpace (cs.dropWhile isSpace)

/-- One character of a pattern that may be missing. -/
def dropOptional (p : Char → Bool) : List Char → List Char
  | [] => []
  | c :: cs => if p c then cs else c :: cs

/-- `[KMGTP]?I?B?`. -/
def isUnit (cs : List Char) : Bool :=
  dropOptional (· = 'B') (dropOptional (· = 'I') (dropOptional (· ∈ "KMGTP".toList) cs)) = []

/-- The unit before the end, which a line feed may follow. -/
def matchUnit (cs : List Char) : Option (List Char) :=
  if isUnit cs then some cs
  else if cs.getLast? = some '\n' ∧ isUnit cs.dropLast then some cs.dropLast
  else none

/-- `int`, of digits of any script. -/
def intOf (t : Unicode) (cs : List Char) : ℕ :=
  cs.foldl (fun acc c => 10 * acc + (t.decimal c).getD 0) 0

/-- The number of MiB for a number with a unit. -/
def unitValue (val : ℤ) : List Char → ℤ
  | 'K' :: _ => max 1 (val / 1024)
  | 'M' :: _ => val
  | 'G' :: _ => val * 1024
  | 'T' :: _ => val * 1024 * 1024
  | _ => val

/-- `_parse_memory_to_mib`, for an integer or a text. -/
def parseMemoryToMib (t : Unicode) : ℤ ⊕ String → Except String ℤ
  | .inl mem => .ok mem
  | .inr mem =>
    let raw := t.uppercase (strip mem.toList)
    let number := raw.takeWhile fun c => (t.decimal c).isSome
    let rest := raw.dropWhile fun c => (t.decimal c).isSome
    if number = [] then .error ("Invalid memory size format: '" ++ mem ++ "'")
    else
      match matchUnit rest with
      | none => .error ("Invalid memory size format: '" ++ mem ++ "'")
      | some unit => .ok (unitValue (intOf t number) (if unit = [] then ['M'] else unit))

/-! ## One unit for all -/

/-- A positive numeral and a text without digits. -/
structure MemoryText where
  number : List Char
  unit : List Char
  number_digits : ∀ c ∈ number, c.isDigit = true
  positive : 0 < Nat.ofDigitChars 10 number 0
  unit_digits : ∀ c ∈ unit, c.isDigit = false

namespace MemoryText

variable (t : Unicode) (m : MemoryText)

def text : String := String.ofList (m.number ++ m.unit)

def value : ℕ := Nat.ofDigitChars 10 m.number 0

/-- The unit in capitals, without the white space at its end. -/
def capital : List Char := t.uppercase (List.rdropWhile isWhitespace m.unit)

theorem number_ne_nil : m.number ≠ [] := by
  intro h
  have hpositive := m.positive
  simp [h] at hpositive

end MemoryText

/-- The units of the command line consist of capital letters. -/
theorem isAlpha_of_unitMib {unit : String} {k : ℚ} (h : unitMib unit = some k) :
    ∀ c ∈ unit.toList, c.isAlpha = true ∧ c.toNat < 128 := by
  unfold unitMib at h
  split at h <;> cases h <;> exact List.all_iff_forall_prop.mp (by decide)

theorem mem_dropWhile {p : Char → Bool} {cs : List Char} {c : Char} (hc : c ∈ cs)
    (hp : p c = false) : c ∈ cs.dropWhile p := by
  induction cs with
  | nil => cases hc
  | cons d cs ih =>
    rw [List.dropWhile_cons]
    split_ifs with hd
    · obtain rfl | hc := List.mem_cons.mp hc
      · rw [hp] at hd
        cases hd
      · exact ih hc
    · exact hc

theorem mem_trim {cs : List Char} {c : Char} (hc : c ∈ cs) (h : isWhitespace c = false) :
    c ∈ trim cs :=
  List.mem_reverse.mpr (mem_dropWhile (List.mem_reverse.mpr (mem_dropWhile hc h)) h)

theorem mem_dropOptional {p : Char → Bool} {cs : List Char} {c : Char} (hc : c ∈ cs) :
    p c = true ∨ c ∈ dropOptional p cs := by
  cases cs with
  | nil => cases hc
  | cons d cs =>
    simp only [dropOptional]
    split_ifs with hd
    · obtain rfl | hc := List.mem_cons.mp hc
      · exact .inl hd
      · exact .inr hc
    · exact .inr hc

/-- What the pattern matches consists of its letters. -/
theorem isAlpha_of_isUnit {cs : List Char} (h : isUnit cs = true) {c : Char} (hc : c ∈ cs) :
    c.isAlpha = true := by
  have hletters : ∀ d ∈ "KMGTP".toList, d.isAlpha = true :=
    List.all_iff_forall_prop.mp (by decide)
  rw [isUnit, decide_eq_true_eq] at h
  obtain hfirst | hc := mem_dropOptional (p := (· ∈ "KMGTP".toList)) hc
  · exact hletters c (of_decide_eq_true hfirst)
  obtain hsecond | hc := mem_dropOptional (p := (· = 'I')) hc
  · rw [of_decide_eq_true hsecond]
    rfl
  obtain hthird | hc := mem_dropOptional (p := (· = 'B')) hc
  · rw [of_decide_eq_true hthird]
    rfl
  · rw [h] at hc
    cases hc

theorem intOf_digits (t : Unicode) {cs : List Char} (h : ∀ c ∈ cs, c.isDigit = true) :
    intOf t cs = Nat.ofDigitChars 10 cs 0 := by
  have hfold : ∀ acc : ℕ, cs.foldl (fun acc c => 10 * acc + (t.decimal c).getD 0) acc =
      Nat.ofDigitChars 10 cs acc := by
    induction cs with
    | nil => exact fun _ => rfl
    | cons c cs ih =>
      intro acc
      have hdigit := h c List.mem_cons_self
      rw [List.foldl_cons, t.decimal_ascii c (toNat_lt_of_isDigit hdigit), digit_of_isDigit hdigit,
        Option.getD_some, ih fun d hd => h d (List.mem_cons_of_mem _ hd)]
      rfl
  exact hfold 0

/-! ### What both accept -/

theorem unitMib_of_ok {t : Unicode} {s : String} {mib : UInt32}
    (h : parseMemorySize t s = .ok mib) : ∃ val k,
      parseF64 ((t.uppercase (trim s.toList)).takeWhile ResourceTranslator.numeric) = some val ∧
      unitMib (String.ofList (trim
        ((t.uppercase (trim s.toList)).dropWhile ResourceTranslator.numeric))) = some k ∧
      (val.scale k).round.toU32 = mib ∧ mib ≠ 0 := by
  unfold parseMemorySize at h
  dsimp only at h
  split_ifs at h
  cases hval : parseF64 ((t.uppercase (trim s.toList)).takeWhile ResourceTranslator.numeric) with
  | none =>
    rw [hval] at h
    cases h
  | some val =>
    rw [hval] at h
    dsimp only at h
    split_ifs at h
    cases hunit : unitMib (String.ofList (trim
        ((t.uppercase (trim s.toList)).dropWhile ResourceTranslator.numeric))) with
    | none =>
      rw [hunit] at h
      cases h
    | some k =>
      rw [hunit] at h
      dsimp only at h
      split_ifs at h with hzero
      cases h
      exact ⟨val, k, rfl, rfl, rfl, hzero⟩

theorem matchUnit_of_ok {t : Unicode} {s : String} {py : ℤ}
    (h : parseMemoryToMib t (.inr s) = .ok py) : ∃ unit,
      matchUnit ((t.uppercase (strip s.toList)).dropWhile fun c => (t.decimal c).isSome) =
        some unit ∧
      unitValue (intOf t ((t.uppercase (strip s.toList)).takeWhile fun c => (t.decimal c).isSome))
        (if unit = [] then ['M'] else unit) = py := by
  unfold parseMemoryToMib at h
  dsimp only at h
  split_ifs at h
  cases hunit : matchUnit
      ((t.uppercase (strip s.toList)).dropWhile fun c => (t.decimal c).isSome) with
  | none =>
    rw [hunit] at h
    cases h
  | some unit =>
    rw [hunit] at h
    exact ⟨unit, rfl, Except.ok.inj h⟩

namespace MemoryText

variable {t : Unicode} {m : MemoryText} {mib : UInt32} {py : ℤ}

theorem number_not_space {c : Char} (hc : c ∈ m.number) : isSpace c = false := by
  have hdigit := m.number_digits c hc
  have hrange : 48 ≤ c.toNat := (toNat_of_isDigit hdigit).1
  simp [isSpace, isWhitespace_of_isDigit hdigit]
  omega

theorem uppercase_trim : t.uppercase (trim m.text.toList) = m.number ++ m.capital t := by
  have hnumber : ∀ c ∈ m.number, isWhitespace c = false :=
    fun c hc => isWhitespace_of_isDigit (m.number_digits c hc)
  have htrim : trim m.text.toList = m.number ++ List.rdropWhile isWhitespace m.unit := by
    rw [text, String.toList_ofList, trim_append_of_no_blank hnumber m.number_ne_nil]
  rw [htrim, t.uppercase_append, t.uppercase_digits m.number_digits]
  rfl

theorem uppercase_strip : t.uppercase (strip m.text.toList) =
    m.number ++ t.uppercase (List.rdropWhile isSpace m.unit) := by
  rw [text, String.toList_ofList, strip,
    dropWhile_append_of_neg (fun c => number_not_space) m.number_ne_nil,
    rdropWhile_append fun c => number_not_space, t.uppercase_append,
    t.uppercase_digits m.number_digits]

/-- A digit is nowhere in the unit, in capitals or not. -/
theorem isDigit_capital {c : Char} (hc : c ∈ m.capital t) : c.isDigit = false := by
  cases hdigit : c.isDigit with
  | false => rfl
  | true =>
    have hmem := t.mem_of_mem_uppercase hc (toNat_lt_of_isDigit hdigit) (isAlpha_of_isDigit hdigit)
    obtain ⟨tail, hunit, -⟩ := rdropWhile_spec isWhitespace m.unit
    have hnone := m.unit_digits c (hunit ▸ List.mem_append_left tail hmem)
    rw [hdigit] at hnone
    cases hnone

/-- Of the unit that the command line accepts, everything besides points and white space is a
letter. -/
theorem isAlpha_of_cli (hcli : parseMemorySize t m.text = .ok mib) {c : Char}
    (hc : c ∈ m.capital t) (hpoint : c ≠ '.') (hblank : isWhitespace c = false) :
    c.isAlpha = true ∧ c.toNat < 128 := by
  obtain ⟨val, k, -, hunit, -⟩ := unitMib_of_ok hcli
  have hnumeric : ∀ d ∈ m.number, ResourceTranslator.numeric d = true :=
    fun d hd => ResourceTranslator.numeric_of_isDigit (m.number_digits d hd)
  have hc' : ResourceTranslator.numeric c = false := by
    simp [ResourceTranslator.numeric, isDigit_capital hc, hpoint]
  rw [uppercase_trim, List.dropWhile_append_of_pos hnumeric] at hunit
  refine isAlpha_of_unitMib hunit c ?_
  rw [String.toList_ofList]
  exact mem_trim (mem_dropWhile hc hc') hblank

/-- What only Python takes for white space is not at the end of a unit that is accepted. -/
theorem rdropWhile_isSpace (hcli : parseMemorySize t m.text = .ok mib) :
    List.rdropWhile isSpace m.unit = List.rdropWhile isWhitespace m.unit := by
  obtain ⟨blanks, hunit, hblanks, hlast⟩ := rdropWhile_spec isWhitespace m.unit
  have hspaces : ∀ c ∈ blanks, isSpace c = true := fun c hc => by simp [isSpace, hblanks c hc]
  have hsame : List.rdropWhile isSpace m.unit =
      List.rdropWhile isSpace (List.rdropWhile isWhitespace m.unit) := by
    rw [hunit, rdropWhile_append_of_forall _ hspaces, ← hunit]
  obtain ⟨rest, hrest, hseparators, -⟩ :=
    rdropWhile_spec isSpace (List.rdropWhile isWhitespace m.unit)
  rw [hsame]
  obtain hnil | ⟨init, c, hsplit⟩ := List.eq_nil_or_concat' rest
  · rw [hnil, List.append_nil] at hrest
    exact hrest.symm
  · -- The last character is a separator: it is its own capital and no letter.
    exfalso
    have hend : List.rdropWhile isWhitespace m.unit =
        (List.rdropWhile isSpace (List.rdropWhile isWhitespace m.unit) ++ init) ++ [c] := by
      rw [List.append_assoc, ← hsplit, ← hrest]
    have hblank : isWhitespace c = false := hlast c (by rw [hend, List.getLast?_concat]; rfl)
    have hspace : isSpace c = true := hseparators c (hsplit ▸ by simp)
    have hrange : 28 ≤ c.toNat ∧ c.toNat ≤ 31 := by simpa [isSpace, hblank] using hspace
    have hval : c.toNat = c.val.toNat := rfl
    have halpha : c.isAlpha = false := by
      rw [Bool.eq_false_iff, ne_eq, isAlpha_iff]
      omega
    have hpoint : c ≠ '.' := by
      rintro rfl
      exact absurd hrange (by decide)
    have hmem : c ∈ m.capital t := by
      refine t.mem_uppercase.mpr ⟨c, by rw [hend]; simp, ?_⟩
      rw [t.upper_ascii c (by omega), toUpper_of_not_isAlpha halpha]
      exact List.mem_singleton_self c
    rw [(isAlpha_of_cli hcli hmem hpoint hblank).1] at halpha
    cases halpha

/-- The capital unit does not end with a line feed. -/
theorem getLast_capital : (m.capital t).getLast? ≠ some '\n' := by
  intro h
  obtain ⟨-, -, -, hlast⟩ := rdropWhile_spec isWhitespace m.unit
  unfold capital at h
  obtain hnil | ⟨init, c, hsplit⟩ :=
    List.eq_nil_or_concat' (List.rdropWhile isWhitespace m.unit)
  · rw [hnil] at h
    cases h
  · have hblank : isWhitespace c = false :=
      hlast c (by rw [hsplit, List.getLast?_concat]; rfl)
    have hupper : t.uppercase (init ++ [c]) = t.uppercase init ++ t.upper c := by
      rw [t.uppercase_append]
      simp [Unicode.uppercase]
    rw [hsplit, hupper, List.getLast?_append_of_ne_nil _ (t.upper_ne_nil c)] at h
    have hmem : '\n' ∈ t.upper c := List.mem_of_getLast? h
    have hsame : '\n' = c := t.upper_from c '\n' hmem (by decide) (by decide)
    rw [← hsame] at hblank
    cases hblank

/-- A unit that both accept consists of letters, and is read whole. -/
theorem unit_of_ok (hcli : parseMemorySize t m.text = .ok mib)
    (hpy : parseMemoryToMib t (.inr m.text) = .ok py) :
    (∀ c ∈ m.capital t, c.isAlpha = true) ∧
      unitValue m.value (if m.capital t = [] then ['M'] else m.capital t) = py := by
  obtain ⟨unit, hunit, hvalue⟩ := matchUnit_of_ok hpy
  have hraw : t.uppercase (strip m.text.toList) = m.number ++ m.capital t := by
    rw [uppercase_strip, rdropWhile_isSpace hcli]
    rfl
  have hdecimal : ∀ c ∈ m.number, (t.decimal c).isSome = true := by
    intro c hc
    have hdigit := m.number_digits c hc
    rw [t.decimal_ascii c (toNat_lt_of_isDigit hdigit), digit_of_isDigit hdigit]
    rfl
  have hother : ∀ c ∈ m.capital t, (t.decimal c).isSome = false := by
    intro c hc
    cases hblank : isWhitespace c with
    | true => rw [t.decimal_whitespace c hblank]; rfl
    | false =>
      by_cases hpoint : c = '.'
      · rw [hpoint, t.decimal_ascii _ (by decide)]
        rfl
      · obtain ⟨-, hascii⟩ := isAlpha_of_cli hcli hc hpoint hblank
        rw [t.decimal_ascii c hascii]
        cases hdigit : digit c with
        | none => rfl
        | some d => cases (isDigit_of_digit hdigit).symm.trans (isDigit_capital hc)
  obtain ⟨htake, hdrop⟩ := takeWhile_numeral (p := fun c => (t.decimal c).isSome) hdecimal
    (fun c hc => hother c (List.mem_of_mem_head? hc))
  rw [hraw, hdrop] at hunit
  rw [hraw, htake, intOf_digits t m.number_digits] at hvalue
  unfold matchUnit at hunit
  split_ifs at hunit with hisUnit hfeed
  · cases hunit
    exact ⟨fun c => isAlpha_of_isUnit hisUnit, hvalue⟩
  · exact absurd hfeed.1 getLast_capital

/-- The two other parsers read the same number with the same unit. -/
theorem results_of_letters (hletters : ∀ c ∈ m.capital t, c.isAlpha = true) :
    (∀ mib, parseMemorySize t m.text = .ok mib → ∃ k,
      unitMib (String.ofList (m.capital t)) = some k ∧
      (F64.finite (m.value * k)).round.toU32 = mib ∧ mib ≠ 0) ∧
    ResourceTranslator.parseMemToMib t m.text = (F64.finite
      (m.value * ResourceTranslator.multiplier (String.ofList (m.capital t)))).ceil.toU32 := by
  have hnumeric : ∀ c ∈ m.number, ResourceTranslator.numeric c = true :=
    fun c hc => ResourceTranslator.numeric_of_isDigit (m.number_digits c hc)
  have hhead : ∀ c ∈ (m.capital t).head?, ResourceTranslator.numeric c = false :=
    fun c hc => ResourceTranslator.numeric_of_isAlpha (hletters c (List.mem_of_mem_head? hc))
  obtain ⟨htake, hdrop⟩ := takeWhile_numeral hnumeric hhead
  refine ⟨fun mib hcli => ?_, ResourceTranslator.parseMemToMib_eq t uppercase_trim m.number_ne_nil
    m.number_digits hhead⟩
  obtain ⟨val, k, hval, hunit, hmib⟩ := unitMib_of_ok hcli
  rw [uppercase_trim, htake, parseF64_digits m.number_digits m.number_ne_nil] at hval
  rw [uppercase_trim, hdrop, trim_of_forall fun c hc => isWhitespace_of_isAlpha (hletters c hc)]
    at hunit
  cases hval
  exact ⟨k, hunit, hmib⟩

end MemoryText

/-! ## Where they agree -/

/-- The units that mean the same, the two of KiB for whole MiB and for less than one only. -/
def SharedUnit (unit : String) (n : ℕ) : Prop :=
  unit ∈ ["", "M", "MB", "MIB", "G", "GB", "T", "TB"] ∨
    unit ∈ ["K", "KB"] ∧ (1024 ∣ n ∨ n < 1024)

theorem floor_ratio (a d : ℕ) : ⌊(a : ℚ) / (d : ℕ)⌋₊ = a / d := by
  rw [← Int.floor_toNat, Rat.floor_natCast_div_natCast]
  rfl

theorem floor_add_half (n : ℕ) : ⌊(n : ℚ) + 1 / 2⌋₊ = n := by
  have hsum : (n : ℚ) + 1 / 2 = ((2 * n + 1 : ℕ) : ℚ) / (2 : ℕ) := by
    push_cast
    ring
  rw [hsum, floor_ratio]
  omega

/-- KiB to the nearest MiB, and up. -/
theorem floor_kib (n : ℕ) : ⌊(n : ℚ) * (1 / 1024) + 1 / 2⌋₊ = (n + 512) / 1024 := by
  have hsum : (n : ℚ) * (1 / 1024) + 1 / 2 = ((n + 512 : ℕ) : ℚ) / (1024 : ℕ) := by
    push_cast
    ring
  rw [hsum, floor_ratio]

theorem ceil_kib (n : ℕ) : ⌈(n : ℚ) * (1 / 1024)⌉₊ = (n + 1023) / 1024 := by
  have hquotient : (n : ℚ) * (1 / 1024) = (n : ℚ) / (1024 : ℕ) := by
    push_cast
    ring
  have hceil := Rat.ceil_natCast_div_natCast n 1024
  rw [hquotient, ← Int.ceil_toNat, hceil]
  omega

/-- The number of MiB on the command line. -/
theorem floor_whole (n k : ℕ) : ⌊(n : ℚ) * k + 1 / 2⌋₊ = n * k := by
  rw [← Nat.cast_mul, floor_add_half]

theorem ceil_whole (n k : ℕ) : ⌈(n : ℚ) * k⌉₊ = n * k := by
  rw [← Nat.cast_mul, Nat.ceil_natCast]

/-- The value that the Python client gives a number with a unit. -/
def pythonMib (n : ℕ) (unit : String) : ℤ :=
  unitValue n (if unit.toList = [] then ['M'] else unit.toList)

/-- The units by what the tables hold for them. -/
inductive UnitKind (unit : String) (k : ℚ) : Prop
  | same (s : ℕ) (hunit : unit ∈ ["", "M", "MB", "MIB", "G", "GB", "T", "TB"]) (hk : k = s)
      (hmultiplier : ResourceTranslator.multiplier unit = s)
      (hpython : ∀ n : ℕ, pythonMib n unit = n * s)
  | kib (hunit : unit ∈ ["K", "KB"]) (hk : k = 1 / 1024)
      (hmultiplier : ResourceTranslator.multiplier unit = 1 / 1024)
      (hpython : ∀ n : ℕ, pythonMib n unit = max 1 ((n : ℤ) / 1024))
  | other (hunit : unit ∈ ["KIB", "GIB", "TIB"]) (hk : k = 1 / 1024 ∨ ∃ s : ℕ, 1 < s ∧ k = s)
      (hmultiplier : ResourceTranslator.multiplier unit = 1)

theorem unitKind {unit : String} {k : ℚ} (h : unitMib unit = some k) : UnitKind unit k := by
  have hmega : ∀ n : ℤ, n * 1024 * 1024 = n * (1048576 : ℕ) := by omega
  unfold unitMib at h
  split at h <;> cases h
  case h_1 | h_2 | h_3 | h_4 =>
    exact .same 1 (by decide) (by norm_num) (by rfl) fun n => (Int.mul_one _).symm
  case h_5 | h_6 => exact .same 1024 (by decide) (by norm_num) (by rfl) fun n => rfl
  case h_8 | h_9 => exact .kib (by decide) rfl rfl fun n => rfl
  case h_11 | h_12 =>
    exact .same 1048576 (by decide) (by norm_num) (by decide +kernel) fun n => hmega n
  case h_7 => exact .other (by decide) (.inr ⟨1024, by omega, by norm_num⟩) rfl
  case h_10 => exact .other (by decide) (.inl rfl) rfl
  case h_13 => exact .other (by decide) (.inr ⟨1048576, by omega, by norm_num⟩) rfl

theorem unitMib_nonneg {unit : String} {k : ℚ} (h : unitMib unit = some k) : 0 ≤ k := by
  unfold unitMib at h
  split at h <;> cases h <;> norm_num

theorem units_agree_iff {unit : String} {k : ℚ} (hunit : unitMib unit = some k) {n : ℕ}
    (hn : 0 < n) (hmib : ⌊n * k + 1 / 2⌋₊ ≠ 0) :
    (⌊n * k + 1 / 2⌋₊ = ⌈n * ResourceTranslator.multiplier unit⌉₊ ∧
      (⌊n * k + 1 / 2⌋₊ : ℤ) = pythonMib n unit) ↔ SharedUnit unit n := by
  unfold SharedUnit
  cases unitKind hunit with
  | same s hmem hk hmultiplier hpython =>
    rw [hk, hmultiplier, hpython, floor_whole, ceil_whole]
    simp [hmem]
  | kib hmem hk hmultiplier hpython =>
    have hdisjoint : ∀ u ∈ ["K", "KB"], u ∉ ["", "M", "MB", "MIB", "G", "GB", "T", "TB"] := by
      decide
    rw [hk, floor_kib] at hmib
    rw [hk, hmultiplier, hpython, floor_kib, ceil_kib]
    simp only [hdisjoint unit hmem, hmem, false_or, true_and]
    omega
  | other hmem hk hmultiplier =>
    have hdisjoint : ∀ u ∈ ["KIB", "GIB", "TIB"],
        u ∉ ["", "M", "MB", "MIB", "G", "GB", "T", "TB"] ∧ u ∉ ["K", "KB"] := by decide
    obtain ⟨hfirst, hsecond⟩ := hdisjoint unit hmem
    have hceil : ⌈(n : ℚ) * 1⌉₊ = n := by rw [mul_one, Nat.ceil_natCast]
    simp only [hfirst, hsecond, false_or, false_and, iff_false, hmultiplier, hceil]
    rintro ⟨hsame, -⟩
    obtain rfl | ⟨s, hs, rfl⟩ := hk
    · rw [floor_kib] at hsame
      omega
    · rw [floor_whole] at hsame
      have hlt : n * 1 < n * s := Nat.mul_lt_mul_of_pos_left hs hn
      omega

namespace MemoryText

variable (t : Unicode) (m : MemoryText)

/-- The results fit 32 bits. -/
structure FitsIn32 : Prop where
  cli : ∀ k, unitMib (String.ofList (m.capital t)) = some k → ⌊m.value * k + 1 / 2⌋₊ < 2 ^ 32
  compose : ⌈m.value * ResourceTranslator.multiplier (String.ofList (m.capital t))⌉₊ < 2 ^ 32

variable {t m} {mib : UInt32} {py : ℤ}

/-- A size that the command line and the Python client accept is the same number of MiB for all
three exactly where its unit is shared. -/
theorem sizes_agree_iff (hcli : parseMemorySize t m.text = .ok mib)
    (hpy : parseMemoryToMib t (.inr m.text) = .ok py) (hfits : m.FitsIn32 t) :
    (mib = ResourceTranslator.parseMemToMib t m.text ∧ (mib.toNat : ℤ) = py) ↔
      SharedUnit (String.ofList (m.capital t)) m.value := by
  obtain ⟨hletters, hpython⟩ := unit_of_ok hcli hpy
  obtain ⟨hround, hcompose⟩ := results_of_letters hletters
  obtain ⟨k, hunit, hmib, hne⟩ := hround mib hcli
  have hscaled : 0 ≤ (m.value * k : ℚ) := mul_nonneg (Nat.cast_nonneg _) (unitMib_nonneg hunit)
  have hcli' : mib.toNat = ⌊m.value * k + 1 / 2⌋₊ := by
    rw [← hmib, F64.toNat_toU32_round hscaled (hfits.cli k hunit)]
  have hcompose' : (ResourceTranslator.parseMemToMib t m.text).toNat =
      ⌈m.value * ResourceTranslator.multiplier (String.ofList (m.capital t))⌉₊ := by
    rw [hcompose, F64.toNat_toU32_ceil hfits.compose]
  have hpy' : pythonMib m.value (String.ofList (m.capital t)) = py := by
    rw [pythonMib, String.toList_ofList, hpython]
  have hne' : ⌊m.value * k + 1 / 2⌋₊ ≠ 0 := fun h => hne (UInt32.toNat_inj.mp (hcli'.trans h))
  rw [← UInt32.toNat_inj, hcompose', hcli', ← hpy']
  exact units_agree_iff hunit m.positive hne'

/-! ### Four GiB -/

def fourGib : MemoryText := ⟨['4'], ['G', 'i', 'B'], by simp, by decide, by simp⟩

theorem capital_fourGib : String.ofList (fourGib.capital .ascii) = "GIB" := by decide +kernel

theorem fourGib_cli : parseMemorySize .ascii fourGib.text = .ok 4096 := by decide +kernel

theorem fourGib_python : parseMemoryToMib .ascii (.inr fourGib.text) = .ok 4096 := by
  decide +kernel

theorem fourGib_fitsIn32 : fourGib.FitsIn32 .ascii := by
  have hvalue : fourGib.value = 4 := by decide
  refine ⟨fun k hk => ?_, ?_⟩
  · rw [capital_fourGib] at hk
    cases hk
    rw [hvalue, show (1024 : ℚ) = ((1024 : ℕ) : ℚ) by norm_num, floor_whole]
    decide
  · have hmultiplier : ResourceTranslator.multiplier "GIB" = 1 := rfl
    rw [capital_fourGib, hvalue, hmultiplier, mul_one, Nat.ceil_natCast]
    decide

theorem fourGib_agree_iff :
    ((4096 : UInt32) = ResourceTranslator.parseMemToMib .ascii fourGib.text ∧
      ((4096 : UInt32).toNat : ℤ) = 4096) ↔
      SharedUnit (String.ofList (fourGib.capital .ascii)) fourGib.value :=
  sizes_agree_iff fourGib_cli fourGib_python fourGib_fitsIn32

/-- The command line and the Python client read 4096 MiB, and the translator reads 4. -/
theorem fourGib_disagree :
    parseMemorySize .ascii "4GiB" = .ok 4096 ∧ parseMemoryToMib .ascii (.inr "4GiB") = .ok 4096 ∧
      ResourceTranslator.parseMemToMib .ascii "4GiB" = 4 := by
  refine ⟨?_, ?_, ?_⟩ <;> decide +kernel

end MemoryText

end Vyoma.Compose
