import Vyoma.Numerals

/-!
# Resource limits of a compose service

The limits are texts: a number of CPUs, and a size of memory with a unit. The translator
reads them into whole CPUs and whole MiB. Sizes are rounded up. CPUs are scaled by 1000 and
rounded up before a division that rounds down, so that a fraction of a CPU above one is lost
unless it ends within a thousandth of the next CPU.
-/
namespace Vyoma.Compose
open RustText

structure ResourceConstraints where
  cpus : Option String
  memory : Option String

structure ResourceConfig where
  limits : Option ResourceConstraints
  reservations : Option ResourceConstraints

structure DeployConfig where
  resources : Option ResourceConfig

def DeployConfig.limits (deploy : DeployConfig) : Option ResourceConstraints :=
  deploy.resources.bind ResourceConfig.limits

namespace ResourceTranslator

/-- The characters taken for the number. -/
def numeric (c : Char) : Bool := c.isDigit || c = '.'

/-- MiB to the unit; a unit that is not known counts as MB. -/
def multiplier : String → ℚ
  | "B" => 1 / (1024 * 1024)
  | "K" | "KB" => 1 / 1024
  | "M" | "MB" => 1
  | "G" | "GB" => 1024
  | "T" | "TB" => 1024 * 1024
  | _ => 1

def parseMemToMib (t : Unicode) (mem : String) : UInt32 :=
  let mem := t.uppercase (trim mem.toList)
  let chars := mem.takeWhile numeric
  let unit := mem.dropWhile numeric
  let val := (parseF64 chars).getD (.finite 512)
  (val.scale (multiplier (String.ofList unit))).ceil.toU32

/-- The number of CPUs, and of MiB. -/
def translate (t : Unicode) (deploy : Option DeployConfig) : UInt32 × UInt32 :=
  let limits := deploy.bind DeployConfig.limits
  let cpu := (((limits.bind ResourceConstraints.cpus).bind fun c => parseF64 c.toList).map
    fun c => (c.scale 1000).ceil.toU32 / 1000).getD 1
  let mem := ((limits.bind ResourceConstraints.memory).map (parseMemToMib t)).getD 512
  (if cpu = 0 then 1 else cpu, mem)

end ResourceTranslator

/-! ## Sizes of memory -/

/-- The bytes that a unit stands for. -/
def unitBytes : String → Option ℕ
  | "B" => some 1
  | "K" | "KB" => some 1024
  | "M" | "MB" => some (1024 ^ 2)
  | "G" | "GB" => some (1024 ^ 3)
  | "T" | "TB" => some (1024 ^ 4)
  | _ => none

/-- A size: a positive numeral and a unit. -/
structure MemoryLimit where
  number : List Char
  unit : String
  bytes : ℕ
  number_digits : ∀ c ∈ number, c.isDigit = true
  positive : 0 < Nat.ofDigitChars 10 number 0
  known : unitBytes unit = some bytes

namespace MemoryLimit

def text (m : MemoryLimit) : String := String.ofList m.number ++ m.unit

/-- The bytes that are asked for. -/
def requested (m : MemoryLimit) : ℕ := Nat.ofDigitChars 10 m.number 0 * m.bytes

end MemoryLimit

namespace ResourceTranslator

variable (t : Unicode)

theorem multiplier_of_known {unit : String} {bytes : ℕ} (h : unitBytes unit = some bytes) :
    multiplier unit = bytes / 1024 ^ 2 := by
  unfold unitBytes at h
  split at h <;> cases h <;> norm_num [multiplier]

/-- The units are written in capitals. -/
theorem capital_of_known {unit : String} {bytes : ℕ} (h : unitBytes unit = some bytes) :
    ∀ c ∈ unit.toList, c.isAlpha = true ∧ c.toNat < 128 ∧ c.toUpper = c := by
  unfold unitBytes at h
  split at h <;> cases h <;> exact List.all_iff_forall_prop.mp (by decide)

theorem numeric_of_isDigit {c : Char} (h : c.isDigit = true) : numeric c = true := by
  simp [numeric, h]

theorem numeric_of_isAlpha {c : Char} (h : c.isAlpha = true) : numeric c = false := by
  have hpoint : c ≠ '.' := by
    rintro rfl
    cases h
  simp [numeric, isDigit_of_isAlpha h, hpoint]

/-- What is computed where a numeral stands before a text that does not go on with one. -/
theorem parseMemToMib_eq {mem : String} {number rest : List Char}
    (hmem : t.uppercase (trim mem.toList) = number ++ rest) (hne : number ≠ [])
    (hnumber : ∀ c ∈ number, c.isDigit = true) (hrest : ∀ c ∈ rest.head?, numeric c = false) :
    parseMemToMib t mem =
      (F64.finite (Nat.ofDigitChars 10 number 0 * multiplier (String.ofList rest))).ceil.toU32 := by
  obtain ⟨htake, hdrop⟩ :=
    takeWhile_numeral (fun c hc => numeric_of_isDigit (hnumber c hc)) hrest
  unfold parseMemToMib
  rw [hmem]
  dsimp only
  rw [htake, hdrop, parseF64_digits hnumber hne]
  rfl

end ResourceTranslator

namespace MemoryLimit

variable (t : Unicode) (m : MemoryLimit)

theorem number_ne_nil : m.number ≠ [] := by
  intro h
  have hpositive := m.positive
  simp [h] at hpositive

theorem uppercase_trim_text : t.uppercase (trim m.text.toList) = m.number ++ m.unit.toList := by
  have hunit := ResourceTranslator.capital_of_known m.known
  have htext : m.text.toList = m.number ++ m.unit.toList := by simp [text]
  have hblank : ∀ c ∈ m.text.toList, isWhitespace c = false := by
    intro c hc
    obtain hc | hc := List.mem_append.mp (htext ▸ hc)
    · exact isWhitespace_of_isDigit (m.number_digits c hc)
    · exact isWhitespace_of_isAlpha (hunit c hc).1
  rw [trim_of_forall hblank, htext, t.uppercase_append, t.uppercase_digits m.number_digits,
    t.uppercase_ascii fun c hc => (hunit c hc).2.1,
    List.map_congr_left fun c hc => (hunit c hc).2.2, List.map_id']

/-- Sizes that fit are rounded up to whole MiB. -/
theorem toNat_parseMemToMib (hfits : m.requested ≤ (2 ^ 32 - 1) * 1024 ^ 2) :
    (ResourceTranslator.parseMemToMib t m.text).toNat = ⌈(m.requested / 1024 ^ 2 : ℚ)⌉₊ := by
  have hrest : ∀ c ∈ m.unit.toList.head?, ResourceTranslator.numeric c = false := by
    intro c hc
    have hmem : c ∈ m.unit.toList := List.mem_of_mem_head? hc
    exact ResourceTranslator.numeric_of_isAlpha
      (ResourceTranslator.capital_of_known m.known c hmem).1
  have hvalue : (Nat.ofDigitChars 10 m.number 0 * ResourceTranslator.multiplier m.unit : ℚ) =
      m.requested / 1024 ^ 2 := by
    rw [ResourceTranslator.multiplier_of_known m.known, requested]
    push_cast
    ring
  have hbound : ⌈(m.requested / 1024 ^ 2 : ℚ)⌉₊ < 2 ^ 32 := by
    have hle : (m.requested : ℚ) ≤ ((2 ^ 32 - 1) * 1024 ^ 2 : ℕ) := by exact_mod_cast hfits
    refine Nat.lt_of_le_of_lt (Nat.ceil_le.mpr (?_ : _ ≤ ((2 ^ 32 - 1 : ℕ) : ℚ))) (by norm_num)
    rw [div_le_iff₀ (by norm_num)]
    norm_num at hle ⊢
    exact hle
  rw [ResourceTranslator.parseMemToMib_eq t (m.uppercase_trim_text t) m.number_ne_nil
    m.number_digits hrest, String.ofList_toList, hvalue, F64.toNat_toU32_ceil hbound]

end MemoryLimit

/-! ## Numbers of CPUs -/

/-- The CPUs for a scaled number: whole thousands, and one at least. -/
def wholeCpus (thousandths : ℕ) : ℕ := if thousandths / 1000 = 0 then 1 else thousandths / 1000

/-- The CPUs are the next integer unless the number lies above one and a thousandth or more
below that integer. -/
theorem wholeCpus_eq_ceil_iff {c : ℚ} (hc : 0 < c) :
    wholeCpus ⌈c * 1000⌉₊ = ⌈c⌉₊ ↔ c ≤ 1 ∨ ⌈c⌉₊ - c < 1 / 1000 := by
  have hpositive : 0 < ⌈c⌉₊ := Nat.ceil_pos.mpr hc
  have hupper : ⌈c * 1000⌉₊ ≤ ⌈c⌉₊ * 1000 := by
    refine Nat.ceil_le.mpr ?_
    push_cast
    linarith [Nat.le_ceil c]
  unfold wholeCpus
  by_cases hone : c ≤ 1
  · have hceil : ⌈c⌉₊ ≤ 1 := Nat.ceil_le.mpr (by simpa using hone)
    simp only [hone, true_or, iff_true]
    split_ifs with hzero <;> omega
  · have htwo : 1 < ⌈c⌉₊ := Nat.lt_ceil.mpr (by simpa using hone)
    have hlast : ⌈c⌉₊ * 1000 - 1 < ⌈c * 1000⌉₊ ↔ ⌈c⌉₊ - c < 1 / 1000 := by
      rw [Nat.lt_ceil, Nat.cast_sub (by omega)]
      push_cast
      constructor <;> intro h <;> linarith
    rw [← hlast]
    simp only [hone, false_or]
    split_ifs with hzero <;> omega

namespace ResourceTranslator

theorem isLeast_ceil (q : ℚ) : IsLeast {k : ℕ | q ≤ k} ⌈q⌉₊ :=
  ⟨Nat.le_ceil q, fun _ hk => Nat.ceil_le.mpr hk⟩

theorem translate_eq (t : Unicode) {deploy : DeployConfig} {limits : ResourceConstraints}
    (hlimits : deploy.limits = some limits) {c : Decimal}
    (hcpus : limits.cpus = some (String.ofList c.text)) (hbound : c.value ≤ 4000000)
    {memory : String} (hmemory : limits.memory = some memory) :
    ((translate t (some deploy)).1.toNat = wholeCpus ⌈c.value * 1000⌉₊) ∧
      (translate t (some deploy)).2 = parseMemToMib t memory := by
  have hthousandths : ⌈c.value * 1000⌉₊ < 2 ^ 32 := by
    refine Nat.lt_of_le_of_lt (Nat.ceil_le.mpr (?_ : _ ≤ ((4000000000 : ℕ) : ℚ))) (by norm_num)
    push_cast
    linarith
  have hscaled := F64.toNat_toU32_ceil hthousandths
  unfold translate wholeCpus
  simp only [Option.bind_some, hlimits, hcpus, hmemory, String.toList_ofList, c.parseF64_text,
    Option.map_some, Option.getD_some, F64.scale, and_true]
  rw [← hscaled]
  generalize (F64.finite (c.value * 1000)).ceil.toU32 = cpu
  have hdiv : (cpu / 1000).toNat = cpu.toNat / 1000 := UInt32.toNat_div _ _
  have hzero : cpu / 1000 = 0 ↔ cpu.toNat / 1000 = 0 := by
    rw [← hdiv, ← UInt32.toNat_inj]
    rfl
  by_cases h : cpu / 1000 = 0
  · rw [if_pos h, if_pos (hzero.mp h)]
    rfl
  · rw [if_neg h, if_neg fun hcpu => h (hzero.mpr hcpu), hdiv]

/-- Sizes of memory are never rounded down, and CPUs are not exactly where the number is one
at most or ends within a thousandth of the next integer. -/
theorem translate_least_iff (t : Unicode) {deploy : DeployConfig} {limits : ResourceConstraints}
    (hlimits : deploy.limits = some limits) {c : Decimal}
    (hcpus : limits.cpus = some (String.ofList c.text)) (hpositive : 0 < c.value)
    (hbound : c.value ≤ 4000000) {m : MemoryLimit} (hmemory : limits.memory = some m.text)
    (hfits : m.requested ≤ (2 ^ 32 - 1) * 1024 ^ 2) :
    (IsLeast {k : ℕ | c.value ≤ k} (translate t (some deploy)).1.toNat ∧
      IsLeast {k : ℕ | m.requested ≤ k * 1024 ^ 2} (translate t (some deploy)).2.toNat) ↔
      c.value ≤ 1 ∨ ⌈c.value⌉ - c.value < 1 / 1000 := by
  obtain ⟨hcpu, hmib⟩ := translate_eq t hlimits hcpus hbound hmemory
  have hleast :
      IsLeast {k : ℕ | m.requested ≤ k * 1024 ^ 2} (translate t (some deploy)).2.toNat := by
    have hset : {k : ℕ | m.requested ≤ k * 1024 ^ 2} =
        {k : ℕ | (m.requested / 1024 ^ 2 : ℚ) ≤ k} := by
      ext k
      rw [Set.mem_ofPred_eq, Set.mem_ofPred_eq, div_le_iff₀ (by norm_num)]
      exact_mod_cast Iff.rfl
    rw [hmib, m.toNat_parseMemToMib t hfits, hset]
    exact isLeast_ceil _
  have hceil : IsLeast {k : ℕ | c.value ≤ k} (translate t (some deploy)).1.toNat ↔
      wholeCpus ⌈c.value * 1000⌉₊ = ⌈c.value⌉₊ := by
    rw [hcpu]
    exact ⟨fun h => h.unique (isLeast_ceil _), fun h => h ▸ isLeast_ceil _⟩
  have hcast : ((⌈c.value⌉₊ : ℕ) : ℚ) = (⌈c.value⌉ : ℚ) := by
    rw [← natCast_ceil_eq_intCast_ceil hpositive.le]
  rw [hceil, wholeCpus_eq_ceil_iff hpositive, hcast]
  exact and_iff_left hleast

/-! ### One CPU and a half -/

def halfCpu : Decimal := ⟨['1'], some ['5'], by simp, by simp, by simp⟩

def halfGib : MemoryLimit := ⟨['5', '1', '2'], "M", 1024 ^ 2, by simp, by decide, rfl⟩

def halfDeploy : DeployConfig := ⟨some ⟨some ⟨some "1.5", some "512M"⟩, none⟩⟩

theorem value_halfCpu : halfCpu.value = 3 / 2 := by decide +kernel

theorem translate_halfDeploy_iff :
    (IsLeast {k : ℕ | halfCpu.value ≤ k} (translate .ascii (some halfDeploy)).1.toNat ∧
      IsLeast {k : ℕ | halfGib.requested ≤ k * 1024 ^ 2}
        (translate .ascii (some halfDeploy)).2.toNat) ↔
      halfCpu.value ≤ 1 ∨ ⌈halfCpu.value⌉ - halfCpu.value < 1 / 1000 :=
  translate_least_iff .ascii (rfl : halfDeploy.limits = some ⟨some "1.5", some "512M"⟩) rfl
    (by norm_num [value_halfCpu]) (by norm_num [value_halfCpu]) rfl (by decide)

/-- One CPU is given for one and a half. -/
theorem halfDeploy_rounded_down :
    (translate .ascii (some halfDeploy)).1 = 1 ∧
      ¬IsLeast {k : ℕ | halfCpu.value ≤ k} (translate .ascii (some halfDeploy)).1.toNat := by
  have hone : (translate .ascii (some halfDeploy)).1 = 1 := by decide +kernel
  refine ⟨hone, fun h => ?_⟩
  have hle : halfCpu.value ≤ (1 : ℕ) := by simpa [hone] using h.1
  norm_num [value_halfCpu] at hle

end ResourceTranslator

end Vyoma.Compose
