import Mathlib.Algebra.Order.Field.Basic
import Mathlib.Data.Rat.Floor
import Mathlib.Tactic.FieldSimp
import Mathlib.Tactic.Ring
import Vyoma.TeleportMigration

/-!
# The progress bar of a migration

The CLI draws thirty cells, filled by the share of the pages that were transferred. Pages
that are dirtied while the VM runs are sent again, so more pages can be transferred than
the VM has, and the cells left to draw are then counted with an unsigned subtraction.
-/
namespace Vyoma.Teleport

def barLen : ℕ := 30

/-- The percentage, with exact arithmetic. -/
def pct (total transferred : ℕ) : ℚ := (transferred : ℚ) / total * 100

/-- `((pct / 100.0) * bar_len as f64) as usize`: truncated, and saturated at the type's end. -/
def filled (total transferred : ℕ) : ℕ := min ⌊pct total transferred / 100 * barLen⌋₊ (2 ^ 64 - 1)

/-- The bar, unless `bar_len - filled` underflows. -/
def bar (total transferred : ℕ) : Except String (List Char) :=
  if filled total transferred ≤ barLen then
    .ok (List.replicate (filled total transferred) '█' ++
      List.replicate (barLen - filled total transferred) '░')
  else .error "attempt to subtract with overflow"

/-- What `show_migration_progress` draws of an answer; without pages it draws no bar. -/
def showProgress (progress : MigrationProgress) : Except String (Option (List Char)) :=
  let total := progress.totalPages.toNat
  let transferred := progress.transferredPages.toNat
  if 0 < total then (bar total transferred).map some else .ok none

theorem length_bar {total transferred : ℕ} {cells : List Char}
    (h : bar total transferred = .ok cells) : cells.length = barLen := by
  unfold bar at h
  split_ifs at h with hle
  rw [← Except.ok.inj h, List.length_append, List.length_replicate, List.length_replicate]
  exact Nat.add_sub_cancel' hle

/-- The filled cells fit the bar as long as less than 31/30 of the pages are transferred. -/
theorem filled_le_iff {total : ℕ} (h : 0 < total) (transferred : ℕ) :
    filled total transferred ≤ barLen ↔ 30 * transferred < 31 * total := by
  have htotal : (0 : ℚ) < total := Nat.cast_pos.mpr h
  have hcells : pct total transferred / 100 * barLen = 30 * transferred / total := by
    unfold pct barLen
    push_cast
    field_simp
  have hsaturated : ¬ 2 ^ 64 - 1 ≤ barLen := by decide
  rw [filled, hcells, min_le_iff, or_iff_left hsaturated, ← Nat.lt_succ_iff,
    Nat.floor_lt' (Nat.succ_ne_zero _), div_lt_iff₀ htotal]
  unfold barLen
  norm_cast

/-- Pages of the VM, and pages transferred, as an answer of the hypervisor gives them. -/
def VmInfo.pages (info : VmInfo) : ℕ :=
  ((info.memory.map VmMemoryInfo.totalBytes).getD 0).toNat / 4096

def VmInfo.sentPages (info : VmInfo) : ℕ :=
  ((info.migration.bind MigrationInfo.transferredBytes).getD 0).toNat / 4096

/-- Drawing an answer succeeds, with thirty cells where a bar is drawn, if and only if the VM
has no page or less than 31/30 of its pages were transferred. -/
theorem showProgress_ok_iff (info : VmInfo) :
    (∃ drawn, showProgress info.progress = .ok drawn ∧ ∀ cells ∈ drawn, cells.length = barLen) ↔
      info.pages = 0 ∨ 30 * info.sentPages < 31 * info.pages := by
  have htotal : info.progress.totalPages.toNat = info.pages := UInt64.toNat_div _ _
  have htransferred : info.progress.transferredPages.toNat = info.sentPages := UInt64.toNat_div _ _
  unfold showProgress
  rw [htotal, htransferred]
  by_cases hpos : 0 < info.pages
  · rw [or_iff_right (Nat.pos_iff_ne_zero.mp hpos), ← filled_le_iff hpos, if_pos hpos]
    constructor
    · rintro ⟨drawn, hdrawn, _⟩
      by_contra hover
      rw [bar, if_neg hover] at hdrawn
      cases hdrawn
    · intro hle
      obtain ⟨cells, hcells⟩ : ∃ cells, bar info.pages info.sentPages = .ok cells :=
        ⟨_, if_pos hle⟩
      refine ⟨some cells, by rw [hcells]; rfl, fun cells' hmem => ?_⟩
      rw [← Option.mem_some_iff.mp hmem]
      exact length_bar hcells
  · refine iff_of_true ⟨none, if_neg hpos, by simp⟩ (.inl (Nat.eq_zero_of_not_pos hpos))

/-- A VM of 1 GiB that rewrote a fifth of its memory while it was sent. -/
def resentPages : VmInfo where
  state := "Running"
  memory := some { totalBytes := 1073741824 }
  migration := some { status := "PreCopy", transferredBytes := some 1288490189 }

theorem bar_overruns_resentPages :
    showProgress resentPages.progress = .error "attempt to subtract with overflow" := by
  have hover : ¬ filled 262144 314572 ≤ barLen := by
    rw [filled_le_iff (by decide)]
    decide
  exact congrArg (Except.map some) (if_neg hover)

end Vyoma.Teleport
