import Mathlib.Data.List.Basic

/-!
# Tables of processes

A process is started for a job and keeps it. It has a number that no later process is given, and
it ends once, by itself or because it is killed; what becomes of it is known from its number.
-/
namespace Vyoma.ProcessTables

structure Process (δ : Type) where
  job : δ
  alive : Bool
  deriving DecidableEq, Repr

/-- The processes that have been started, each at its number. -/
abbrev Table (δ : Type) : Type := List (Process δ)

variable {δ : Type}

namespace Table

/-- A process is started; its number is the length of the table. -/
def spawn (t : Table δ) (job : δ) : Table δ := t ++ [⟨job, true⟩]

def exit (t : Table δ) (pid : ℕ) : Table δ := t.modify pid fun p => { p with alive := false }

def jobOf (t : Table δ) (pid : ℕ) : Option δ := t[pid]?.map Process.job

def isAlive (t : Table δ) (pid : ℕ) : Bool := t[pid]?.any Process.alive

theorem jobOf_spawn {t : Table δ} {pid : ℕ} {job : δ} (h : t.jobOf pid = some job) (job' : δ) :
    (t.spawn job').jobOf pid = some job := by
  obtain ⟨p, hp, -⟩ := Option.map_eq_some_iff.mp h
  obtain ⟨hlt, -⟩ := List.getElem?_eq_some_iff.mp hp
  rw [jobOf, spawn, List.getElem?_append_left hlt]
  exact h

@[simp] theorem jobOf_spawn_length (t : Table δ) (job : δ) :
    (t.spawn job).jobOf t.length = some job := by
  simp [jobOf, spawn]

@[simp] theorem jobOf_exit (t : Table δ) (pid pid' : ℕ) :
    (t.exit pid').jobOf pid = t.jobOf pid := by
  simp only [jobOf, exit, List.getElem?_modify]
  cases t[pid]? with
  | none => rfl
  | some p =>
    by_cases he : pid' = pid
    · simp [he]
    · simp [he]

/-- Nothing but the new process comes to life. -/
theorem isAlive_spawn {t : Table δ} {pid : ℕ} {job : δ} :
    (t.spawn job).isAlive pid = true ↔ t.isAlive pid = true ∨ pid = t.length := by
  simp only [isAlive, spawn]
  obtain hlt | heq | hgt := Nat.lt_trichotomy pid t.length
  · rw [List.getElem?_append_left hlt]
    exact ⟨.inl, fun h => h.resolve_right (Nat.ne_of_lt hlt)⟩
  · simp [heq]
  · have hout : t.length ≤ pid := Nat.le_of_lt hgt
    have hnew : [(⟨job, true⟩ : Process δ)].length ≤ pid - t.length := Nat.sub_pos_of_lt hgt
    rw [List.getElem?_append_right hout, List.getElem?_eq_none hnew, List.getElem?_eq_none hout]
    simp [Nat.ne_of_gt hgt]

theorem isAlive_exit {t : Table δ} {pid pid' : ℕ} :
    (t.exit pid').isAlive pid = true ↔ t.isAlive pid = true ∧ pid ≠ pid' := by
  simp only [isAlive, exit, List.getElem?_modify]
  cases t[pid]? with
  | none => simp
  | some p =>
    by_cases he : pid' = pid
    · simp [he]
    · simp [he, Ne.symm he]

end Table

end Vyoma.ProcessTables
