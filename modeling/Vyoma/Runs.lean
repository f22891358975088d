import Mathlib.Data.List.Basic

/-!
# Runs of a deterministic transition function

A system is a step function on states and actions. A run is the list of actions
taken from a given state. Conditions of two kinds are tracked along a run: a
condition on each step, read at the state in which the step is taken, and a
condition on each state the run passes through. Outcomes of the environment are
part of the actions, so a deterministic step function loses no behaviour.
-/
namespace Vyoma.Runs

variable {σ α : Type*} {step : σ → α → σ}

/-- The state in which a run ends. -/
def exec (step : σ → α → σ) (s : σ) (run : List α) : σ := run.foldl step s

@[simp] theorem exec_nil (s : σ) : exec step s [] = s := rfl

@[simp] theorem exec_cons (s : σ) (a : α) (run : List α) :
    exec step s (a :: run) = exec step (step s a) run := rfl

@[simp] theorem exec_append (s : σ) (pre post : List α) :
    exec step s (pre ++ post) = exec step (exec step s pre) post :=
  List.foldl_append

/-- Every step of the run satisfies `P` at the state in which it is taken. -/
def Along (step : σ → α → σ) (P : σ → α → Prop) : σ → List α → Prop
  | _, [] => True
  | s, a :: run => P s a ∧ Along step P (step s a) run

instance decidableAlong {P : σ → α → Prop} [∀ s a, Decidable (P s a)] :
    ∀ (run : List α) (s : σ), Decidable (Along step P s run)
  | [], _ => isTrue trivial
  | a :: run, s => @instDecidableAnd (P s a) _ inferInstance (decidableAlong run (step s a))

/-- Every state the run passes through satisfies `Q`, both ends included. -/
def Throughout (step : σ → α → σ) (Q : σ → Prop) (s : σ) (run : List α) : Prop :=
  ∀ pre, pre <+: run → Q (exec step s pre)

theorem along_iff {P : σ → α → Prop} {s : σ} {run : List α} :
    Along step P s run ↔ ∀ pre a post, run = pre ++ a :: post → P (exec step s pre) a := by
  induction run generalizing s with
  | nil => simp [Along]
  | cons b run ih =>
    simp only [Along, ih]
    constructor
    · intro hbh pre a post he
      obtain ⟨hb, h⟩ := hbh
      cases pre with
      | nil =>
        obtain ⟨rfl, rfl⟩ := List.cons.inj he
        exact hb
      | cons c pre =>
        obtain ⟨rfl, htail⟩ := List.cons.inj he
        exact h pre a post htail
    · intro h
      refine ⟨h [] b run rfl, fun pre a post he => ?_⟩
      exact h (b :: pre) a post (by rw [he, List.cons_append])

theorem along_append {P : σ → α → Prop} {s : σ} {pre post : List α} :
    Along step P s (pre ++ post) ↔ Along step P s pre ∧ Along step P (exec step s pre) post := by
  induction pre generalizing s with
  | nil => simp [Along]
  | cons a pre ih => rw [List.cons_append, Along, Along, ih, exec_cons, and_assoc]

theorem Along.and {P P' : σ → α → Prop} {s : σ} {run : List α} (h : Along step P s run)
    (h' : Along step P' s run) : Along step (fun s a => P s a ∧ P' s a) s run := by
  rw [along_iff] at h h' ⊢
  intro pre a post he
  exact ⟨h pre a post he, h' pre a post he⟩

/-- A condition that can be read off a view of the system is a condition along the run
that is seen. -/
theorem along_view_iff {σ' α' : Type*} {step' : σ' → α' → σ'} {P : σ → α → Prop}
    {P' : σ' → α' → Prop} (view : σ → σ') (act : α → α')
    (hstep : ∀ s a, view (step s a) = step' (view s) (act a))
    (hP : ∀ s a, P' (view s) (act a) ↔ P s a) (s : σ) (run : List α) :
    Along step' P' (view s) (run.map act) ↔ Along step P s run := by
  induction run generalizing s with
  | nil => exact Iff.rfl
  | cons a run ih => rw [List.map_cons, Along, Along, hP, ← hstep, ih]

@[simp] theorem throughout_nil {Q : σ → Prop} {s : σ} : Throughout step Q s [] ↔ Q s := by
  simp [Throughout]

@[simp] theorem throughout_cons {Q : σ → Prop} {s : σ} {a : α} {run : List α} :
    Throughout step Q s (a :: run) ↔ Q s ∧ Throughout step Q (step s a) run := by
  constructor
  · intro h
    refine ⟨h [] List.nil_prefix, fun pre hp => ?_⟩
    exact h (a :: pre) (List.cons_prefix_cons.mpr ⟨rfl, hp⟩)
  · intro hsh pre hp
    obtain ⟨hs, h⟩ := hsh
    cases pre with
    | nil => exact hs
    | cons b pre =>
      obtain ⟨rfl, htail⟩ := List.cons_prefix_cons.mp hp
      exact h pre htail

theorem Throughout.exec {Q : σ → Prop} {s : σ} {run : List α} (h : Throughout step Q s run) :
    Q (exec step s run) := h run (List.prefix_refl run)

/-- What every step preserves holds in every state of every run. -/
theorem throughout_of_invariant {Q : σ → Prop} {s : σ} (hs : Q s)
    (hstep : ∀ s a, Q s → Q (step s a)) (run : List α) : Throughout step Q s run := by
  induction run generalizing s with
  | nil => simpa using hs
  | cons a run ih => exact throughout_cons.mpr ⟨hs, ih (hstep s a hs)⟩

/-- What every step that satisfies a condition preserves holds in every state of a run whose
steps all satisfy it. -/
theorem throughout_of_along {P : σ → α → Prop} {Q : σ → Prop} {s : σ} {run : List α} (hs : Q s)
    (hstep : ∀ s a, Q s → P s a → Q (step s a)) (h : Along step P s run) :
    Throughout step Q s run := by
  induction run generalizing s with
  | nil => simpa using hs
  | cons a run ih => exact throughout_cons.mpr ⟨hs, ih (hstep s a hs h.1) h.2⟩

theorem exec_of_invariant {Q : σ → Prop} {s : σ} (hs : Q s)
    (hstep : ∀ s a, Q s → Q (step s a)) (run : List α) : Q (exec step s run) :=
  (throughout_of_invariant hs hstep run).exec

/-- When a step keeps `Q` exactly if it satisfies `P`, a run keeps `Q` in every
state exactly if all its steps satisfy `P`. The side condition `R` collects what
is known of the steps of this run beforehand. -/
theorem throughout_iff_along {Q : σ → Prop} {P R : σ → α → Prop} {s : σ} {run : List α}
    (hs : Q s) (hstep : ∀ s a, Q s → R s a → (Q (step s a) ↔ P s a))
    (hR : Along step R s run) : Throughout step Q s run ↔ Along step P s run := by
  induction run generalizing s with
  | nil => simpa [Along] using hs
  | cons a run ih =>
    obtain ⟨hRa, hR⟩ := hR
    rw [throughout_cons, Along]
    constructor
    · intro hall
      obtain ⟨_, h⟩ := hall
      have ha : Q (step s a) := h [] List.nil_prefix
      exact ⟨(hstep s a hs hRa).mp ha, (ih ha hR).mp h⟩
    · intro hall
      obtain ⟨hP, h⟩ := hall
      exact ⟨hs, (ih ((hstep s a hs hRa).mpr hP) hR).mpr h⟩

theorem along_of_invariant {Q : σ → Prop} {s : σ} (hs : Q s)
    (hstep : ∀ s a, Q s → Q (step s a)) (run : List α) : Along step (fun s _ => Q s) s run := by
  rw [along_iff]
  intro pre _ _ _
  exact exec_of_invariant hs hstep pre

/-- The same for steps taken in states that satisfy an invariant. -/
theorem throughout_iff_along_of_invariant {I Q : σ → Prop} {P : σ → α → Prop} {s : σ}
    (hI : I s) (hinv : ∀ s a, I s → I (step s a)) (hs : Q s)
    (hstep : ∀ s a, I s → Q s → (Q (step s a) ↔ P s a)) (run : List α) :
    Throughout step Q s run ↔ Along step P s run :=
  throughout_iff_along hs (fun s a hQ hI => hstep s a hI hQ) (along_of_invariant hI hinv run)

/-- A property that is lost for good once it is lost holds at the end of a run exactly
when every step keeps it. -/
theorem exec_iff_along_of_invariant {I Q : σ → Prop} {P : σ → α → Prop} {s : σ}
    (hI : I s) (hinv : ∀ s a, I s → I (step s a)) (hs : Q s)
    (hstep : ∀ s a, I s → Q s → (Q (step s a) ↔ P s a))
    (hlost : ∀ s a, I s → ¬ Q s → ¬ Q (step s a)) (run : List α) :
    Q (exec step s run) ↔ Along step P s run := by
  rw [← throughout_iff_along_of_invariant hI hinv hs hstep run]
  constructor
  · intro hend pre hpre
    obtain ⟨post, rfl⟩ := hpre
    by_contra hpre
    have hboth : I (exec step s pre) ∧ ¬ Q (exec step s pre) :=
      ⟨exec_of_invariant hI hinv pre, hpre⟩
    have hlast := exec_of_invariant (Q := fun t => I t ∧ ¬ Q t) hboth
      (fun t a ht => ⟨hinv t a ht.1, hlost t a ht.1 ht.2⟩) post
    rw [exec_append] at hend
    exact hlast.2 hend
  · exact Throughout.exec

/-- Two conditions that agree on the states of `Q` agree along runs, when steps that
satisfy the first condition keep `Q`. -/
theorem along_congr {Q : σ → Prop} {P P' : σ → α → Prop} {s : σ} (hs : Q s)
    (hstep : ∀ s a, Q s → P s a → Q (step s a)) (h : ∀ s a, Q s → (P s a ↔ P' s a))
    (run : List α) : Along step P s run ↔ Along step P' s run := by
  induction run generalizing s with
  | nil => simp [Along]
  | cons a run ih =>
    rw [Along, Along, ← h s a hs]
    exact and_congr_right fun hP => ih (hstep s a hs hP)

/-- When steps that satisfy `R` keep `Q` and satisfy `P`, so do all steps of a run. -/
theorem along_of_along {Q : σ → Prop} {P R : σ → α → Prop} {s : σ} {run : List α} (hs : Q s)
    (hstep : ∀ s a, Q s → R s a → P s a ∧ Q (step s a)) (hR : Along step R s run) :
    Along step P s run := by
  induction run generalizing s with
  | nil => exact trivial
  | cons a run ih =>
    obtain ⟨hRa, hR⟩ := hR
    obtain ⟨hP, hQ⟩ := hstep s a hs hRa
    exact ⟨hP, ih hQ hR⟩

/-- What the steps of a run emit, in order. -/
def emitted {β : Type*} (step : σ → α → σ) (out : σ → α → Option β) : σ → List α → List β
  | _, [] => []
  | s, a :: run => (out s a).toList ++ emitted step out (step s a) run

theorem emitted_append {β : Type*} {out : σ → α → Option β} (s : σ) (pre post : List α) :
    emitted step out s (pre ++ post) =
      emitted step out s pre ++ emitted step out (exec step s pre) post := by
  induction pre generalizing s with
  | nil => rfl
  | cons a pre ih => simp only [List.cons_append, emitted, ih, exec_cons, List.append_assoc]

/-- What holds of everything emitted is a condition along the run. -/
theorem forall_mem_emitted_iff {β : Type*} {out : σ → α → Option β} {φ : β → Prop} {s : σ}
    {run : List α} : (∀ b ∈ emitted step out s run, φ b) ↔
      Along step (fun s a => ∀ b, out s a = some b → φ b) s run := by
  induction run generalizing s with
  | nil => simp [emitted, Along]
  | cons a run ih =>
    simp only [emitted, Along, List.mem_append, Option.mem_toList, or_imp, forall_and, ih]

end Vyoma.Runs
