import Vyoma.LockPrograms
import Vyoma.Runs

/-!
# Contracts of programs on one store

A contract says on which answers programs rely and which writes they guarantee. When the
answers that a store gives while it satisfies an invariant are such answers, and such writes
keep the invariant, then programs that keep the contract keep the invariant together,
whatever the order of their steps, and every one that ends has the result it promised.
-/
namespace Vyoma.LockPrograms
open Program Runs

structure Contract (Q : Type → Type) (ω : Type) where
  relies : ∀ β, Q β → β → Prop
  guarantees : ω → Prop

section Meets

variable {Q : Type → Type} {ω ε ν α β : Type} {k : Contract Q ω}

/-- While the answers are such that the program can rely on them, it writes only what it may,
and its result is as promised. -/
def Meets (k : Contract Q ω) (result : α → Prop) : Program Q ω ε ν α → Prop
  | .ret a => result a
  | .fail _ => True
  | .panics _ => True
  | .mutex _ next => Meets k result next
  | .write w next => k.guarantees w ∧ Meets k result next
  | .ask q next => ∀ b, k.relies _ q b → Meets k result (next b)

theorem Meets.mutex_iff {op : LockOp} {result : α → Prop} {next : Program Q ω ε ν α} :
    Meets k result (.mutex op next) ↔ Meets k result next := Iff.rfl

theorem Meets.bind {between : α → Prop} {result : β → Prop} {p : Program Q ω ε ν α}
    {f : α → Program Q ω ε ν β} (hp : Meets k between p)
    (hf : ∀ a, between a → Meets k result (f a)) : Meets k result (p >>= f) := by
  induction p with
  | ret a => exact hf a hp
  | fail e => exact trivial
  | panics n => exact trivial
  | mutex op next ih => exact ih hp
  | write w next ih => exact ⟨hp.1, ih hp.2⟩
  | ask q next ih => exact fun b hb => ih b (hp b hb)

end Meets

section Kept

variable {Q : Type → Type} {ω ε ν α σ ρ : Type} {service : Service Q ω ε ν α σ ρ}
  {k : Contract Q ω} {I : σ → Prop} {result : α → Prop}

/-- The store gives the answers, and takes the writes, of the contract while it satisfies the
invariant. -/
structure Honours (service : Service Q ω ε ν α σ ρ) (k : Contract Q ω) (I : σ → Prop) :
    Prop where
  answers : ∀ s, I s → ∀ world β q, k.relies β q (service.answer s world β q)
  writes : ∀ s, I s → ∀ w, k.guarantees w → I (service.apply s w)

/-- The invariant holds of the store, and every program keeps the contract from here on. -/
structure Kept (k : Contract Q ω) (I : σ → Prop) (result : α → Prop)
    (c : Config Q ω ε ν α σ) : Prop where
  store : I c.store
  threads : ∀ p ∈ c.threads, Meets k result p

theorem Kept.set {c : Config Q ω ε ν α σ} (h : Kept k I result c) {i : ℕ}
    {next : Program Q ω ε ν α} (hnext : Meets k result next) :
    ∀ p ∈ c.threads.set i next, Meets k result p := by
  intro p hp
  obtain hold | rfl := List.mem_or_eq_of_mem_set hp
  · exact h.threads p hold
  · exact hnext

theorem kept_step (hservice : Honours service k I)
    (hstart : ∀ req, Meets k result (service.start req)) {c : Config Q ω ε ν α σ}
    (h : Kept k I result c) (a : Action Q ρ) : Kept k I result (step service c a) := by
  have hsteps := steps_step service c a
  generalize step service c a = c' at hsteps ⊢
  cases hsteps with
  | idle => exact h
  | arrived req =>
    refine ⟨h.store, fun p hp => ?_⟩
    obtain hold | hnew := List.mem_append.mp hp
    · exact h.threads p hold
    · rw [List.mem_singleton.mp hnew]
      exact hstart req
  | panicked hi => exact ⟨h.store, h.threads⟩
  | crashed hi hop => exact ⟨h.store, h.threads⟩
  | locked hi hop =>
    have hprogram := h.threads _ (List.mem_of_getElem? hi)
    exact ⟨h.store, h.set (Meets.mutex_iff.mp hprogram)⟩
  | wrote hi =>
    obtain ⟨hw, hnext⟩ := h.threads _ (List.mem_of_getElem? hi)
    exact ⟨hservice.writes _ h.store _ hw, h.set hnext⟩
  | asked hi =>
    have hprogram := h.threads _ (List.mem_of_getElem? hi)
    exact ⟨h.store, h.set (hprogram _ (hservice.answers _ h.store _ _ _))⟩

end Kept

section Results

variable {Q : Type → Type} {ω ε ν α σ ρ : Type} {service : Service Q ω ε ν α σ ρ}
  {c : Config Q ω ε ν α σ}

/-- A program that has ended stays as it is when another one goes on. -/
theorem ret_mem_set {threads : List (Program Q ω ε ν α)} {i : ℕ} {p next : Program Q ω ε ν α}
    {a : α} (hi : threads[i]? = some p) (hp : p ≠ .ret a) (h : .ret a ∈ threads) :
    .ret a ∈ threads.set i next := by
  obtain ⟨j, hj⟩ := List.mem_iff_getElem?.mp h
  have hij : i ≠ j := by
    rintro rfl
    exact hp (Option.some.inj (hi.symm.trans hj))
  exact List.mem_of_getElem? (i := j) (by rw [List.getElem?_set_ne hij, hj])

theorem ret_mem_step {a : α} (h : .ret a ∈ c.threads) (act : Action Q ρ) :
    .ret a ∈ (step service c act).threads := by
  have hsteps := steps_step service c act
  generalize step service c act = c' at hsteps ⊢
  cases hsteps with
  | idle => exact h
  | arrived req => exact List.mem_append_left _ h
  | panicked hi => exact h
  | crashed hi hop => exact h
  | locked hi hop => exact ret_mem_set hi (fun he => nomatch he) h
  | wrote hi => exact ret_mem_set hi (fun he => nomatch he) h
  | asked hi => exact ret_mem_set hi (fun he => nomatch he) h

end Results

end Vyoma.LockPrograms
