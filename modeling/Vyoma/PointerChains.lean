import Mathlib.Logic.Function.Basic
import Mathlib.Logic.Relation

/-!
# Chains of pointers

Each cell points to one other cell at most, and cells are changed one at a time. Chains that
all come to an end still do after a change exactly when the cell that is changed is not on
the chain of what it is made to point to.
-/
namespace Vyoma.PointerChains
open Relation

variable {α : Type*}

/-- Following the pointers from the one cell leads to the other, after no step or more. -/
def Leads (next : α → Option α) : α → α → Prop := ReflTransGen fun a b => next a = some b

/-- Following the pointers from the cell comes to an end. -/
inductive Ends (next : α → Option α) : α → Prop
  | last {a} (hlast : next a = none) : Ends next a
  | step {a b} (hnext : next a = some b) (hends : Ends next b) : Ends next a

variable {next : α → Option α}

/-- A cell that is on the chain of what it points to is on a chain without an end. -/
theorem Ends.not_leads_back {a b : α} (h : Ends next a) (hnext : next a = some b) :
    ¬Leads next b a := by
  induction h generalizing b with
  | last hlast => rw [hlast] at hnext; cases hnext
  | @step a c hstep _ ih =>
    rw [hstep] at hnext
    cases hnext
    intro hback
    obtain heq | ⟨d, hd, hrest⟩ := hback.cases_head
    · subst heq
      exact ih hstep .refl
    · exact ih hd (hrest.tail hstep)

variable [DecidableEq α]

/-- A chain that does not pass the changed cell is as it was. -/
theorem Ends.update_of_not_leads {a p : α} (v : Option α) (h : Ends next a)
    (hp : ¬Leads next a p) : Ends (Function.update next p v) a := by
  induction h with
  | @last a hlast =>
    have hne : a ≠ p := fun he => hp (he ▸ .refl)
    exact .last (by rw [Function.update_of_ne hne, hlast])
  | @step a b hnext _ ih =>
    have hne : a ≠ p := fun he => hp (he ▸ .refl)
    refine .step (by rw [Function.update_of_ne hne, hnext]) (ih fun hb => ?_)
    exact hp (hb.head hnext)

/-- A chain ends, or it passes the changed cell and goes on as that one does. -/
theorem Ends.update {a p : α} {v : Option α} (h : Ends next a)
    (hp : Ends (Function.update next p v) p) : Ends (Function.update next p v) a := by
  induction h with
  | @last a hlast =>
    by_cases he : a = p
    · exact he ▸ hp
    · exact .last (by rw [Function.update_of_ne he, hlast])
  | @step a b hnext _ ih =>
    by_cases he : a = p
    · exact he ▸ hp
    · exact .step (by rw [Function.update_of_ne he, hnext]) ih

/-- What leads to the changed cell still does. -/
theorem Leads.update {a p : α} (v : Option α) (h : Leads next a p) :
    Leads (Function.update next p v) a p := by
  induction h using ReflTransGen.head_induction_on with
  | refl => exact .refl
  | @head a b hnext _ ih =>
    by_cases he : a = p
    · exact he ▸ .refl
    · exact ih.head (by rw [Function.update_of_ne he, hnext])

theorem ends_update_iff (h : ∀ a, Ends next a) (p : α) (v : Option α) :
    (∀ a, Ends (Function.update next p v) a) ↔ ∀ b, v = some b → ¬Leads next b p := by
  constructor
  · rintro hends b rfl hback
    have hself : Function.update next p (some b) p = some b := Function.update_self _ _ _
    exact (hends p).not_leads_back hself (hback.update (some b))
  · intro hfree a
    refine (h a).update ?_
    cases hv : v with
    | none => exact .last (Function.update_self _ _ _)
    | some b =>
      have hself : Function.update next p (some b) p = some b := Function.update_self _ _ _
      exact .step hself ((h b).update_of_not_leads _ (hfree b hv))

end Vyoma.PointerChains
