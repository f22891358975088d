import Vyoma.PointerChains

/-!
# Images over images

An image may be over another one, which shows through wherever nothing has been written to the
image itself. A disk opens when every image on the way down is there and the way comes to an
end. A block is read from the topmost image that holds it.
-/
namespace Vyoma.Overlays
open PointerChains Relation

structure Image (ι β δ : Type*) where
  backing : Option ι
  written : β → Option δ

/-- The images that are there, by their names. -/
abbrev Disks (ι β δ : Type*) : Type _ := ι → Option (Image ι β δ)

variable {ι β δ : Type*}

/-- The name of the image below. -/
def below (disks : Disks ι β δ) (q : ι) : Option ι := (disks q).bind Image.backing

theorem below_eq {disks : Disks ι β δ} {q : ι} {image : Image ι β δ} (hq : disks q = some image) :
    below disks q = image.backing := by
  rw [below, hq, Option.bind_some]

/-! ## Reading -/

/-- What is read of a block; nothing, where none of the images holds it. -/
inductive Reads (disks : Disks ι β δ) (b : β) : ι → Option δ → Prop
  | own {q image d} (hq : disks q = some image) (hheld : image.written b = some d) :
      Reads disks b q (some d)
  | blank {q image} (hq : disks q = some image) (hheld : image.written b = none)
      (hbase : image.backing = none) : Reads disks b q none
  | through {q image p r} (hq : disks q = some image) (hheld : image.written b = none)
      (hover : image.backing = some p) (hbelow : Reads disks b p r) : Reads disks b q r

section Reading

variable {disks : Disks ι β δ} {b : β} {q p : ι} {image : Image ι β δ} {r : Option δ}

/-- Where nothing has been written, the image below shows through. -/
theorem reads_through_iff (hq : disks q = some image) (hheld : image.written b = none)
    (hover : image.backing = some p) : Reads disks b q r ↔ Reads disks b p r := by
  constructor
  · intro h
    cases h with
    | own hq' hheld' =>
      rw [hq] at hq'
      cases hq'
      rw [hheld] at hheld'
      cases hheld'
    | blank hq' hheld' hbase =>
      rw [hq] at hq'
      cases hq'
      rw [hover] at hbase
      cases hbase
    | through hq' hheld' hover' hbelow =>
      rw [hq] at hq'
      cases hq'
      rw [hover] at hover'
      cases hover'
      exact hbelow
  · exact .through hq hheld hover

end Reading

/-! ## Opening -/

inductive Opens (disks : Disks ι β δ) : ι → Prop
  | base {q image} (hq : disks q = some image) (hbase : image.backing = none) : Opens disks q
  | layered {q image p} (hq : disks q = some image) (hover : image.backing = some p)
      (hbelow : Opens disks p) : Opens disks q

section Opening

variable {disks disks' : Disks ι β δ} {q p : ι} {image : Image ι β δ}

theorem opens_over_iff (hq : disks q = some image) (hover : image.backing = some p) :
    Opens disks q ↔ Opens disks p := by
  constructor
  · intro h
    cases h with
    | base hq' hbase =>
      rw [hq] at hq'
      cases hq'
      rw [hover] at hbase
      cases hbase
    | layered hq' hover' hbelow =>
      rw [hq] at hq'
      cases hq'
      rw [hover] at hover'
      cases hover'
      exact hbelow
  · exact .layered hq hover

/-- Each image stays over what it was over, or comes to stand for itself. -/
def Carries (disks disks' : Disks ι β δ) : Prop :=
  ∀ q image, disks q = some image → ∃ image', disks' q = some image' ∧
    (image'.backing = image.backing ∨ image'.backing = none)

theorem Opens.carried (hcarries : Carries disks disks') (h : Opens disks q) : Opens disks' q := by
  induction h with
  | base hq hbase =>
    obtain ⟨image', hq', hsame | hbase'⟩ := hcarries _ _ hq
    · exact .base hq' (hsame.trans hbase)
    · exact .base hq' hbase'
  | layered hq hover _ ih =>
    obtain ⟨image', hq', hsame | hbase'⟩ := hcarries _ _ hq
    · exact .layered hq' (hsame.trans hover) ih
    · exact .base hq' hbase'

/-- The images that are left when some are removed. -/
def remove (gone : ι → Bool) (disks : Disks ι β δ) : Disks ι β δ :=
  fun q => if gone q then none else disks q

theorem remove_eq_some_iff {gone : ι → Bool} :
    remove gone disks q = some image ↔ gone q = false ∧ disks q = some image := by
  unfold remove
  cases gone q with
  | true => simp
  | false => simp

/-- What opens after a removal is what was over none of the images that are gone. -/
theorem opens_remove_iff {gone : ι → Bool} :
    Opens (remove gone disks) q ↔
      Opens disks q ∧ ∀ p, Leads (below disks) q p → gone p = false := by
  constructor
  · intro h
    induction h with
    | @base q image hq hbase =>
      obtain ⟨hkept, hq⟩ := remove_eq_some_iff.mp hq
      refine ⟨.base hq hbase, fun p hleads => ?_⟩
      obtain rfl | ⟨p', hnext, _⟩ := hleads.cases_head
      · exact hkept
      · rw [below_eq hq, hbase] at hnext
        cases hnext
    | @layered q image p hq hover _ ih =>
      obtain ⟨hkept, hq⟩ := remove_eq_some_iff.mp hq
      refine ⟨.layered hq hover ih.1, fun p' hleads => ?_⟩
      obtain rfl | ⟨p'', hnext, hrest⟩ := hleads.cases_head
      · exact hkept
      · rw [below_eq hq, hover] at hnext
        cases hnext
        exact ih.2 p' hrest
  · rintro ⟨h, hkept⟩
    induction h with
    | base hq hbase => exact .base (remove_eq_some_iff.mpr ⟨hkept _ .refl, hq⟩) hbase
    | layered hq hover _ ih =>
      refine .layered (remove_eq_some_iff.mpr ⟨hkept _ .refl, hq⟩) hover (ih fun p' hleads => ?_)
      exact hkept p' (hleads.head (by rw [below_eq hq, hover]))

end Opening

end Vyoma.Overlays
