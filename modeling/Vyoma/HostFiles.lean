import Mathlib.Logic.Function.Basic
import Mathlib.Tactic.SplitIfs
import Vyoma.Excepts

/-!
# Programs on the files of a host

A disk holds the directories that exist and the content of every file. Directories, file
names and contents are arbitrary types. A program changes a state and may fail, and what
it did before it failed stays. Two rules carry facts through a program: an invariant that
every part keeps, and a view of the state in which every part acts as another program.
-/
namespace Vyoma.HostFiles

structure Path (δ ν : Type) where
  dir : δ
  file : ν
  deriving DecidableEq, Repr

/-- The directories and files of a host; a file is in a directory that exists. -/
structure Disk (δ ν γ : Type) where
  hasDir : δ → Bool
  files : Path δ ν → Option γ
  inDir : ∀ p, (files p).isSome = true → hasDir p.dir = true

namespace Disk

variable {δ ν γ γ' : Type}

theorem ext {d d' : Disk δ ν γ} (hdirs : d.hasDir = d'.hasDir) (hfiles : d.files = d'.files) :
    d = d' := by
  cases d
  cases d'
  cases hdirs
  cases hfiles
  rfl

/-- The same files with other contents. -/
def map (f : γ → γ') (d : Disk δ ν γ) : Disk δ ν γ' where
  hasDir := d.hasDir
  files p := (d.files p).map f
  inDir p h := d.inDir p (by simpa using h)

@[simp] theorem files_map (f : γ → γ') (d : Disk δ ν γ) (p : Path δ ν) :
    (d.map f).files p = (d.files p).map f := rfl

variable [DecidableEq δ]

def createDir (d : Disk δ ν γ) (dir : δ) : Disk δ ν γ where
  hasDir a := dir = a || d.hasDir a
  files := d.files
  inDir p h := by simp [d.inDir p h]

def removeDir (d : Disk δ ν γ) (dir : δ) : Disk δ ν γ where
  hasDir a := dir ≠ a && d.hasDir a
  files q := if dir = q.dir then none else d.files q
  inDir q h := by
    by_cases hq : dir = q.dir
    · simp [hq] at h
    · simp only [if_neg hq] at h
      simp [hq, d.inDir q h]

@[simp] theorem files_removeDir (d : Disk δ ν γ) (dir : δ) (q : Path δ ν) :
    (d.removeDir dir).files q = if dir = q.dir then none else d.files q := rfl

@[simp] theorem map_createDir (f : γ → γ') (d : Disk δ ν γ) (dir : δ) :
    (d.createDir dir).map f = (d.map f).createDir dir := rfl

@[simp] theorem map_removeDir (f : γ → γ') (d : Disk δ ν γ) (dir : δ) :
    (d.removeDir dir).map f = (d.map f).removeDir dir := by
  refine ext rfl (funext fun q => ?_)
  simp only [files_map, files_removeDir]
  split_ifs <;> rfl

variable [DecidableEq ν]

/-- A file and the directory it is in. -/
def write (d : Disk δ ν γ) (p : Path δ ν) (content : γ) : Disk δ ν γ where
  hasDir a := p.dir = a || d.hasDir a
  files q := if p = q then some content else d.files q
  inDir q h := by
    by_cases hq : p = q
    · simp [hq]
    · simp only [if_neg hq] at h
      simp [d.inDir q h]

/-- A file that is there takes the place of another. -/
def rename (d : Disk δ ν γ) (source target : Path δ ν) : Disk δ ν γ :=
  match d.files source with
  | none => d
  | some content =>
    { hasDir := d.hasDir
      files q := if source = q then none else d.files q
      inDir q h := by
        by_cases hq : source = q
        · simp [hq] at h
        · simp only [if_neg hq] at h
          exact d.inDir q h : Disk δ ν γ }.write target content

@[simp] theorem files_write (d : Disk δ ν γ) (p q : Path δ ν) (content : γ) :
    (d.write p content).files q = if p = q then some content else d.files q := rfl

theorem files_rename {d : Disk δ ν γ} {source : Path δ ν} {content : γ}
    (h : d.files source = some content) (target q : Path δ ν) :
    (d.rename source target).files q =
      if target = q then some content else if source = q then none else d.files q := by
  unfold rename
  rw [h]
  rfl

@[simp] theorem map_write (f : γ → γ') (d : Disk δ ν γ) (p : Path δ ν) (content : γ) :
    (d.write p content).map f = (d.map f).write p (f content) := by
  refine ext rfl (funext fun q => ?_)
  simp only [files_map, files_write]
  split_ifs <;> rfl

@[simp] theorem map_rename (f : γ → γ') (d : Disk δ ν γ) (source target : Path δ ν) :
    (d.rename source target).map f = (d.map f).rename source target := by
  cases hsource : d.files source with
  | none => simp [rename, hsource]
  | some content =>
    refine ext ?_ (funext fun q => ?_)
    · simp only [rename, files_map, hsource, Option.map_some]
      rfl
    · have hmapped : (d.map f).files source = some (f content) := by simp [hsource]
      rw [files_map, files_rename hsource, files_rename hmapped, files_map]
      split_ifs <;> rfl

end Disk

/-- How the writing of a file ends: refused before the file was opened, broken off with
some content left in it, or done. -/
inductive Written (γ : Type) where
  | refused (error : String)
  | broken (error : String) (left : γ)
  | done (content : γ)
  deriving Repr

/-- What the writing leaves in the file, unless it was refused. -/
def Written.left {γ : Type} : Written γ → Option γ
  | .refused _ => none
  | .broken _ left => some left
  | .done content => some content

def Written.map {γ γ' : Type} (f : γ → γ') : Written γ → Written γ'
  | .refused error => .refused error
  | .broken error left => .broken error (f left)
  | .done content => .done (f content)

def Written.answer {γ : Type} : Written γ → Except String Unit
  | .refused error => .error error
  | .broken error _ => .error error
  | .done _ => .ok ()

theorem Written.left_map {γ γ' : Type} (f : γ → γ') (w : Written γ) :
    (w.map f).left = w.left.map f := by
  cases w <;> rfl

@[simp] theorem Written.map_map {γ γ' γ'' : Type} (f : γ → γ') (g : γ' → γ'') (w : Written γ) :
    (w.map f).map g = w.map (g ∘ f) := by
  cases w <;> rfl

@[simp] theorem Written.answer_map {γ γ' : Type} (f : γ → γ') (w : Written γ) :
    (w.map f).answer = w.answer := by
  cases w <;> rfl

/-! ## Programs that may fail -/

abbrev Prog (σ ε α : Type) : Type := ExceptT ε (StateM σ) α

namespace Prog

variable {σ σ' ε α β : Type}

def exec (x : Prog σ ε α) (s : σ) : Except ε α × σ := x s

/-- The answer of a call that leaves the state alone. -/
def answer (r : Except ε α) : Prog σ ε α := fun s => (r, s)

/-- A change of the state that cannot fail. -/
def change (f : σ → σ) : Prog σ ε Unit := fun s => (.ok (), f s)

/-- What is read off the state. -/
def read (g : σ → α) : Prog σ ε α := fun s => (.ok (g s), s)

/-- The program with its error handed on as a value. -/
def attempt (x : Prog σ ε α) : Prog σ ε (Except ε α) := fun s => (.ok (x s).1, (x s).2)

/-- The program with its error told in other terms. -/
def mapError {ε' : Type} (f : ε → ε') (x : Prog σ ε α) : Prog σ ε' α :=
  fun s => ((x s).1.mapError f, (x s).2)

/-- The program on the first part of a larger state. -/
def onFst {τ : Type} (x : Prog σ ε α) : Prog (σ × τ) ε α := fun s => ((x s.1).1, ((x s.1).2, s.2))

/-- The program on the second part of a larger state. -/
def onSnd {τ : Type} (x : Prog σ ε α) : Prog (τ × σ) ε α := fun s => ((x s.2).1, (s.1, (x s.2).2))

@[simp] theorem exec_pure (a : α) (s : σ) : (pure a : Prog σ ε α).exec s = (.ok a, s) := rfl

@[simp] theorem exec_throw (e : ε) (s : σ) : (throw e : Prog σ ε α).exec s = (.error e, s) := rfl

@[simp] theorem exec_answer (r : Except ε α) (s : σ) :
    (answer r : Prog σ ε α).exec s = (r, s) := rfl

@[simp] theorem exec_change (f : σ → σ) (s : σ) :
    (change f : Prog σ ε Unit).exec s = (.ok (), f s) := rfl

@[simp] theorem exec_read (g : σ → α) (s : σ) : (read g : Prog σ ε α).exec s = (.ok (g s), s) := rfl

@[simp] theorem exec_attempt (x : Prog σ ε α) (s : σ) :
    x.attempt.exec s = (.ok (x.exec s).1, (x.exec s).2) := rfl

@[simp] theorem exec_mapError {ε' : Type} (f : ε → ε') (x : Prog σ ε α) (s : σ) :
    (x.mapError f).exec s = ((x.exec s).1.mapError f, (x.exec s).2) := rfl

@[simp] theorem exec_onFst {τ : Type} (x : Prog σ ε α) (s : σ × τ) :
    x.onFst.exec s = ((x.exec s.1).1, ((x.exec s.1).2, s.2)) := rfl

@[simp] theorem exec_onSnd {τ : Type} (x : Prog σ ε α) (s : τ × σ) :
    x.onSnd.exec s = ((x.exec s.2).1, (s.1, (x.exec s.2).2)) := rfl

theorem exec_bind (x : Prog σ ε α) (f : α → Prog σ ε β) (s : σ) :
    (x >>= f).exec s =
      match x.exec s with
      | (.ok a, s') => (f a).exec s'
      | (.error e, s') => (.error e, s') := by
  show (ExceptT.bind x f : Prog σ ε β) s = _
  unfold exec ExceptT.bind ExceptT.mk
  generalize hx : x s = out
  obtain ⟨r, s'⟩ := out
  show ExceptT.bindCont f (x s).1 (x s).2 = _
  rw [hx]
  cases r <;> rfl

theorem exec_bind_ok {x : Prog σ ε α} {s s' : σ} {a : α} (h : x.exec s = (.ok a, s'))
    (f : α → Prog σ ε β) : (x >>= f).exec s = (f a).exec s' := by
  rw [exec_bind, h]

theorem exec_bind_error {x : Prog σ ε α} {s s' : σ} {e : ε} (h : x.exec s = (.error e, s'))
    (f : α → Prog σ ε β) : (x >>= f).exec s = (.error e, s') := by
  rw [exec_bind, h]

/-- A result of two programs in a row comes from a result of each. -/
theorem exec_bind_eq_ok_iff {x : Prog σ ε α} {f : α → Prog σ ε β} {s s' : σ} {b : β} :
    (x >>= f).exec s = (.ok b, s') ↔
      ∃ a s₁, x.exec s = (.ok a, s₁) ∧ (f a).exec s₁ = (.ok b, s') := by
  rw [exec_bind]
  generalize x.exec s = out
  obtain ⟨r, s₁⟩ := out
  constructor
  · intro h
    cases r with
    | error e => cases h
    | ok a => exact ⟨a, s₁, rfl, h⟩
  · rintro ⟨a, s₂, hout, h⟩
    cases hout
    exact h

theorem exec_answer_eq_ok_iff {r : Except ε α} {s s' : σ} {a : α} :
    (answer r : Prog σ ε α).exec s = (.ok a, s') ↔ r = .ok a ∧ s' = s := by
  rw [exec_answer, Prod.mk.injEq, eq_comm (a := s)]

theorem exec_change_eq_ok_iff {f : σ → σ} {s s' : σ} {u : Unit} :
    (change f : Prog σ ε Unit).exec s = (.ok u, s') ↔ s' = f s := by
  rw [exec_change, Prod.mk.injEq, eq_comm (a := f s)]
  exact and_iff_right rfl

theorem exec_pure_eq_ok_iff {s s' : σ} {a b : α} :
    (pure a : Prog σ ε α).exec s = (.ok b, s') ↔ b = a ∧ s' = s := by
  rw [exec_pure, Prod.mk.injEq, Except.ok.injEq, eq_comm (a := a), eq_comm (a := s)]

theorem exec_mapError_eq_ok_iff {ε' : Type} {f : ε → ε'} {x : Prog σ ε α} {s s' : σ} {a : α} :
    (x.mapError f).exec s = (.ok a, s') ↔ x.exec s = (.ok a, s') := by
  rw [exec_mapError, Prod.ext_iff, Prod.ext_iff]
  exact and_congr_left' Excepts.mapError_eq_ok_iff

/-- A result computed at the end does not change the state. -/
theorem exec_bind_pure (x : Prog σ ε α) (g : α → β) (s : σ) :
    ((x >>= fun a => pure (g a)).exec s).2 = (x.exec s).2 := by
  rw [exec_bind]
  generalize x.exec s = out
  obtain ⟨r, s'⟩ := out
  cases r <;> rfl

/-- An error handed on as a value can be raised again. -/
theorem attempt_bind_answer (x : Prog σ ε α) (f : α → Prog σ ε β) :
    (x.attempt >>= fun r => answer r >>= f) = x >>= f := by
  funext s
  show (x.attempt >>= fun r => answer r >>= f).exec s = (x >>= f).exec s
  rw [exec_bind_ok (exec_attempt x s), exec_bind, exec_bind, exec_answer]

/-- Every result of the program satisfies `φ`. -/
def Yields (φ : α → Prop) (x : Prog σ ε α) : Prop := ∀ s a, (x.exec s).1 = .ok a → φ a

section Yields

variable {φ : α → Prop}

theorem yields_pure {a : α} (h : φ a) : Yields φ (pure a : Prog σ ε α) := by
  intro s b hb
  cases hb
  exact h

theorem yields_throw (e : ε) : Yields φ (throw e : Prog σ ε α) := fun _ _ h => nomatch h

theorem Yields.bind {f : β → Prog σ ε α} (x : Prog σ ε β) (hf : ∀ b, Yields φ (f b)) :
    Yields φ (x >>= f) := by
  intro s a h
  rw [exec_bind] at h
  generalize x.exec s = out at h
  obtain ⟨r, s'⟩ := out
  cases r with
  | error e => cases h
  | ok b => exact hf b s' a h

theorem Yields.imp {ψ : α → Prop} {x : Prog σ ε α} (h : Yields φ x) (himp : ∀ a, φ a → ψ a) :
    Yields ψ x := fun s a ha => himp a (h s a ha)

theorem yields_of_eq_ok {x : Prog σ ε α} (h : ∀ s a s', x.exec s = (.ok a, s') → φ a) :
    Yields φ x := by
  intro s a ha
  exact h s a (x.exec s).2 (Prod.ext ha rfl)

theorem Yields.attempt {x : Prog σ ε α} (h : Yields φ x) :
    Yields (fun r => ∀ a, r = .ok a → φ a) x.attempt := by
  intro s r hr a ha
  cases hr
  exact h s a ha

theorem Yields.onSnd {τ : Type} {x : Prog σ ε α} (h : Yields φ x) :
    Yields φ (x.onSnd : Prog (τ × σ) ε α) := fun s a ha => h s.2 a ha

theorem Yields.ite {c : Prop} [Decidable c] {x y : Prog σ ε α} (hx : Yields φ x)
    (hy : Yields φ y) : Yields φ (if c then x else y) := by
  split_ifs
  · exact hx
  · exact hy

end Yields

/-- Every result of the program comes with a state of `I`. -/
def Establishes (I : σ → Prop) (x : Prog σ ε α) : Prop :=
  ∀ s a s', x.exec s = (.ok a, s') → I s'

theorem Establishes.bind {I : σ → Prop} {f : β → Prog σ ε α} (x : Prog σ ε β)
    (hf : ∀ b, Establishes I (f b)) : Establishes I (x >>= f) := by
  intro s a s' h
  obtain ⟨b, s₁, -, hb⟩ := exec_bind_eq_ok_iff.mp h
  exact hf b s₁ a s' hb

theorem Establishes.mapError {ε' : Type} {I : σ → Prop} {x : Prog σ ε α} (h : Establishes I x)
    (f : ε → ε') : Establishes I (x.mapError f) :=
  fun s a s' hok => h s a s' (exec_mapError_eq_ok_iff.mp hok)

/-- Whether it fails or not, the program leads from states of `I` to states of `I`. -/
def Keeps (I : σ → Prop) (x : Prog σ ε α) : Prop := ∀ s, I s → I (x.exec s).2

section Keeps

variable {I : σ → Prop}

theorem keeps_pure (a : α) : Keeps I (pure a : Prog σ ε α) := fun _ h => h

theorem Keeps.of_exec {x : Prog σ ε α} (hx : Keeps I x) {s s' : σ} {r : Except ε α} (hs : I s)
    (h : x.exec s = (r, s')) : I s' := by
  have hs' := hx s hs
  rwa [h] at hs'

theorem keeps_throw (e : ε) : Keeps I (throw e : Prog σ ε α) := fun _ h => h

theorem keeps_answer (r : Except ε α) : Keeps I (answer r : Prog σ ε α) := fun _ h => h

theorem keeps_read (g : σ → α) : Keeps I (read g : Prog σ ε α) := fun _ h => h

theorem keeps_change {f : σ → σ} (hf : ∀ s, I s → I (f s)) :
    Keeps I (change f : Prog σ ε Unit) := fun s h => hf s h

theorem Keeps.bind_of_yields {φ : α → Prop} {x : Prog σ ε α} {f : α → Prog σ ε β}
    (hx : Keeps I x) (hφ : Yields φ x) (hf : ∀ a, φ a → Keeps I (f a)) : Keeps I (x >>= f) := by
  intro s h
  have hs := hx s h
  have ha := hφ s
  rw [exec_bind]
  generalize x.exec s = out at hs ha
  obtain ⟨r, s'⟩ := out
  cases r with
  | error e => exact hs
  | ok a => exact hf a (ha a rfl) s' hs

/-- What holds after the first part of a program holds after the whole of it. -/
theorem exec_bind_of_keeps {x : Prog σ ε α} {f : α → Prog σ ε β} {s : σ} (hx : I (x.exec s).2)
    (hf : ∀ a, Keeps I (f a)) : I ((x >>= f).exec s).2 := by
  rw [exec_bind]
  generalize x.exec s = out at hx
  obtain ⟨r, s'⟩ := out
  cases r with
  | error e => exact hx
  | ok a => exact hf a s' hx

theorem Keeps.bind {x : Prog σ ε α} {f : α → Prog σ ε β} (hx : Keeps I x)
    (hf : ∀ a, Keeps I (f a)) : Keeps I (x >>= f) :=
  hx.bind_of_yields (φ := fun _ => True) (fun _ _ _ => trivial) fun a _ => hf a

/-- What follows a reading may count on what was read. -/
theorem keeps_read_bind {g : σ → α} {f : α → Prog σ ε β}
    (h : ∀ s, I s → I ((f (g s)).exec s).2) : Keeps I (read g >>= f) := by
  intro s hs
  rw [exec_bind_ok (exec_read g s)]
  exact h s hs

theorem Keeps.attempt {x : Prog σ ε α} (hx : Keeps I x) : Keeps I x.attempt := fun s h => hx s h

theorem Keeps.mapError {ε' : Type} {x : Prog σ ε α} (hx : Keeps I x) (f : ε → ε') :
    Keeps I (x.mapError f) := fun s h => hx s h

theorem Keeps.onSnd {τ : Type} {x : Prog σ ε α} (hx : Keeps I x) :
    Keeps (fun s : τ × σ => I s.2) x.onSnd := fun s h => hx s.2 h

theorem Keeps.ite {c : Prop} [Decidable c] {x y : Prog σ ε α} (hx : Keeps I x) (hy : Keeps I y) :
    Keeps I (if c then x else y) := by
  split_ifs
  · exact hx
  · exact hy

end Keeps

/-- The result does not depend on the state. -/
def Steady (x : Prog σ ε α) : Prop := ∀ s s', (x.exec s).1 = (x.exec s').1

section Steady

theorem steady_pure (a : α) : Steady (pure a : Prog σ ε α) := fun _ _ => rfl

theorem steady_throw (e : ε) : Steady (throw e : Prog σ ε α) := fun _ _ => rfl

theorem steady_answer (r : Except ε α) : Steady (answer r : Prog σ ε α) := fun _ _ => rfl

theorem steady_change (f : σ → σ) : Steady (change f : Prog σ ε Unit) := fun _ _ => rfl

theorem Steady.bind {x : Prog σ ε α} {f : α → Prog σ ε β} (hx : Steady x)
    (hf : ∀ a, Steady (f a)) : Steady (x >>= f) := by
  intro s s'
  have hs := hx s s'
  rw [exec_bind, exec_bind]
  generalize x.exec s = out at hs ⊢
  generalize x.exec s' = out' at hs ⊢
  obtain ⟨r, s₁⟩ := out
  obtain ⟨r', s₁'⟩ := out'
  obtain rfl : r = r' := hs
  cases r with
  | error e => rfl
  | ok a => exact hf a s₁ s₁'

theorem Steady.mapError {ε' : Type} {x : Prog σ ε α} (hx : Steady x) (f : ε → ε') :
    Steady (x.mapError f) := by
  intro s s'
  simp [hx s s']

theorem Steady.attempt {x : Prog σ ε α} (hx : Steady x) : Steady x.attempt := by
  intro s s'
  simp [hx s s']

theorem Steady.ite {c : Prop} [Decidable c] {x y : Prog σ ε α} (hx : Steady x) (hy : Steady y) :
    Steady (if c then x else y) := by
  split_ifs
  · exact hx
  · exact hy

end Steady

/-- Seen through `view`, the first program acts as the second, with the same result. -/
def ActsAs (view : σ → σ') (x : Prog σ ε α) (y : Prog σ' ε α) : Prop :=
  ∀ s, y.exec (view s) = ((x.exec s).1, view (x.exec s).2)

section ActsAs

variable {view : σ → σ'}

theorem actsAs_pure (a : α) : ActsAs view (pure a : Prog σ ε α) (pure a) := fun _ => rfl

theorem actsAs_throw (e : ε) : ActsAs view (throw e : Prog σ ε α) (throw e) := fun _ => rfl

theorem actsAs_answer (r : Except ε α) : ActsAs view (answer r : Prog σ ε α) (answer r) :=
  fun _ => rfl

theorem actsAs_read {g : σ → α} {g' : σ' → α} (hg : ∀ s, g' (view s) = g s) :
    ActsAs view (read g : Prog σ ε α) (read g') := by
  intro s
  simp [hg]

theorem actsAs_change {f : σ → σ} {f' : σ' → σ'} (hf : ∀ s, f' (view s) = view (f s)) :
    ActsAs view (change f : Prog σ ε Unit) (change f') := by
  intro s
  simp [hf]

theorem ActsAs.bind {x : Prog σ ε α} {y : Prog σ' ε α} {f : α → Prog σ ε β}
    {g : α → Prog σ' ε β} (hx : ActsAs view x y) (hf : ∀ a, ActsAs view (f a) (g a)) :
    ActsAs view (x >>= f) (y >>= g) := by
  intro s
  have hs := hx s
  rw [exec_bind, exec_bind, hs]
  generalize x.exec s = out
  obtain ⟨r, s'⟩ := out
  cases r with
  | error e => rfl
  | ok a => exact hf a s'

theorem ActsAs.attempt {x : Prog σ ε α} {y : Prog σ' ε α} (hx : ActsAs view x y) :
    ActsAs view x.attempt y.attempt := by
  intro s
  simp [hx s]

theorem ActsAs.ite {c : Prop} [Decidable c] {x y : Prog σ ε α} {x' y' : Prog σ' ε α}
    (hx : ActsAs view x x') (hy : ActsAs view y y') :
    ActsAs view (if c then x else y) (if c then x' else y') := by
  split_ifs
  · exact hx
  · exact hy

end ActsAs

end Prog

end Vyoma.HostFiles
