import Mathlib.Data.List.Basic
import Mathlib.Tactic.SplitIfs

/-!
# Programs under a readers-writer lock

A program takes and releases one readers-writer lock, asks queries and makes writes, and
ends with a result, an error or a panic. Queries are answered by the shared store or by the
world outside. Several programs run on one store, one operation of one of them at a time.
The lock is that of Go: releasing a lock that is not held ends the process.
-/
namespace Vyoma.LockPrograms

inductive LockOp where
  | lock
  | unlock
  | rLock
  | rUnlock
  deriving DecidableEq, Repr

inductive Mode where
  | read
  | write
  deriving DecidableEq, Repr

inductive Program (Q : Type → Type) (ω ε ν : Type) (α : Type) : Type 1 where
  | ret (a : α)
  | fail (e : ε)
  | panics (n : ν)
  | mutex (op : LockOp) (next : Program Q ω ε ν α)
  | write (w : ω) (next : Program Q ω ε ν α)
  | ask {β : Type} (q : Q β) (next : β → Program Q ω ε ν α)

namespace Program

variable {Q : Type → Type} {ω ε ν α β : Type}

def bind : Program Q ω ε ν α → (α → Program Q ω ε ν β) → Program Q ω ε ν β
  | .ret a, f => f a
  | .fail e, _ => .fail e
  | .panics n, _ => .panics n
  | .mutex op next, f => .mutex op (next.bind f)
  | .write w next, f => .write w (next.bind f)
  | .ask q next, f => .ask q fun b => (next b).bind f

instance : Monad (Program Q ω ε ν) where
  pure := .ret
  bind := bind

def lock : Program Q ω ε ν Unit := .mutex .lock (.ret ())

def unlock : Program Q ω ε ν Unit := .mutex .unlock (.ret ())

def rLock : Program Q ω ε ν Unit := .mutex .rLock (.ret ())

def rUnlock : Program Q ω ε ν Unit := .mutex .rUnlock (.ret ())

def put (w : ω) : Program Q ω ε ν Unit := .write w (.ret ())

def query (q : Q β) : Program Q ω ε ν β := .ask q .ret

@[simp] theorem pure_eq (a : α) : (pure a : Program Q ω ε ν α) = .ret a := rfl

@[simp] theorem ret_bind (a : α) (f : α → Program Q ω ε ν β) : (.ret a >>= f) = f a := rfl

@[simp] theorem fail_bind (e : ε) (f : α → Program Q ω ε ν β) : (.fail e >>= f) = .fail e := rfl

@[simp] theorem panics_bind (n : ν) (f : α → Program Q ω ε ν β) :
    (.panics n >>= f) = .panics n := rfl

@[simp] theorem mutex_bind (op : LockOp) (p : Program Q ω ε ν α) (f : α → Program Q ω ε ν β) :
    (.mutex op p >>= f) = .mutex op (p >>= f) := rfl

@[simp] theorem write_bind (w : ω) (p : Program Q ω ε ν α) (f : α → Program Q ω ε ν β) :
    (.write w p >>= f) = .write w (p >>= f) := rfl

@[simp] theorem ask_bind {γ : Type} (q : Q γ) (next : γ → Program Q ω ε ν α)
    (f : α → Program Q ω ε ν β) : (.ask q next >>= f) = .ask q fun c => next c >>= f := rfl

@[simp] theorem lock_bind (f : Unit → Program Q ω ε ν β) :
    (lock >>= f) = .mutex .lock (f ()) := rfl

@[simp] theorem unlock_bind (f : Unit → Program Q ω ε ν β) :
    (unlock >>= f) = .mutex .unlock (f ()) := rfl

@[simp] theorem rLock_bind (f : Unit → Program Q ω ε ν β) :
    (rLock >>= f) = .mutex .rLock (f ()) := rfl

@[simp] theorem rUnlock_bind (f : Unit → Program Q ω ε ν β) :
    (rUnlock >>= f) = .mutex .rUnlock (f ()) := rfl

@[simp] theorem put_bind (w : ω) (f : Unit → Program Q ω ε ν β) :
    (put w >>= f) = .write w (f ()) := rfl

@[simp] theorem query_bind {γ : Type} (q : Q γ) (f : γ → Program Q ω ε ν β) :
    (query q >>= f) = .ask q f := rfl

end Program

/-! ## Lock discipline -/

section Discipline
open Program

variable {Q : Type → Type} {ω ε ν α : Type}

/-- Answers to the queries of one program, each at its step. -/
abbrev Answers (Q : Type → Type) : Type 1 := ℕ → ∀ β, Q β → β

/-- What a program does to the lock from its `n`-th step on. -/
def locks (answers : Answers Q) : ℕ → Program Q ω ε ν α → List LockOp
  | _, .ret _ => []
  | _, .fail _ => []
  | _, .panics _ => []
  | n, .mutex op next => op :: locks answers (n + 1) next
  | n, .write _ next => locks answers (n + 1) next
  | n, .ask q next => locks answers (n + 1) (next (answers n _ q))

/-- The mode held after an operation, unless it breaks the discipline. -/
def held : Option Mode → LockOp → Option (Option Mode)
  | none, .lock => some (some .write)
  | none, .rLock => some (some .read)
  | some .write, .unlock => some none
  | some .read, .rUnlock => some none
  | _, _ => none

/-- Only what is held is released, nothing is taken while something is held, and nothing is
held in the end. -/
def disciplined : Option Mode → List LockOp → Bool
  | mode, [] => mode.isNone
  | mode, op :: ops =>
    match held mode op with
    | none => false
    | some mode' => disciplined mode' ops

/-- Whatever the answers, the program keeps the discipline from one mode to another. An
error or a panic must leave nothing held. -/
def Sound : Option Mode → Option Mode → Program Q ω ε ν α → Prop
  | mode, mode', .ret _ => mode = mode'
  | mode, _, .fail _ => mode = none
  | mode, _, .panics _ => mode = none
  | mode, mode', .mutex op next => ∃ m, held mode op = some m ∧ Sound m mode' next
  | mode, mode', .write _ next => Sound mode mode' next
  | mode, mode', .ask _ next => ∀ b, Sound mode mode' (next b)

theorem disciplined_of_sound {p : Program Q ω ε ν α} {mode : Option Mode}
    (h : Sound mode none p) (answers : Answers Q) (n : ℕ) :
    disciplined mode (locks answers n p) = true := by
  induction p generalizing mode n with
  | ret a =>
    rw [locks, disciplined, Option.isNone_iff_eq_none]
    exact h
  | fail e =>
    rw [locks, disciplined, Option.isNone_iff_eq_none]
    exact h
  | panics e =>
    rw [locks, disciplined, Option.isNone_iff_eq_none]
    exact h
  | mutex op next ih =>
    obtain ⟨m, hm, hnext⟩ := h
    rw [locks, disciplined, hm]
    exact ih hnext _
  | write w next ih => exact ih h _
  | ask q next ih => exact ih _ (h _) _

theorem Sound.bind {β : Type} {p : Program Q ω ε ν α} {f : α → Program Q ω ε ν β}
    {mode m mode' : Option Mode} (h : Sound mode m p) (hf : ∀ a, Sound m mode' (f a)) :
    Sound mode mode' (p >>= f) := by
  induction p generalizing mode with
  | ret a =>
    rw [show mode = m from h]
    exact hf a
  | fail e => exact h
  | panics e => exact h
  | mutex op next ih =>
    obtain ⟨k, hk, hnext⟩ := h
    exact ⟨k, hk, ih hnext⟩
  | write w next ih => exact ih h
  | ask q next ih => exact fun b => ih b (h b)

/-- A query under the read lock. -/
theorem sound_read {β : Type} {q : Q β} {f : β → Program Q ω ε ν α} {mode : Option Mode}
    (h : ∀ b, Sound none mode (f b)) :
    Sound none mode (do
      rLock
      let b ← query q
      rUnlock
      f b) :=
  ⟨_, rfl, fun b => ⟨_, rfl, h b⟩⟩

/-- A program that keeps the write lock, under the write lock. -/
theorem sound_locked {β : Type} {p : Program Q ω ε ν β} {f : β → Program Q ω ε ν α}
    {mode : Option Mode} (hp : Sound (some .write) (some .write) p)
    (h : ∀ b, Sound none mode (f b)) :
    Sound none mode (do
      lock
      let b ← p
      unlock
      f b) :=
  ⟨_, rfl, hp.bind fun b => ⟨_, rfl, h b⟩⟩

end Discipline

/-! ## Several programs on one store -/

structure RwMutex where
  writer : Bool
  readers : ℕ

inductive LockResult where
  | blocks
  | done (m : RwMutex)
  | fatal

/-- An operation on the lock. A read lock that is released under the write lock goes
unnoticed when a reader is waiting, and ends the process otherwise. -/
def RwMutex.perform (m : RwMutex) (waiting : Bool) : LockOp → LockResult
  | .lock => if m.writer ∨ 0 < m.readers then .blocks else .done { m with writer := true }
  | .rLock => if m.writer then .blocks else .done { m with readers := m.readers + 1 }
  | .unlock => if m.writer then .done { m with writer := false } else .fatal
  | .rUnlock =>
    if 0 < m.readers then .done { m with readers := m.readers - 1 }
    else if m.writer && waiting then .done m
    else .fatal

/-- How a process can end. -/
inductive Halt (ν : Type) where
  | fatal
  | panic (n : ν)

/-- How a store takes queries and writes, and which program a request starts. -/
structure Service (Q : Type → Type) (ω ε ν α σ ρ : Type) where
  answer : σ → (∀ β, Q β → β) → ∀ β, Q β → β
  apply : σ → ω → σ
  start : ρ → Program Q ω ε ν α

structure Config (Q : Type → Type) (ω ε ν α σ : Type) where
  store : σ
  mutex : RwMutex
  threads : List (Program Q ω ε ν α)
  halted : Option (Halt ν)

/-- A request arrives, or a program takes its next step, with the answers of the world. -/
inductive Action (Q : Type → Type) (ρ : Type) where
  | arrives (req : ρ)
  | runs (i : ℕ) (world : ∀ β, Q β → β) (waiting : Bool)

section Machine

variable {Q : Type → Type} {ω ε ν α σ ρ : Type} (service : Service Q ω ε ν α σ ρ)

/-- The next operation of the `i`-th program. -/
def turn (c : Config Q ω ε ν α σ) (i : ℕ) (world : ∀ β, Q β → β) (waiting : Bool) :
    Program Q ω ε ν α → Config Q ω ε ν α σ
  | .ret _ => c
  | .fail _ => c
  | .panics n => { c with halted := some (.panic n) }
  | .mutex op next =>
    match c.mutex.perform waiting op with
    | .blocks => c
    | .done m => { c with mutex := m, threads := c.threads.set i next }
    | .fatal => { c with halted := some .fatal }
  | .write w next => { c with store := service.apply c.store w, threads := c.threads.set i next }
  | .ask q next =>
    { c with threads := c.threads.set i (next (service.answer c.store world _ q)) }

def step (c : Config Q ω ε ν α σ) (a : Action Q ρ) : Config Q ω ε ν α σ :=
  if c.halted.isSome then c
  else
    match a with
    | .arrives req => { c with threads := c.threads ++ [service.start req] }
    | .runs i world waiting =>
      match c.threads[i]? with
      | none => c
      | some p => turn service c i world waiting p

/-- All that a step can do. -/
inductive Steps (c : Config Q ω ε ν α σ) : Action Q ρ → Config Q ω ε ν α σ → Prop
  | idle (a : Action Q ρ) : Steps c a c
  | arrived (req : ρ) :
      Steps c (.arrives req) { c with threads := c.threads ++ [service.start req] }
  | panicked {i world waiting n} (h : c.threads[i]? = some (.panics n)) :
      Steps c (.runs i world waiting) { c with halted := some (.panic n) }
  | crashed {i world waiting op next} (h : c.threads[i]? = some (.mutex op next))
      (hop : c.mutex.perform waiting op = .fatal) :
      Steps c (.runs i world waiting) { c with halted := some .fatal }
  | locked {i world waiting op next m} (h : c.threads[i]? = some (.mutex op next))
      (hop : c.mutex.perform waiting op = .done m) :
      Steps c (.runs i world waiting) { c with mutex := m, threads := c.threads.set i next }
  | wrote {i world waiting w next} (h : c.threads[i]? = some (.write w next)) :
      Steps c (.runs i world waiting)
        { c with store := service.apply c.store w, threads := c.threads.set i next }
  | asked {i world waiting} {β : Type} {q : Q β} {next : β → Program Q ω ε ν α}
      (h : c.threads[i]? = some (.ask q next)) :
      Steps c (.runs i world waiting)
        { c with threads := c.threads.set i (next (service.answer c.store world β q)) }

theorem steps_step (c : Config Q ω ε ν α σ) (a : Action Q ρ) :
    Steps service c a (step service c a) := by
  unfold step
  by_cases hhalted : c.halted.isSome
  · rw [if_pos hhalted]
    exact .idle a
  rw [if_neg hhalted]
  cases a with
  | arrives req => exact .arrived req
  | runs i world waiting =>
    dsimp only
    cases hi : c.threads[i]? with
    | none => exact .idle _
    | some p =>
      cases p with
      | ret a => exact .idle _
      | fail e => exact .idle _
      | panics n => exact .panicked hi
      | mutex op next =>
        dsimp only [turn]
        cases hop : c.mutex.perform waiting op with
        | blocks => exact .idle _
        | done m => exact .locked hi hop
        | fatal => exact .crashed hi hop
      | write w next => exact .wrote hi
      | ask q next => exact .asked hi

end Machine

/-! ## Sound programs do not end the process -/

/-- The modes in which programs hold the lock agree with the lock. -/
structure Holds (m : RwMutex) (modes : List (Option Mode)) : Prop where
  readers : modes.count (some .read) = m.readers
  writer : modes.count (some .write) = if m.writer then 1 else 0
  exclusive : m.writer = true → m.readers = 0

section Holds

variable {m m' : RwMutex} {modes : List (Option Mode)} {i : ℕ} {mode mode' : Option Mode}
  {op : LockOp} {waiting : Bool}

theorem held_cases (h : held mode op = some mode') :
    (mode = none ∧ op = .lock ∧ mode' = some .write) ∨
      (mode = none ∧ op = .rLock ∧ mode' = some .read) ∨
      (mode = some .write ∧ op = .unlock ∧ mode' = none) ∨
      (mode = some .read ∧ op = .rUnlock ∧ mode' = none) := by
  unfold held at h
  split at h <;> cases h <;> simp

theorem Holds.not_fatal (h : Holds m modes) (hi : modes[i]? = some mode)
    (hop : held mode op = some mode') : m.perform waiting op ≠ .fatal := by
  have hcount : 0 < modes.count mode := List.count_pos_iff.mpr (List.mem_of_getElem? hi)
  intro hfatal
  obtain ⟨rfl, rfl, -⟩ | ⟨rfl, rfl, -⟩ | ⟨rfl, rfl, -⟩ | ⟨rfl, rfl, -⟩ := held_cases hop
  · simp only [RwMutex.perform] at hfatal
    split_ifs at hfatal
  · simp only [RwMutex.perform] at hfatal
    split_ifs at hfatal
  · have hwriter : m.writer = true := by
      by_contra hnot
      rw [h.writer, if_neg hnot] at hcount
      omega
    simp only [RwMutex.perform, if_pos hwriter] at hfatal
    cases hfatal
  · rw [h.readers] at hcount
    simp only [RwMutex.perform, if_pos hcount] at hfatal
    cases hfatal

/-- How many programs hold the lock after one of them goes from one mode to another. -/
theorem Holds.count_set (h : Holds m modes) (hi : modes[i]? = some mode) (mode' : Option Mode) :
    (modes.set i mode').count (some .read) = m.readers -
        (if mode == some .read then 1 else 0) + (if mode' == some .read then 1 else 0) ∧
      (modes.set i mode').count (some .write) = (if m.writer then 1 else 0) -
        (if mode == some .write then 1 else 0) + (if mode' == some .write then 1 else 0) := by
  obtain ⟨hlt, hmode⟩ := List.getElem?_eq_some_iff.mp hi
  rw [List.count_set hlt, List.count_set hlt, hmode, h.readers, h.writer]
  exact ⟨rfl, rfl⟩

/-- An operation that keeps the discipline keeps the agreement. -/
theorem Holds.perform (h : Holds m modes) (hi : modes[i]? = some mode)
    (hop : held mode op = some mode') (hdone : m.perform waiting op = .done m') :
    Holds m' (modes.set i mode') := by
  have hcount : 0 < modes.count mode := List.count_pos_iff.mpr (List.mem_of_getElem? hi)
  obtain ⟨hreaders, hwriter⟩ := h.count_set hi mode'
  obtain ⟨rfl, rfl, rfl⟩ | ⟨rfl, rfl, rfl⟩ | ⟨rfl, rfl, rfl⟩ | ⟨rfl, rfl, rfl⟩ := held_cases hop
  · -- the lock was free
    simp only [RwMutex.perform] at hdone
    split_ifs at hdone with hbusy
    cases hdone
    rw [not_or] at hbusy
    rw [if_neg hbusy.1] at hwriter
    refine ⟨hreaders, hwriter, fun _ => ?_⟩
    dsimp only
    omega
  · simp only [RwMutex.perform] at hdone
    split_ifs at hdone with hbusy
    cases hdone
    exact ⟨hreaders, hwriter, fun hw => absurd hw hbusy⟩
  · simp only [RwMutex.perform] at hdone
    split_ifs at hdone with hw
    cases hdone
    rw [if_pos hw] at hwriter
    exact ⟨hreaders, hwriter, fun hnot => (nomatch hnot)⟩
  · rw [h.readers] at hcount
    simp only [RwMutex.perform, if_pos hcount] at hdone
    cases hdone
    refine ⟨hreaders, hwriter, fun hw => ?_⟩
    have hnone := h.exclusive hw
    omega

end Holds

section Runs

variable {Q : Type → Type} {ω ε ν α σ ρ : Type} {service : Service Q ω ε ν α σ ρ}
  {c : Config Q ω ε ν α σ}

/-- Every program keeps the discipline from the mode in which it holds the lock, and no lock
has been released that was not held. -/
structure Orderly (c : Config Q ω ε ν α σ) (modes : List (Option Mode)) : Prop where
  length : modes.length = c.threads.length
  sound : ∀ (i : ℕ) mode p, modes[i]? = some mode → c.threads[i]? = some p → Sound mode none p
  holds : Holds c.mutex modes
  notFatal : c.halted ≠ some .fatal

variable {modes : List (Option Mode)} {i : ℕ} {p next : Program Q ω ε ν α}

theorem Orderly.modeOf (h : Orderly c modes) (hi : c.threads[i]? = some p) :
    ∃ mode, modes[i]? = some mode ∧ Sound mode none p := by
  have hlt : i < modes.length := by
    rw [h.length]
    exact (List.getElem?_eq_some_iff.mp hi).1
  exact ⟨modes[i], List.getElem?_eq_getElem hlt, h.sound i _ p (List.getElem?_eq_getElem hlt) hi⟩

/-- A program goes on, and the lock with it. -/
theorem Orderly.advance (h : Orderly c modes) {mode' : Option Mode} {m : RwMutex} {s : σ}
    (hnext : Sound mode' none next) (hm : Holds m (modes.set i mode')) :
    Orderly { c with store := s, mutex := m, threads := c.threads.set i next }
      (modes.set i mode') := by
  refine ⟨by rw [List.length_set, List.length_set, h.length], fun j mode p hj hp => ?_, hm,
    h.notFatal⟩
  by_cases hij : i = j
  · subst hij
    rw [List.getElem?_set_self (List.length_set ▸ (List.getElem?_eq_some_iff.mp hj).1)] at hj
    rw [List.getElem?_set_self (List.length_set ▸ (List.getElem?_eq_some_iff.mp hp).1)] at hp
    cases hj
    cases hp
    exact hnext
  · rw [List.getElem?_set_ne hij] at hj hp
    exact h.sound j mode p hj hp

/-- The program goes on in the same mode. -/
theorem Orderly.advance_same (h : Orderly c modes) {mode : Option Mode} {s : σ}
    (hi : modes[i]? = some mode) (hnext : Sound mode none next) :
    Orderly { c with store := s, threads := c.threads.set i next } modes := by
  obtain ⟨hlt, rfl⟩ := List.getElem?_eq_some_iff.mp hi
  have hsame : modes.set i modes[i] = modes := List.set_getElem_self hlt
  have hadvance := h.advance (s := s) (m := c.mutex) (i := i) hnext (by rw [hsame]; exact h.holds)
  rwa [hsame] at hadvance

/-- A program arrives that holds nothing. -/
theorem Orderly.arrive (h : Orderly c modes) (hp : Sound none none p) :
    Orderly { c with threads := c.threads ++ [p] } (modes ++ [none]) := by
  refine ⟨by rw [List.length_append, List.length_append, h.length]; rfl,
    fun j mode q hj hq => ?_, ⟨?_, ?_, h.holds.exclusive⟩, h.notFatal⟩
  · obtain hlt | hge := Nat.lt_or_ge j modes.length
    · rw [List.getElem?_append_left hlt] at hj
      rw [List.getElem?_append_left (h.length ▸ hlt)] at hq
      exact h.sound j mode q hj hq
    · rw [List.getElem?_append_right hge] at hj
      rw [List.getElem?_append_right (h.length ▸ hge), ← h.length] at hq
      have hmode := List.mem_singleton.mp (List.mem_of_getElem? hj)
      have hprogram := List.mem_singleton.mp (List.mem_of_getElem? hq)
      rw [hmode, hprogram]
      exact hp
  · rw [List.count_append, h.holds.readers]
    rfl
  · rw [List.count_append, h.holds.writer]
    rfl

/-- A step keeps the order if the programs that arrive are sound. -/
theorem orderly_step (h : Orderly c modes) (a : Action Q ρ)
    (ha : ∀ req, a = .arrives req → Sound none none (service.start req)) :
    ∃ modes', Orderly (step service c a) modes' := by
  have hsteps := steps_step service c a
  generalize step service c a = c' at hsteps ⊢
  cases hsteps with
  | idle => exact ⟨modes, h⟩
  | arrived req => exact ⟨_, h.arrive (ha req rfl)⟩
  | panicked hi => exact ⟨modes, h.length, h.sound, h.holds, fun hfatal => nomatch hfatal⟩
  | crashed hi hop =>
    obtain ⟨mode, hmode, mode', hheld, -⟩ := h.modeOf hi
    exact absurd hop (h.holds.not_fatal hmode hheld)
  | locked hi hop =>
    obtain ⟨mode, hmode, mode', hheld, hnext⟩ := h.modeOf hi
    exact ⟨_, h.advance hnext (h.holds.perform hmode hheld hop)⟩
  | wrote hi =>
    obtain ⟨mode, hmode, hnext⟩ := h.modeOf hi
    exact ⟨_, h.advance_same hmode hnext⟩
  | asked hi =>
    obtain ⟨mode, hmode, hnext⟩ := h.modeOf hi
    exact ⟨_, h.advance_same hmode (hnext _)⟩

end Runs

end Vyoma.LockPrograms
