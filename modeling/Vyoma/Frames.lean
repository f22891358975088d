import Mathlib.Algebra.Group.Nat.Defs
import Mathlib.Data.List.Basic
import Mathlib.Tactic.SplitIfs

/-!
# Length-prefixed frames

A frame is the length of its payload in four bytes, most significant first, followed by
the payload. Lengths are taken modulo `2 ^ 32`, so a frame can be read back as long as its
payload is shorter than that, and then a sequence of frames determines its payloads.
-/
namespace Vyoma.Frames

/-- `u32::to_be_bytes` of a length cast to `u32`. -/
def toBeBytes (n : ℕ) : List UInt8 :=
  [UInt8.ofNat (n / 2 ^ 24), UInt8.ofNat (n / 2 ^ 16), UInt8.ofNat (n / 2 ^ 8), UInt8.ofNat n]

/-- `u32::from_be_bytes`. -/
def fromBeBytes : List UInt8 → ℕ
  | [a, b, c, d] => a.toNat * 2 ^ 24 + b.toNat * 2 ^ 16 + c.toNat * 2 ^ 8 + d.toNat
  | _ => 0

@[simp] theorem length_toBeBytes (n : ℕ) : (toBeBytes n).length = 4 := rfl

theorem fromBeBytes_toBeBytes (n : ℕ) : fromBeBytes (toBeBytes n) = n % 2 ^ 32 := by
  simp only [toBeBytes, fromBeBytes, UInt8.toNat_ofNat']
  omega

def frame (payload : List UInt8) : List UInt8 := toBeBytes payload.length ++ payload

theorem take_frame (payload rest : List UInt8) :
    (frame payload ++ rest).take 4 = toBeBytes payload.length := rfl

theorem drop_frame (payload rest : List UInt8) :
    (frame payload ++ rest).drop 4 = payload ++ rest := rfl

theorem frame_length (payload : List UInt8) : (frame payload).length = payload.length + 4 := by
  rw [frame, List.length_append, length_toBeBytes, Nat.add_comm]

/-- Headers of short payloads tell their lengths. -/
theorem toBeBytes_inj {m n : ℕ} (hm : m < 2 ^ 32) (hn : n < 2 ^ 32)
    (h : toBeBytes m = toBeBytes n) : m = n := by
  have hsame := congrArg fromBeBytes h
  rw [fromBeBytes_toBeBytes, fromBeBytes_toBeBytes, Nat.mod_eq_of_lt hm,
    Nat.mod_eq_of_lt hn] at hsame
  exact hsame

/-- The first of several frames can be told from the bytes of all. -/
theorem frame_append_inj {x y rest rest' : List UInt8} (hx : x.length < 2 ^ 32)
    (hy : y.length < 2 ^ 32) (h : frame x ++ rest = frame y ++ rest') : x = y ∧ rest = rest' := by
  unfold frame at h
  rw [List.append_assoc, List.append_assoc] at h
  obtain ⟨hheader, hbody⟩ := List.append_inj h rfl
  exact List.append_inj hbody (toBeBytes_inj hx hy hheader)

theorem frame_ne_nil (payload : List UInt8) : frame payload ≠ [] := by
  intro h
  have hlength := congrArg List.length h
  rw [frame_length] at hlength
  cases hlength

/-- Two sequences of frames with the same bytes are the same. -/
theorem flatMap_frame_inj {xs ys : List (List UInt8)} (hxs : ∀ x ∈ xs, x.length < 2 ^ 32)
    (hys : ∀ y ∈ ys, y.length < 2 ^ 32) (h : xs.flatMap frame = ys.flatMap frame) : xs = ys := by
  induction xs generalizing ys with
  | nil =>
    cases ys with
    | nil => rfl
    | cons y ys =>
      rw [List.flatMap_cons] at h
      exact absurd (List.append_eq_nil_iff.mp h.symm).1 (frame_ne_nil y)
  | cons x xs ih =>
    cases ys with
    | nil =>
      rw [List.flatMap_cons] at h
      exact absurd (List.append_eq_nil_iff.mp h).1 (frame_ne_nil x)
    | cons y ys =>
      rw [List.flatMap_cons, List.flatMap_cons] at h
      obtain ⟨rfl, hrest⟩ :=
        frame_append_inj (hxs x List.mem_cons_self) (hys y List.mem_cons_self) h
      have htail := ih (fun z hz => hxs z (List.mem_cons_of_mem _ hz))
        (fun z hz => hys z (List.mem_cons_of_mem _ hz)) hrest
      rw [htail]

/-- A frame that makes up one more frame than there are before it is short. -/
theorem short_of_flatMap_frame {xs ys : List (List UInt8)} {last : List UInt8}
    (hxs : ∀ x ∈ xs, x.length < 2 ^ 32) (hys : ∀ y ∈ ys, y.length < 2 ^ 32)
    (hlength : ys.length = xs.length + 1)
    (h : xs.flatMap frame ++ frame last = ys.flatMap frame) : last.length < 2 ^ 32 := by
  induction xs generalizing ys with
  | nil =>
    obtain ⟨y, rfl⟩ := List.length_eq_one_iff.mp hlength
    rw [List.flatMap_nil, List.nil_append, List.flatMap_singleton] at h
    obtain ⟨-, hbody⟩ := List.append_inj h rfl
    rw [hbody]
    exact hys y List.mem_cons_self
  | cons x xs ih =>
    cases ys with
    | nil => cases hlength
    | cons y ys =>
      rw [List.flatMap_cons, List.flatMap_cons, List.append_assoc] at h
      obtain ⟨-, hrest⟩ := frame_append_inj (hxs x List.mem_cons_self) (hys y List.mem_cons_self) h
      exact ih (fun z hz => hxs z (List.mem_cons_of_mem _ hz))
        (fun z hz => hys z (List.mem_cons_of_mem _ hz)) (Nat.succ.inj hlength) hrest

end Vyoma.Frames
