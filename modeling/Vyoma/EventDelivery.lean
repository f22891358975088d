import Vyoma.AgentProtocol
import Vyoma.EventFrames
import Vyoma.Excepts

/-!
# Events as they reach the subscribers

The texts that the event monitor cuts out are parsed by `serde_json`. Its part is a parameter,
of which only the texts of events are fixed: a text with a value is read as the derived
deserialiser of `VmmEvent` reads that value.
-/
namespace Vyoma.VmmEvents

open Excepts JsonTexts RustText
open Agent (Json Members)

structure VmmTimestamp where
  secs : UInt64
  nanos : UInt32
  deriving DecidableEq

/-- The properties are a `serde_json::Value`: its objects are maps. -/
structure VmmEvent (φ : Type) where
  timestamp : Option VmmTimestamp
  source : String
  event : String
  properties : Option (Json φ)

section Values

variable {φ : Type}

/-- `Map::insert`: the entries stay sorted by key, and a key keeps one value. -/
def insertEntry (k : String) (v : Json φ) : Members φ → Members φ
  | [] => [(k, v)]
  | (k', v') :: entries =>
    if k = k' then (k, v) :: entries
    else if k < k' then (k, v) :: (k', v') :: entries
    else (k', v') :: insertEntry k v entries

def entries (members : Members φ) : Members φ :=
  members.foldl (fun map m => insertEntry m.1 m.2 map) []

mutual

/-- The `serde_json::Value` of a JSON value. -/
def toValue : Json φ → Json φ
  | .arr elems => .arr (toValues elems)
  | .obj members => .obj (entries (memberValues members))
  | .null => .null
  | .bool b => .bool b
  | .int n => .int n
  | .float x => .float x
  | .str s => .str s

def toValues : List (Json φ) → List (Json φ)
  | [] => []
  | elem :: elems => toValue elem :: toValues elems

def memberValues : Members φ → Members φ
  | [] => []
  | (k, v) :: members => (k, toValue v) :: memberValues members

end

def asUnsigned (bound : ℕ) : Json φ → Except String ℕ
  | .int n => if 0 ≤ n ∧ n < bound then .ok n.toNat else .error "invalid value"
  | _ => .error "invalid type: expected an integer"

/-- A struct is read from an object, or from an array of its fields. -/
def VmmTimestamp.ofJson : Json φ → Except String VmmTimestamp
  | .obj members => do
    let secs ← asUnsigned (2 ^ 64) (← Agent.required "secs" members)
    let nanos ← asUnsigned (2 ^ 32) (← Agent.required "nanos" members)
    return ⟨UInt64.ofNat secs, UInt32.ofNat nanos⟩
  | .arr [secs, nanos] => do
    let secs ← asUnsigned (2 ^ 64) secs
    let nanos ← asUnsigned (2 ^ 32) nanos
    return ⟨UInt64.ofNat secs, UInt32.ofNat nanos⟩
  | _ => .error "invalid type: expected struct VmmTimestamp"

/-- `Option<T>` with `#[serde(default)]`. -/
def optionOf {α : Type} (read : Json φ → Except String α) : Option (Json φ) → Except String (Option α)
  | none => .ok none
  | some .null => .ok none
  | some v => some <$> read v

def VmmEvent.ofMembers (members : Members φ) : Except String (VmmEvent φ) := do
  let timestamp ← optionOf VmmTimestamp.ofJson (← Agent.optional "timestamp" members)
  let source ← Agent.asString (← Agent.required "source" members)
  let event ← Agent.asString (← Agent.required "event" members)
  let properties ← optionOf (fun v => .ok (toValue v)) (← Agent.optional "properties" members)
  return ⟨timestamp, source, event, properties⟩

/-! ## Objects as maps -/

theorem lookup_cons (k : String) (v : Json φ) (map : Members φ) (a : String) :
    ((k, v) :: map).lookup a = if a = k then some v else map.lookup a := by
  rw [List.lookup_cons]
  split_ifs with h
  · rw [beq_iff_eq.mpr h]
  · rw [beq_eq_false_iff_ne.mpr h]

theorem lookup_insertEntry (k : String) (v : Json φ) (map : Members φ) (a : String) :
    (insertEntry k v map).lookup a = if a = k then some v else map.lookup a := by
  induction map with
  | nil => rw [insertEntry, lookup_cons]
  | cons m map ih =>
    obtain ⟨k', v'⟩ := m
    rw [insertEntry]
    by_cases hk : k = k'
    · rw [if_pos hk, lookup_cons, lookup_cons, ← hk]
      split_ifs <;> rfl
    · have hone : a = k → a ≠ k' := fun ha hak => hk (ha.symm.trans hak)
      by_cases hlt : k < k'
      · rw [if_neg hk, if_pos hlt, lookup_cons]
      · rw [if_neg hk, if_neg hlt, lookup_cons, ih, lookup_cons]
        by_cases ha : a = k
        · rw [if_neg (hone ha), if_pos ha, if_pos ha]
        · rw [if_neg ha, if_neg ha]

theorem isSome_lookup_foldl (members map : Members φ) (a : String) :
    ((members.foldl (fun map m => insertEntry m.1 m.2 map) map).lookup a).isSome = true ↔
      a ∈ members.map Prod.fst ∨ (map.lookup a).isSome = true := by
  induction members generalizing map with
  | nil => simp
  | cons m members ih =>
    rw [List.foldl_cons, ih, lookup_insertEntry, List.map_cons, List.mem_cons]
    split_ifs with h <;> simp [h]

theorem lookup_foldl_of_notMem {members : Members φ} {a : String} (h : a ∉ members.map Prod.fst)
    (map : Members φ) :
    (members.foldl (fun map m => insertEntry m.1 m.2 map) map).lookup a = map.lookup a := by
  induction members generalizing map with
  | nil => rfl
  | cons m members ih =>
    rw [List.map_cons, List.mem_cons, not_or] at h
    rw [List.foldl_cons, ih h.2, lookup_insertEntry, if_neg h.1]

theorem lookup_foldl {members : Members φ} (h : (members.map Prod.fst).Nodup) (map : Members φ)
    {m : String × Json φ} (hm : m ∈ members) :
    (members.foldl (fun map m => insertEntry m.1 m.2 map) map).lookup m.1 = some m.2 := by
  induction members generalizing map with
  | nil => cases hm
  | cons first members ih =>
    rw [List.map_cons, List.nodup_cons] at h
    rw [List.foldl_cons]
    obtain rfl | hm := List.mem_cons.mp hm
    · rw [lookup_foldl_of_notMem h.1, lookup_insertEntry, if_pos rfl]
    · exact ih h.2 _ hm

theorem isSome_lookup_entries (members : Members φ) (a : String) :
    ((entries members).lookup a).isSome = true ↔ a ∈ members.map Prod.fst := by
  rw [entries, isSome_lookup_foldl, List.lookup_nil, Option.isSome_none, or_iff_left nofun]

/-- The members of a map with distinct keys are read off the map. -/
theorem mem_of_entries_eq {members members' : Members φ} (h : (members.map Prod.fst).Nodup)
    (h' : (members'.map Prod.fst).Nodup) (heq : entries members' = entries members)
    {m : String × Json φ} (hm : m ∈ members') : m ∈ members := by
  have hlookup : (entries members).lookup m.1 = some m.2 := heq ▸ lookup_foldl h' [] hm
  have hkey : m.1 ∈ members.map Prod.fst := by
    rw [← isSome_lookup_entries, hlookup]
    rfl
  obtain ⟨n, hn, hkeys⟩ := List.mem_map.mp hkey
  have hvalue : (entries members).lookup n.1 = some n.2 := lookup_foldl h [] hn
  rw [hkeys, hlookup] at hvalue
  have hmn : m = n := Prod.ext hkeys.symm (Option.some.inj hvalue)
  exact hmn ▸ hn

/-- Members with the same distinct keys in the same order are the same when all of one are
among the other. -/
theorem eq_of_keys {members members' : Members φ} (hkeys : members'.map Prod.fst = members.map Prod.fst)
    (h : (members.map Prod.fst).Nodup) (hmem : ∀ m ∈ members', m ∈ members) : members' = members := by
  induction members generalizing members' with
  | nil => exact List.map_eq_nil_iff.mp hkeys
  | cons m members ih =>
    cases members' with
    | nil => cases hkeys
    | cons m' members' =>
      rw [List.map_cons, List.map_cons, List.cons.injEq] at hkeys
      rw [List.map_cons, List.nodup_cons] at h
      rw [List.forall_mem_cons] at hmem
      have hfirst : m' = m := by
        obtain heq | hlater := List.mem_cons.mp hmem.1
        · exact heq
        · exact absurd (hkeys.1 ▸ List.mem_map_of_mem hlater) h.1
      have hrest : ∀ n ∈ members', n ∈ members := by
        intro n hn
        obtain rfl | hlater := List.mem_cons.mp (hmem.2 n hn)
        · exact absurd (hkeys.2 ▸ List.mem_map_of_mem hn) h.1
        · exact hlater
      rw [hfirst, ih hkeys.2 h.2 hrest]

/-! ## Keys that may get longer -/

/-- A text, and what becomes of it when it is read byte by byte. -/
structure Longer (s s' : String) : Prop where
  le : s.length ≤ s'.length
  eq_of_length : s'.length = s.length → s' = s
  eq_of_ascii : (∀ c ∈ s.toList, c.val ≤ 127) → s' = s

theorem sum_length_le {keys keys' : List String} (h : List.Forall₂ Longer keys keys') :
    (keys.map String.length).sum ≤ (keys'.map String.length).sum ∧
      ((keys'.map String.length).sum = (keys.map String.length).sum → keys' = keys) := by
  induction h with
  | nil => exact ⟨le_rfl, fun _ => rfl⟩
  | cons hkey _ ih =>
    rw [List.map_cons, List.map_cons, List.sum_cons, List.sum_cons]
    have hle := hkey.le
    refine ⟨by omega, fun heq => ?_⟩
    rw [hkey.eq_of_length (by omega), ih.2 (by omega)]

/-- Longer keys do not make the same map. -/
theorem eq_of_entries_eq {members members' : Members φ} (h : (members.map Prod.fst).Nodup)
    (hlonger : List.Forall₂ Longer (members.map Prod.fst) (members'.map Prod.fst))
    (heq : entries members' = entries members) : members' = members := by
  have hsubset : members.map Prod.fst ⊆ members'.map Prod.fst := by
    intro a ha
    rwa [← isSome_lookup_entries, heq, isSome_lookup_entries]
  have hperm := (List.subperm_of_subset h hsubset).perm_of_length_le hlonger.length_eq.ge
  have hkeys := (sum_length_le hlonger).2 (hperm.map String.length).sum_eq.symm
  exact eq_of_keys hkeys h fun m hm => mem_of_entries_eq h (hkeys ▸ h) heq hm

theorem keys_memberValues (members : Members φ) :
    (memberValues members).map Prod.fst = members.map Prod.fst := by
  induction members with
  | nil => rfl
  | cons m members ih => rw [memberValues, List.map_cons, ih, List.map_cons]

end Values

/-! ## The values of texts -/

section Meanings

variable {φ : Type} (float : Number → Option φ)

/-- What `serde_json` makes of a number: an integer within the range of `u64` or `i64`, else
a float, when there is one for it. -/
def numberValue (n : Number) : Option (Json φ) :=
  if n.fraction.isNone ∧ n.exponent.isNone ∧ ¬n.minus ∧ n.integer < 2 ^ 64 then
    some (.int n.integer)
  else if n.fraction.isNone ∧ n.exponent.isNone ∧ n.minus ∧ 0 < n.integer ∧ n.integer ≤ 2 ^ 63 then
    some (.int (-n.integer))
  else (float n).map .float

def wordValue : Word → Json φ
  | .null => .null
  | .true => .bool true
  | .false => .bool false

abbrev Meaning (φ : Type) : Part → Type
  | .value => Json φ
  | .items => List (Json φ)
  | .members | .body => Members φ

/-- The value that a text is written for, with the members of objects as they are written. -/
def meaning : {p : Part} → Tree p → Option (Meaning φ p)
  | _, .word w => some (wordValue w)
  | _, .number n => numberValue float n
  | _, .string s => (content s).map fun cs => .str (String.ofList cs)
  | _, .emptyArray _ => some (.arr [])
  | _, .array items => (meaning items).map .arr
  | _, .object body => (meaning body).map .obj
  | _, .lastItem _ v _ => (meaning v).map ([·])
  | _, .item _ v _ more => (meaning v).bind fun j => (meaning more).map (j :: ·)
  | _, .lastMember key v _ =>
    (content key.pieces).bind fun k => (meaning v).map fun j => [(String.ofList k, j)]
  | _, .member key v _ more =>
    (content key.pieces).bind fun k => (meaning v).bind fun j =>
      (meaning more).map ((String.ofList k, j) :: ·)
  | _, .noMembers _ => some []
  | _, .members ms => meaning (p := .members) ms

/-- No object of the text writes a key twice. -/
def Distinct : {p : Part} → Tree p → Prop
  | _, .word _ | _, .number _ | _, .string _ | _, .emptyArray _ | _, .noMembers _ => True
  | _, .array items => Distinct items
  | _, .object body =>
    (∀ members : Members φ, meaning float body = some members → (members.map Prod.fst).Nodup) ∧
      Distinct body
  | _, .lastItem _ v _ => Distinct v
  | _, .item _ v _ more => Distinct v ∧ Distinct more
  | _, .lastMember _ v _ => Distinct v
  | _, .member _ v _ more => Distinct v ∧ Distinct more
  | _, .members ms => Distinct ms

/-- A value, and what becomes of it when its text is read byte by byte. -/
inductive Grown : Json φ → Json φ → Prop
  | null : Grown .null .null
  | bool (b : Bool) : Grown (.bool b) (.bool b)
  | int (n : ℤ) : Grown (.int n) (.int n)
  | float (x : φ) : Grown (.float x) (.float x)
  | str {s s' : String} (h : Longer s s') : Grown (.str s) (.str s')
  | arr {elems elems' : List (Json φ)} (h : List.Forall₂ Grown elems elems') :
    Grown (.arr elems) (.arr elems')
  | obj {members members' : Members φ}
    (hkeys : List.Forall₂ Longer (members.map Prod.fst) (members'.map Prod.fst))
    (h : List.Forall₂ Grown (members.map Prod.snd) (members'.map Prod.snd)) :
    Grown (.obj members) (.obj members')

def GrownPart : (p : Part) → Meaning φ p → Meaning φ p → Prop
  | .value, j, j' => Grown j j'
  | .items, elems, elems' => List.Forall₂ Grown elems elems'
  | .members, members, members' | .body, members, members' =>
    List.Forall₂ Longer (members.map Prod.fst) (members'.map Prod.fst) ∧
      List.Forall₂ Grown (members.map Prod.snd) (members'.map Prod.snd)

/-- Two meanings are the same `serde_json::Value`. -/
def SameValue : (p : Part) → Meaning φ p → Meaning φ p → Prop
  | .value, j, j' => toValue j' = toValue j
  | .items, elems, elems' => toValues elems' = toValues elems
  | .members, members, members' | .body, members, members' =>
    memberValues members' = memberValues members

theorem longer_content {s : List Piece} {cs : List Char} (h : content s = some cs) :
    ∃ ds, content (s.flatMap Piece.bytewise) = some ds ∧
      Longer (String.ofList cs) (String.ofList ds) ∧
      (String.ofList ds = String.ofList cs → ∀ c ∈ s.flatMap Piece.text, c.val ≤ 127) := by
  obtain ⟨ds, hds, hle, hascii⟩ := content_bytewise h
  have hsame : (∀ c ∈ s.flatMap Piece.text, c.val ≤ 127) → String.ofList ds = String.ofList cs := by
    intro hpieces
    rw [bytewise_of_ascii_pieces hpieces, h] at hds
    rw [Option.some.inj hds]
  refine ⟨ds, hds, ⟨?_, fun heq => hsame (hascii ?_), fun hcs => hsame (ascii_pieces h ?_)⟩,
    fun heq => hascii (congrArg List.length (String.ofList_injective heq))⟩
  · simpa using hle
  · simpa using heq
  · simpa using hcs

theorem grown_word (w : Word) : Grown (wordValue w : Json φ) (wordValue w) := by
  cases w
  · exact Grown.null
  · exact Grown.bool true
  · exact Grown.bool false

theorem grown_number {n : Number} {j : Json φ} (h : numberValue float n = some j) : Grown j j := by
  unfold numberValue at h
  split_ifs at h
  · cases h
    exact Grown.int _
  · cases h
    exact Grown.int _
  · obtain ⟨x, -, rfl⟩ := Option.map_eq_some_iff.mp h
    exact Grown.float x

/-- Read byte by byte a text of some value is a text of a value, and of the same one only when
the text is ASCII. -/
theorem meaning_bytewise {p : Part} {t : Tree p} {m : Meaning φ p} (h : meaning float t = some m) :
    ∃ m', meaning float t.bytewise = some m' ∧ GrownPart p m m' ∧
      (Distinct float t → SameValue p m m' → ∀ c ∈ t.text, c.val ≤ 127) := by
  induction t with
  | word w =>
    cases h
    exact ⟨_, rfl, grown_word w, fun _ _ => ascii_of_between (between_word w)⟩
  | number n =>
    exact ⟨m, h, grown_number float h, fun _ _ => ascii_of_between n.between⟩
  | string s =>
    obtain ⟨cs, hcs, rfl⟩ := Option.map_eq_some_iff.mp h
    obtain ⟨ds, hds, hlonger, hascii⟩ := longer_content hcs
    refine ⟨.str (String.ofList ds), ?_, Grown.str hlonger, fun _ hsame => ascii_quoted (hascii ?_)⟩
    · rw [Tree.bytewise, meaning, hds]
      rfl
    · exact Json.str.inj hsame
  | emptyArray blanks =>
    cases h
    refine ⟨_, rfl, Grown.arr List.Forall₂.nil, fun _ _ => ?_⟩
    exact forall_mem_brackets.mpr ⟨by decide, ascii_blanks blanks, by decide⟩
  | array items ih =>
    obtain ⟨elems, helems, rfl⟩ := Option.map_eq_some_iff.mp h
    obtain ⟨elems', helems', hgrown, hascii⟩ := ih helems
    refine ⟨.arr elems', ?_, Grown.arr hgrown, fun hdistinct hsame => ?_⟩
    · rw [Tree.bytewise, meaning, helems']
      rfl
    · have hitems := hascii hdistinct (Json.arr.inj hsame)
      exact forall_mem_brackets.mpr ⟨by decide, hitems, by decide⟩
  | object body ih =>
    obtain ⟨members, hmembers, rfl⟩ := Option.map_eq_some_iff.mp h
    obtain ⟨members', hmembers', ⟨hkeys, hgrown⟩, hascii⟩ := ih hmembers
    refine ⟨.obj members', ?_, Grown.obj hkeys hgrown, fun hdistinct hsame => ?_⟩
    · rw [Tree.bytewise, meaning, hmembers']
      rfl
    · have hnodup := hdistinct.1 members hmembers
      rw [← keys_memberValues] at hnodup
      rw [← keys_memberValues members, ← keys_memberValues members'] at hkeys
      have hbody := hascii hdistinct.2 (eq_of_entries_eq hnodup hkeys (Json.obj.inj hsame))
      exact forall_mem_brackets.mpr ⟨by decide, hbody, by decide⟩
  | lastItem before v after ih =>
    obtain ⟨j, hj, rfl⟩ := Option.map_eq_some_iff.mp h
    obtain ⟨j', hj', hgrown, hascii⟩ := ih hj
    refine ⟨[j'], ?_, List.Forall₂.cons hgrown List.Forall₂.nil, fun hdistinct hsame => ?_⟩
    · rw [Tree.bytewise, meaning, hj']
      rfl
    · rw [Tree.text, List.forall_mem_append, List.forall_mem_append]
      exact ⟨⟨ascii_blanks before, hascii hdistinct (List.cons.inj hsame).1⟩, ascii_blanks after⟩
  | item before v after more ih ihmore =>
    obtain ⟨j, hj, h⟩ := Option.bind_eq_some_iff.mp h
    obtain ⟨elems, helems, rfl⟩ := Option.map_eq_some_iff.mp h
    obtain ⟨j', hj', hgrown, hascii⟩ := ih hj
    obtain ⟨elems', helems', hgrown', hascii'⟩ := ihmore helems
    refine ⟨j' :: elems', ?_, List.Forall₂.cons hgrown hgrown', fun hdistinct hsame => ?_⟩
    · rw [Tree.bytewise, meaning, hj', helems']
      rfl
    · obtain ⟨hfirst, hrest⟩ := List.cons.inj hsame
      rw [Tree.text, List.forall_mem_append, List.forall_mem_append, List.forall_mem_append,
        List.forall_mem_append]
      exact ⟨⟨⟨⟨ascii_blanks before, hascii hdistinct.1 hfirst⟩, ascii_blanks after⟩, by decide⟩,
        hascii' hdistinct.2 hrest⟩
  | lastMember key v after ih =>
    obtain ⟨cs, hcs, h⟩ := Option.bind_eq_some_iff.mp h
    obtain ⟨j, hj, rfl⟩ := Option.map_eq_some_iff.mp h
    obtain ⟨ds, hds, hlonger, hkey⟩ := longer_content hcs
    obtain ⟨j', hj', hgrown, hascii⟩ := ih hj
    refine ⟨[(String.ofList ds, j')], ?_, ⟨List.Forall₂.cons hlonger List.Forall₂.nil,
      List.Forall₂.cons hgrown List.Forall₂.nil⟩, fun hdistinct hsame => ?_⟩
    · rw [Tree.bytewise, meaning, Key.bytewise, hds, hj']
      rfl
    · obtain ⟨hname, hvalue⟩ := Prod.mk.inj (List.cons.inj hsame).1
      rw [Tree.text, List.forall_mem_append, List.forall_mem_append]
      exact ⟨⟨Key.ascii (hkey hname), hascii hdistinct hvalue⟩, ascii_blanks after⟩
  | member key v after more ih ihmore =>
    obtain ⟨cs, hcs, h⟩ := Option.bind_eq_some_iff.mp h
    obtain ⟨j, hj, h⟩ := Option.bind_eq_some_iff.mp h
    obtain ⟨members, hmembers, rfl⟩ := Option.map_eq_some_iff.mp h
    obtain ⟨ds, hds, hlonger, hkey⟩ := longer_content hcs
    obtain ⟨j', hj', hgrown, hascii⟩ := ih hj
    obtain ⟨members', hmembers', ⟨hkeys', hgrown'⟩, hascii'⟩ := ihmore hmembers
    refine ⟨(String.ofList ds, j') :: members', ?_, ⟨List.Forall₂.cons hlonger hkeys',
      List.Forall₂.cons hgrown hgrown'⟩, fun hdistinct hsame => ?_⟩
    · rw [Tree.bytewise, meaning, Key.bytewise, hds, hj', hmembers']
      rfl
    · obtain ⟨hfirst, hrest⟩ := List.cons.inj hsame
      obtain ⟨hname, hvalue⟩ := Prod.mk.inj hfirst
      rw [Tree.text, List.forall_mem_append, List.forall_mem_append, List.forall_mem_append,
        List.forall_mem_append]
      exact ⟨⟨⟨⟨Key.ascii (hkey hname), hascii hdistinct.1 hvalue⟩, ascii_blanks after⟩, by decide⟩,
        hascii' hdistinct.2 hrest⟩
  | noMembers blanks =>
    cases h
    exact ⟨[], rfl, ⟨List.Forall₂.nil, List.Forall₂.nil⟩, fun _ _ => ascii_blanks blanks⟩
  | members ms ih => exact ih h

end Meanings

/-! ## Members read one by one -/

section Fields

variable {φ : Type}

/-- Members that keep their keys, with what becomes of their values. -/
structure GrownMembers (members members' : Members φ) : Prop where
  keys : members'.map Prod.fst = members.map Prod.fst
  values : List.Forall₂ Grown (members.map Prod.snd) (members'.map Prod.snd)

theorem eq_of_longer {keys keys' : List String} (h : List.Forall₂ Longer keys keys')
    (hascii : ∀ k ∈ keys, ∀ c ∈ k.toList, c.val ≤ 127) : keys' = keys := by
  induction h with
  | nil => rfl
  | cons hkey _ ih =>
    obtain ⟨hfirst, hrest⟩ := List.forall_mem_cons.mp hascii
    rw [hkey.eq_of_ascii hfirst, ih hrest]

theorem GrownMembers.membersAt {members members' : Members φ} (h : GrownMembers members members')
    (name : String) :
    List.Forall₂ Grown (Agent.membersAt name members) (Agent.membersAt name members') := by
  obtain ⟨hkeys, hvalues⟩ := h
  induction members generalizing members' with
  | nil =>
    rw [List.map_eq_nil_iff.mp hkeys]
    exact List.Forall₂.nil
  | cons m members ih =>
    cases members' with
    | nil => cases hkeys
    | cons m' members' =>
      rw [List.map_cons, List.map_cons, List.cons.injEq] at hkeys
      cases hvalues with
      | cons hvalue hvalues =>
        have hrest := ih hkeys.2 hvalues
        simp only [Agent.membersAt, List.filter_cons, hkeys.1] at hrest ⊢
        split_ifs
        · exact List.Forall₂.cons hvalue hrest
        · exact hrest

/-- The values of the members are known from their keys and the values at each of these. -/
theorem memberValues_eq {members members' : Members φ}
    (hkeys : members'.map Prod.fst = members.map Prod.fst)
    (h : ∀ name ∈ members.map Prod.fst, (Agent.membersAt name members').map toValue =
      (Agent.membersAt name members).map toValue) :
    memberValues members' = memberValues members := by
  induction members generalizing members' with
  | nil => rw [List.map_eq_nil_iff.mp hkeys]
  | cons m members ih =>
    cases members' with
    | nil => cases hkeys
    | cons m' members' =>
      obtain ⟨k, v⟩ := m
      obtain ⟨k', v'⟩ := m'
      obtain ⟨hkey, hrest⟩ := List.cons.inj hkeys
      obtain rfl : k' = k := hkey
      have hcons : ∀ name v (rest : Members φ), Agent.membersAt name ((k', v) :: rest) =
          if k' = name then v :: Agent.membersAt name rest else Agent.membersAt name rest := by
        intro name v rest
        simp only [Agent.membersAt, List.filter_cons, decide_eq_true_eq]
        split_ifs <;> rfl
      have hfirst := h k' List.mem_cons_self
      rw [hcons, hcons, if_pos rfl, if_pos rfl, List.map_cons, List.map_cons] at hfirst
      obtain ⟨hvalue, htail⟩ := List.cons.inj hfirst
      rw [memberValues, memberValues, hvalue, ih hrest fun name hname => ?_]
      have hname := h name (List.mem_cons_of_mem _ hname)
      rw [hcons, hcons] at hname
      by_cases hk : k' = name
      · exact hk ▸ htail
      · rwa [if_neg hk, if_neg hk] at hname

theorem mem_membersAt {members : Members φ} {m : String × Json φ} (h : m ∈ members) :
    m.2 ∈ Agent.membersAt m.1 members :=
  List.mem_map_of_mem (List.mem_filter.mpr ⟨h, decide_eq_true rfl⟩)

theorem mem_of_mem_membersAt {name : String} {members : Members φ} {j : Json φ}
    (h : j ∈ Agent.membersAt name members) : (name, j) ∈ members := by
  obtain ⟨m, hm, rfl⟩ := List.mem_map.mp h
  obtain ⟨hm, hname⟩ := List.mem_filter.mp hm
  exact of_decide_eq_true hname ▸ hm

theorem membersAt_of_optional {name : String} {members : Members φ} {o : Option (Json φ)}
    (h : Agent.optional name members = .ok o) : Agent.membersAt name members = o.toList := by
  unfold Agent.optional at h
  split at h
  · cases h
    assumption
  · cases h
    assumption
  · cases h

theorem optional_of_membersAt {name : String} {members : Members φ} {o : Option (Json φ)}
    (h : Agent.membersAt name members = o.toList) : Agent.optional name members = .ok o := by
  unfold Agent.optional
  rw [h]
  cases o <;> rfl

theorem required_eq_ok {name : String} {members : Members φ} {j : Json φ} :
    Agent.required name members = .ok j ↔ Agent.optional name members = .ok (some j) := by
  unfold Agent.required
  rw [bind_eq_ok_iff]
  constructor
  · rintro ⟨o, ho, h⟩
    cases o with
    | none => cases h
    | some i =>
      cases h
      exact ho
  · exact fun h => ⟨some j, h, rfl⟩

theorem GrownMembers.optional {members members' : Members φ} (h : GrownMembers members members')
    {name : String} {o : Option (Json φ)} (ho : Agent.optional name members = .ok o) :
    ∃ o', Agent.optional name members' = .ok o' ∧ Option.Rel Grown o o' := by
  have hvalues := h.membersAt name
  rw [membersAt_of_optional ho] at hvalues
  cases o with
  | none =>
    cases hvalues' : Agent.membersAt name members' with
    | nil => exact ⟨none, optional_of_membersAt hvalues', Option.Rel.none⟩
    | cons j' js' =>
      rw [hvalues'] at hvalues
      cases hvalues
  | some j =>
    generalize hvalues' : Agent.membersAt name members' = js' at hvalues
    cases hvalues with
    | cons hgrown hnil =>
      cases hnil
      exact ⟨some _, optional_of_membersAt hvalues', Option.Rel.some hgrown⟩

theorem asUnsigned_eq_ok {bound n : ℕ} {j : Json φ} (h : asUnsigned bound j = .ok n) :
    ∃ i, j = .int i := by
  unfold asUnsigned at h
  split at h
  · exact ⟨_, rfl⟩
  · cases h

theorem Grown.eq_of_int {j : Json φ} {i : ℤ} (h : Grown (.int i) j) : j = .int i := by
  cases h
  rfl

theorem eq_of_ints {js js' : List (Json φ)} (h : List.Forall₂ Grown js js')
    (hint : ∀ j ∈ js, ∃ i, j = .int i) : js' = js := by
  induction h with
  | nil => rfl
  | cons hgrown _ ih =>
    obtain ⟨⟨i, rfl⟩, hrest⟩ := List.forall_mem_cons.mp hint
    rw [hgrown.eq_of_int, ih hrest]

theorem eq_of_keys_of_values {members members' : Members φ}
    (hkeys : members'.map Prod.fst = members.map Prod.fst)
    (hvalues : members'.map Prod.snd = members.map Prod.snd) : members' = members := by
  rw [← List.zip_unzip members, ← List.zip_unzip members', List.unzip_fst, List.unzip_fst,
    List.unzip_snd, List.unzip_snd, hkeys, hvalues]

/-- A timestamp has no text that could change. -/
theorem ofJson_grown {j j' : Json φ} {t : VmmTimestamp} (h : VmmTimestamp.ofJson j = .ok t)
    (hgrown : Grown j j')
    (hnames : ∀ members, j = .obj members → ∀ m ∈ members, m.1 ∈ ["secs", "nanos"]) : j' = j := by
  unfold VmmTimestamp.ofJson at h
  split at h
  · rename_i members
    obtain ⟨secs, hsecs, h⟩ := bind_eq_ok_iff.mp h
    obtain ⟨_, hsecsInt, h⟩ := bind_eq_ok_iff.mp h
    obtain ⟨nanos, hnanos, h⟩ := bind_eq_ok_iff.mp h
    obtain ⟨_, hnanosInt, h⟩ := bind_eq_ok_iff.mp h
    have hvalue : ∀ m ∈ members, m.2 = secs ∨ m.2 = nanos := by
      intro m hm
      have hmem := mem_membersAt hm
      obtain hname | hname := (List.mem_pair).mp (hnames members rfl m hm)
      · rw [hname, membersAt_of_optional (required_eq_ok.mp hsecs)] at hmem
        exact Or.inl (List.mem_singleton.mp hmem)
      · rw [hname, membersAt_of_optional (required_eq_ok.mp hnanos)] at hmem
        exact Or.inr (List.mem_singleton.mp hmem)
    have hints : ∀ j ∈ members.map Prod.snd, ∃ i, j = .int i := by
      rw [List.forall_mem_map]
      intro m hm
      obtain heq | heq := hvalue m hm
      · exact heq ▸ asUnsigned_eq_ok hsecsInt
      · exact heq ▸ asUnsigned_eq_ok hnanosInt
    have hascii : ∀ k ∈ members.map Prod.fst, ∀ c ∈ k.toList, c.val ≤ 127 := by
      rw [List.forall_mem_map]
      intro m hm
      exact (by decide : ∀ k ∈ ["secs", "nanos"], ∀ c ∈ k.toList, c.val ≤ 127) _
        (hnames members rfl m hm)
    cases hgrown with
    | obj hkeys hvalues =>
      exact congrArg Json.obj
        (eq_of_keys_of_values (eq_of_longer hkeys hascii) (eq_of_ints hvalues hints))
  · rename_i secs nanos
    obtain ⟨_, hsecs, h⟩ := bind_eq_ok_iff.mp h
    obtain ⟨_, hnanos, h⟩ := bind_eq_ok_iff.mp h
    have hints : ∀ j ∈ [secs, nanos], ∃ i, j = .int i := by
      rw [List.forall_mem_cons, List.forall_mem_singleton]
      exact ⟨asUnsigned_eq_ok hsecs, asUnsigned_eq_ok hnanos⟩
    cases hgrown with
    | arr hvalues => rw [eq_of_ints hvalues hints]
  · cases h

theorem asString_grown {j j' : Json φ} {s : String} (h : Agent.asString j = .ok s)
    (hgrown : Grown j j') : ∃ s', j = .str s ∧ j' = .str s' := by
  unfold Agent.asString at h
  split at h
  · cases h
    cases hgrown
    exact ⟨_, rfl, rfl⟩
  · cases h

theorem optionOf_some {α : Type} (read : Json φ → Except String α) {j : Json φ} (h : j ≠ .null) :
    optionOf read (some j) = some <$> read j := by
  cases j <;> first | rfl | exact absurd rfl h

theorem map_eq_ok {α : Type} {x : Except String α} {o : Option α} (h : some <$> x = .ok o) :
    ∃ a, x = .ok a ∧ o = some a := by
  cases x with
  | error e => cases h
  | ok a =>
    cases h
    exact ⟨a, rfl, rfl⟩

theorem timestamp_grown {o o' : Option (Json φ)} {t : Option VmmTimestamp}
    (h : optionOf VmmTimestamp.ofJson o = .ok t) (hgrown : Option.Rel Grown o o')
    (hnames : ∀ members, o = some (.obj members) → ∀ m ∈ members, m.1 ∈ ["secs", "nanos"]) :
    o' = o := by
  cases hgrown with
  | none => rfl
  | @some j j' hj =>
    by_cases hnull : j = .null
    · subst hnull
      cases hj
      rfl
    · rw [optionOf_some _ hnull] at h
      obtain ⟨time, htime, -⟩ := map_eq_ok h
      rw [ofJson_grown htime hj fun members hobj => hnames members (congrArg some hobj)]

theorem properties_grown {o o' p : Option (Json φ)}
    (h : optionOf (fun v => .ok (toValue v)) o = .ok p) (hgrown : Option.Rel Grown o o') :
    ∃ p', optionOf (fun v => .ok (toValue v)) o' = .ok p' ∧
      (p' = p → o'.map toValue = o.map toValue) := by
  cases hgrown with
  | none => exact ⟨none, rfl, fun _ => rfl⟩
  | @some j j' hj =>
    by_cases hnull : j = .null
    · subst hnull
      cases hj
      exact ⟨none, rfl, fun _ => rfl⟩
    · have hnull' : j' ≠ .null := by
        rintro rfl
        cases hj
        exact hnull rfl
      rw [optionOf_some _ hnull] at h
      cases h
      exact ⟨some (toValue j'), optionOf_some _ hnull', id⟩

/-- Read byte by byte the members of an event are those of an event, and of the same one only
when their values are the same. -/
theorem ofMembers_grown {members members' : Members φ} {event : VmmEvent φ}
    (h : VmmEvent.ofMembers members = .ok event) (hgrown : GrownMembers members members')
    (hnames : ∀ m ∈ members, m.1 ∈ ["timestamp", "source", "event", "properties"])
    (htimestamp : ∀ entries, ("timestamp", Json.obj entries) ∈ members →
      ∀ m ∈ entries, m.1 ∈ ["secs", "nanos"]) :
    ∃ event', VmmEvent.ofMembers members' = .ok event' ∧
      (event' = event → memberValues members' = memberValues members) := by
  unfold VmmEvent.ofMembers at h
  obtain ⟨ot, hot, h⟩ := bind_eq_ok_iff.mp h
  obtain ⟨timestamp, ht, h⟩ := bind_eq_ok_iff.mp h
  obtain ⟨js, hjs, h⟩ := bind_eq_ok_iff.mp h
  obtain ⟨source, hsource, h⟩ := bind_eq_ok_iff.mp h
  obtain ⟨je, hje, h⟩ := bind_eq_ok_iff.mp h
  obtain ⟨name, hname, h⟩ := bind_eq_ok_iff.mp h
  obtain ⟨op, hop, h⟩ := bind_eq_ok_iff.mp h
  obtain ⟨properties, hp, h⟩ := bind_eq_ok_iff.mp h
  cases h
  have hjs := required_eq_ok.mp hjs
  have hje := required_eq_ok.mp hje
  obtain ⟨ot', hot', hrelt⟩ := hgrown.optional hot
  obtain ⟨os', hos', hrels⟩ := hgrown.optional hjs
  obtain ⟨oe', hoe', hrele⟩ := hgrown.optional hje
  obtain ⟨op', hop', hrelp⟩ := hgrown.optional hop
  obtain rfl : ot' = ot := timestamp_grown ht hrelt fun entries hobj => by
    refine htimestamp entries (mem_of_mem_membersAt ?_)
    rw [membersAt_of_optional hot, hobj]
    exact List.mem_singleton_self _
  cases hrels with
  | some hs =>
    cases hrele with
    | some he =>
      obtain ⟨source', rfl, rfl⟩ := asString_grown hsource hs
      obtain ⟨name', rfl, rfl⟩ := asString_grown hname he
      obtain ⟨properties', hp', hsame⟩ := properties_grown hp hrelp
      refine ⟨⟨timestamp, source', name', properties'⟩, ?_, fun heq => ?_⟩
      · exact bind_eq_ok_iff.mpr ⟨_, hot', bind_eq_ok_iff.mpr ⟨_, ht, bind_eq_ok_iff.mpr
          ⟨_, required_eq_ok.mpr hos', bind_eq_ok_iff.mpr ⟨_, rfl, bind_eq_ok_iff.mpr
          ⟨_, required_eq_ok.mpr hoe', bind_eq_ok_iff.mpr ⟨_, rfl, bind_eq_ok_iff.mpr
          ⟨_, hop', bind_eq_ok_iff.mpr ⟨_, hp', rfl⟩⟩⟩⟩⟩⟩⟩⟩
      · cases heq
        refine memberValues_eq hgrown.keys fun field hfield => ?_
        obtain ⟨m, hm, rfl⟩ := List.mem_map.mp hfield
        have hfields := hnames m hm
        simp only [List.mem_cons, List.not_mem_nil, or_false] at hfields
        obtain hfield | hfield | hfield | hfield := hfields
        · rw [hfield, membersAt_of_optional hot, membersAt_of_optional hot']
        · rw [hfield, membersAt_of_optional hjs, membersAt_of_optional hos']
        · rw [hfield, membersAt_of_optional hje, membersAt_of_optional hoe']
        · rw [hfield, membersAt_of_optional hop, membersAt_of_optional hop', ← Option.toList_map,
            ← Option.toList_map, hsame rfl]

end Fields

/-! ## Delivery -/

section Delivery

variable {φ : Type} (float : Number → Option φ)

/-- The events that are sent for what is read. -/
def sent (fromStr : List Char → Option (VmmEvent φ)) (bytes : List UInt8) : List (VmmEvent φ) :=
  (EventMonitor.start.readAll bytes).2.filterMap fromStr

/-- `serde_json::from_str` on an object of a value, within its limit of 127 nested levels. -/
def ReadsValue (fromStr : List Char → Option (VmmEvent φ)) (body : Tree .body) : Prop :=
  (Tree.object body).depth ≤ 127 → ∀ members : Members φ, meaning float body = some members →
    fromStr (Tree.object body).text = (VmmEvent.ofMembers members).toOption

/-- An object that is written for an event: it has the members of the event, each of them and
each entry of the properties once. -/
structure IsRendering (body : Tree .body) (event : VmmEvent φ) : Prop where
  shallow : (Tree.object body).depth ≤ 127
  distinct : Distinct float (Tree.object body)
  reads : ∃ members : Members φ, meaning float body = some members ∧
    VmmEvent.ofMembers members = .ok event ∧
    (∀ m ∈ members, m.1 ∈ ["timestamp", "source", "event", "properties"]) ∧
    ∀ entries, ("timestamp", Json.obj entries) ∈ members → ∀ m ∈ entries, m.1 ∈ ["secs", "nanos"]

variable {float}

theorem IsRendering.fromStr_bytewise {body : Tree .body} {event : VmmEvent φ}
    (h : IsRendering float body event) {fromStr : List Char → Option (VmmEvent φ)}
    (hserde : ReadsValue float fromStr body.bytewise) :
    ∃ event', fromStr (bytewise (Tree.object body).text) = some event' ∧
      (event' = event ↔ ∀ c ∈ (Tree.object body).text, c.val ≤ 127) := by
  obtain ⟨members, hmembers, hevent, hnames, htimestamp⟩ := h.reads
  obtain ⟨members', hmembers', ⟨hlonger, hvalues⟩, hascii⟩ := meaning_bytewise float hmembers
  have hkeys : ∀ k ∈ members.map Prod.fst, ∀ c ∈ k.toList, c.val ≤ 127 := by
    rw [List.forall_mem_map]
    intro m hm
    exact (by decide : ∀ k ∈ ["timestamp", "source", "event", "properties"],
      ∀ c ∈ k.toList, c.val ≤ 127) _ (hnames m hm)
  obtain ⟨event', hevent', hsame⟩ :=
    ofMembers_grown hevent ⟨eq_of_longer hlonger hkeys, hvalues⟩ hnames htimestamp
  have hshallow : (Tree.object body.bytewise).depth ≤ 127 :=
    (Tree.depth_bytewise (Tree.object body)).trans_le h.shallow
  refine ⟨event', ?_, fun heq => ?_, fun hbody => ?_⟩
  · rw [← Tree.text_bytewise, Tree.bytewise, hserde hshallow members' hmembers', hevent']
    rfl
  · exact forall_mem_brackets.mpr ⟨by decide, hascii h.distinct.2 (hsame heq), by decide⟩
  · rw [Tree.object.inj (Tree.bytewise_of_ascii hbody), hmembers] at hmembers'
    rw [← Option.some.inj hmembers', hevent] at hevent'
    exact (Except.ok.inj hevent').symm

theorem nesting_le {objects : List (List Blank × Tree .body)} {events : List (VmmEvent φ)}
    (h : List.Forall₂ (fun o event => IsRendering float o.2 event) objects events) :
    ∀ o ∈ objects, (Tree.object o.2).nesting ≤ 2 ^ 32 := by
  induction h with
  | nil => simp
  | cons ho _ ih =>
    have hdepth := (Tree.nesting_le_depth _).trans ho.shallow
    exact List.forall_mem_cons.mpr ⟨hdepth.trans (by norm_num), ih⟩

/-- The events of a file are sent as they were when all that is written for them is ASCII. -/
theorem sent_iff {fromStr : List Char → Option (VmmEvent φ)}
    {objects : List (List Blank × Tree .body)} {events : List (VmmEvent φ)}
    (hrender : List.Forall₂ (fun o event => IsRendering float o.2 event) objects events)
    (hserde : ∀ o ∈ objects, ReadsValue float fromStr o.2.bytewise) (after : List Blank) :
    sent fromStr (encoded (fileText objects after)) = events ↔
      ∀ o ∈ objects, ∀ c ∈ (Tree.object o.2).text, c.val ≤ 127 := by
  obtain ⟨left, handed, hread, -, hhanded⟩ := readAll_file objects after
  rw [sent, hread, (hhanded (nesting_le hrender)).2]
  clear hread hhanded
  induction hrender with
  | nil => simp
  | @cons o event objects events ho _ ih =>
    obtain ⟨hfirst, hrest⟩ := List.forall_mem_cons.mp hserde
    obtain ⟨event', hevent', heq⟩ := ho.fromStr_bytewise hfirst
    rw [List.map_cons, List.filterMap_cons_some hevent', List.cons_eq_cons, ih hrest, heq,
      List.forall_mem_cons]

/-! ## An event with a source -/

/-- A string that is written without escapes. -/
def unescaped (cs : List Char) (h : ∀ c ∈ cs, Plain c) : List Piece := cs.pmap Piece.plain h

theorem content_unescaped {cs : List Char} (h : ∀ c ∈ cs, Plain c) :
    content (unescaped cs h) = some cs := by
  induction cs with
  | nil => rfl
  | cons c cs ih =>
    obtain ⟨-, hcs⟩ := List.forall_mem_cons.mp h
    rw [unescaped, List.pmap, content, ← unescaped, ih hcs]
    rfl

/-- The object `{"source":…,"event":"off"}`. -/
def offBody (source : List Piece) : Tree .body :=
  .members (.member ⟨[], unescaped ['s', 'o', 'u', 'r', 'c', 'e'] (by decide), [], []⟩
    (.string source) []
    (.lastMember ⟨[], unescaped ['e', 'v', 'e', 'n', 't'] (by decide), [], []⟩
      (.string (unescaped ['o', 'f', 'f'] (by decide))) []))

def offEvent (source : List Char) : VmmEvent φ := ⟨none, String.ofList source, "off", none⟩

theorem meaning_offBody {source : List Piece} {cs : List Char} (h : content source = some cs) :
    meaning float (offBody source) =
      some [("source", .str (String.ofList cs)), ("event", .str "off")] := by
  rw [offBody, meaning, meaning, content_unescaped, meaning, h, meaning, content_unescaped, meaning,
    content_unescaped]
  rfl

theorem ofMembers_off (cs : List Char) :
    VmmEvent.ofMembers [("source", (.str (String.ofList cs) : Json φ)), ("event", .str "off")] =
      .ok (offEvent cs) := by
  rfl

theorem isRendering_off {source : List Piece} {cs : List Char} (h : content source = some cs) :
    IsRendering float (offBody source) (offEvent cs) := by
  have hnodup : ["source", "event"].Nodup := by decide
  have hdepth : (Tree.object (offBody source)).depth = 1 := rfl
  refine ⟨hdepth ▸ by decide, ⟨fun members hmembers => ?_, trivial, trivial⟩,
    _, meaning_offBody h, ofMembers_off cs, ?_, ?_⟩
  · rw [meaning_offBody h] at hmembers
    cases hmembers
    exact hnodup
  · simp
  · simp

theorem readsValue_off {fromStr : List Char → Option (VmmEvent φ)} {source : List Piece}
    {cs : List Char} (h : content source = some cs)
    (htext : fromStr (Tree.object (offBody source)).text = some (offEvent cs)) :
    ReadsValue float fromStr (offBody source) := by
  intro _ members hmembers
  rw [meaning_offBody h] at hmembers
  cases hmembers
  rw [htext, ofMembers_off]
  rfl

theorem bytewise_offBody (source : List Piece) :
    (offBody source).bytewise = offBody (source.flatMap Piece.bytewise) := by
  have hsource : (unescaped ['s', 'o', 'u', 'r', 'c', 'e'] (by decide)).flatMap Piece.bytewise =
      unescaped ['s', 'o', 'u', 'r', 'c', 'e'] (by decide) := bytewise_of_ascii_pieces (by decide)
  have hevent : (unescaped ['e', 'v', 'e', 'n', 't'] (by decide)).flatMap Piece.bytewise =
      unescaped ['e', 'v', 'e', 'n', 't'] (by decide) := bytewise_of_ascii_pieces (by decide)
  have hoff : (unescaped ['o', 'f', 'f'] (by decide)).flatMap Piece.bytewise =
      unescaped ['o', 'f', 'f'] (by decide) := bytewise_of_ascii_pieces (by decide)
  simp only [offBody, Tree.bytewise, Key.bytewise, hsource, hevent, hoff]

/-- An object whose source is written in ASCII. -/
def plainBody : Tree .body := offBody (unescaped ['v', 'm'] (by decide))

def readPlain (text : List Char) : Option (VmmEvent Empty) :=
  if text = (Tree.object plainBody).text then some (offEvent ['v', 'm']) else none

theorem sent_iff_plain : sent readPlain (encoded (fileText [([], plainBody)] [])) =
      [offEvent ['v', 'm']] ↔
    ∀ o ∈ [(([] : List Blank), plainBody)], ∀ c ∈ (Tree.object o.2).text, c.val ≤ 127 := by
  have hcontent := content_unescaped (by decide : ∀ c ∈ ['v', 'm'], Plain c)
  have hpieces : (unescaped ['v', 'm'] (by decide)).flatMap Piece.bytewise =
      unescaped ['v', 'm'] (by decide) := bytewise_of_ascii_pieces (by decide)
  have hsame : plainBody.bytewise = plainBody := by rw [plainBody, bytewise_offBody, hpieces]
  have hrender : IsRendering (fun _ => none) plainBody (offEvent ['v', 'm'] : VmmEvent Empty) :=
    isRendering_off hcontent
  refine sent_iff (List.Forall₂.cons hrender List.Forall₂.nil) ?_ []
  rw [List.forall_mem_singleton, hsame]
  exact readsValue_off hcontent (if_pos rfl)

/-- The same object for a source beyond ASCII, and the object that it is read as. -/
def accentedBody : Tree .body := offBody (unescaped ['é'] (by decide))

def misreadBody : Tree .body := offBody (unescaped ['Ã', '©'] (by decide))

theorem bytewise_accented : accentedBody.bytewise = misreadBody := by
  have hpieces : (unescaped ['é'] (by decide)).flatMap Piece.bytewise =
      unescaped ['Ã', '©'] (by decide) := rfl
  rw [accentedBody, bytewise_offBody, hpieces, misreadBody]

def readAccented (text : List Char) : Option (VmmEvent Empty) :=
  if text = (Tree.object accentedBody).text then some (offEvent ['é'])
  else if text = (Tree.object misreadBody).text then some (offEvent ['Ã', '©'])
  else none

theorem readAccented_misread :
    readAccented (Tree.object misreadBody).text = some (offEvent ['Ã', '©']) := by
  have hne : (Tree.object misreadBody).text ≠ (Tree.object accentedBody).text := by decide +kernel
  rw [readAccented, if_neg hne, if_pos rfl]

/-- The event of the object is not the one that is sent, though both texts are read right. -/
theorem sent_accented :
    IsRendering (fun _ => none) accentedBody (offEvent ['é'] : VmmEvent Empty) ∧
      ReadsValue (fun _ => none) readAccented accentedBody ∧
      ReadsValue (fun _ => none) readAccented accentedBody.bytewise ∧
      sent readAccented (encoded (fileText [([], accentedBody)] [])) = [offEvent ['Ã', '©']] ∧
      (offEvent ['Ã', '©'] : VmmEvent Empty).source ≠ (offEvent ['é'] : VmmEvent Empty).source := by
  have hcontent := content_unescaped (by decide : ∀ c ∈ ['é'], Plain c)
  have hmisread := content_unescaped (by decide : ∀ c ∈ ['Ã', '©'], Plain c)
  refine ⟨isRendering_off hcontent, readsValue_off hcontent (if_pos rfl), ?_, ?_, ?_⟩
  · rw [bytewise_accented]
    exact readsValue_off hmisread readAccented_misread
  · obtain ⟨left, handed, hread, -, hhanded⟩ := readAll_file [([], accentedBody)] []
    have hnesting : (Tree.object accentedBody).nesting = 1 := rfl
    have htext : bytewise (Tree.object accentedBody).text = (Tree.object misreadBody).text := by
      rw [← Tree.text_bytewise, Tree.bytewise, bytewise_accented]
    rw [sent, hread, (hhanded (List.forall_mem_singleton.mpr (hnesting ▸ by norm_num))).2,
      List.map_singleton, htext, List.filterMap_cons_some readAccented_misread]
    rfl
  · decide

end Delivery

end Vyoma.VmmEvents
