import Vyoma.AgentConnection
import Vyoma.Excepts
import Vyoma.GoStrings

/-!
# Requests of the Go client

The client marshals a struct whose fields are left out when they are empty, with the keys
of a map in order. The agent decodes what it gets by its own definition of a request. The
text between the two is an argument; that the agent reads it as the object it was written
for is assumed where it is needed.
-/
namespace Vyoma.AgentClient
open Agent Excepts GoStrings RustText

variable {φ : Type}

/-- A map can be `nil`. -/
structure Request where
  type : GoString
  cmd : List GoString
  env : Option (HashMap GoString GoString)
  workdir : GoString
  path : GoString

def strJson (s : GoString) : Json φ := .str (toText s)

/-- A field that is left out when its value is empty. -/
def omitempty (isEmpty : Bool) (name : String) (value : Json φ) : Members φ :=
  if isEmpty then [] else [(name, value)]

/-- The entries of a map in the order of their keys; `nil` has none. -/
def sortedEntries (env : Option (HashMap GoString GoString)) : List (GoString × GoString) :=
  (env.getD ∅).pairs.mergeSort fun a b => decide (a.1 ≤ b.1)

/-- `json.Marshal` of a request. -/
def Request.members (req : Request) : Members φ :=
  ("type", strJson req.type) ::
    (omitempty req.cmd.isEmpty "cmd" (.arr (req.cmd.map strJson)) ++
      omitempty (sortedEntries req.env).isEmpty "env"
        (.obj ((sortedEntries req.env).map fun e => (toText e.1, strJson e.2))) ++
      omitempty req.workdir.isEmpty "workdir" (strJson req.workdir) ++
      omitempty req.path.isEmpty "path" (strJson req.path))

/-- The request that `ExecCommand` sends. -/
def execCommandRequest (cmd : List GoString) (env : Option (HashMap GoString GoString))
    (workdir : GoString) : Request where
  type := utf8 "ExecCommand"
  cmd := cmd
  env := env
  workdir := workdir
  path := []

/-- The agent would run the same command, in the same environment and directory. No working
directory stands for the empty one. -/
def SameCommand (cmd : List GoString) (env : Option (HashMap GoString GoString))
    (workdir : GoString) (request : AgentRequest) : Prop :=
  ∃ cmd' env' workdir', request = .execCommand cmd' env' workdir' ∧ cmd'.map utf8 = cmd ∧
    (env'.pairs.map (Prod.map utf8 utf8)).Perm (env.getD ∅).pairs ∧
    workdir'.elim [] utf8 = workdir

/-! ## What the agent decodes -/

theorem sortedEntries_perm (env : Option (HashMap GoString GoString)) :
    (sortedEntries env).Perm (env.getD ∅).pairs := List.mergeSort_perm _ _

section Members

@[simp] theorem membersAt_cons (name other : String) (value : Json φ) (members : Members φ) :
    membersAt name ((other, value) :: members) =
      if other = name then value :: membersAt name members else membersAt name members := by
  by_cases h : other = name
  · simp [membersAt, h]
  · simp [membersAt, h]

@[simp] theorem membersAt_append (name : String) (members others : Members φ) :
    membersAt name (members ++ others) = membersAt name members ++ membersAt name others := by
  simp [membersAt]

@[simp] theorem membersAt_omitempty (name other : String) (isEmpty : Bool) (value : Json φ) :
    membersAt name (omitempty isEmpty other value) =
      if other = name then if isEmpty then [] else [value] else [] := by
  cases isEmpty
  · exact membersAt_cons name other value []
  · by_cases h : other = name
    · rw [if_pos h]
      rfl
    · rw [if_neg h]
      rfl

theorem optional_of_omitempty {name : String} {members : Members φ} {isEmpty : Bool}
    {value : Json φ} (h : membersAt name members = if isEmpty then [] else [value]) :
    Agent.optional name members = .ok (if isEmpty then none else some value) := by
  unfold Agent.optional
  rw [h]
  cases isEmpty <;> rfl

theorem required_of_omitempty {name : String} {members : Members φ} {isEmpty : Bool}
    {value : Json φ} (h : membersAt name members = if isEmpty then [] else [value]) :
    required name members =
      if isEmpty then .error ("missing field `" ++ name ++ "`") else .ok value := by
  unfold required
  rw [optional_of_omitempty h]
  cases isEmpty <;> rfl

end Members

section Decode

variable (req : Request)

theorem membersAt_type :
    membersAt "type" (req.members : Members φ) = [strJson req.type] := by
  simp [Request.members]

theorem membersAt_cmd :
    membersAt "cmd" (req.members : Members φ) =
      if req.cmd.isEmpty then [] else [.arr (req.cmd.map strJson)] := by
  simp [Request.members]

theorem membersAt_env :
    membersAt "env" (req.members : Members φ) = if (sortedEntries req.env).isEmpty then []
      else [.obj ((sortedEntries req.env).map fun e => (toText e.1, strJson e.2))] := by
  simp [Request.members]

theorem membersAt_workdir :
    membersAt "workdir" (req.members : Members φ) =
      if req.workdir.isEmpty then [] else [strJson req.workdir] := by
  simp [Request.members]

theorem asStrings_arr_strJson (cmd : List GoString) :
    asStrings (.arr (cmd.map strJson) : Json φ) = .ok (cmd.map toText) := by
  unfold asStrings
  induction cmd with
  | nil => rfl
  | cons word cmd ih =>
    simp only [List.map_cons, List.mapM_cons] at ih ⊢
    rw [ih]
    rfl

/-- The agent's map of the entries of an environment. -/
def decodedEnv (entries : List (GoString × GoString)) : HashMap String String :=
  (entries.map (Prod.map toText toText)).foldl (fun env e => env.insert e.1 e.2) ∅

theorem asStringMap_obj (entries : List (GoString × GoString)) :
    asStringMap (.obj (entries.map fun e => (toText e.1, strJson e.2)) : Json φ) =
      .ok (decodedEnv entries) := by
  unfold asStringMap decodedEnv
  generalize (∅ : HashMap String String) = env
  induction entries generalizing env with
  | nil => rfl
  | cons e entries ih => exact ih _

theorem ofMembers_of_type {members : Members φ}
    (htype : required "type" members = .ok (.str "ExecCommand")) :
    AgentRequest.ofMembers members = (do
      let cmd ← asStrings (← required "cmd" members)
      let env ← asStringMap (← required "env" members)
      let workdir ← asOptionalString (← Agent.optional "workdir" members)
      return .execCommand cmd env workdir) := by
  unfold AgentRequest.ofMembers
  rw [htype]
  rfl

/-- What the agent makes of the request that `ExecCommand` sends. -/
theorem ofMembers_execCommandRequest (cmd : List GoString)
    (env : Option (HashMap GoString GoString)) (workdir : GoString) (request : AgentRequest) :
    AgentRequest.ofMembers ((execCommandRequest cmd env workdir).members : Members φ) =
        .ok request ↔
      cmd ≠ [] ∧ sortedEntries env ≠ [] ∧
        request = .execCommand (cmd.map toText) (decodedEnv (sortedEntries env))
          (if workdir.isEmpty then none else some (toText workdir)) := by
  let req := execCommandRequest cmd env workdir
  have htype : required "type" (req.members : Members φ) = .ok (.str "ExecCommand") := by
    unfold required Agent.optional
    rw [membersAt_type, strJson, show req.type = utf8 "ExecCommand" from rfl, toText_utf8]
    rfl
  have hcmd : required "cmd" (req.members : Members φ) =
      if cmd.isEmpty then .error "missing field `cmd`" else .ok (.arr (cmd.map strJson)) :=
    required_of_omitempty (membersAt_cmd req)
  have henv : required "env" (req.members : Members φ) =
      if (sortedEntries env).isEmpty then .error "missing field `env`"
      else .ok (.obj ((sortedEntries env).map fun e => (toText e.1, strJson e.2))) :=
    required_of_omitempty (membersAt_env req)
  have hworkdir : Agent.optional "workdir" (req.members : Members φ) =
      .ok (if workdir.isEmpty then none else some (strJson workdir)) :=
    optional_of_omitempty (membersAt_workdir req)
  have hoptional :
      asOptionalString (if workdir.isEmpty then none else some (strJson workdir : Json φ)) =
        .ok (if workdir.isEmpty then none else some (toText workdir)) := by
    cases workdir.isEmpty <;> rfl
  rw [ofMembers_of_type htype, hcmd, henv, hworkdir]
  by_cases hnil : cmd = []
  · simp only [hnil, List.isEmpty_nil, if_true, error_bind]
    exact ⟨fun h => (nomatch h), fun h => absurd rfl h.1⟩
  have hcons : cmd.isEmpty = false := List.isEmpty_eq_false_iff.mpr hnil
  simp only [hcons, Bool.false_eq_true, if_false, ok_bind, asStrings_arr_strJson]
  by_cases hentries : sortedEntries env = []
  · simp only [hentries, List.isEmpty_nil, if_true, error_bind]
    exact ⟨fun h => (nomatch h), fun h => absurd rfl h.2.1⟩
  have hfilled : (sortedEntries env).isEmpty = false := List.isEmpty_eq_false_iff.mpr hentries
  simp only [hfilled, Bool.false_eq_true, if_false, ok_bind, asStringMap_obj, hoptional]
  constructor
  · intro h
    cases h
    exact ⟨hnil, hentries, rfl⟩
  · rintro ⟨-, -, rfl⟩
    rfl

end Decode

/-- The command has a word, the environment an entry, and all of it is UTF-8. -/
structure Sendable (cmd : List GoString) (env : Option (HashMap GoString GoString))
    (workdir : GoString) : Prop where
  cmd_ne_nil : cmd ≠ []
  env_ne_nil : (env.getD ∅).pairs ≠ []
  cmd_utf8 : ∀ word ∈ cmd, IsUtf8 word
  env_utf8 : ∀ e ∈ (env.getD ∅).pairs, IsUtf8 e.1 ∧ IsUtf8 e.2
  workdir_utf8 : IsUtf8 workdir

section Agreement

variable {cmd : List GoString} {env : Option (HashMap GoString GoString)} {workdir : GoString}

theorem map_utf8_toText {words : List GoString} (h : ∀ word ∈ words, IsUtf8 word) :
    (words.map toText).map utf8 = words := by
  rw [List.map_map]
  refine Eq.trans (List.map_congr_left fun word hword => ?_) (List.map_id words)
  exact (utf8_toText_eq_iff word).mpr (h word hword)

theorem map_utf8_toText_pairs {entries : List (GoString × GoString)}
    (h : ∀ e ∈ entries, IsUtf8 e.1 ∧ IsUtf8 e.2) :
    (entries.map (Prod.map toText toText)).map (Prod.map utf8 utf8) = entries := by
  rw [List.map_map]
  refine Eq.trans (List.map_congr_left fun e he => ?_) (List.map_id entries)
  exact Prod.ext ((utf8_toText_eq_iff e.1).mpr (h e he).1) ((utf8_toText_eq_iff e.2).mpr (h e he).2)

/-- An environment of text arrives as it was sent. -/
theorem decodedEnv_perm (h : ∀ e ∈ (env.getD ∅).pairs, IsUtf8 e.1 ∧ IsUtf8 e.2) :
    ((decodedEnv (sortedEntries env)).pairs.map (Prod.map utf8 utf8)).Perm (env.getD ∅).pairs := by
  have hentries : ∀ e ∈ sortedEntries env, IsUtf8 e.1 ∧ IsUtf8 e.2 :=
    fun e he => h e ((sortedEntries_perm env).mem_iff.mp he)
  have hback := map_utf8_toText_pairs hentries
  have hkeys : ((sortedEntries env).map Prod.fst).Nodup := by
    rw [((sortedEntries_perm env).map Prod.fst).nodup_iff, HashMap.keys_pairs]
    exact AList.keys_nodup _
  have htexts : (((sortedEntries env).map (Prod.map toText toText)).map Prod.fst).Nodup := by
    refine List.Nodup.of_map utf8 ?_
    have hfst := congrArg (List.map Prod.fst) hback
    rw [List.map_map, List.map_map] at hfst ⊢
    rw [← hfst] at hkeys
    exact hkeys
  have hdecoded : (decodedEnv (sortedEntries env)).pairs.Perm
      ((sortedEntries env).map (Prod.map toText toText)) := by
    have hfold := @HashMap.pairs_foldl_insert_perm String String _
      ((sortedEntries env).map (Prod.map toText toText)) ∅
      (by rwa [HashMap.pairs_empty, List.append_nil])
    rwa [HashMap.pairs_empty, List.append_nil] at hfold
  refine (hdecoded.map (Prod.map utf8 utf8)).trans ?_
  rw [hback]
  exact sortedEntries_perm env

theorem workdir_elim (h : IsUtf8 workdir) :
    (if workdir.isEmpty then none else some (toText workdir)).elim [] utf8 = workdir := by
  cases hempty : workdir.isEmpty with
  | true => exact (List.isEmpty_iff.mp hempty).symm
  | false => exact (utf8_toText_eq_iff workdir).mpr h

/-- What is decoded to the same command was text all through. -/
theorem utf8_of_sameCommand {request : AgentRequest} (h : SameCommand cmd env workdir request) :
    (∀ word ∈ cmd, IsUtf8 word) ∧ (∀ e ∈ (env.getD ∅).pairs, IsUtf8 e.1 ∧ IsUtf8 e.2) ∧
      IsUtf8 workdir := by
  obtain ⟨cmd', env', workdir', -, rfl, henv, rfl⟩ := h
  refine ⟨fun word hword => ?_, fun e he => ?_, ?_⟩
  · obtain ⟨text, -, rfl⟩ := List.mem_map.mp hword
    exact ⟨text, rfl⟩
  · obtain ⟨e', -, rfl⟩ := List.mem_map.mp (henv.mem_iff.mpr he)
    exact ⟨⟨e'.1, rfl⟩, ⟨e'.2, rfl⟩⟩
  · cases workdir' with
    | none => exact ⟨"", rfl⟩
    | some text => exact ⟨text, rfl⟩

theorem sortedEntries_eq_nil_iff : sortedEntries env = [] ↔ (env.getD ∅).pairs = [] := by
  rw [← List.length_eq_zero_iff, (sortedEntries_perm env).length_eq, List.length_eq_zero_iff]

/-- A command that is sent arrives unchanged exactly if it has a word, its environment is not
empty, and all is UTF-8. The agent reads the text of the request as its object. -/
theorem exec_command_decoded_iff {texts : Texts φ} {goText : Members φ → String}
    (hread : ∀ request, texts.read (goText (execCommandRequest cmd env workdir).members) =
      .ok request ↔
        AgentRequest.ofMembers ((execCommandRequest cmd env workdir).members : Members φ) =
          .ok request) :
    (∃ request, texts.read (goText (execCommandRequest cmd env workdir).members) = .ok request ∧
      SameCommand cmd env workdir request) ↔ Sendable cmd env workdir := by
  constructor
  · rintro ⟨request, hdecoded, hsame⟩
    rw [hread, ofMembers_execCommandRequest] at hdecoded
    obtain ⟨hcmd, henv, hworkdir⟩ := utf8_of_sameCommand hsame
    exact ⟨hdecoded.1, fun h => hdecoded.2.1 (sortedEntries_eq_nil_iff.mpr h), hcmd, henv, hworkdir⟩
  · intro h
    refine ⟨_, (hread _).mpr ((ofMembers_execCommandRequest cmd env workdir _).mpr
      ⟨h.cmd_ne_nil, fun hnil => h.env_ne_nil (sortedEntries_eq_nil_iff.mp hnil), rfl⟩), ?_⟩
    exact ⟨_, _, _, rfl, map_utf8_toText h.cmd_utf8, decodedEnv_perm h.env_utf8,
      workdir_elim h.workdir_utf8⟩

end Agreement

def mkdirText : String :=
  "\x7b\"type\":\"ExecCommand\",\"cmd\":[\"mkdir\"],\"env\":\x7b\"LANG\":\"C\"\x7d,\"workdir\":\"/\"\x7d"

def killText : String :=
  "\x7b\"type\":\"ExecCommand\",\"cmd\":[\"kill\",\"-TERM\",\"1\"],\"workdir\":\"/\"\x7d"

/-- The texts of the requests below. -/
def sampleGoText : Members φ → String
  | [("type", .str "ExecCommand"), ("cmd", .arr [.str "mkdir"]), ("env", .obj [("LANG", .str "C")]),
      ("workdir", .str "/")] => mkdirText
  | [("type", .str "ExecCommand"), ("cmd", .arr [.str "kill", .str "-TERM", .str "1"]),
      ("workdir", .str "/")] => killText
  | _ => "null"

def commandTexts : Texts φ where
  print := (@sampleTexts φ).print
  read line :=
    if line = mkdirText then .ok (.execCommand ["mkdir"] (AList.insert "LANG" "C" ∅) (some "/"))
    else if line = killText then .error "missing field `env`"
    else .error "invalid type: null, expected internally tagged enum AgentRequest"
  utf8Error := (@sampleTexts φ).utf8Error

def langEnv : HashMap GoString GoString := AList.insert (utf8 "LANG") (utf8 "C") ∅

theorem sortedEntries_langEnv : sortedEntries (some langEnv) = [(utf8 "LANG", utf8 "C")] :=
  List.mergeSort_singleton _

theorem sampleGoText_mkdir :
    sampleGoText ((execCommandRequest [utf8 "mkdir"] (some langEnv) (utf8 "/")).members :
      Members φ) = mkdirText := by
  have hslash : (utf8 "/").isEmpty = false := by decide
  simp only [Request.members, execCommandRequest, sortedEntries_langEnv, strJson, toText_utf8,
    List.map_cons, List.map_nil, hslash]
  rfl

theorem sampleGoText_kill :
    sampleGoText ((execCommandRequest [utf8 "kill", utf8 "-TERM", utf8 "1"] none
      (utf8 "/")).members : Members φ) = killText := by
  have hslash : (utf8 "/").isEmpty = false := by decide
  have hnone : sortedEntries none = [] := sortedEntries_eq_nil_iff.mpr rfl
  simp only [Request.members, execCommandRequest, hnone, strJson, toText_utf8, List.map_cons,
    List.map_nil, hslash]
  rfl

/-- A command with an environment arrives. -/
theorem mkdir_decoded : ∃ request,
    (commandTexts : Texts ℕ).read
      (sampleGoText (@Request.members ℕ
        (execCommandRequest [utf8 "mkdir"] (some langEnv) (utf8 "/")))) = .ok request ∧
      SameCommand [utf8 "mkdir"] (some langEnv) (utf8 "/") request := by
  have hslash : (utf8 "/").isEmpty = false := by decide
  refine (exec_command_decoded_iff fun request => ?_).mpr ?_
  · rw [sampleGoText_mkdir, ofMembers_execCommandRequest, sortedEntries_langEnv, hslash]
    simp only [commandTexts, if_true, decodedEnv, List.map_cons, List.map_nil, Prod.map,
      toText_utf8, List.foldl_cons, List.foldl_nil]
    simp [eq_comm]
  · refine ⟨by decide, by decide, ?_, ?_, ⟨"/", rfl⟩⟩
    · intro word hword
      exact ⟨"mkdir", (List.mem_singleton.mp hword).symm⟩
    · intro e he
      rw [List.mem_singleton.mp he]
      exact ⟨⟨"LANG", rfl⟩, ⟨"C", rfl⟩⟩

/-- Stopping a container sends no environment, and the agent refuses the request. -/
theorem kill_without_env_refused :
    (∀ request, (commandTexts : Texts ℕ).read (sampleGoText (@Request.members ℕ
        (execCommandRequest [utf8 "kill", utf8 "-TERM", utf8 "1"] none (utf8 "/")))) = .ok request ↔
      AgentRequest.ofMembers (@Request.members ℕ
        (execCommandRequest [utf8 "kill", utf8 "-TERM", utf8 "1"] none (utf8 "/"))) = .ok request) ∧
    ¬∃ request, (commandTexts : Texts ℕ).read (sampleGoText (@Request.members ℕ
        (execCommandRequest [utf8 "kill", utf8 "-TERM", utf8 "1"] none (utf8 "/")))) = .ok request ∧
      SameCommand [utf8 "kill", utf8 "-TERM", utf8 "1"] none (utf8 "/") request := by
  have hnone : sortedEntries none = [] := sortedEntries_eq_nil_iff.mpr rfl
  have hother : killText ≠ mkdirText := by decide
  rw [sampleGoText_kill]
  simp only [ofMembers_execCommandRequest, hnone, commandTexts, if_neg hother, if_true]
  exact ⟨fun request => ⟨fun h => (nomatch h), fun h => absurd rfl h.2.1⟩,
    fun ⟨request, h, _⟩ => nomatch h⟩

end Vyoma.AgentClient
