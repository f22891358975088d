import Vyoma.AgentProtocol
import Vyoma.FileTrees
import Vyoma.FilteredLists
import Vyoma.HashMaps
import Vyoma.Runs

/-!
# Networks of the CNI manager

A network is a configuration file whose content names it. Creation looks for the file it is to
write only. Lookup and deletion go by the names in the files: lookup in the order of the
paths, deletion in the order in which the directory is read, which is not determined.
-/
namespace Vyoma.Cni
open Agent (Json Members)
open FileTrees Runs

variable {φ : Type}

structure CniConfig (φ : Type) where
  cniVersion : String
  name : String
  pluginType : String
  args : Members φ

/-- A field that has to be there once, with a string. -/
def stringField (members : Members φ) (key : String) : Option String :=
  match members.filter (·.1 = key) with
  | [(_, .str s)] => some s
  | _ => none

def CniConfig.fromJson : Json φ → Option (CniConfig φ)
  | .obj members => do
    let cniVersion ← stringField members "cniVersion"
    let name ← stringField members "name"
    let pluginType ← stringField members "type"
    let args := members.filter fun m => m.1 ∉ ["cniVersion", "name", "type"]
    some { cniVersion, name, pluginType, args }
  | _ => none

/-- The files of the configuration directory, each with the JSON it holds, if any. -/
abbrev ConfigDir (φ : Type) : Type := HashMap String (Option (Json φ))

def parseConfig (content : Option (Json φ)) : Option (CniConfig φ) :=
  content.bind CniConfig.fromJson

/-- The name in a file's content. -/
def nameIn (content : Option (Json φ)) : Option String := (parseConfig content).map CniConfig.name

inductive CniError where
  /-- `Network config named '..' not found`. -/
  | configNotFound (name : String)
  /-- `No CNI config found in ..`. -/
  | noConfig
  /-- `Network config file exists`. -/
  | fileExists
  /-- `Network not found`. -/
  | networkNotFound
  /-- `Failed to parse CNI config`. -/
  | badConfig
  /-- `CNI plugin not found: ..`. -/
  | pluginNotFound (pluginType : String)
  /-- `CNI plugin failed: ..`. -/
  | pluginFailed (stderr : String)
  /-- `Failed to parse CNI output`. -/
  | badOutput
  /-- `CNI Plugin returned no output for ADD`. -/
  | noOutput
  /-- `No IPs found in CNI result`. -/
  | noIps
  /-- `Failed to attach to any of the .. requested networks`. -/
  | noneAttached (requested : ℕ)
  | io (e : String)
  deriving DecidableEq

/-! ## The manager -/

/-- The file's extension is one of those of configurations. -/
def IsConfig (file : String) : Prop :=
  extension file ∈ [some "conf", some "conflist", some "json"]

instance (file : String) : Decidable (IsConfig file) := inferInstanceAs (Decidable (_ ∈ _))

def configFiles (dir : ConfigDir φ) : List String :=
  (dir.keys.filter fun file => IsConfig file).mergeSort fun a b => decide (a ≤ b)

def findConfig (dir : ConfigDir φ) : Option String → Except CniError String
  | some targetName =>
    match (configFiles dir).find? fun file => (dir.lookup file).bind nameIn = some targetName with
    | some file => .ok file
    | none => .error (.configNotFound targetName)
  | none =>
    match (configFiles dir).head? with
    | some file => .ok file
    | none => .error .noConfig

/-- A text that is the name of a file. -/
structure FileName where
  text : String
  plain : Plain text
  slash : '/' ∉ text.toList
  nul : Char.ofNat 0 ∉ text.toList

def FileName.confFile (name : FileName) : String := name.text ++ ".conf"

/-- What comes of writing a new file; what stays of a write that fails is not JSON. -/
inductive WriteOutcome where
  | written
  | createFails (e : String)
  | writeFails (e : String)
  deriving DecidableEq

def writeConfig (dir : ConfigDir φ) (name : FileName) (config : Json φ) (io : WriteOutcome) :
    ConfigDir φ × Except CniError Unit :=
  if name.confFile ∈ dir then (dir, .error .fileExists)
  else
    match io with
    | .written => (dir.insert name.confFile (some config), .ok ())
    | .createFails e => (dir, .error (.io e))
    | .writeFails e => (dir.insert name.confFile none, .error (.io e))

def bridgeConfig (name subnet : String) : Json φ :=
  .obj [("cniVersion", .str "0.3.1"), ("name", .str name), ("type", .str "bridge"),
    ("bridge", .str ("vyoma-" ++ name)), ("isGateway", .bool true), ("ipMasq", .bool true),
    ("ipam", .obj [("type", .str "host-local"), ("subnet", .str subnet),
      ("routes", .arr [.obj [("dst", .str "0.0.0.0/0")]])])]

def createNetwork (dir : ConfigDir φ) (name : FileName) (subnet : String) (io : WriteOutcome) :
    ConfigDir φ × Except CniError Unit :=
  writeConfig dir name (bridgeConfig name.text subnet) io

def overlayConfig (name : String) : Json φ :=
  .obj [("cniVersion", .str "0.4.0"), ("name", .str name), ("type", .str "flannel"),
    ("delegate", .obj [("isDefaultGateway", .bool true), ("hairpinMode", .bool true)])]

/-- The subnet is not used. -/
def createOverlayNetwork (dir : ConfigDir φ) (name : FileName) (_subnet : String)
    (io : WriteOutcome) : ConfigDir φ × Except CniError Unit :=
  writeConfig dir name (overlayConfig name.text) io

/-- The order in which the directory is read, and what comes of removing the file. -/
structure DeleteOutcome (φ : Type) where
  order : HashMap.Traversal String (Option (Json φ))
  removed : Except String Unit

def deleteNetwork (dir : ConfigDir φ) (name : String) (io : DeleteOutcome φ) :
    ConfigDir φ × Except CniError Unit :=
  let found := (io.order.visit dir).pairs.find? fun entry =>
    extension entry.1 ∈ [some "conf", some "json"] ∧ nameIn entry.2 = some name
  match found with
  | none => (dir, .error .networkNotFound)
  | some (file, _) =>
    match io.removed with
    | .ok () => (dir.erase file, .ok ())
    | .error e => (dir, .error (.io e))

/-! ## Runs of calls -/

inductive Action (φ : Type) where
  | createNetwork (name : FileName) (subnet : String) (io : WriteOutcome)
  | createOverlayNetwork (name : FileName) (subnet : String) (io : WriteOutcome)
  | deleteNetwork (name : FileName) (io : DeleteOutcome φ)

def call (dir : ConfigDir φ) : Action φ → ConfigDir φ × Except CniError Unit
  | .createNetwork name subnet io => createNetwork dir name subnet io
  | .createOverlayNetwork name subnet io => createOverlayNetwork dir name subnet io
  | .deleteNetwork name io => deleteNetwork dir name.text io

def step (dir : ConfigDir φ) (a : Action φ) : ConfigDir φ := (call dir a).1

/-- The network that a call is to create, and what comes of writing its file. -/
def Action.created : Action φ → Option (FileName × WriteOutcome)
  | .createNetwork name _ io => some (name, io)
  | .createOverlayNetwork name _ io => some (name, io)
  | .deleteNetwork .. => none

def defaultFile : String := "10-vyoma-bridge.conf"

/-- The directory as `main` prepares it. -/
def prepared : ConfigDir φ :=
  (∅ : ConfigDir φ).insert defaultFile (some (.obj [("cniVersion", .str "0.4.0"),
    ("name", .str "vyoma-net"), ("type", .str "bridge"), ("bridge", .str "vyoma0"),
    ("isGateway", .bool true), ("ipMasq", .bool true),
    ("ipam", .obj [("type", .str "host-local"), ("subnet", .str "172.16.0.0/24"),
      ("routes", .arr [.obj [("dst", .str "0.0.0.0/0")]])])]))

/-- The network that a configuration file carries. -/
def networkName (dir : ConfigDir φ) (file : String) : Option String :=
  if IsConfig file then (dir.lookup file).bind nameIn else none

def UniqueNames (dir : ConfigDir φ) : Prop :=
  ∀ file file' name, networkName dir file = some name → networkName dir file' = some name →
    file = file'

/-- After the call names are unique. A network that it has created is found in its file, and
deletion leaves the directory as it was before. -/
structure Restorable (dir : ConfigDir φ) (a : Action φ) : Prop where
  unique : UniqueNames (step dir a)
  found : ∀ name io, a.created = some (name, io) → (call dir a).2 = .ok () →
    findConfig (step dir a) (some name.text) = .ok name.confFile
  restored : ∀ name io, a.created = some (name, io) → (call dir a).2 = .ok () →
    ∀ order, deleteNetwork (step dir a) name.text ⟨order, .ok ()⟩ = (dir, .ok ())

/-- The call writes the file of a new network. -/
def Writes (dir : ConfigDir φ) (a : Action φ) (name : FileName) : Prop :=
  a.created = some (name, .written) ∧ name.confFile ∉ dir

/-- No network `vyoma-net` is written while the default file carries this name. -/
def KeepsNames (dir : ConfigDir φ) (a : Action φ) : Prop :=
  ∀ name, Writes dir a name → name.text = "vyoma-net" →
    networkName dir defaultFile ≠ some "vyoma-net"

/-! ## Names of files and networks -/

theorem extension_confFile (name : FileName) : extension name.confFile = some "conf" := by
  have hfile : name.confFile = name.text ++ "." ++ "conf" := by
    rw [FileName.confFile, String.append_assoc]
    rfl
  rw [hfile]
  exact extension_append name.plain.1 (by decide) (by decide)

theorem isConfig_of_deletable {file : String} (h : extension file ∈ [some "conf", some "json"]) :
    IsConfig file := by
  simp only [IsConfig, List.mem_cons, List.not_mem_nil, or_false] at h ⊢
  obtain h | h := h
  · exact .inl h
  · exact .inr (.inr h)

theorem isConfig_confFile (name : FileName) : IsConfig name.confFile :=
  isConfig_of_deletable (by simp [extension_confFile])

/-- Both drivers write a configuration with the network's name. -/
theorem call_created (dir : ConfigDir φ) {a : Action φ} {name : FileName} {io : WriteOutcome}
    (h : a.created = some (name, io)) : ∃ config, nameIn (some config) = some name.text ∧
      call dir a = writeConfig dir name config io := by
  cases a with
  | createNetwork name' subnet io' =>
    cases h
    exact ⟨_, rfl, rfl⟩
  | createOverlayNetwork name' subnet io' =>
    cases h
    exact ⟨_, rfl, rfl⟩
  | deleteNetwork name' io' => cases h

section Contents

variable {dir : ConfigDir φ} {file name : String}

theorem networkName_insert (file' : String) (content : Option (Json φ)) :
    networkName (dir.insert file content) file' =
      if file = file' then if IsConfig file then nameIn content else none
      else networkName dir file' := by
  unfold networkName
  rw [HashMap.lookup_insert]
  split_ifs with heq hconfig hconfig' <;> simp_all

theorem networkName_of_erase {file' : String}
    (h : networkName (dir.erase file) file' = some name) : networkName dir file' = some name := by
  unfold networkName at h ⊢
  split_ifs at h ⊢
  by_cases heq : file' = file
  · rw [heq, AList.lookup_erase] at h
    cases h
  · rwa [AList.lookup_erase_ne heq] at h

theorem networkName_eq_some_iff :
    networkName dir file = some name ↔
      IsConfig file ∧ (dir.lookup file).bind nameIn = some name := by
  unfold networkName
  split_ifs with h <;> simp [h]

theorem nameIn_of_findConfig (h : findConfig dir (some name) = .ok file) :
    (dir.lookup file).bind nameIn = some name := by
  unfold findConfig at h
  dsimp only at h
  split at h
  · rename_i file' hfind
    cases h
    simpa using List.find?_some hfind
  · cases h

/-- Lookup finds the file of a name that is there only once. -/
theorem findConfig_of_unique (h : UniqueNames dir) (hname : networkName dir file = some name) :
    findConfig dir (some name) = .ok file := by
  obtain ⟨hconfig, hcontent⟩ := networkName_eq_some_iff.mp hname
  have hmem : file ∈ configFiles dir := by
    have hkey : file ∈ dir.keys := by
      rw [← AList.mem_keys, ← AList.lookup_isSome]
      obtain ⟨content, hlookup, -⟩ := Option.bind_eq_some_iff.mp hcontent
      rw [hlookup]
      rfl
    rw [configFiles, List.mem_mergeSort, List.mem_filter]
    exact ⟨hkey, decide_eq_true hconfig⟩
  have honly : ∀ file' ∈ configFiles dir,
      decide ((dir.lookup file').bind nameIn = some name) = true → file' = file := by
    intro file' hmem' hcontent'
    rw [configFiles, List.mem_mergeSort, List.mem_filter] at hmem'
    have hname' := networkName_eq_some_iff.mpr
      ⟨of_decide_eq_true hmem'.2, of_decide_eq_true hcontent'⟩
    exact h file' file name hname' hname
  simp only [findConfig, FilteredLists.find?_of_unique hmem (decide_eq_true hcontent) honly]

/-- So does deletion, whatever the order. -/
theorem deleteNetwork_of_unique (h : UniqueNames dir) (hname : networkName dir file = some name)
    (hext : extension file ∈ [some "conf", some "json"])
    (order : HashMap.Traversal String (Option (Json φ))) :
    deleteNetwork dir name ⟨order, .ok ()⟩ = (dir.erase file, .ok ()) := by
  obtain ⟨-, hcontent⟩ := networkName_eq_some_iff.mp hname
  obtain ⟨content, hlookup, hin⟩ := Option.bind_eq_some_iff.mp hcontent
  have hmem : (file, content) ∈ (order.visit dir).pairs := by
    rw [HashMap.mem_pairs, HashMap.lookup_visit, hlookup]
  have honly : ∀ entry ∈ (order.visit dir).pairs,
      decide (extension entry.1 ∈ [some "conf", some "json"] ∧ nameIn entry.2 = some name) = true →
        entry = (file, content) := by
    rintro ⟨file', content'⟩ hmem' hentry
    obtain ⟨hext', hin'⟩ := of_decide_eq_true hentry
    rw [HashMap.mem_pairs, HashMap.lookup_visit] at hmem'
    have hname' : networkName dir file' = some name := by
      rw [networkName_eq_some_iff, hmem']
      exact ⟨isConfig_of_deletable hext', hin'⟩
    obtain rfl := h file' file name hname' hname
    rw [hlookup, Option.some.injEq] at hmem'
    rw [hmem']
  simp only [deleteNetwork,
    FilteredLists.find?_of_unique hmem (decide_eq_true ⟨hext, hin⟩) honly]

end Contents

/-! ## Steps -/

section Steps

variable {dir : ConfigDir φ} {a : Action φ} {name : FileName}

theorem call_of_writes (h : Writes dir a name) : ∃ config, nameIn (some config) = some name.text ∧
    call dir a = (dir.insert name.confFile (some config), .ok ()) := by
  obtain ⟨hcreated, hnew⟩ := h
  obtain ⟨config, hname, hcall⟩ := call_created dir hcreated
  refine ⟨config, hname, ?_⟩
  rw [hcall, writeConfig, if_neg hnew]

theorem writes_of_ok {io : WriteOutcome} (h : a.created = some (name, io))
    (hok : (call dir a).2 = .ok ()) : Writes dir a name := by
  obtain ⟨config, -, hcall⟩ := call_created dir h
  rw [hcall] at hok
  unfold writeConfig at hok
  split_ifs at hok with hexists
  cases io with
  | written => exact ⟨h, hexists⟩
  | createFails e => cases hok
  | writeFails e => cases hok

theorem deleteNetwork_cases (dir : ConfigDir φ) (name : String) (io : DeleteOutcome φ) :
    (deleteNetwork dir name io).1 = dir ∨
      ∃ file, (deleteNetwork dir name io).1 = dir.erase file := by
  unfold deleteNetwork
  dsimp only
  split
  · exact .inl rfl
  · split
    · exact .inr ⟨_, rfl⟩
    · exact .inl rfl

/-- A name that is there after a call was there before, or the call has written it. -/
theorem networkName_step {file n : String} (h : networkName (step dir a) file = some n) :
    networkName dir file = some n ∨
      ∃ name, Writes dir a name ∧ file = name.confFile ∧ n = name.text := by
  cases hcreated : a.created with
  | none =>
    cases a with
    | createNetwork name subnet io => cases hcreated
    | createOverlayNetwork name subnet io => cases hcreated
    | deleteNetwork name io =>
      refine .inl ?_
      obtain hsame | ⟨file', herase⟩ := deleteNetwork_cases dir name.text io
      · rwa [step, call, hsame] at h
      · rw [step, call, herase] at h
        exact networkName_of_erase h
  | some created =>
    obtain ⟨name, io⟩ := created
    obtain ⟨config, hname, hcall⟩ := call_created dir hcreated
    rw [step, hcall] at h
    unfold writeConfig at h
    split_ifs at h with hexists
    · exact .inl h
    · cases io with
      | written =>
        rw [networkName_insert, if_pos (isConfig_confFile name), hname] at h
        split_ifs at h with hfile
        · exact .inr ⟨name, ⟨hcreated, hexists⟩, hfile.symm, (Option.some.inj h).symm⟩
        · exact .inl h
      | createFails e => exact .inl h
      | writeFails e =>
        rw [networkName_insert, if_pos (isConfig_confFile name)] at h
        split_ifs at h with hfile
        · cases h
        · exact .inl h

/-- Every file carries the name it is called by, except for the default one. -/
def Named (dir : ConfigDir φ) : Prop :=
  ∀ file name, networkName dir file = some name →
    file = name ++ ".conf" ∨ file = defaultFile ∧ name = "vyoma-net"

theorem networkName_prepared {file n : String}
    (h : networkName (prepared : ConfigDir φ) file = some n) :
    file = defaultFile ∧ n = "vyoma-net" := by
  have hconfig : IsConfig defaultFile := by decide
  rw [prepared, networkName_insert, if_pos hconfig] at h
  split_ifs at h with hfile
  · exact ⟨hfile.symm, (Option.some.inj h).symm⟩
  · rw [networkName_eq_some_iff] at h
    cases h.2

theorem named_step (h : Named dir) (a : Action φ) : Named (step dir a) := by
  intro file n hname
  obtain hold | ⟨name, -, rfl, rfl⟩ := networkName_step hname
  · exact h file n hold
  · exact .inl rfl

theorem uniqueNames_iff (h : Named dir) : UniqueNames dir ↔
    (networkName dir "vyoma-net.conf" = some "vyoma-net" →
      networkName dir defaultFile ≠ some "vyoma-net") := by
  constructor
  · intro hunique hconf hdefault
    exact absurd (hunique _ _ _ hconf hdefault) (by decide)
  · intro hne file file' n hfile hfile'
    obtain hf | ⟨hf, hn⟩ := h file n hfile <;> obtain hf' | ⟨hf', hn'⟩ := h file' n hfile'
    · rw [hf, hf']
    · rw [hf', hn'] at hfile'
      rw [hf, hn'] at hfile
      exact absurd hfile' (hne hfile)
    · rw [hf, hn] at hfile
      rw [hf', hn] at hfile'
      exact absurd hfile (hne hfile')
    · rw [hf, hf']

/-- Names stay unique exactly when the default one is not written again. -/
theorem uniqueNames_step_iff (hnamed : Named dir) (h : UniqueNames dir) (a : Action φ) :
    UniqueNames (step dir a) ↔ KeepsNames dir a := by
  rw [uniqueNames_iff (named_step hnamed a)]
  have hbefore := (uniqueNames_iff hnamed).mp h
  constructor
  · intro hafter name hwrites hdefault
    obtain ⟨config, hname, hcall⟩ := call_of_writes hwrites
    have hfile : name.confFile = "vyoma-net.conf" := by
      rw [FileName.confFile, hdefault]
      rfl
    have hnew : networkName (step dir a) "vyoma-net.conf" = some "vyoma-net" := by
      rw [step, hcall, networkName_insert, if_pos hfile, if_pos (isConfig_confFile name), hname,
        hdefault]
    have hold : networkName (step dir a) defaultFile = networkName dir defaultFile := by
      rw [step, hcall, networkName_insert, if_neg (by rw [hfile]; decide)]
    rw [← hold]
    exact hafter hnew
  · intro hkeeps hconf hdefault
    obtain hold | ⟨name, hwrites, hfile, hname⟩ := networkName_step hconf
    · obtain hold' | ⟨name, hwrites, hfile, hname⟩ := networkName_step hdefault
      · exact hbefore hold hold'
      · rw [FileName.confFile, ← hname] at hfile
        exact absurd hfile (by decide)
    · obtain hold' | ⟨name', hwrites', hfile', hname'⟩ := networkName_step hdefault
      · exact hkeeps name hwrites hname.symm hold'
      · rw [FileName.confFile, ← hname'] at hfile'
        exact absurd hfile' (by decide)

/-- Where names are unique afterwards, a network that was created can be found and deleted. -/
theorem restorable_of_unique (h : UniqueNames (step dir a)) : Restorable dir a := by
  have hcreated : ∀ name io, a.created = some (name, io) → (call dir a).2 = .ok () →
      networkName (step dir a) name.confFile = some name.text ∧
        (step dir a).erase name.confFile = dir := by
    intro name io hcreated hok
    have hwrites := writes_of_ok hcreated hok
    obtain ⟨config, hname, hcall⟩ := call_of_writes hwrites
    rw [step, hcall, networkName_insert, if_pos rfl, if_pos (isConfig_confFile name), hname]
    refine ⟨rfl, AList.ext ?_⟩
    show (dir.insert name.confFile (some config)).entries.kerase name.confFile = dir.entries
    rw [AList.entries_insert_of_notMem hwrites.2]
    exact List.kerase_cons_eq rfl
  constructor
  · exact h
  · intro name io hcreate hok
    exact findConfig_of_unique h (hcreated name io hcreate hok).1
  · intro name io hcreate hok order
    obtain ⟨hname, herase⟩ := hcreated name io hcreate hok
    rw [deleteNetwork_of_unique h hname (by simp [extension_confFile]), herase]

end Steps

/-- From the directory that `main` prepares, every call of a run leaves names unique and a
network that it creates can be found and deleted again, exactly when no call writes a network
with the default name while the default file carries it. -/
theorem restorable_along_iff (run : List (Action φ)) :
    Along step Restorable prepared run ↔ Along step KeepsNames prepared run := by
  refine along_congr (Q := fun dir => Named dir ∧ UniqueNames dir) ⟨?_, ?_⟩ ?_ ?_ run
  · intro file n h
    exact .inr (networkName_prepared h)
  · intro file file' n h h'
    rw [(networkName_prepared h).1, (networkName_prepared h').1]
  · intro dir a h hrestorable
    exact ⟨named_step h.1 a, hrestorable.unique⟩
  · intro dir a h
    rw [← uniqueNames_step_iff h.1 h.2 a]
    exact ⟨Restorable.unique, restorable_of_unique⟩

/-- Two files carry the default name when a network of this name is created. -/
theorem default_name_created_again : ¬ Along step Restorable (prepared : ConfigDir Empty)
    [.createNetwork ⟨"vyoma-net", by decide, by decide, by decide⟩ "10.0.0.0/24" .written] := by
  rintro ⟨hrestorable, -⟩
  have hsame := hrestorable.unique defaultFile "vyoma-net.conf" "vyoma-net" (by decide) (by decide)
  exact absurd hsame (by decide)

end Vyoma.Cni
