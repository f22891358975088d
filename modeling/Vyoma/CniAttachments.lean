import Vyoma.CniNetworks
import Vyoma.FilteredLists
import Vyoma.RustText

/-!
# Attaching a VM to networks and detaching it

The manager runs a plugin for every network of a list and names the interface after the
position in this list. Detaching numbers the networks of its own list again: only those
that attaching has reported.
-/
namespace Vyoma.Cni
open Agent (Json)
open FilteredLists RustText

variable {φ : Type}

/-! ## Plugins -/

inductive Command where
  | add
  | del
  deriving DecidableEq

/-- The environment of a plugin; the configuration goes to its input. -/
structure Invocation (φ : Type) where
  command : Command
  containerId : String
  netns : String
  ifname : String
  config : CniConfig φ

/-- What a plugin has done in the end, and what the manager gets to know of it: whether the
input could be written, the status and the JSON of the output, if it is some. -/
structure PluginRun (φ : Type) where
  stdin : Except String Unit
  waited : Except String Unit
  success : Bool
  stderr : String
  stdout : Option (Json φ)

/-- The two directories of the manager: the configurations, and the plugins with what comes of
looking for one, of starting it and of running it. -/
structure CniManager (φ : Type) where
  configDir : ConfigDir φ
  pluginExists : String → Bool
  spawn : String → Except String Unit
  run : Invocation φ → PluginRun φ

structure NetworkResult where
  interfaceName : String
  ipAddress : String
  gateway : Option String
  macAddress : Option String
  deriving DecidableEq

structure NetworkAttachment where
  networkName : String
  interfaceName : String
  result : NetworkResult
  deriving DecidableEq

/-- The address of the first of the `ips`, up to its prefix length. -/
def ipAddress (json : Json φ) : Option String := do
  let ips ← json.get "ips"
  let first ← match ips with
    | .arr elems => elems.head?
    | _ => none
  let address ← (first.get "address").bind Json.asStr
  (splitOnce '/' address).map Prod.fst

def parseNetworkResult (json : Json φ) (ifname : String) : Except CniError NetworkResult :=
  match ipAddress json with
  | none => .error .noIps
  | some ip =>
    let gateway := (((json.get "dns").bind (Json.get "gateway")).bind Json.asStr).or
      ((json.get "gateway").bind Json.asStr)
    let mac := (json.get "mac").bind Json.asStr
    .ok ⟨ifname, ip, gateway, mac⟩

/-- What the manager makes of a run. -/
def PluginRun.output (run : PluginRun φ) (command : Command) : Except CniError (Option (Json φ)) :=
  match run.stdin, run.waited with
  | .error e, _ => .error (.io e)
  | .ok (), .error e => .error (.io e)
  | .ok (), .ok () =>
    if !run.success then .error (.pluginFailed run.stderr)
    else
      match command with
      | .add =>
        match run.stdout with
        | none => .error .badOutput
        | some res => .ok (some res)
      | .del => .ok none

namespace CniManager

variable (m : CniManager φ)

/-- The first steps of `exec`, up to the start of the plugin. -/
def plugin (networkName : Option String) : Except CniError (CniConfig φ) :=
  match findConfig m.configDir networkName with
  | .error e => .error e
  | .ok file =>
    match (m.configDir.lookup file).bind parseConfig with
    | none => .error .badConfig
    | some config =>
      if m.pluginExists config.pluginType then
        match m.spawn config.pluginType with
        | .error e => .error (.io e)
        | .ok () => .ok config
      else .error (.pluginNotFound config.pluginType)

section Calls

variable (containerId netns : String)

/-- The list of plugin calls grows with every plugin that is started. -/
def exec (command : Command) (networkName : Option String) (ifname : String)
    (calls : List (Invocation φ)) : List (Invocation φ) × Except CniError (Option (Json φ)) :=
  match m.plugin networkName with
  | .error e => (calls, .error e)
  | .ok config =>
    let invocation := ⟨command, containerId, netns, ifname, config⟩
    (calls ++ [invocation], (m.run invocation).output command)

def add (networkName : Option String) (ifname : String) (calls : List (Invocation φ)) :
    List (Invocation φ) × Except CniError NetworkResult :=
  match m.exec containerId netns .add networkName ifname calls with
  | (calls, .error e) => (calls, .error e)
  | (calls, .ok none) => (calls, .error .noOutput)
  | (calls, .ok (some json)) => (calls, parseNetworkResult json ifname)

def ethName (idx : ℕ) : String := "eth" ++ toString idx

/-- One turn of the loop of `add_multiple`. -/
def addNext (s : List (Invocation φ) × List NetworkAttachment) (network : String × ℕ) :
    List (Invocation φ) × List NetworkAttachment :=
  match m.add containerId netns (some network.1) (ethName network.2) s.1 with
  | (calls, .ok result) => (calls, s.2 ++ [⟨network.1, ethName network.2, result⟩])
  | (calls, .error _) => (calls, s.2)

def addMultiple (networks : List String) (calls : List (Invocation φ)) :
    List (Invocation φ) × Except CniError (List NetworkAttachment) :=
  let (calls, attachments) := networks.zipIdx.foldl (m.addNext containerId netns) (calls, [])
  if attachments.isEmpty ∧ ¬networks.isEmpty then (calls, .error (.noneAttached networks.length))
  else (calls, .ok attachments)

def del (networkName : Option String) (ifname : String) (calls : List (Invocation φ)) :
    List (Invocation φ) × Except CniError Unit :=
  let (calls, result) := m.exec containerId netns .del networkName ifname calls
  (calls, result.map fun _ => ())

/-- A failure is logged and the loop goes on. -/
def delMultiple (networks : List String) (calls : List (Invocation φ)) :
    List (Invocation φ) × Except CniError Unit :=
  (networks.zipIdx.foldl (fun calls network =>
    (m.del containerId netns (some network.1) (ethName network.2) calls).1) calls, .ok ())

/-- The plugin calls when a VM is attached and then detached from what was reported. -/
def attachDetach (networks : List String) : List (Invocation φ) :=
  match m.addMultiple containerId netns networks [] with
  | (calls, .error _) => (m.delMultiple containerId netns [] calls).1
  | (calls, .ok attachments) =>
    (m.delMultiple containerId netns (attachments.map NetworkAttachment.networkName) calls).1

end Calls

end CniManager

/-! ## Attached and detached interfaces -/

/-- The network and the interface that a plugin call is about. -/
def Invocation.interface (invocation : Invocation φ) : String × String :=
  (invocation.config.name, invocation.ifname)

/-- The interfaces for which the plugin has completed an `ADD`. -/
def CniManager.attached (m : CniManager φ) (calls : List (Invocation φ)) : List (String × String) :=
  (calls.filter fun call => call.command = .add ∧ (m.run call).success = true).map
    Invocation.interface

/-- The interfaces for which the plugin was called with `DEL`. -/
def detached (calls : List (Invocation φ)) : List (String × String) :=
  (calls.filter fun call => call.command = .del).map Invocation.interface

/-- Exactly the attached interfaces are detached. -/
def CniManager.DetachesAttached (m : CniManager φ) (containerId netns : String)
    (networks : List String) : Prop :=
  ∀ interface, interface ∈ detached (m.attachDetach containerId netns networks) ↔
    interface ∈ m.attached (m.attachDetach containerId netns networks)

/-- The manager can write the input, wait for the end and read an address from the output. -/
def PluginRun.readable (run : PluginRun φ) : Bool :=
  run.stdin.isOk && run.waited.isOk && (run.stdout.bind ipAddress).isSome

namespace CniManager

variable (m : CniManager φ) (containerId netns : String)

/-- The plugin call for a network and its position, where the plugin can be started. -/
def callFor (command : Command) (network : String × ℕ) : Option (Invocation φ) :=
  (m.plugin (some network.1)).toOption.map fun config =>
    ⟨command, containerId, netns, ethName network.2, config⟩

/-- The plugin completes the `ADD`. -/
def completes (network : String × ℕ) : Bool :=
  (m.callFor containerId netns .add network).any fun call => (m.run call).success

/-- It does, and the manager can tell. -/
def reports (network : String × ℕ) : Bool :=
  (m.callFor containerId netns .add network).any fun call =>
    (m.run call).success && (m.run call).readable

/-- Every `ADD` that is completed is reported, and completed for all networks before it. -/
def KeepsPositions (networks : List String) : Prop :=
  ∀ p ∈ networks.zipIdx, m.completes containerId netns p = true →
    m.reports containerId netns p = true ∧
      ∀ q ∈ networks.zipIdx, q.2 < p.2 → m.completes containerId netns q = true

end CniManager

/-! ## The plugin calls -/

theorem ethName_injective {i j : ℕ} (h : CniManager.ethName i = CniManager.ethName j) : i = j :=
  natRepr_injective ((String.append_right_inj "eth").mp h)

/-- The interface of a network at a position. -/
def interfaceAt (network : String × ℕ) : String × String :=
  (network.1, CniManager.ethName network.2)

theorem interfaceAt_injective : Function.Injective interfaceAt := by
  rintro ⟨n, i⟩ ⟨n', i'⟩ h
  simp only [interfaceAt, Prod.mk.injEq] at h
  rw [h.1, ethName_injective h.2]

namespace CniManager

variable {m : CniManager φ} {containerId netns : String}

theorem name_of_plugin {name : String} {config : CniConfig φ}
    (h : m.plugin (some name) = .ok config) : config.name = name := by
  unfold plugin at h
  split at h
  · cases h
  · rename_i file hfile
    have hname := nameIn_of_findConfig hfile
    split at h
    · cases h
    · rename_i config' hconfig
      obtain ⟨content, hlookup, hin⟩ := Option.bind_eq_some_iff.mp hname
      rw [hlookup, Option.bind_some] at hconfig
      rw [nameIn, hconfig, Option.map_some, Option.some.injEq] at hin
      split_ifs at h
      split at h
      · cases h
      · cases h
        exact hin

theorem callFor_eq_some {command : Command} {network : String × ℕ} {call : Invocation φ}
    (h : m.callFor containerId netns command network = some call) :
    call.command = command ∧ call.interface = interfaceAt network := by
  unfold callFor at h
  cases hplugin : m.plugin (some network.1) with
  | error e =>
    rw [hplugin] at h
    cases h
  | ok config =>
    rw [hplugin] at h
    cases h
    exact ⟨rfl, congrArg (Prod.mk · _) (name_of_plugin hplugin)⟩

/-- A plugin that can be started for one command can be for the other one. -/
theorem isSome_callFor (command command' : Command) (network : String) (i j : ℕ) :
    (m.callFor containerId netns command (network, i)).isSome =
      (m.callFor containerId netns command' (network, j)).isSome := by
  simp [callFor]

theorem exec_eq (command : Command) (network : String × ℕ) (calls : List (Invocation φ)) :
    m.exec containerId netns command (some network.1) (ethName network.2) calls =
      (calls ++ (m.callFor containerId netns command network).toList,
        (m.exec containerId netns command (some network.1) (ethName network.2) []).2) := by
  unfold exec callFor
  cases m.plugin (some network.1) with
  | error e => simp [Except.toOption]
  | ok config => simp [Except.toOption]

theorem isOk_parseNetworkResult (json : Json φ) (ifname : String) :
    (parseNetworkResult json ifname).isOk = (ipAddress json).isSome := by
  unfold parseNetworkResult
  cases ipAddress json <;> rfl

/-- The manager takes an `ADD` for a failure, or reads JSON in its output. -/
theorem output_add_cases (run : PluginRun φ) :
    (∃ e, run.output .add = .error e ∧ (run.success && run.readable) = false) ∨
      ∃ json, run.output .add = .ok (some json) ∧
        (run.success && run.readable) = (ipAddress json).isSome := by
  obtain ⟨stdin, waited, success, stderr, stdout⟩ := run
  cases stdin with
  | error e => exact .inl ⟨_, rfl, Bool.and_false _⟩
  | ok =>
    cases waited with
    | error e => exact .inl ⟨_, rfl, Bool.and_false _⟩
    | ok =>
      cases success with
      | false => exact .inl ⟨_, rfl, rfl⟩
      | true =>
        cases stdout with
        | none => exact .inl ⟨_, rfl, rfl⟩
        | some json => exact .inr ⟨json, rfl, rfl⟩

/-- `add` succeeds when the plugin completes the `ADD` and the manager can tell. -/
theorem isOk_add (network : String × ℕ) (calls : List (Invocation φ)) :
    (m.add containerId netns (some network.1) (ethName network.2) calls).2.isOk =
      m.reports containerId netns network := by
  unfold add exec reports callFor
  cases m.plugin (some network.1) with
  | error e => rfl
  | ok config =>
    simp only [Except.toOption, Option.map_some, Option.any_some]
    obtain ⟨e, he, hread⟩ | ⟨json, he, hread⟩ := output_add_cases
      (m.run ⟨.add, containerId, netns, ethName network.2, config⟩)
    · rw [he, hread]
      rfl
    · rw [he, hread]
      exact isOk_parseNetworkResult json (ethName network.2)

theorem calls_add (network : String × ℕ) (calls : List (Invocation φ)) :
    (m.add containerId netns (some network.1) (ethName network.2) calls).1 =
      calls ++ (m.callFor containerId netns .add network).toList := by
  have hexec : (m.exec containerId netns .add (some network.1) (ethName network.2) calls).1 =
      calls ++ (m.callFor containerId netns .add network).toList := by rw [exec_eq]
  rw [← hexec, add]
  obtain ⟨calls', result⟩ :=
    m.exec containerId netns .add (some network.1) (ethName network.2) calls
  cases result with
  | error e => rfl
  | ok output => cases output <;> rfl

theorem addNext_eq (m : CniManager φ) (containerId netns : String)
    (s : List (Invocation φ) × List NetworkAttachment) (network : String × ℕ) :
    (m.addNext containerId netns s network).1 =
        s.1 ++ (m.callFor containerId netns .add network).toList ∧
      (m.addNext containerId netns s network).2.map NetworkAttachment.networkName =
        s.2.map NetworkAttachment.networkName ++
          if m.reports containerId netns network then [network.1] else [] := by
  rw [← isOk_add network s.1, ← calls_add network s.1]
  unfold addNext
  obtain ⟨calls, result⟩ := m.add containerId netns (some network.1) (ethName network.2) s.1
  cases result with
  | error e => simp [Except.isOk, Except.toBool]
  | ok result => simp [Except.isOk, Except.toBool]

/-- The loop of `add_multiple`: a call for every plugin that can be started, and the names of
the networks that are reported. -/
theorem foldl_addNext (m : CniManager φ) (containerId netns : String)
    (networks : List (String × ℕ)) (s : List (Invocation φ) × List NetworkAttachment) :
    (networks.foldl (m.addNext containerId netns) s).1 =
        s.1 ++ networks.filterMap (m.callFor containerId netns .add) ∧
      (networks.foldl (m.addNext containerId netns) s).2.map NetworkAttachment.networkName =
        s.2.map NetworkAttachment.networkName ++
          (networks.filter (m.reports containerId netns)).map Prod.fst := by
  induction networks generalizing s with
  | nil => simp
  | cons network networks ih =>
    obtain ⟨hcalls, hnames⟩ := addNext_eq m containerId netns s network
    rw [List.foldl_cons, (ih _).1, (ih _).2, hcalls, hnames]
    cases hcall : m.callFor containerId netns .add network <;>
      cases hreports : m.reports containerId netns network <;> simp [hcall, hreports]

theorem delMultiple_eq (networks : List String) (calls : List (Invocation φ)) :
    (m.delMultiple containerId netns networks calls).1 =
      calls ++ networks.zipIdx.filterMap (m.callFor containerId netns .del) := by
  unfold delMultiple
  dsimp only
  induction networks.zipIdx generalizing calls with
  | nil => simp
  | cons network networks ih =>
    rw [List.foldl_cons, ih, del, exec_eq]
    cases hcall : m.callFor containerId netns .del network <;> simp [hcall]

/-- The networks that are reported, in the order of the list. -/
def reported (m : CniManager φ) (containerId netns : String) (networks : List String) :
    List String :=
  (networks.zipIdx.filter (m.reports containerId netns)).map Prod.fst

theorem attachDetach_eq (networks : List String) :
    m.attachDetach containerId netns networks =
      networks.zipIdx.filterMap (m.callFor containerId netns .add) ++
        (m.reported containerId netns networks).zipIdx.filterMap
          (m.callFor containerId netns .del) := by
  obtain ⟨hcalls, hnames⟩ := foldl_addNext m containerId netns networks.zipIdx ([], [])
  rw [List.nil_append] at hcalls
  rw [List.map_nil, List.nil_append, ← reported] at hnames
  unfold attachDetach addMultiple
  generalize networks.zipIdx.foldl (m.addNext containerId netns) ([], []) = s at hcalls hnames
  obtain ⟨calls, attachments⟩ := s
  dsimp only at hcalls hnames ⊢
  split_ifs with hempty
  · have hnone : attachments = [] := List.isEmpty_iff.mp hempty.1
    rw [hnone, List.map_nil] at hnames
    rw [← hnames, ← hcalls]
    simp [delMultiple_eq]
  · rw [← hnames, ← hcalls]
    exact delMultiple_eq _ _

/-- The interfaces of the calls with a property, by the networks they are made for. -/
theorem map_interface_filter {command : Command} {p : Invocation φ → Bool}
    (networks : List (String × ℕ)) :
    ((networks.filterMap (m.callFor containerId netns command)).filter p).map Invocation.interface =
      (networks.filter fun network =>
        (m.callFor containerId netns command network).any p).map interfaceAt := by
  induction networks with
  | nil => rfl
  | cons network networks ih =>
    cases hcall : m.callFor containerId netns command network with
    | none => simpa [hcall] using ih
    | some call =>
      have hinterface := (callFor_eq_some hcall).2
      cases hp : p call <;> simp [hcall, hp, hinterface, ih]

theorem any_callFor_congr {command : Command} {network : String × ℕ} {p q : Invocation φ → Bool}
    (h : ∀ call, call.command = command → p call = q call) :
    (m.callFor containerId netns command network).any p =
      (m.callFor containerId netns command network).any q := by
  cases hcall : m.callFor containerId netns command network with
  | none => rfl
  | some call => exact h call (callFor_eq_some hcall).1

theorem attached_attachDetach (networks : List String) :
    m.attached (m.attachDetach containerId netns networks) =
      (networks.zipIdx.filter (m.completes containerId netns)).map interfaceAt := by
  have hadd : ∀ network, (m.callFor containerId netns .add network).any (fun call =>
      call.command = .add ∧ (m.run call).success = true) = m.completes containerId netns network :=
    fun network => any_callFor_congr fun call hcommand => by simp [hcommand]
  have hdel : ∀ network, (m.callFor containerId netns .del network).any (fun call =>
      call.command = .add ∧ (m.run call).success = true) = false := by
    intro network
    rw [any_callFor_congr (q := fun _ => false) fun call hcommand => by simp [hcommand]]
    cases m.callFor containerId netns .del network <;> rfl
  rw [attached, attachDetach_eq, List.filter_append, List.map_append, map_interface_filter,
    map_interface_filter]
  simp only [hadd, hdel, List.filter_false, List.map_nil, List.append_nil]

theorem detached_attachDetach (networks : List String) :
    detached (m.attachDetach containerId netns networks) =
      (m.reported containerId netns networks).zipIdx.map interfaceAt := by
  have hadd : ∀ network, (m.callFor containerId netns .add network).any (fun call =>
      call.command = .del) = false := by
    intro network
    rw [any_callFor_congr (q := fun _ => false) fun call hcommand => by simp [hcommand]]
    cases m.callFor containerId netns .add network <;> rfl
  have hdel : ∀ network ∈ (m.reported containerId netns networks).zipIdx,
      (m.callFor containerId netns .del network).any (fun call => call.command = .del) = true := by
    rintro ⟨name, i⟩ hmem
    have hname : name ∈ m.reported containerId netns networks := by
      have hfst := List.mem_map_of_mem (f := Prod.fst) hmem
      rwa [List.zipIdx_map_fst] at hfst
    obtain ⟨⟨_, j⟩, hreported, rfl⟩ := List.mem_map.mp hname
    have hadded : (m.callFor containerId netns .add (_, j)).isSome :=
      Option.isSome_of_any (List.mem_filter.mp hreported).2
    rw [isSome_callFor .add .del _ j i] at hadded
    obtain ⟨call, hcall⟩ := Option.isSome_iff_exists.mp hadded
    simp [hcall, (callFor_eq_some hcall).1]
  rw [detached, attachDetach_eq, List.filter_append, List.map_append, map_interface_filter,
    map_interface_filter, List.filter_eq_self.mpr hdel]
  simp only [hadd, List.filter_false, List.map_nil, List.nil_append]

/-- The attached interfaces are detached exactly when every `ADD` that is completed is also
reported and none that is not stands before it. -/
theorem detachesAttached_iff (m : CniManager φ) (containerId netns : String)
    (networks : List String) :
    m.DetachesAttached containerId netns networks ↔
      m.KeepsPositions containerId netns networks := by
  have hreports : ∀ network, m.reports containerId netns network = true →
      m.completes containerId netns network = true := by
    intro network h
    obtain ⟨call, hcall, hboth⟩ := (Option.any_eq_true _ _).mp h
    rw [Bool.and_eq_true] at hboth
    exact (Option.any_eq_true _ _).mpr ⟨call, hcall, hboth.1⟩
  have hmap : m.DetachesAttached containerId netns networks ↔ ∀ network,
      network ∈ (m.reported containerId netns networks).zipIdx ↔
        network ∈ networks.zipIdx.filter (m.completes containerId netns) := by
    unfold DetachesAttached
    rw [detached_attachDetach, attached_attachDetach]
    constructor
    · intro h network
      have hnetwork := h (interfaceAt network)
      rwa [List.mem_map_of_injective interfaceAt_injective,
        List.mem_map_of_injective interfaceAt_injective] at hnetwork
    · intro h interface
      simp only [List.mem_map, h]
  rw [hmap]
  exact zipIdx_filter_eq_iff networks hreports

/-- Two networks, and a plugin that fails for the first interface of a VM. -/
def secondOnly : CniManager Empty where
  configDir := ((∅ : ConfigDir Empty).insert "web.conf"
    (some (bridgeConfig "web" "10.0.1.0/24"))).insert "db.conf"
      (some (bridgeConfig "db" "10.0.2.0/24"))
  pluginExists _ := true
  spawn _ := .ok ()
  run call :=
    { stdin := .ok ()
      waited := .ok ()
      success := call.ifname ≠ "eth0" || call.command = .del
      stderr := ""
      stdout := some (.obj [("ips", .arr [.obj [("address", .str "10.0.2.2/24")]])]) }

theorem configFiles_secondOnly : configFiles secondOnly.configDir = ["db.conf", "web.conf"] := by
  have hkeys : secondOnly.configDir.keys.filter (fun file => IsConfig file) =
      ["db.conf", "web.conf"] := by decide
  rw [configFiles, hkeys]
  exact List.mergeSort_of_pairwise (by decide)

/-- The network `db` is attached to `eth1`, and `eth0` is detached from it. -/
theorem second_detached_as_first :
    ¬ secondOnly.DetachesAttached "vm" "/run/netns/vm" ["web", "db"] := by
  have hweb : secondOnly.reports "vm" "/run/netns/vm" ("web", 0) = false := by
    simp only [reports, callFor, plugin, findConfig, configFiles_secondOnly]
    decide
  have hdb : secondOnly.reports "vm" "/run/netns/vm" ("db", 1) = true := by
    simp only [reports, callFor, plugin, findConfig, configFiles_secondOnly]
    decide
  intro h
  have hsecond := h ("db", "eth0")
  rw [detached_attachDetach, attached_attachDetach] at hsecond
  have hreported : secondOnly.reported "vm" "/run/netns/vm" ["web", "db"] = ["db"] := by
    simp [reported, List.zipIdx, hweb, hdb]
  rw [hreported] at hsecond
  obtain ⟨network, hmem, heq⟩ := List.mem_map.mp (hsecond.mp (by decide))
  have hnone : ∀ network ∈ ["web", "db"].zipIdx, interfaceAt network ≠ ("db", "eth0") := by decide
  exact hnone network (List.mem_filter.mp hmem).1 heq

end CniManager

end Vyoma.Cni
