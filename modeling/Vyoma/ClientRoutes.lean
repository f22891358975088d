import Vyoma.DashboardAccess
import Vyoma.TextSplits

/-!
# Where the requests of the clients arrive

Four clients talk to the daemon over HTTP: the command line, the dashboard, the Python library
and the CRI server. Each writes the paths of its requests itself, with ids and names as they
are. What is one plain segment of a URL arrives as it was written; anything else is cut,
resolved or encoded on the way. A path that is no route of the
API is answered by the dashboard with a page, and with status 200 unless it looks like the name
of a file, so that a client that goes wrong need not notice: the dashboard starts and stops no
machine and deploys no stack, and takes the answer for success.
-/
namespace Vyoma.Daemon
open RustText TextSearch

/-! ## Requests of the clients -/

inductive Client where
  | cli
  | dashboard
  | python
  | cri
  deriving DecidableEq, Repr

/-- A part of a path: as it is written, or what the call is about. -/
inductive Part where
  | lit (text : String)
  | arg
  deriving DecidableEq, Repr

/-- A request that a client sends, other than for the health check, and the handler that takes
it, if there is one. -/
structure ClientCall where
  client : Client
  name : String
  method : String
  parts : List Part
  handler : Option String
  deriving DecidableEq, Repr

def Part.text (arg : List Char) : Part → List Char
  | .lit text => text.toList
  | .arg => arg

def ClientCall.target (call : ClientCall) (arg : List Char) : List Char :=
  ['/'].intercalate (call.parts.map (Part.text arg))

def ClientCall.path (call : ClientCall) (arg : List Char) : String :=
  String.ofList ('/' :: call.target arg)

def cliCalls : List ClientCall :=
  [⟨.cli, "Pull", "POST", [.lit "pull"], some "pull_image_handler"⟩,
    ⟨.cli, "Run", "POST", [.lit "run"], some "run_vm"⟩,
    ⟨.cli, "Commit", "POST", [.lit "commit", .arg], some "commit_vm"⟩,
    ⟨.cli, "Stop", "POST", [.lit "stop", .arg], some "stop_vm"⟩,
    ⟨.cli, "Pause", "POST", [.lit "pause", .arg], some "pause_vm"⟩,
    ⟨.cli, "Hibernate", "POST", [.lit "vms", .arg, .lit "hibernate"], some "hibernate_vm_handler"⟩,
    ⟨.cli, "Resume", "POST", [.lit "vms", .arg, .lit "resume"], some "resume_vm"⟩,
    ⟨.cli, "Ps", "GET", [.lit "ps"], some "list_vms"⟩,
    ⟨.cli, "Exec", "POST", [.lit "exec", .arg], some "exec_in_vm"⟩,
    ⟨.cli, "Inspect", "GET", [.lit "vms", .arg], some "inspect_vm_handler"⟩,
    ⟨.cli, "Snapshot", "POST", [.lit "snapshot", .arg], some "snapshot_vm"⟩,
    ⟨.cli, "History", "GET", [.lit "history", .arg], some "history_vm"⟩,
    ⟨.cli, "Restore", "POST", [.lit "restore"], some "restore_vm"⟩,
    ⟨.cli, "Branch", "POST", [.lit "vms", .arg, .lit "branch"], some "branch_vm_handler"⟩,
    ⟨.cli, "Teleport", "POST", [.lit "teleport"], some "teleport_handler"⟩,
    ⟨.cli, "Teleport", "GET", [.lit "teleport", .lit "status", .arg],
      some "teleport_status_handler"⟩,
    ⟨.cli, "Teleport", "POST", [.lit "receive-teleport"], some "receive_teleport_handler"⟩,
    ⟨.cli, "CancelTeleport", "POST", [.lit "teleport", .lit "cancel", .arg],
      some "cancel_teleport_by_id_handler"⟩,
    ⟨.cli, "ResizeDisk", "POST", [.lit "vms", .arg, .lit "resize-disk"],
      some "resize_disk_handler"⟩,
    ⟨.cli, "Logs", "GET", [.lit "logs", .arg], some "stream_logs"⟩,
    ⟨.cli, "Network", "GET", [.lit "networks"], some "list_networks_handler"⟩,
    ⟨.cli, "Network", "POST", [.lit "networks"], some "create_network_handler"⟩,
    ⟨.cli, "Network", "DELETE", [.lit "networks", .arg], some "delete_network_handler"⟩,
    ⟨.cli, "Swarm", "POST", [.lit "swarm", .lit "init"], some "swarm_init_handler"⟩,
    ⟨.cli, "Swarm", "POST", [.lit "swarm", .lit "join"], some "swarm_join_handler"⟩,
    ⟨.cli, "Swarm", "GET", [.lit "swarm", .lit "nodes"], some "swarm_nodes_handler"⟩,
    ⟨.cli, "Stats", "GET", [.lit "vms", .arg, .lit "stats"], some "get_vm_stats"⟩,
    ⟨.cli, "Build", "POST", [.lit "build"], some "build_image"⟩,
    ⟨.cli, "Attest", "GET", [.lit "vm", .arg], none⟩,
    ⟨.cli, "Attest", "POST", [.lit "attest", .arg], some "attest_vm_handler"⟩]

def dashboardCalls : List ClientCall :=
  [⟨.dashboard, "useVmList", "GET", [.lit "ps"], some "list_vms"⟩,
    ⟨.dashboard, "startVm", "POST", [.lit "vms", .arg, .lit "start"], none⟩,
    ⟨.dashboard, "stopVm", "POST", [.lit "vms", .arg, .lit "stop"], none⟩,
    ⟨.dashboard, "pauseVm", "POST", [.lit "vms", .arg, .lit "pause"], none⟩,
    ⟨.dashboard, "resumeVm", "POST", [.lit "vms", .arg, .lit "resume"], some "resume_vm"⟩,
    ⟨.dashboard, "deleteVm", "DELETE", [.lit "vms", .arg], none⟩,
    ⟨.dashboard, "resizeDisk", "POST", [.lit "vms", .arg, .lit "resize-disk"],
      some "resize_disk_handler"⟩,
    ⟨.dashboard, "teleportVm", "POST", [.lit "teleport"], some "teleport_handler"⟩,
    ⟨.dashboard, "cancelTeleport", "POST", [.lit "teleport", .lit "cancel", .arg],
      some "cancel_teleport_by_id_handler"⟩,
    ⟨.dashboard, "useVmStats", "GET", [.lit "vms", .arg, .lit "stats"], some "get_vm_stats"⟩,
    ⟨.dashboard, "useSnapshots", "GET", [.lit "history", .arg], some "history_vm"⟩,
    ⟨.dashboard, "useCreateSnapshot", "POST", [.lit "snapshot", .arg], some "snapshot_vm"⟩,
    ⟨.dashboard, "useRestoreSnapshot", "POST", [.lit "restore"], some "restore_vm"⟩,
    ⟨.dashboard, "useImages", "GET", [.lit "images"], some "list_images_handler"⟩,
    ⟨.dashboard, "useVolumes", "GET", [.lit "volumes"], some "list_volumes_handler"⟩,
    ⟨.dashboard, "useNetworks", "GET", [.lit "networks"], some "list_networks_handler"⟩,
    ⟨.dashboard, "useSwarmNodes", "GET", [.lit "swarm", .lit "nodes"],
      some "swarm_nodes_handler"⟩,
    ⟨.dashboard, "HubPage", "GET", [.lit "hub", .lit "search"], none⟩,
    ⟨.dashboard, "ComposePage", "POST", [.lit "up"], none⟩,
    ⟨.dashboard, "EventsPage", "GET", [.lit "events"], some "events_handler"⟩,
    ⟨.dashboard, "LogViewerPage", "GET", [.lit "logs", .arg], some "stream_logs"⟩]

def pythonCalls : List ClientCall :=
  [⟨.python, "run", "POST", [.lit "run"], some "run_vm"⟩,
    ⟨.python, "list", "GET", [.lit "vms"], none⟩,
    ⟨.python, "get", "GET", [.lit "vms", .arg], some "inspect_vm_handler"⟩,
    ⟨.python, "stop", "POST", [.lit "stop", .arg], some "stop_vm"⟩,
    ⟨.python, "snapshot", "POST", [.lit "snapshot", .arg], some "snapshot_vm"⟩,
    ⟨.python, "restore", "POST", [.lit "vms", .arg, .lit "restore"], some "restore_vm_by_id"⟩,
    ⟨.python, "branch", "POST", [.lit "vms", .arg, .lit "branch"], some "branch_vm_handler"⟩,
    ⟨.python, "hibernate", "POST", [.lit "vms", .arg, .lit "hibernate"],
      some "hibernate_vm_handler"⟩,
    ⟨.python, "resume", "POST", [.lit "resume", .arg], some "resume_vm"⟩,
    ⟨.python, "teleport", "POST", [.lit "teleport"], some "teleport_handler"⟩,
    ⟨.python, "snapshots", "GET", [.lit "vms", .arg, .lit "snapshots"], none⟩,
    ⟨.python, "nodes", "GET", [.lit "swarm", .lit "nodes"], some "swarm_nodes_handler"⟩,
    ⟨.python, "init", "POST", [.lit "swarm", .lit "init"], some "swarm_init_handler"⟩,
    ⟨.python, "name_node", "POST", [.lit "swarm", .lit "nodes", .arg, .lit "name"],
      some "tag_node_handler"⟩]

def criCalls : List ClientCall :=
  [⟨.cri, "PullImage", "POST", [.lit "pull"], some "pull_image_handler"⟩,
    ⟨.cri, "ListImages", "GET", [.lit "images"], some "list_images_handler"⟩,
    ⟨.cri, "ImageStatus", "GET", [.lit "images", .arg], none⟩,
    ⟨.cri, "RemoveImage", "DELETE", [.lit "images", .arg], none⟩,
    ⟨.cri, "getVMIP", "GET", [.lit "vms", .arg], some "inspect_vm_handler"⟩,
    ⟨.cri, "syncPodsFromVyomad", "GET", [.lit "ps"], some "list_vms"⟩]

def clientCalls : List ClientCall := cliCalls ++ dashboardCalls ++ pythonCalls ++ criCalls

/-! ## Paths by their segments -/

/-- The routes of the API for the segments of a path. -/
def routesFor (segments : List (List Char)) : List ApiRoute :=
  apiRoutes.filter fun route =>
    let patterns := route.pattern.toList.splitOn '/'
    patterns.length = segments.length &&
      (patterns.zip segments).all fun e => segmentMatches e.1 e.2

theorem apiRoutesAt_eq (path : String) :
    apiRoutesAt path = routesFor (path.toList.splitOn '/') := rfl

/-- What the daemon would call for the segments and the method. -/
def handlerFor (segments : List (List Char)) (method : String) : Option String :=
  ((routesFor segments).find? fun route => methodMatches route.method method).map ApiRoute.handler

/-- The dashboard calls no handler. -/
theorem uiHandler_ne_handler (assets : Assets) (apiToken : Option String) (req : HttpRequest)
    (name : String) : uiHandler assets apiToken req ≠ .handler name := by
  intro h
  unfold uiHandler at h
  dsimp only at h
  split at h
  · split_ifs at h
  · split_ifs at h
    all_goals split at h
    all_goals cases h

/-- A request that passes the check is for the handler of its segments. -/
theorem router_eq_handler_iff {assets : Assets} {apiToken : Option String} {req : HttpRequest}
    (hmethod : req.method ≠ "OPTIONS") (hhealth : req.path ≠ "/health")
    (hauth : authMiddleware apiToken req = true) (name : String) :
    router assets apiToken req = .handler name ↔
      handlerFor (req.path.toList.splitOn '/') req.method = some name := by
  unfold router handlerFor
  rw [if_neg hmethod, if_neg hhealth, apiRoutesAt_eq, hauth, if_pos rfl]
  split_ifs with hnone
  · rw [hnone]
    exact iff_of_false (uiHandler_ne_handler assets apiToken req name) fun h => nomatch h
  · cases (routesFor (req.path.toList.splitOn '/')).find? fun route =>
        methodMatches route.method req.method with
    | none => exact iff_of_false (fun h => nomatch h) fun h => nomatch h
    | some route =>
      rw [Option.map_some, Option.some_inj]
      exact ⟨fun h => Answer.handler.inj h, fun h => congrArg Answer.handler h⟩

/-! ## The paths of the clients -/

/-- What is written in a path is a word without a slash or a dot, and is not the path of the
health check. -/
def Part.Written : Part → Prop
  | .lit text => '/' ∉ text.toList ∧ '.' ∉ text.toList ∧ text ≠ "" ∧ text ≠ "health"
  | .arg => True

instance : DecidablePred Part.Written
  | .lit _ => inferInstanceAs (Decidable (_ ∧ _ ∧ _ ∧ _))
  | .arg => isTrue trivial

/-- A path begins with a word of its own. -/
structure ClientCall.Regular (call : ClientCall) : Prop where
  method : call.method ≠ "OPTIONS"
  first : ∃ text more, call.parts = .lit text :: more
  written : ∀ part ∈ call.parts, part.Written

theorem clientCalls_regular : ∀ call ∈ clientCalls, call.Regular := by
  have hmethod : clientCalls.all (fun call => call.method ≠ "OPTIONS") = true := by decide
  have hfirst : clientCalls.all (fun call => call.parts.head?.any (· ≠ .arg)) = true := by decide
  have hwritten : clientCalls.all (fun call => call.parts.all fun part => part.Written) = true := by
    decide
  intro call hcall
  refine ⟨of_decide_eq_true (List.all_eq_true.mp hmethod call hcall), ?_, fun part hpart =>
    of_decide_eq_true (List.all_eq_true.mp (List.all_eq_true.mp hwritten call hcall) part hpart)⟩
  have hhead := List.all_eq_true.mp hfirst call hcall
  cases hparts : call.parts with
  | nil =>
    rw [hparts] at hhead
    cases hhead
  | cons part more =>
    cases part with
    | lit text => exact ⟨text, more, rfl⟩
    | arg =>
      rw [hparts] at hhead
      cases hhead

theorem ClientCall.Regular.segments {call : ClientCall} (h : call.Regular) {arg : List Char}
    (harg : '/' ∉ arg) :
    (call.path arg).toList.splitOn '/' = [] :: call.parts.map (Part.text arg) := by
  obtain ⟨text, more, hparts⟩ := h.first
  have hfree : ∀ segment ∈ call.parts.map (Part.text arg), '/' ∉ segment := by
    intro segment hsegment
    obtain ⟨part, hpart, rfl⟩ := List.mem_map.mp hsegment
    have hwritten := h.written part hpart
    cases part with
    | lit _ => exact hwritten.1
    | arg => exact harg
  have hne : call.parts.map (Part.text arg) ≠ [] := by
    rw [hparts]
    exact List.cons_ne_nil _ _
  rw [ClientCall.path, String.toList_ofList, List.splitOn_cons_eq_if_modifyHead,
    if_pos (BEq.rfl), ClientCall.target, List.splitOn_intercalate '/' hfree hne]

/-- The characters that stand for themselves in a segment of a URL. -/
def pathChar (c : Char) : Bool := c.isAlphanum || c ∈ "-._~!$&'()*+,;=:@".toList

/-- What arrives as it was written: one segment of a URL that no parser changes. -/
def Segment (arg : List Char) : Prop :=
  arg ≠ [] ∧ (∀ c ∈ arg, pathChar c = true) ∧ arg ≠ ['.'] ∧ arg ≠ ['.', '.']

instance : DecidablePred Segment := fun _ => inferInstanceAs (Decidable (_ ∧ _ ∧ _ ∧ _))

theorem Segment.notMem_slash {arg : List Char} (h : Segment arg) : '/' ∉ arg := by
  intro hslash
  have hchar := h.2.1 '/' hslash
  revert hchar
  decide

/-! ## Requests and their handlers -/

/-- No part that is an argument could be taken for another route: the handler of a call is the
same for every argument. -/
theorem handlerFor_calls (c : Char) (cs : List Char) :
    (clientCalls.map fun call =>
      handlerFor ([] :: call.parts.map (Part.text (c :: cs))) call.method) =
    clientCalls.map ClientCall.handler := rfl

theorem handlerFor_call {call : ClientCall} (hcall : call ∈ clientCalls) {arg : List Char}
    (hne : arg ≠ []) :
    handlerFor ([] :: call.parts.map (Part.text arg)) call.method = call.handler := by
  obtain ⟨c, cs, rfl⟩ := List.exists_cons_of_ne_nil hne
  exact List.map_inj_left.mp (handlerFor_calls c cs) call hcall

/-- No request of a client is for the health check. -/
theorem ClientCall.Regular.ne_health {call : ClientCall} (h : call.Regular) {arg : List Char}
    (harg : '/' ∉ arg) : call.path arg ≠ "/health" := by
  intro hpath
  obtain ⟨text, more, hparts⟩ := h.first
  have hsegments := h.segments harg
  have hhealth : "/health".toList.splitOn '/' = [[], "health".toList] := by decide
  rw [hpath, hhealth, hparts] at hsegments
  have hwritten := h.written (.lit text) (hparts ▸ List.mem_cons_self)
  have htext : "health".toList = text.toList :=
    (List.cons.inj (List.cons.inj hsegments).2).1
  exact hwritten.2.2.2 (String.toList_injective htext).symm

/-- A request of the client, without a token. -/
def ClientCall.request (call : ClientCall) (arg : List Char) : HttpRequest :=
  ⟨call.method, call.path arg, none, none⟩

def cliStop : ClientCall :=
  ⟨.cli, "Stop", "POST", [.lit "stop", .arg], some "stop_vm"⟩

/-- No route of the API matches the calls without a handler, but for the one whose route takes
another method. -/
theorem routesFor_calls (c : Char) (cs : List Char) :
    (clientCalls.map fun call =>
      (routesFor ([] :: call.parts.map (Part.text (c :: cs)))).isEmpty) =
    clientCalls.map fun call => call.handler.isNone && call.name ≠ "deleteVm" := rfl

theorem routesFor_eq_nil_iff {call : ClientCall} (hcall : call ∈ clientCalls) {arg : List Char}
    (hne : arg ≠ []) :
    routesFor ([] :: call.parts.map (Part.text arg)) = [] ↔
      call.handler = none ∧ call.name ≠ "deleteVm" := by
  obtain ⟨c, cs, rfl⟩ := List.exists_cons_of_ne_nil hne
  rw [← List.isEmpty_iff, List.map_inj_left.mp (routesFor_calls c cs) call hcall]
  simp

theorem ClientCall.Regular.dot_mem_target {call : ClientCall} (h : call.Regular)
    (arg : List Char) : '.' ∈ call.target arg ↔ .arg ∈ call.parts ∧ '.' ∈ arg := by
  rw [ClientCall.target, mem_intercalate (by decide)]
  constructor
  · rintro ⟨segment, hsegment, hdot⟩
    obtain ⟨part, hpart, rfl⟩ := List.mem_map.mp hsegment
    have hwritten := h.written part hpart
    cases part with
    | lit _ => exact absurd hdot hwritten.2.1
    | arg => exact ⟨hpart, hdot⟩
  · rintro ⟨hpart, hdot⟩
    exact ⟨arg, List.mem_map.mpr ⟨.arg, hpart, rfl⟩, hdot⟩

/-- The slash of a path is the only one it begins with. -/
theorem ClientCall.Regular.target_eq_cons {call : ClientCall} (h : call.Regular)
    (arg : List Char) : ∃ c cs, call.target arg = c :: cs ∧ c ≠ '/' := by
  obtain ⟨text, more, hparts⟩ := h.first
  obtain ⟨hslash, -, hempty, -⟩ := h.written (.lit text) (hparts ▸ List.mem_cons_self)
  obtain ⟨c, cs, htext⟩ :=
    List.exists_cons_of_ne_nil fun hnil => hempty (String.toList_eq_nil_iff.mp hnil)
  have hc : c ≠ '/' := by
    rintro rfl
    exact hslash (htext ▸ List.mem_cons_self)
  rw [ClientCall.target, hparts, List.map_cons, Part.text, htext]
  cases more with
  | nil => exact ⟨c, cs, List.intercalate_singleton, hc⟩
  | cons part more => exact ⟨c, _, List.intercalate_cons_cons, hc⟩

theorem ClientCall.Regular.uiHandler_eq {call : ClientCall} (h : call.Regular) {arg : List Char}
    {assets : Assets} {html : List UInt8} (hindex : assets "index.html" = some html)
    (hasset : assets (String.ofList (call.target arg)) = none) (apiToken : Option String)
    {req : HttpRequest} (hpath : req.path = call.path arg) :
    uiHandler assets apiToken req =
      if .arg ∈ call.parts ∧ '.' ∈ arg then .notFound "404 Not Found"
      else .page (injectMeta (fromUtf8Lossy html) apiToken) := by
  obtain ⟨c, cs, htarget, hc⟩ := h.target_eq_cons arg
  have hname : (call.path arg).toList.dropWhile (· = '/') = call.target arg := by
    rw [ClientCall.path, String.toList_ofList, htarget, List.dropWhile_cons_of_pos (by simp),
      List.dropWhile_cons_of_neg (by simpa using hc)]
  have hsome : String.ofList (call.target arg) ≠ "" := by
    intro hempty
    have hnil := congrArg String.toList hempty
    rw [String.toList_ofList, htarget] at hnil
    cases hnil
  unfold uiHandler
  dsimp only
  rw [hpath, hname, if_neg hsome, hasset]
  dsimp only
  rw [String.toList_ofList, hindex]
  exact if_congr (h.dot_mem_target arg) rfl rfl

/-- A call that no handler takes does not fail: the daemon answers it with the page of the
dashboard, whatever the method, and asks for no token. A dot in what the call is about makes the
dashboard look for a file, and one call is refused for its method. -/
theorem call_unhandled {call : ClientCall} (hcall : call ∈ clientCalls)
    (hhandler : call.handler = none) {arg : List Char} (harg : Segment arg)
    {assets : Assets} {html : List UInt8} (hindex : assets "index.html" = some html)
    (hasset : assets (String.ofList (call.target arg)) = none) (apiToken : Option String)
    {req : HttpRequest} (hmethod : req.method = call.method) (hpath : req.path = call.path arg) :
    router assets apiToken req =
      if call.name = "deleteVm" then
        if authMiddleware apiToken req then .methodNotAllowed else .unauthorized
      else if .arg ∈ call.parts ∧ '.' ∈ arg then .notFound "404 Not Found"
      else .page (injectMeta (fromUtf8Lossy html) apiToken) := by
  have hregular := clientCalls_regular call hcall
  have hslash := harg.notMem_slash
  have hroutes : apiRoutesAt req.path = routesFor ([] :: call.parts.map (Part.text arg)) := by
    rw [apiRoutesAt_eq, hpath, hregular.segments hslash]
  have hnone := handlerFor_call hcall harg.1
  rw [hhandler, handlerFor, Option.map_eq_none_iff, ← hroutes, ← hmethod] at hnone
  have hnil := routesFor_eq_nil_iff hcall harg.1
  rw [← hroutes] at hnil
  unfold router
  rw [if_neg (hmethod ▸ hregular.method), if_neg (hpath ▸ hregular.ne_health hslash), hnone,
    hregular.uiHandler_eq hindex hasset apiToken hpath]
  by_cases hname : call.name = "deleteVm"
  · rw [if_neg fun h => (hnil.mp h).2 hname, if_pos hname]
  · rw [if_pos (hnil.mpr ⟨hhandler, hname⟩), if_neg hname]

def dashboardStart : ClientCall :=
  ⟨.dashboard, "startVm", "POST", [.lit "vms", .arg, .lit "start"], none⟩

theorem start_unhandled : router onlyIndex (some "s3cret") (dashboardStart.request "vm1".toList) =
      if dashboardStart.name = "deleteVm" then
        if authMiddleware (some "s3cret") (dashboardStart.request "vm1".toList) then
          .methodNotAllowed
        else .unauthorized
      else if .arg ∈ dashboardStart.parts ∧ '.' ∈ "vm1".toList then .notFound "404 Not Found"
      else .page (injectMeta (fromUtf8Lossy indexHtml) (some "s3cret")) :=
  call_unhandled (by decide) rfl (by decide) rfl (by decide) (some "s3cret") rfl rfl

end Vyoma.Daemon
