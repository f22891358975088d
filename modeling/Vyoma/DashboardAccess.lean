import Vyoma.RustText
import Vyoma.TextSearch

/-!
# Who reaches the API of the daemon

The routes of the API stand behind a check for a token, in a header or in a cookie. What is not
such a route goes to the dashboard, whose pages are public and name the token, so that the
dashboard can use the API. The files of the dashboard are built elsewhere and are a parameter.
-/
namespace Vyoma.Daemon
open RustText TextSearch

/-! ## Requests -/

/-- A request as it has been received. A header is what its first line says. -/
structure HttpRequest where
  method : String
  path : String
  authorization : Option (List UInt8)
  cookie : Option (List UInt8)

/-- `HeaderValue::to_str`: visible characters of ASCII, blanks and tabs. -/
def headerText (value : List UInt8) : Option (List Char) :=
  if value.all fun b => (32 ≤ b && b < 127) || b = 9 then
    some (value.map fun b => Char.ofNat b.toNat)
  else none

/-- The token in a header of the scheme `Bearer`. -/
def bearerToken (req : HttpRequest) : Option (List Char) :=
  (req.authorization.bind headerText).bind fun text => "Bearer ".toList.isPrefixOf? text

/-- The tokens in a cookie header. -/
def cookieTokens (req : HttpRequest) : List (List Char) :=
  match req.cookie.bind headerText with
  | none => []
  | some text => (text.splitOn ';').filterMap fun pair =>
    "vyoma_token=".toList.isPrefixOf? (trim pair)

/-- Whether `auth_middleware` lets the request pass. -/
def authMiddleware (apiToken : Option String) (req : HttpRequest) : Bool :=
  match apiToken with
  | none => true
  | some token => bearerToken req = some token.toList || token.toList ∈ cookieTokens req

/-! ## Routes -/

structure ApiRoute where
  method : String
  pattern : String
  handler : String

/-- The routes with the check. -/
def apiRoutes : List ApiRoute :=
  [⟨"POST", "/run", "run_vm"⟩,
    ⟨"POST", "/pull", "pull_image_handler"⟩,
    ⟨"POST", "/stop/:id", "stop_vm"⟩,
    ⟨"POST", "/pause/:id", "pause_vm"⟩,
    ⟨"POST", "/resume/:id", "resume_vm"⟩,
    ⟨"POST", "/vms/:id/resume", "resume_vm"⟩,
    ⟨"POST", "/hibernate/:id", "hibernate_vm_handler"⟩,
    ⟨"POST", "/vms/:id/hibernate", "hibernate_vm_handler"⟩,
    ⟨"GET", "/ps", "list_vms"⟩,
    ⟨"POST", "/exec/:id", "exec_in_vm"⟩,
    ⟨"POST", "/commit/:id", "commit_vm"⟩,
    ⟨"POST", "/snapshot/:id", "snapshot_vm"⟩,
    ⟨"GET", "/history/:id", "history_vm"⟩,
    ⟨"POST", "/time-travel", "time_travel_vm"⟩,
    ⟨"POST", "/restore", "restore_vm"⟩,
    ⟨"POST", "/vms/:id/restore", "restore_vm_by_id"⟩,
    ⟨"POST", "/vms/:id/branch", "branch_vm_handler"⟩,
    ⟨"POST", "/branch/:id", "branch_vm_handler"⟩,
    ⟨"GET", "/logs/:id", "stream_logs"⟩,
    ⟨"POST", "/build", "build_image"⟩,
    ⟨"GET", "/images", "list_images_handler"⟩,
    ⟨"GET", "/volumes", "list_volumes_handler"⟩,
    ⟨"GET", "/networks", "list_networks_handler"⟩,
    ⟨"POST", "/networks", "create_network_handler"⟩,
    ⟨"DELETE", "/networks/:name", "delete_network_handler"⟩,
    ⟨"GET", "/events", "events_handler"⟩,
    ⟨"GET", "/vms/:id", "inspect_vm_handler"⟩,
    ⟨"GET", "/inspect/:id", "inspect_vm_handler"⟩,
    ⟨"POST", "/swarm/init", "swarm_init_handler"⟩,
    ⟨"POST", "/swarm/join", "swarm_join_handler"⟩,
    ⟨"GET", "/swarm/nodes", "swarm_nodes_handler"⟩,
    ⟨"POST", "/swarm/nodes/:id/name", "tag_node_handler"⟩,
    ⟨"POST", "/teleport", "teleport_handler"⟩,
    ⟨"GET", "/teleport/status/:session_id", "teleport_status_handler"⟩,
    ⟨"POST", "/teleport/cancel/:id", "cancel_teleport_by_id_handler"⟩,
    ⟨"POST", "/teleport/cancel", "cancel_teleport_handler"⟩,
    ⟨"POST", "/receive-teleport", "receive_teleport_handler"⟩,
    ⟨"POST", "/adopt-teleported-vm", "adopt_teleported_vm"⟩,
    ⟨"GET", "/policy", "get_policy_handler"⟩,
    ⟨"POST", "/policy", "set_policy_handler"⟩,
    ⟨"POST", "/attest/:id", "attest_vm_handler"⟩,
    ⟨"GET", "/vms/:id/stats", "get_vm_stats"⟩,
    ⟨"POST", "/vms/:id/resize-disk", "resize_disk_handler"⟩,
    ⟨"POST", "/vms/:id/resize", "resize_disk_handler"⟩]

/-- Whether a segment of a path is that of the pattern, or any other where the pattern has a
name for it. -/
def segmentMatches (pattern segment : List Char) : Bool :=
  if pattern.head? = some ':' then segment ≠ [] else pattern = segment

def pathMatches (pattern path : String) : Bool :=
  let patterns := pattern.toList.splitOn '/'
  let segments := path.toList.splitOn '/'
  patterns.length = segments.length && (patterns.zip segments).all fun e => segmentMatches e.1 e.2

/-- A route for `GET` takes `HEAD` too. -/
def methodMatches (route method : String) : Bool :=
  method = route || (route = "GET" && method = "HEAD")

/-! ## The dashboard -/

/-- The files of the dashboard by their names. -/
abbrev Assets : Type := String → Option (List UInt8)

def VERSION : String := "3.0.0"

def versionTag : List Char :=
  "<meta name=\"vyoma-daemon-version\" content=\"".toList ++ VERSION.toList ++ "\">".toList

def tokenMark : List Char := "<meta name=\"vyoma-api-token\" content=\"".toList

def tokenTag (token : String) : List Char := tokenMark ++ token.toList ++ "\">".toList

def injectMeta (html : List Char) (token : Option String) : List Char :=
  let tags := versionTag ++ token.elim [] tokenTag
  replaceAll "</head>".toList (tags ++ "</head>".toList) html

inductive Answer where
  | preflight
  | handler (name : String)
  | page (text : List Char)
  | file (bytes : List UInt8)
  | unauthorized
  | methodNotAllowed
  | notFound (message : String)
  deriving DecidableEq

def uiHandler (assets : Assets) (apiToken : Option String) (req : HttpRequest) : Answer :=
  let path := String.ofList (req.path.toList.dropWhile (· = '/'))
  let path := if path = "" then "index.html" else path
  match assets path with
  | some data =>
    if ".html".toList.isSuffixOf path.toList then
      .page (injectMeta (fromUtf8Lossy data) apiToken)
    else .file data
  | none =>
    if '.' ∈ path.toList then .notFound "404 Not Found"
    else
      match assets "index.html" with
      | some data => .page (injectMeta (fromUtf8Lossy data) apiToken)
      | none => .notFound "index.html missing"

/-! ## The router -/

/-- The routes of the API for the path, whatever the method. -/
def apiRoutesAt (path : String) : List ApiRoute := apiRoutes.filter (pathMatches ·.pattern path)

/-- What the daemon answers, up to what the handlers of the API do. The check comes before the
method of a route, and neither the health check nor the dashboard has it. -/
def router (assets : Assets) (apiToken : Option String) (req : HttpRequest) : Answer :=
  if req.method = "OPTIONS" then .preflight
  else if req.path = "/health" then
    if methodMatches "GET" req.method then .handler "health_check" else .methodNotAllowed
  else if apiRoutesAt req.path = [] then uiHandler assets apiToken req
  else if authMiddleware apiToken req then
    match (apiRoutesAt req.path).find? fun route => methodMatches route.method req.method with
    | some route => .handler route.handler
    | none => .methodNotAllowed
  else .unauthorized

/-! ## A visit to the dashboard -/

/-- What a visitor can read off a page: the text in the tag of the token. -/
def readToken (page : List Char) : Option (List Char) :=
  (afterFirst tokenMark page).map fun text => text.takeWhile (· ≠ '"')

/-- The request with the text as its token. -/
def HttpRequest.withToken (req : HttpRequest) (token : List Char) : HttpRequest :=
  { req with authorization := some (("Bearer ".toList ++ token).map fun c => UInt8.ofNat c.toNat) }

/-- A character that a header can carry and that ends no attribute. -/
def Plain (c : Char) : Prop := 33 ≤ c.toNat ∧ c.toNat < 127 ∧ c ≠ '"'

instance (c : Char) : Decidable (Plain c) := inferInstanceAs (Decidable (_ ∧ _ ∧ _))

theorem readToken_injectMeta {html : List Char} {token : String}
    (hhead : (afterFirst "</head>".toList html).isSome) (hmark : afterFirst tokenMark html = none)
    (htoken : '"' ∉ token.toList) :
    readToken (injectMeta html (some token)) = some token.toList := by
  obtain ⟨rest, hrest⟩ := Option.isSome_iff_exists.mp hhead
  obtain ⟨before, hhtml, hreplaced⟩ := replaceAll_of_afterFirst (by decide)
    (versionTag ++ tokenTag token ++ "</head>".toList) hrest
  have hbefore : afterFirst tokenMark before = none := by
    rw [hhtml, List.append_assoc] at hmark
    exact afterFirst_eq_none_of_append hmark
  -- both tags begin with a letter that the mark has nowhere else
  obtain ⟨letters, hletters, hfree⟩ : ∃ letters, tokenMark = '<' :: letters ∧ '<' ∉ letters :=
    ⟨_, rfl, by decide⟩
  obtain ⟨version, hversion⟩ : ∃ version, versionTag = '<' :: version := ⟨_, rfl⟩
  have htag : afterFirst tokenMark versionTag = none := by decide
  have hfound : ∀ behind, afterFirst tokenMark (before ++ (versionTag ++ (tokenMark ++ behind))) =
      some behind := by
    intro behind
    calc
      _ = afterFirst tokenMark (versionTag ++ (tokenMark ++ behind)) := by
        rw [hversion]
        rw [hletters] at hbefore ⊢
        exact afterFirst_append hfree hbefore _
      _ = afterFirst tokenMark (tokenMark ++ behind) := by
        rw [hletters] at htag ⊢
        exact afterFirst_append hfree htag _
      _ = some behind := afterFirst_prefix tokenMark behind
  have hquote : ∀ behind, (token.toList ++ ('"' :: behind)).takeWhile (· ≠ '"') = token.toList := by
    intro behind
    rw [List.takeWhile_append_of_pos fun c hc => decide_eq_true (ne_of_mem_of_not_mem hc htoken)]
    simp
  unfold readToken injectMeta
  dsimp only [Option.elim_some]
  rw [hreplaced]
  simp only [tokenTag, List.append_assoc]
  rw [hfound, Option.map_some]
  exact congrArg some (hquote _)

theorem headerText_bearer {token : List Char} (h : ∀ c ∈ token, Plain c) :
    headerText (("Bearer ".toList ++ token).map fun c => UInt8.ofNat c.toNat) =
      some ("Bearer ".toList ++ token) := by
  have hscheme : ∀ c ∈ "Bearer ".toList, 32 ≤ c.toNat ∧ c.toNat < 127 := by decide
  have hvisible : ∀ c ∈ "Bearer ".toList ++ token, 32 ≤ c.toNat ∧ c.toNat < 127 := by
    intro c hc
    obtain hmem | hmem := List.mem_append.mp hc
    · exact hscheme c hmem
    · exact ⟨Nat.le_of_succ_le (h c hmem).1, (h c hmem).2.1⟩
  generalize "Bearer ".toList ++ token = text at hvisible ⊢
  have hbyte : ∀ c ∈ text, (UInt8.ofNat c.toNat).toNat = c.toNat := by
    intro c hc
    rw [UInt8.toNat_ofNat']
    exact Nat.mod_eq_of_lt (Nat.lt_trans (hvisible c hc).2 (by decide))
  have hall : (text.map fun c => UInt8.ofNat c.toNat).all
      (fun b => (32 ≤ b && b < 127) || b = 9) = true := by
    refine List.all_eq_true.mpr fun b hb => ?_
    obtain ⟨c, hc, rfl⟩ := List.mem_map.mp hb
    obtain ⟨hlow, hhigh⟩ := hvisible c hc
    rw [← hbyte c hc] at hlow hhigh
    simp only [Bool.or_eq_true, Bool.and_eq_true, decide_eq_true_eq]
    exact .inl ⟨UInt8.le_iff_toNat_le.mpr hlow, UInt8.lt_iff_toNat_lt.mpr hhigh⟩
  have hback : (text.map fun c => UInt8.ofNat c.toNat).map (fun b => Char.ofNat b.toNat) =
      text := by
    rw [List.map_map]
    refine (List.map_congr_left fun c hc => ?_).trans (List.map_id text)
    rw [Function.comp_apply, hbyte c hc]
    exact Char.ofNat_toNat c
  unfold headerText
  rw [if_pos hall, hback]

/-- The check lets a request with the token pass. -/
theorem authMiddleware_withToken {token : String} (h : ∀ c ∈ token.toList, Plain c)
    (req : HttpRequest) : authMiddleware (some token) (req.withToken token.toList) = true := by
  have hbearer : bearerToken (req.withToken token.toList) = some token.toList := by
    unfold bearerToken HttpRequest.withToken
    rw [Option.bind_some, headerText_bearer h, Option.bind_some]
    rfl
  unfold authMiddleware
  dsimp only
  rw [hbearer, decide_eq_true rfl, Bool.true_or]

/-- The health check is no route of the API. -/
theorem ne_health {path : String} (h : apiRoutesAt path ≠ []) : path ≠ "/health" := by
  rintro rfl
  exact h (by decide)

theorem router_dashboard {assets : Assets} {html : List UInt8}
    (hindex : assets "index.html" = some html) (apiToken : Option String) {visit : HttpRequest}
    (hpath : visit.path = "/") (hmethod : visit.method ≠ "OPTIONS") :
    router assets apiToken visit = .page (injectMeta (fromUtf8Lossy html) apiToken) := by
  have hroot : apiRoutesAt "/" = [] := by decide
  have hname : String.ofList ("/".toList.dropWhile (· = '/')) = "" := rfl
  have hhtml : ".html".toList.isSuffixOf "index.html".toList = true := by decide
  unfold router uiHandler
  rw [if_neg hmethod, hpath, if_neg (by decide), if_pos hroot, hname]
  dsimp only
  rw [if_pos rfl, hindex]
  dsimp only
  rw [if_pos hhtml]

def indexHtml : List UInt8 :=
  "<html><head><title>Vyoma</title></head><body></body></html>".toList.map fun c =>
    UInt8.ofNat c.toNat

def onlyIndex : Assets := fun path => if path = "index.html" then some indexHtml else none

/-- A visit without anything. -/
def firstVisit : HttpRequest := ⟨"GET", "/", none, none⟩

end Vyoma.Daemon
