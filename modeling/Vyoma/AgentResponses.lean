import Mathlib.Algebra.Group.Int.Defs
import Vyoma.AgentClient

/-!
# Responses in the Go client

The client unmarshals a response into one struct for all variants, field by field: a member
is matched to a field by its name without regard to case, `null` leaves the field as it is,
and a member without a field is skipped. The text is an argument, as it is for requests, and
so is the decoding of base64, which the agent does not use.
-/
namespace Vyoma.AgentClient
open Agent Excepts Frames GoStrings RustText

variable {φ : Type}

structure ProcessInfo where
  pid : UInt32
  ppid : UInt32
  name : GoString
  state : GoString

structure Metrics where
  cpuUserMs : UInt64
  cpuSystemMs : UInt64
  memUsedKb : UInt64
  memTotalKb : UInt64
  processCount : Int64

/-- A slice that is `nil` is read as an empty one. -/
structure Response where
  type : GoString
  processes : List ProcessInfo
  stdout : List UInt8
  stderr : List UInt8
  exitCode : Int64
  metrics : Option Metrics
  content : List UInt8
  message : GoString

def ProcessInfo.zero : ProcessInfo := ⟨0, 0, [], []⟩

def Metrics.zero : Metrics := ⟨0, 0, 0, 0, 0⟩

def Response.zero : Response := ⟨[], [], [], [], 0, none, [], []⟩

/-! ## `json.Unmarshal` -/

/-- The fold of a character that could stand in the name of a field: long s and the Kelvin
sign are letters there. -/
def foldRune (c : Char) : Char :=
  if c.toNat = 0x17F then 's' else if c.toNat = 0x212A then 'k' else c.toLower

def named (name key : String) : Bool := decide (key.toList.map foldRune = name.toList)

def asGoString (old : GoString) : Json φ → Except String GoString
  | .null => .ok old
  | .str s => .ok (utf8 s)
  | _ => .error "json: cannot unmarshal into Go value of type string"

/-- A whole number within the bounds of the type of a field. -/
def asInteger {ι : Type} (ofInt : ℤ → ι) (low high : ℤ) (old : ι) : Json φ → Except String ι
  | .null => .ok old
  | .int n =>
    if low ≤ n ∧ n < high then .ok (ofInt n) else .error "json: cannot unmarshal number"
  | _ => .error "json: cannot unmarshal into Go value of a number type"

def asUint8 (old : UInt8) : Json φ → Except String UInt8 := asInteger UInt8.ofInt 0 (2 ^ 8) old

def asUint32 (old : UInt32) : Json φ → Except String UInt32 :=
  asInteger UInt32.ofInt 0 (2 ^ 32) old

def asUint64 (old : UInt64) : Json φ → Except String UInt64 :=
  asInteger UInt64.ofInt 0 (2 ^ 64) old

def asInt (old : Int64) : Json φ → Except String Int64 :=
  asInteger Int64.ofInt (-2 ^ 63) (2 ^ 63) old

def asBytes (base64 : String → Option (List UInt8)) : Json φ → Except String (List UInt8)
  | .null => .ok []
  | .str s =>
    match base64 s with
    | none => .error "illegal base64 data"
    | some bytes => .ok bytes
  | .arr elems => elems.mapM (asUint8 0)
  | _ => .error "json: cannot unmarshal into Go value of type []uint8"

/-- The members of an object, one after another, into a struct. -/
def asStruct {σ : Type} (set : σ → String → Json φ → Except String σ) (old : σ) :
    Json φ → Except String σ
  | .null => .ok old
  | .obj members => members.foldlM (fun s m => set s m.1 m.2) old
  | _ => .error "json: cannot unmarshal into Go struct"

def ProcessInfo.set (p : ProcessInfo) (key : String) (value : Json φ) :
    Except String ProcessInfo := do
  if named "pid" key then return { p with pid := ← asUint32 p.pid value }
  else if named "ppid" key then return { p with ppid := ← asUint32 p.ppid value }
  else if named "name" key then return { p with name := ← asGoString p.name value }
  else if named "state" key then return { p with state := ← asGoString p.state value }
  else return p

def Metrics.set (m : Metrics) (key : String) (value : Json φ) : Except String Metrics := do
  if named "cpu_user_ms" key then return { m with cpuUserMs := ← asUint64 m.cpuUserMs value }
  else if named "cpu_system_ms" key then
    return { m with cpuSystemMs := ← asUint64 m.cpuSystemMs value }
  else if named "mem_used_kb" key then return { m with memUsedKb := ← asUint64 m.memUsedKb value }
  else if named "mem_total_kb" key then
    return { m with memTotalKb := ← asUint64 m.memTotalKb value }
  else if named "process_count" key then
    return { m with processCount := ← asInt m.processCount value }
  else return m

def asProcesses : Json φ → Except String (List ProcessInfo)
  | .null => .ok []
  | .arr elems => elems.mapM (asStruct ProcessInfo.set ProcessInfo.zero)
  | _ => .error "json: cannot unmarshal into Go value of type []agent.ProcessInfo"

/-- A pointer: `null` makes it `nil`, an object fills what it points to. -/
def asMetrics (old : Option Metrics) : Json φ → Except String (Option Metrics)
  | .null => .ok none
  | value => some <$> asStruct Metrics.set (old.getD Metrics.zero) value

def Response.set (base64 : String → Option (List UInt8)) (r : Response) (key : String)
    (value : Json φ) : Except String Response := do
  if named "type" key then return { r with type := ← asGoString r.type value }
  else if named "processes" key then return { r with processes := ← asProcesses value }
  else if named "stdout" key then return { r with stdout := ← asBytes base64 value }
  else if named "stderr" key then return { r with stderr := ← asBytes base64 value }
  else if named "exit_code" key then return { r with exitCode := ← asInt r.exitCode value }
  else if named "metrics" key then return { r with metrics := ← asMetrics r.metrics value }
  else if named "content" key then return { r with content := ← asBytes base64 value }
  else if named "message" key then return { r with message := ← asGoString r.message value }
  else return r

/-- What the client makes of the object of a response. -/
def unmarshal (base64 : String → Option (List UInt8)) (members : Members φ) :
    Except String Response :=
  asStruct (Response.set base64) Response.zero (.obj members)

/-- `GetMetrics`, from what the request came to. -/
def getMetrics (resp : Except String Response) : Except String (Option Metrics) := do
  let resp ← resp
  if resp.type = utf8 "Error" then throw ("agent error: " ++ toText resp.message)
  return resp.metrics

/-- What is received as a text that `scan` reads. -/
def receive (base64 : String → Option (List UInt8)) (scan : List UInt8 → Option (Members φ))
    (data : List UInt8) : Except String Response :=
  match scan data with
  | none => .error "unmarshal response: invalid character"
  | some members => unmarshal base64 members

/-! ## Agreement with the agent -/

/-- The client has no field for the load in percent. -/
def SameMetrics (m : VmMetrics φ) (m' : Metrics) : Prop :=
  m'.memUsedKb = m.memUsedKb ∧ m'.memTotalKb = m.memTotalKb ∧
    m'.processCount.toInt = m.processCount.toNat

def SameProcess (p : Agent.ProcessInfo φ) (p' : ProcessInfo) : Prop :=
  p'.pid = p.pid ∧ p'.ppid = p.ppid.getD 0 ∧ p'.name = utf8 p.name ∧ p'.state = p.state.elim [] utf8

def SamePayload : AgentResponse φ → Response → Prop
  | .processList processes, r =>
    r.type = utf8 "ProcessList" ∧ List.Forall₂ SameProcess processes r.processes
  | .metrics m, r => r.type = utf8 "Metrics" ∧ ∃ m', r.metrics = some m' ∧ SameMetrics m m'
  | .fileContent content, r => r.type = utf8 "FileContent" ∧ r.content = content
  | .execOutput stdout stderr exitCode, r =>
    r.type = utf8 "ExecOutput" ∧ r.stdout = stdout ∧ r.stderr = stderr ∧
      r.exitCode.toInt = exitCode.toInt
  | .error message, r => r.type = utf8 "Error" ∧ r.message = utf8 message

/-- An error, or the metrics that were sent. -/
def MetricsReturned (response : AgentResponse φ) (out : Except String (Option Metrics)) : Prop :=
  ∀ metrics, out = .ok metrics →
    ∃ m m', response = .metrics m ∧ metrics = some m' ∧ SameMetrics m m'

/-- The payload arrives, and where the response is one to `GetMetrics`, so do the metrics. -/
def Arrives (response : AgentResponse φ) (received : Except String Response) : Prop :=
  (∃ r, received = .ok r ∧ SamePayload response r) ∧
    ∀ host : HostAnswers φ, handleRequest host .getMetrics = some response →
      MetricsReturned response (getMetrics received)

section Unmarshal

variable (base64 : String → Option (List UInt8))

theorem asUint8_byte (b : UInt8) : asUint8 0 (.int b.toNat : Json φ) = .ok b := by
  have hlt : (b.toNat : ℤ) < 2 ^ 8 := by
    have := b.toNat_lt
    omega
  have hofInt : UInt8.ofInt (b.toNat : ℤ) = b := by
    rw [UInt8.ofInt, Int.emod_eq_of_lt (Int.natCast_nonneg _) hlt, Int.toNat_natCast,
      UInt8.ofNat_toNat]
  unfold asUint8 asInteger
  simp only [Int.natCast_nonneg, hlt, and_self, if_true, hofInt]

theorem asBytes_bytesJson (bytes : List UInt8) :
    asBytes base64 (bytesJson bytes : Json φ) = .ok bytes := by
  unfold asBytes bytesJson
  induction bytes with
  | nil => rfl
  | cons b bytes ih =>
    simp only [List.map_cons, List.mapM_cons] at ih ⊢
    rw [ih, asUint8_byte]
    rfl

theorem asInt_exitCode (old : Int64) (exitCode : Int32) :
    asInt old (.int exitCode.toInt : Json φ) = .ok exitCode.toInt64 := by
  have hlow := exitCode.le_toInt
  have hhigh := exitCode.toInt_lt
  have hbounds : -2 ^ 63 ≤ exitCode.toInt ∧ exitCode.toInt < 2 ^ 63 := by
    constructor <;> omega
  unfold asInt asInteger
  simp only [if_pos hbounds, Int64.ofInt_int32ToInt]

theorem unmarshal_cons {key : String} {value : Json φ} {r r' : Response}
    (h : r.set base64 key value = .ok r') (members : Members φ) :
    asStruct (Response.set base64) r (.obj ((key, value) :: members)) =
      asStruct (Response.set base64) r' (.obj members) := by
  simp only [asStruct, List.foldlM_cons]
  rw [h]
  rfl

theorem set_type (r : Response) (s : String) :
    r.set base64 "type" (.str s : Json φ) = .ok { r with type := utf8 s } := by
  have hnamed : named "type" "type" = true := by decide
  unfold Response.set
  rw [if_pos hnamed]
  rfl

/-- A member that is no field is skipped. -/
theorem set_of_not_field {key : String} (r : Response) (value : Json φ)
    (h : ∀ name ∈ ["type", "processes", "stdout", "stderr", "exit_code", "metrics", "content",
      "message"], named name key = false) : r.set base64 key value = .ok r := by
  simp only [List.forall_mem_cons] at h
  obtain ⟨h₁, h₂, h₃, h₄, h₅, h₆, h₇, h₈, -⟩ := h
  unfold Response.set
  rw [h₁, h₂, h₃, h₄, h₅, h₆, h₇, h₈]
  rfl

theorem unmarshal_execOutput (stdout stderr : List UInt8) (exitCode : Int32) :
    unmarshal base64 ([("type", .str "ExecOutput"), ("stdout", bytesJson stdout),
      ("stderr", bytesJson stderr), ("exit_code", .int exitCode.toInt)] : Members φ) =
      .ok { Response.zero with
        type := utf8 "ExecOutput", stdout := stdout, stderr := stderr
        exitCode := exitCode.toInt64 } := by
  have hstdout : ∀ r : Response, r.set base64 "stdout" (bytesJson stdout : Json φ) =
      .ok { r with stdout := stdout } := by
    intro r
    simp [Response.set, named, foldRune, asBytes_bytesJson, ok_bind, pure, Except.pure]
  have hstderr : ∀ r : Response, r.set base64 "stderr" (bytesJson stderr : Json φ) =
      .ok { r with stderr := stderr } := by
    intro r
    simp [Response.set, named, foldRune, asBytes_bytesJson, ok_bind, pure, Except.pure]
  have hexitCode : ∀ r : Response, r.set base64 "exit_code" (.int exitCode.toInt : Json φ) =
      .ok { r with exitCode := exitCode.toInt64 } := by
    intro r
    simp [Response.set, named, foldRune, asInt_exitCode, ok_bind, pure, Except.pure]
  unfold unmarshal
  rw [unmarshal_cons base64 (set_type base64 _ _), unmarshal_cons base64 (hstdout _),
    unmarshal_cons base64 (hstderr _), unmarshal_cons base64 (hexitCode _)]
  rfl

theorem unmarshal_error (message : String) :
    unmarshal base64 ([("type", .str "Error"), ("message", .str message)] : Members φ) =
      .ok { Response.zero with type := utf8 "Error", message := utf8 message } := by
  have hmessage : ∀ r : Response, r.set base64 "message" (.str message : Json φ) =
      .ok { r with message := utf8 message } := by
    intro r
    simp [Response.set, named, foldRune, asGoString, ok_bind, pure, Except.pure]
  unfold unmarshal
  rw [unmarshal_cons base64 (set_type base64 _ _), unmarshal_cons base64 (hmessage _)]
  rfl

/-- The metrics of the agent stand beside the tag, and the client has no fields there. -/
theorem unmarshal_metrics (m : VmMetrics φ) :
    unmarshal base64 (("type", .str "Metrics") :: m.members) =
      .ok { Response.zero with type := utf8 "Metrics" } := by
  unfold unmarshal VmMetrics.members
  rw [unmarshal_cons base64 (set_type base64 _ _),
    unmarshal_cons base64 (set_of_not_field base64 _ _ (by decide)),
    unmarshal_cons base64 (set_of_not_field base64 _ _ (by decide)),
    unmarshal_cons base64 (set_of_not_field base64 _ _ (by decide)),
    unmarshal_cons base64 (set_of_not_field base64 _ _ (by decide))]
  rfl

end Unmarshal

section Agreement

variable {base64 : String → Option (List UInt8)} {scan : List UInt8 → Option (Members φ)}
  {texts : Texts φ} {response : AgentResponse φ} {members : Members φ}

theorem receive_of_scan (hscan : scan (texts.print members) = some members) :
    receive base64 scan (texts.print members) = unmarshal base64 members := by
  unfold receive
  rw [hscan]

/-- Metrics never arrive. -/
theorem not_arrives_metrics (m : VmMetrics φ) :
    ¬Arrives (.metrics m) (unmarshal base64 (("type", .str "Metrics") :: m.members)) := by
  rintro ⟨⟨r, hr, -, m', hm', -⟩, -⟩
  rw [unmarshal_metrics] at hr
  cases hr
  cases hm'

theorem arrives_execOutput (stdout stderr : List UInt8) (exitCode : Int32) :
    Arrives (.execOutput stdout stderr exitCode : AgentResponse φ) (unmarshal base64
      ([("type", .str "ExecOutput"), ("stdout", bytesJson stdout), ("stderr", bytesJson stderr),
        ("exit_code", .int exitCode.toInt)] : Members φ)) := by
  rw [unmarshal_execOutput]
  refine ⟨⟨_, rfl, rfl, rfl, rfl, Int32.toInt_toInt64 exitCode⟩, fun host hhost => ?_⟩
  unfold handleRequest at hhost
  dsimp only at hhost
  cases hmetrics : host.metrics <;> rw [hmetrics] at hhost <;> cases hhost

theorem arrives_error (message : String) :
    Arrives (.error message : AgentResponse φ) (unmarshal base64
      ([("type", .str "Error"), ("message", .str message)] : Members φ)) := by
  rw [unmarshal_error]
  refine ⟨⟨_, rfl, rfl, rfl⟩, fun host hhost metrics hok => ?_⟩
  unfold getMetrics at hok
  rw [ok_bind, if_pos rfl] at hok
  cases hok

/-- A response that can be serialised arrives exactly if it does not hold metrics. The client
reads the text of the response as its object. -/
theorem response_arrives_iff (hmembers : response.toMembers = some members)
    (hscan : scan (texts.print members) = some members) :
    Arrives response (receive base64 scan (texts.print members)) ↔
      ∀ m, response ≠ .metrics m := by
  rw [receive_of_scan hscan]
  cases response with
  | processList processes => cases hmembers
  | metrics m =>
    cases hmembers
    exact ⟨fun h => absurd h (not_arrives_metrics m), fun h => absurd rfl (h m)⟩
  | fileContent content => cases hmembers
  | execOutput stdout stderr exitCode =>
    cases hmembers
    exact ⟨fun _ _ h => (nomatch h), fun _ => arrives_execOutput stdout stderr exitCode⟩
  | error message =>
    cases hmembers
    exact ⟨fun _ _ h => (nomatch h), fun _ => arrives_error message⟩

end Agreement

/-! ## A command from end to end -/

/-- A command that can be sent is run by the agent, and its output comes back. -/
theorem output_of_command {base64 : String → Option (List UInt8)}
    {scan : List UInt8 → Option (Members φ)} {texts : Texts φ} {goText : Members φ → String}
    {host : HostAnswers φ} {cmd : List GoString} {env : Option (HashMap GoString GoString)}
    {workdir : GoString} {stdout stderr : List UInt8} {exitCode : Int32} {members : Members φ}
    (hsend : Sendable cmd env workdir)
    (hread : ∀ request, texts.read (goText (execCommandRequest cmd env workdir).members) =
      .ok request ↔
        AgentRequest.ofMembers ((execCommandRequest cmd env workdir).members : Members φ) =
          .ok request)
    (htext : goText (execCommandRequest cmd env workdir).members ≠ "")
    (hsize : (utf8 (goText (execCommandRequest cmd env workdir).members)).length ≤ maxMessage)
    (hcommand : host.command (cmd.map toText) = some (.ok (stdout, stderr, exitCode)))
    (hmembers : (.execOutput stdout stderr exitCode : AgentResponse φ).toMembers = some members)
    (hscan : scan (texts.print members) = some members) (rest : List UInt8) :
    turn texts host (frame (utf8 (goText (execCommandRequest cmd env workdir).members)) ++ rest) =
        .goesOn (frame (texts.print members)) rest ∧
      ∃ r, receive base64 scan (texts.print members) = .ok r ∧ r.stdout = stdout ∧
        r.stderr = stderr ∧ r.exitCode.toInt = exitCode.toInt := by
  have hrequest := (hread _).mpr ((ofMembers_execCommandRequest cmd env workdir _).mpr
    ⟨hsend.cmd_ne_nil, fun hnil => hsend.env_ne_nil (sortedEntries_eq_nil_iff.mp hnil), rfl⟩)
  have hpayload : utf8 (goText (execCommandRequest cmd env workdir).members) ≠ [] :=
    fun h => htext (utf8_injective (h.trans rfl))
  have hresponse := @responseTo_of_read φ texts host _ _ _ hpayload (fromUTF8?_utf8 _) hrequest
  have hwords : cmd.map toText ≠ [] := fun h => hsend.cmd_ne_nil (List.map_eq_nil_iff.mp h)
  simp only [handleRequest, executeCommand, if_neg hwords, hcommand, Option.map_some] at hresponse
  constructor
  · rw [turn_frame hsize, hresponse]
    simp only [respond, hmembers, Option.map_some]
  · cases hmembers
    rw [receive_of_scan hscan, unmarshal_execOutput]
    exact ⟨_, rfl, rfl, rfl, Int32.toInt_toInt64 exitCode⟩

/-- The `Info` of a verbose `ContainerStatus`; a `nil` pointer ends the process. -/
def statusInfo : Except String (Option Metrics) → Option (List (String × String))
  | .error _ => some []
  | .ok none => none
  | .ok (some m) =>
    some [("mem_used_kb", toString m.memUsedKb), ("mem_total_kb", toString m.memTotalKb),
      ("process_count", toString m.processCount)]

/-- Metrics from the agent are read through a `nil` pointer. -/
theorem statusInfo_metrics {base64 : String → Option (List UInt8)}
    {scan : List UInt8 → Option (Members φ)} {texts : Texts φ} {members : Members φ}
    {m : VmMetrics φ} (hmembers : (.metrics m : AgentResponse φ).toMembers = some members)
    (hscan : scan (texts.print members) = some members) :
    statusInfo (getMetrics (receive base64 scan (texts.print members))) = none := by
  have hother : utf8 "Metrics" ≠ utf8 "Error" := utf8_injective.ne (by decide)
  cases hmembers
  rw [receive_of_scan hscan, unmarshal_metrics, getMetrics, ok_bind, if_neg hother]
  rfl

/-! ## Concrete responses -/

/-- A command that fails after some output. -/
def failedOutput : AgentResponse String := .execOutput (utf8 "hi\n") (utf8 "no\n") 2

def failedMembers : Members String :=
  [("type", .str "ExecOutput"), ("stdout", bytesJson (utf8 "hi\n")),
    ("stderr", bytesJson (utf8 "no\n")), ("exit_code", .int 2)]

def failedText : String :=
  "\x7b\"type\":\"ExecOutput\",\"stdout\":[104,105,10],\"stderr\":[110,111,10]," ++
    "\"exit_code\":2\x7d"

/-- A float is given by its text. -/
def idleMetrics : VmMetrics String where
  cpuUsagePercent := some "0.0"
  memUsedKb := 1024
  memTotalKb := 2048
  processCount := 7

def idleText : String :=
  "\x7b\"type\":\"Metrics\",\"cpu_usage_percent\":0.0,\"mem_used_kb\":1024," ++
    "\"mem_total_kb\":2048,\"process_count\":7\x7d"

def responseTexts : Texts String where
  print
    | [("type", .str "Metrics"), ("cpu_usage_percent", .float "0.0"), ("mem_used_kb", .int 1024),
        ("mem_total_kb", .int 2048), ("process_count", .int 7)] => utf8 idleText
    | [("type", .str "ExecOutput"), ("stdout", .arr [.int 104, .int 105, .int 10]),
        ("stderr", .arr [.int 110, .int 111, .int 10]), ("exit_code", .int 2)] => utf8 failedText
    | members => (@sampleTexts String).print members
  read := (@sampleTexts String).read
  utf8Error := (@sampleTexts String).utf8Error

def responseScan (data : List UInt8) : Option (Members String) :=
  if data = utf8 failedText then some failedMembers
  else if data = utf8 idleText then some (("type", .str "Metrics") :: idleMetrics.members)
  else none

/-- Both outputs and the exit code of a command arrive. -/
theorem failed_output_arrives :
    failedOutput.toMembers = some failedMembers ∧ Arrives failedOutput
      (receive (fun _ => none) responseScan (responseTexts.print failedMembers)) := by
  have hmembers : failedOutput.toMembers = some failedMembers := rfl
  have hscan : responseScan (responseTexts.print failedMembers) = some failedMembers := if_pos rfl
  exact ⟨hmembers, (response_arrives_iff hmembers hscan).mpr fun _ h => nomatch h⟩

/-- Metrics arrive as a `nil` pointer without an error. -/
theorem metrics_arrive_as_nil :
    (.metrics idleMetrics : AgentResponse String).toMembers =
        some (("type", .str "Metrics") :: idleMetrics.members) ∧
      responseScan (responseTexts.print (("type", .str "Metrics") :: idleMetrics.members)) =
        some (("type", .str "Metrics") :: idleMetrics.members) ∧
      ¬Arrives (.metrics idleMetrics) (receive (fun _ => none) responseScan
        (responseTexts.print (("type", .str "Metrics") :: idleMetrics.members))) := by
  have hother : utf8 idleText ≠ utf8 failedText := utf8_injective.ne (by decide)
  have hscan : responseScan (responseTexts.print (("type", .str "Metrics") ::
      idleMetrics.members)) = some (("type", .str "Metrics") :: idleMetrics.members) :=
    (if_neg hother).trans (if_pos rfl)
  refine ⟨rfl, hscan, ?_⟩
  rw [receive_of_scan hscan]
  exact not_arrives_metrics idleMetrics

end Vyoma.AgentClient
