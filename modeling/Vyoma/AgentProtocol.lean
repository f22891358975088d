import Vyoma.HashMaps

/-!
# The protocol of the in-guest agent

Requests and responses are enums that serde tags internally: the name of the variant is
the member `type` of a JSON object, beside the members of the variant. JSON is taken as
values; a number that is not an integer is of a type `φ`. A variant that wraps a sequence
cannot be tagged this way, and its serialisation fails.
-/
namespace Vyoma.Agent

inductive Json (φ : Type) where
  | null
  | bool (b : Bool)
  | int (n : ℤ)
  | float (x : φ)
  | str (s : String)
  | arr (elems : List (Json φ))
  | obj (members : List (String × Json φ))

abbrev Members (φ : Type) : Type := List (String × Json φ)

namespace Json

variable {φ : Type}

/-- `Value::get` with a string. -/
def get (key : String) : Json φ → Option (Json φ)
  | .obj members => (members.find? (·.1 = key)).map Prod.snd
  | _ => none

def asStr : Json φ → Option String
  | .str s => some s
  | _ => none

end Json

inductive AgentRequest where
  | processList
  | getMetrics
  | fileRead (path : String)
  | execCommand (cmd : List String) (env : HashMap String String) (workdir : Option String)

/-- A float that is not finite is `none`; it is written as `null`. -/
structure ProcessInfo (φ : Type) where
  pid : UInt32
  ppid : Option UInt32
  name : String
  state : Option String
  cpuUsage : Option (Option φ)
  memoryMb : Option UInt64

structure VmMetrics (φ : Type) where
  cpuUsagePercent : Option φ
  memUsedKb : UInt64
  memTotalKb : UInt64
  processCount : UInt64

inductive AgentResponse (φ : Type) where
  | processList (processes : List (ProcessInfo φ))
  | metrics (metrics : VmMetrics φ)
  | fileContent (content : List UInt8)
  | execOutput (stdout stderr : List UInt8) (exitCode : Int32)
  | error (message : String)

section Serialize

variable {φ : Type}

/-- A `Vec<u8>` is an array of numbers. -/
def bytesJson (bytes : List UInt8) : Json φ := .arr (bytes.map fun b => .int b.toNat)

def floatJson (x : Option φ) : Json φ := x.elim .null .float

def VmMetrics.members (m : VmMetrics φ) : Members φ :=
  [("cpu_usage_percent", floatJson m.cpuUsagePercent), ("mem_used_kb", .int m.memUsedKb.toNat),
    ("mem_total_kb", .int m.memTotalKb.toNat), ("process_count", .int m.processCount.toNat)]

/-- The object of a response, if its variant can be tagged. The members of a struct stand
beside the tag. -/
def AgentResponse.toMembers : AgentResponse φ → Option (Members φ)
  | .processList _ => none
  | .metrics m => some (("type", .str "Metrics") :: m.members)
  | .fileContent _ => none
  | .execOutput stdout stderr exitCode =>
    some [("type", .str "ExecOutput"), ("stdout", bytesJson stdout), ("stderr", bytesJson stderr),
      ("exit_code", .int exitCode.toInt)]
  | .error message => some [("type", .str "Error"), ("message", .str message)]

end Serialize

section Deserialize

variable {φ : Type}

/-- The values that an object holds under a name. -/
def membersAt (name : String) (members : Members φ) : List (Json φ) :=
  (members.filter fun m => m.1 = name).map Prod.snd

def optional (name : String) (members : Members φ) : Except String (Option (Json φ)) :=
  match membersAt name members with
  | [] => .ok none
  | [value] => .ok (some value)
  | _ => .error ("duplicate field `" ++ name ++ "`")

def required (name : String) (members : Members φ) : Except String (Json φ) := do
  match ← optional name members with
  | none => throw ("missing field `" ++ name ++ "`")
  | some value => return value

def asString : Json φ → Except String String
  | .str s => .ok s
  | _ => .error "invalid type: expected a string"

def asStrings : Json φ → Except String (List String)
  | .arr elems => elems.mapM asString
  | _ => .error "invalid type: expected a sequence"

/-- A map of strings; of members with one name the last counts. -/
def asStringMap : Json φ → Except String (HashMap String String)
  | .obj members => members.foldlM (fun env m => do return env.insert m.1 (← asString m.2)) ∅
  | _ => .error "invalid type: expected a map"

def asOptionalString : Option (Json φ) → Except String (Option String)
  | none => .ok none
  | some .null => .ok none
  | some value => some <$> asString value

/-- What serde makes of a JSON object; members it does not know are skipped. -/
def AgentRequest.ofMembers (members : Members φ) : Except String AgentRequest := do
  let tag ← asString (← required "type" members)
  if tag = "ProcessList" then return .processList
  else if tag = "GetMetrics" then return .getMetrics
  else if tag = "FileRead" then
    return .fileRead (← asString (← required "path" members))
  else if tag = "ExecCommand" then
    let cmd ← asStrings (← required "cmd" members)
    let env ← asStringMap (← required "env" members)
    let workdir ← asOptionalString (← optional "workdir" members)
    return .execCommand cmd env workdir
  else throw ("unknown variant `" ++ tag ++
    "`, expected one of `ProcessList`, `GetMetrics`, `FileRead`, `ExecCommand`")

end Deserialize

end Vyoma.Agent
