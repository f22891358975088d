import Vyoma.CriRecords
import Vyoma.GoStrings

/-!
# The streaming server

`Exec`, `Attach` and `PortForward` only hand out a URL. Who opens it reaches a second server,
which looks the token of the URL up and connects on behalf of the caller. A token is removed by
a timer of its own, or by a session that finds it expired. Handlers, timers and sessions all
run at once; a session looks the token up in one step and reads the clock in another.
-/
namespace Vyoma.Cri
open GoStrings LockPrograms

/-- Four hours, in nanoseconds. -/
def tokenLifetime : ℕ := 4 * 60 * 60 * 10 ^ 9

/-- A `streamingToken` in the stream manager. -/
structure IssuedToken where
  token : StreamingToken
  created : ℕ
  expires : ℕ
  lasts : expires = created + tokenLifetime

/-! ## What an endpoint does -/

inductive Endpoint where
  | exec
  | attach
  | portForward
  deriving DecidableEq, Repr

/-- The `Type` of the tokens that the endpoint takes. -/
def Endpoint.type : Endpoint → String
  | .exec => "exec"
  | .attach => "attach"
  | .portForward => "portforward"

def Endpoint.path (e : Endpoint) : String := "/" ++ e.type ++ "/"

def trimPrefix (start text : String) : String :=
  if start.toList.isPrefixOf text.toList then String.ofList (text.toList.drop start.length)
  else text

/-- The handler that the path is given to, and the token that it reads off the path. -/
def route (path : String) : Option (Endpoint × String) :=
  ([.exec, .attach, .portForward].find? fun e : Endpoint =>
    e.path.toList.isPrefixOf path.toList).map fun e => (e, trimPrefix e.path path)

structure ExecResult where
  stdout : GoString
  stderr : GoString
  exitCode : ℤ

/-- How the calls of a session end: the connection, the reading of the body, of which only the
command in its `value` is used, and the command. -/
structure StreamAnswers where
  connect : Except String Unit
  body : Option String
  ran : Except String ExecResult

inductive StreamResponse where
  | error (status : ℕ) (message : String)
  | result (result : ExecResult)
  | ports (ports : List Int32)
  | upgraded

/-- A connection: where it goes, and the commands that are sent over it. -/
abbrev Dial : Type := String × List (List String)

/-- `NewTCPClient` and `Connect`. -/
def agentAddress (vmIp : String) : String := vmIp ++ ":" ++ toString 9999

/-- In a terminal no command is sent: it would only be resized, and no token has a size. -/
def handleExec (st : StreamingToken) (get : Bool) (answers : StreamAnswers) :
    StreamResponse × List Dial :=
  let address := agentAddress st.vmIp
  match answers.connect with
  | .error e => (.error 500 ("connect to VM: " ++ e), [(address, [])])
  | .ok () =>
    if get then (.upgraded, [(address, if st.tty then [] else [st.command])])
    else
      match answers.body with
      | none => (.error 400 "read body", [(address, [])])
      | some value =>
        let cmd := if value = "" then st.command else ["/bin/sh", "-c", value]
        match answers.ran with
        | .error e => (.error 500 e, [(address, [cmd])])
        | .ok result => (.result result, [(address, [cmd])])

def handleAttach (st : StreamingToken) (answers : StreamAnswers) :
    StreamResponse × List Dial :=
  let address := agentAddress st.vmIp
  match answers.connect with
  | .error e => (.error 500 ("connect to VM: " ++ e), [(address, [])])
  | .ok () => (.upgraded, [(address, [["cat", "/dev/console"]])])

def forwardPort (vmIp : String) (port : Int32) : Dial := (vmIp ++ ":" ++ toString port.toInt, [])

def handlePortForward (st : StreamingToken) (get : Bool) : StreamResponse × List Dial :=
  if get then (.ports st.ports, []) else (.upgraded, st.ports.map (forwardPort st.vmIp))

/-- What a handler does with a token that `getToken` has let pass. -/
def Endpoint.serve (e : Endpoint) (st : StreamingToken) (get : Bool) (answers : StreamAnswers) :
    StreamResponse × List Dial :=
  if st.type ≠ e.type then (.error 400 "invalid token type", [])
  else
    match e with
    | .exec => handleExec st get answers
    | .attach => handleAttach st answers
    | .portForward => handlePortForward st get

/-! ## Sessions beside the handlers -/

/-- Where a session stands. The first three are within `getToken`. -/
inductive Session where
  | loading (e : Endpoint) (get : Bool) (token : String)
  | checking (e : Endpoint) (get : Bool) (token : String) (issued : IssuedToken)
  | expired (token : String)
  | admitted (e : Endpoint) (get : Bool) (issued : IssuedToken) (checked : ℕ)
  | ended (response : StreamResponse)

/-- A connection that has been made, with the token it was made for and the time at which
that was found valid. -/
structure Connection where
  endpoint : Endpoint
  issued : IssuedToken
  checked : ℕ
  dial : Dial

structure Node where
  cri : CriConfig
  now : ℕ
  tokens : HashMap String IssuedToken
  timers : List (String × ℕ)
  sessions : List Session
  connections : List Connection

def Node.init : Node := ⟨CriConfig.init, 0, ∅, [], [], []⟩

inductive NodeAction where
  | cri (a : Action Query Request)
  | passes (time : ℕ)
  | fires (i : ℕ)
  | requests (path : String) (get : Bool)
  | turns (i : ℕ) (answers : StreamAnswers)

/-- The token that a handler has returned. -/
def streamOf : Handler → Option StreamingToken
  | .ret (.stream _ token) => some token
  | _ => none

/-- All tokens that handlers have returned. -/
def handedOut (c : CriConfig) : List StreamingToken := c.threads.filterMap streamOf

/-- The token that a handler returns by its next operation. -/
def drawn (c : CriConfig) : Action Query Request → Option StreamingToken
  | .arrives _ => none
  | .runs i world waiting =>
    if ((c.threads[i]?).bind streamOf).isSome then none
    else ((step service c (.runs i world waiting)).threads[i]?).bind streamOf

/-- The token is stored, and its timer started. -/
def Node.generateToken (n : Node) (t : StreamingToken) : Node :=
  { n with
    tokens := n.tokens.insert t.token ⟨t, n.now, n.now + tokenLifetime, rfl⟩
    timers := n.timers ++ [(t.token, n.now + tokenLifetime)] }

def Node.criStep (n : Node) (a : Action Query Request) : Node :=
  let n' := { n with cri := step service n.cri a }
  match drawn n.cri a with
  | none => n'
  | some t => n'.generateToken t

/-- A timer that is due removes what is stored under its text. -/
def Node.fire (n : Node) (i : ℕ) : Node :=
  match n.timers[i]? with
  | none => n
  | some (text, due) =>
    if due ≤ n.now then { n with tokens := n.tokens.erase text, timers := n.timers.eraseIdx i }
    else n

def Node.request (n : Node) (path : String) (get : Bool) : Node :=
  match route path with
  | none => n
  | some (e, token) => { n with sessions := n.sessions ++ [.loading e get token] }

def unauthorized : Session := .ended (.error 401 "invalid or expired token")

/-- The next operation of the `i`-th session. -/
def Node.turn (n : Node) (i : ℕ) (answers : StreamAnswers) : Session → Node
  | .loading e get token =>
    match n.tokens.lookup token with
    | none => { n with sessions := n.sessions.set i unauthorized }
    | some issued => { n with sessions := n.sessions.set i (.checking e get token issued) }
  | .checking e get token issued =>
    if issued.expires < n.now then { n with sessions := n.sessions.set i (.expired token) }
    else { n with sessions := n.sessions.set i (.admitted e get issued n.now) }
  | .expired token =>
    { n with tokens := n.tokens.erase token, sessions := n.sessions.set i unauthorized }
  | .admitted e get issued checked =>
    let served := e.serve issued.token get answers
    { n with
      sessions := n.sessions.set i (.ended served.1)
      connections := n.connections ++ served.2.map fun dial => ⟨e, issued, checked, dial⟩ }
  | .ended _ => n

def nodeStep (n : Node) : NodeAction → Node
  | .cri a => n.criStep a
  | .passes time => { n with now := n.now + time }
  | .fires i => n.fire i
  | .requests path get => n.request path get
  | .turns i answers =>
    match n.sessions[i]? with
    | none => n
    | some session => n.turn i answers session

/-- All that a step can do. -/
inductive NodeSteps (n : Node) : NodeAction → Node → Prop
  | idle (a : NodeAction) : NodeSteps n a n
  | ran {a} (h : drawn n.cri a = none) :
      NodeSteps n (.cri a) { n with cri := step service n.cri a }
  | drew {a t} (h : drawn n.cri a = some t) :
      NodeSteps n (.cri a) ({ n with cri := step service n.cri a }.generateToken t)
  | passed (time : ℕ) : NodeSteps n (.passes time) { n with now := n.now + time }
  | fired {i text due} (h : n.timers[i]? = some (text, due)) (hdue : due ≤ n.now) :
      NodeSteps n (.fires i) { n with tokens := n.tokens.erase text, timers := n.timers.eraseIdx i }
  | requested {path get e token} (h : route path = some (e, token)) :
      NodeSteps n (.requests path get) { n with sessions := n.sessions ++ [.loading e get token] }
  | missed {i answers e get token} (h : n.sessions[i]? = some (.loading e get token))
      (htoken : n.tokens.lookup token = none) :
      NodeSteps n (.turns i answers) { n with sessions := n.sessions.set i unauthorized }
  | found {i answers e get token issued} (h : n.sessions[i]? = some (.loading e get token))
      (htoken : n.tokens.lookup token = some issued) :
      NodeSteps n (.turns i answers)
        { n with sessions := n.sessions.set i (.checking e get token issued) }
  | foundExpired {i answers e get token issued}
      (h : n.sessions[i]? = some (.checking e get token issued)) (hlate : issued.expires < n.now) :
      NodeSteps n (.turns i answers) { n with sessions := n.sessions.set i (.expired token) }
  | admitted {i answers e get token issued}
      (h : n.sessions[i]? = some (.checking e get token issued)) (htime : n.now ≤ issued.expires) :
      NodeSteps n (.turns i answers)
        { n with sessions := n.sessions.set i (.admitted e get issued n.now) }
  | removed {i answers token} (h : n.sessions[i]? = some (.expired token)) :
      NodeSteps n (.turns i answers)
        { n with tokens := n.tokens.erase token, sessions := n.sessions.set i unauthorized }
  | served {i answers e get issued checked}
      (h : n.sessions[i]? = some (.admitted e get issued checked)) :
      NodeSteps n (.turns i answers)
        { n with
          sessions := n.sessions.set i (.ended (e.serve issued.token get answers).1)
          connections := n.connections ++
            (e.serve issued.token get answers).2.map fun dial => ⟨e, issued, checked, dial⟩ }

theorem nodeSteps_nodeStep (n : Node) (a : NodeAction) : NodeSteps n a (nodeStep n a) := by
  cases a with
  | cri a =>
    dsimp only [nodeStep, Node.criStep]
    cases h : drawn n.cri a with
    | none => exact .ran h
    | some t => exact .drew h
  | passes time => exact .passed time
  | fires i =>
    dsimp only [nodeStep, Node.fire]
    cases h : n.timers[i]? with
    | none => exact .idle _
    | some timer =>
      dsimp only
      split_ifs with hdue
      · exact .fired h hdue
      · exact .idle _
  | requests path get =>
    dsimp only [nodeStep, Node.request]
    cases h : route path with
    | none => exact .idle _
    | some target => exact .requested h
  | turns i answers =>
    dsimp only [nodeStep]
    cases h : n.sessions[i]? with
    | none => exact .idle _
    | some session =>
      cases session with
      | loading e get token =>
        dsimp only [Node.turn]
        cases htoken : n.tokens.lookup token with
        | none => exact .missed h htoken
        | some issued => exact .found h htoken
      | checking e get token issued =>
        dsimp only [Node.turn]
        split_ifs with hlate
        · exact .foundExpired h hlate
        · exact .admitted h (Nat.le_of_not_lt hlate)
      | expired token => exact .removed h
      | admitted e get issued checked => exact .served h
      | ended response => exact .idle _

end Vyoma.Cri
