import Vyoma.AgentProtocol
import Vyoma.Frames
import Vyoma.RustText

/-!
# A connection of the in-guest agent

The agent reads a frame, decodes a request, handles it and writes a frame with the
response. A payload that is no text or no request is answered with an error, an empty one
is skipped, and a response that cannot be serialised ends the connection. A request is waited
for without a limit, so one that does not end keeps all that follow it from being read. What the
guest answers to a request is an argument, and so is the text of JSON.
-/
namespace Vyoma.Agent
open Frames RustText

variable {φ : Type}

/-- What the guest answers while one frame is handled; nothing, where a file cannot be read to
an end or a command does not end. -/
structure HostAnswers (φ : Type) where
  processes : List (ProcessInfo φ)
  metrics : Except String (VmMetrics φ)
  file : String → Option (Except String (List UInt8))
  command : List String → Option (Except String (List UInt8 × List UInt8 × Int32))

/-- The JSON text of serde, and the text of the error for bytes that are not UTF-8. -/
structure Texts (φ : Type) where
  print : Members φ → List UInt8
  read : String → Except String AgentRequest
  utf8Error : List UInt8 → String

def executeCommand (host : HostAnswers φ) (cmd : List String) :
    Option (Except String (List UInt8 × List UInt8 × Int32)) :=
  if cmd = [] then some (.ok ([], utf8 "Empty command", 1)) else host.command cmd

/-- There is no response to a request that does not end. -/
def handleRequest (host : HostAnswers φ) : AgentRequest → Option (AgentResponse φ)
  | .processList => some (.processList host.processes)
  | .getMetrics =>
    match host.metrics with
    | .ok metrics => some (.metrics metrics)
    | .error e => some (.error e)
  | .fileRead path =>
    (host.file path).map fun
      | .ok content => .fileContent content
      | .error e => .error e
  | .execCommand cmd _ _ =>
    (executeCommand host cmd).map fun
      | .ok (stdout, stderr, exitCode) => .execOutput stdout stderr exitCode
      | .error e => .error e

/-- What comes of a payload. -/
inductive Handled (φ : Type) where
  | skipped
  | endless
  | answered (response : AgentResponse φ)

/-- One turn of the loop: it waits, for bytes or for a request to end, ends the connection, or
goes on. -/
inductive Turn where
  | waits
  | closes (sent : List UInt8)
  | goesOn (sent rest : List UInt8)

/-- The text of a response, with its length cast to `u32`. -/
def respond (texts : Texts φ) (response : AgentResponse φ) : Option (List UInt8) :=
  response.toMembers.map fun members => frame (texts.print members)

def responseTo (texts : Texts φ) (host : HostAnswers φ) (data : List UInt8) : Handled φ :=
  match String.fromUTF8? data.toByteArray with
  | none => .answered (.error ("Invalid UTF-8: " ++ texts.utf8Error data))
  | some line =>
    if line = "" then .skipped
    else
      match texts.read line with
      | .error e => .answered (.error ("Invalid request: " ++ e))
      | .ok request =>
        match handleRequest host request with
        | none => .endless
        | some response => .answered response

def maxMessage : ℕ := 1024 * 1024

def turn (texts : Texts φ) (host : HostAnswers φ) (input : List UInt8) : Turn :=
  if input.length < 4 then .waits
  else
    let len := fromBeBytes (input.take 4)
    let input := input.drop 4
    if maxMessage < len then .closes ((respond texts (.error "Message too large")).getD [])
    else if input.length < len then .waits
    else
      let rest := input.drop len
      match responseTo texts host (input.take len) with
      | .skipped => .goesOn [] rest
      | .endless => .waits
      | .answered response =>
        match respond texts response with
        | none => .closes []
        | some sent => .goesOn sent rest

/-- The bytes sent for an input from the `n`-th frame on, and whether the connection is
still open. Every turn that goes on takes four bytes at least. -/
def processAgentMessages (texts : Texts φ) (hosts : ℕ → HostAnswers φ) : ℕ → ℕ → List UInt8 →
    List UInt8 × Bool
  | 0, _, _ => ([], true)
  | fuel + 1, n, input =>
    match turn texts (hosts n) input with
    | .waits => ([], true)
    | .closes sent => (sent, false)
    | .goesOn sent rest =>
      let out := processAgentMessages texts hosts fuel (n + 1) rest
      (sent ++ out.1, out.2)

/-- What a connection comes to: there is at most one turn for each byte. -/
def serve (texts : Texts φ) (hosts : ℕ → HostAnswers φ) (input : List UInt8) : List UInt8 × Bool :=
  processAgentMessages texts hosts input.length 0 input

/-! ## One response for each request -/

/-- After any number of the frames, that many response frames have been sent and the
connection is open. -/
def AnswersEach (texts : Texts φ) (hosts : ℕ → HostAnswers φ) (payloads : List (List UInt8)) :
    Prop :=
  ∀ pre, pre <+: payloads → ∃ replies : List (List UInt8), replies.length = pre.length ∧
    (∀ reply ∈ replies, reply.length < 2 ^ 32) ∧
    serve texts hosts (pre.flatMap frame) = (replies.flatMap frame, true)

/-- The payload is not empty, does not ask for the processes, for a file that can be read, or
for what does not end, and its response is short enough for a frame. -/
structure Answerable (texts : Texts φ) (host : HostAnswers φ) (data : List UInt8) : Prop where
  nonempty : data ≠ []
  noProcessList : ∀ line, String.fromUTF8? data.toByteArray = some line →
    texts.read line ≠ .ok .processList
  noFileContent : ∀ line path content, String.fromUTF8? data.toByteArray = some line →
    texts.read line = .ok (.fileRead path) → host.file path ≠ some (.ok content)
  fileEnds : ∀ line path, String.fromUTF8? data.toByteArray = some line →
    texts.read line = .ok (.fileRead path) → host.file path ≠ none
  commandEnds : ∀ line cmd env workdir, String.fromUTF8? data.toByteArray = some line →
    texts.read line = .ok (.execCommand cmd env workdir) → cmd ≠ [] → host.command cmd ≠ none
  short : ∀ response members, responseTo texts host data = .answered response →
    response.toMembers = some members → (texts.print members).length < 2 ^ 32

section Turn

variable {texts : Texts φ} {host : HostAnswers φ} {data : List UInt8}

theorem turn_frame (hdata : data.length ≤ maxMessage) (rest : List UInt8) :
    turn texts host (frame data ++ rest) =
      match responseTo texts host data with
      | .skipped => .goesOn [] rest
      | .endless => .waits
      | .answered response =>
        match respond texts response with
        | none => .closes []
        | some sent => .goesOn sent rest := by
  have hlength : ¬(frame data ++ rest).length < 4 := by
    rw [List.length_append, frame_length]
    omega
  have hheader : fromBeBytes ((frame data ++ rest).take 4) = data.length := by
    rw [take_frame, fromBeBytes_toBeBytes, Nat.mod_eq_of_lt]
    unfold maxMessage at hdata
    omega
  have hbody : ¬(data ++ rest).length < data.length := by
    rw [List.length_append]
    omega
  unfold turn
  simp only [if_neg hlength, hheader, drop_frame, if_neg (Nat.not_lt.mpr hdata), if_neg hbody,
    List.take_left, List.drop_left]

/-- An empty payload is skipped, and no other. -/
theorem responseTo_eq_skipped_iff : responseTo texts host data = .skipped ↔ data = [] := by
  have hempty : String.fromUTF8? data.toByteArray = some "" ↔ data = [] := by
    rw [fromUTF8?_eq_some_iff, String.toByteArray_empty, eq_comm]
    exact ByteArray.toByteArray_eq_empty
  rw [← hempty]
  unfold responseTo
  cases String.fromUTF8? data.toByteArray with
  | none => simp
  | some line =>
    by_cases hline : line = ""
    · simp [hline]
    · simp only [Option.some.injEq, hline, iff_false]
      cases texts.read line with
      | error e => simp
      | ok request => cases hhandled : handleRequest host request <;> simp [hhandled]

/-- A response can be serialised unless it lists processes or holds a file. -/
theorem toMembers_eq_none_iff (response : AgentResponse φ) :
    response.toMembers = none ↔
      (∃ processes, response = .processList processes) ∨
        ∃ content, response = .fileContent content := by
  cases response <;> simp [AgentResponse.toMembers]

theorem handleRequest_eq_none_iff (request : AgentRequest) :
    handleRequest host request = none ↔
      (∃ path, request = .fileRead path ∧ host.file path = none) ∨
        ∃ cmd env workdir, request = .execCommand cmd env workdir ∧ cmd ≠ [] ∧
          host.command cmd = none := by
  cases request with
  | processList => simp [handleRequest]
  | getMetrics => cases hmetrics : host.metrics <;> simp [handleRequest, hmetrics]
  | fileRead path => simp [handleRequest]
  | execCommand cmd env workdir =>
    by_cases hcmd : cmd = [] <;> simp [handleRequest, executeCommand, hcmd]

/-- The responses that cannot be serialised. -/
theorem handleRequest_unserialisable_iff (request : AgentRequest) :
    (∃ response, handleRequest host request = some response ∧ response.toMembers = none) ↔
      request = .processList ∨ ∃ path content, request = .fileRead path ∧
        host.file path = some (.ok content) := by
  simp only [toMembers_eq_none_iff]
  cases request with
  | processList => simp [handleRequest]
  | getMetrics =>
    cases hmetrics : host.metrics <;> simp [handleRequest, hmetrics]
  | fileRead path =>
    cases hfile : host.file path with
    | none => simp [handleRequest, hfile]
    | some result => cases result <;> simp [handleRequest, hfile]
  | execCommand cmd env workdir =>
    cases hcommand : executeCommand host cmd with
    | none => simp [handleRequest, hcommand]
    | some result => cases result <;> simp [handleRequest, hcommand]

theorem responseTo_of_read {line : String} {request : AgentRequest} (hdata : data ≠ [])
    (hline : String.fromUTF8? data.toByteArray = some line)
    (hread : texts.read line = .ok request) :
    responseTo texts host data =
      match handleRequest host request with
      | none => .endless
      | some response => .answered response := by
  have hread' : responseTo texts host data ≠ .skipped :=
    fun h => hdata (responseTo_eq_skipped_iff.mp h)
  unfold responseTo at hread' ⊢
  rw [hline] at hread' ⊢
  by_cases hempty : line = ""
  · exact absurd (if_pos hempty) hread'
  · simp only [if_neg hempty, hread]

/-- A payload that is not empty is answered with an error that can be told, or as the request
that it is. -/
theorem responseTo_cases (hdata : data ≠ []) :
    (∃ message, responseTo texts host data = .answered (.error message)) ∨ ∃ line request,
      String.fromUTF8? data.toByteArray = some line ∧ texts.read line = .ok request := by
  have hread' : responseTo texts host data ≠ .skipped :=
    fun h => hdata (responseTo_eq_skipped_iff.mp h)
  unfold responseTo at hread' ⊢
  cases hline : String.fromUTF8? data.toByteArray with
  | none => exact .inl ⟨_, rfl⟩
  | some line =>
    rw [hline] at hread'
    by_cases hempty : line = ""
    · exact absurd (if_pos hempty) hread'
    · cases hread : texts.read line with
      | error e => exact .inl ⟨_, by simp only [if_neg hempty, hread]; rfl⟩
      | ok request => exact .inr ⟨line, request, rfl, hread⟩

theorem handleRequest_of_answered {line : String} {request : AgentRequest}
    {response : AgentResponse φ} (hdata : data ≠ [])
    (hresponse : responseTo texts host data = .answered response)
    (hline : String.fromUTF8? data.toByteArray = some line)
    (hread : texts.read line = .ok request) : handleRequest host request = some response := by
  rw [responseTo_of_read hdata hline hread] at hresponse
  cases hrequest : handleRequest host request with
  | none =>
    rw [hrequest] at hresponse
    cases hresponse
  | some response' =>
    rw [hrequest] at hresponse
    cases hresponse
    rfl

/-- The request of an answerable payload comes to an end, and its response can be told. -/
theorem Answerable.answered (h : Answerable texts host data) :
    ∃ response, responseTo texts host data = .answered response ∧ response.toMembers ≠ none := by
  obtain ⟨message, hmessage⟩ | ⟨line, request, hline, hread⟩ :=
    @responseTo_cases φ texts host data h.nonempty
  · exact ⟨_, hmessage, fun hnone => nomatch hnone⟩
  · have hresponse := @responseTo_of_read φ texts host data line request h.nonempty hline hread
    cases hhandled : handleRequest host request with
    | none =>
      obtain ⟨path, rfl, hfile⟩ | ⟨cmd, env, workdir, rfl, hcmd, hcommand⟩ :=
        (handleRequest_eq_none_iff request).mp hhandled
      · exact absurd hfile (h.fileEnds line path hline hread)
      · exact absurd hcommand (h.commandEnds line cmd env workdir hline hread hcmd)
    | some response =>
      rw [hhandled] at hresponse
      refine ⟨response, hresponse, fun hnone => ?_⟩
      obtain rfl | ⟨path, content, rfl, hfile⟩ :=
        (handleRequest_unserialisable_iff request).mp ⟨response, hhandled, hnone⟩
      · exact h.noProcessList line hline hread
      · exact h.noFileContent line path content hline hread hfile

/-- What the response to a payload has to meet, in terms of the payload. -/
theorem answerable_iff : Answerable texts host data ↔
    ∃ response members, responseTo texts host data = .answered response ∧
      response.toMembers = some members ∧ (texts.print members).length < 2 ^ 32 := by
  constructor
  · intro h
    obtain ⟨response, hresponse, hserial⟩ := h.answered
    obtain ⟨members, hmembers⟩ := Option.ne_none_iff_exists'.mp hserial
    exact ⟨response, members, hresponse, hmembers, h.short response members hresponse hmembers⟩
  · rintro ⟨response, members, hresponse, hmembers, hshort⟩
    have hdata : data ≠ [] := by
      rintro rfl
      rw [responseTo_eq_skipped_iff.mpr rfl] at hresponse
      cases hresponse
    have hends : ∀ line request, String.fromUTF8? data.toByteArray = some line →
        texts.read line = .ok request → handleRequest host request ≠ none := by
      intro line request hline hread
      rw [handleRequest_of_answered hdata hresponse hline hread]
      exact Option.some_ne_none response
    have hserial : ∀ line request, String.fromUTF8? data.toByteArray = some line →
        texts.read line = .ok request →
        ¬∃ response, handleRequest host request = some response ∧ response.toMembers = none := by
      rintro line request hline hread ⟨response', hresponse', hnone⟩
      rw [handleRequest_of_answered hdata hresponse hline hread] at hresponse'
      cases hresponse'
      rw [hmembers] at hnone
      cases hnone
    constructor
    · exact hdata
    · intro line hline hread
      exact hserial line _ hline hread ((handleRequest_unserialisable_iff _).mpr (.inl rfl))
    · intro line path content hline hread hfile
      exact hserial line _ hline hread
        ((handleRequest_unserialisable_iff _).mpr (.inr ⟨path, content, rfl, hfile⟩))
    · intro line path hline hread hfile
      exact hends line _ hline hread ((handleRequest_eq_none_iff _).mpr (.inl ⟨path, rfl, hfile⟩))
    · intro line cmd env workdir hline hread hcmd hcommand
      exact hends line _ hline hread ((handleRequest_eq_none_iff _).mpr
        (.inr ⟨cmd, env, workdir, rfl, hcmd, hcommand⟩))
    · intro response' members' hresponse' hmembers'
      rw [hresponse] at hresponse'
      cases hresponse'
      rw [hmembers] at hmembers'
      cases hmembers'
      exact hshort

/-- An answerable frame is answered, and the connection goes on. -/
theorem turn_answerable (hdata : data.length ≤ maxMessage) (h : Answerable texts host data) :
    ∃ reply : List UInt8, reply.length < 2 ^ 32 ∧
      ∀ rest, turn texts host (frame data ++ rest) = .goesOn (frame reply) rest := by
  obtain ⟨response, members, hresponse, hmembers, hshort⟩ := answerable_iff.mp h
  refine ⟨texts.print members, hshort, fun rest => ?_⟩
  rw [turn_frame hdata, hresponse]
  simp only [respond, hmembers, Option.map_some]

end Turn

section Run

variable {texts : Texts φ} {hosts : ℕ → HostAnswers φ}

theorem processAgentMessages_goesOn {n : ℕ} {input sent rest : List UInt8}
    (h : turn texts (hosts n) input = .goesOn sent rest) (fuel : ℕ) :
    processAgentMessages texts hosts (fuel + 1) n input =
      (sent ++ (processAgentMessages texts hosts fuel (n + 1) rest).1,
        (processAgentMessages texts hosts fuel (n + 1) rest).2) := by
  simp only [processAgentMessages, h]

theorem processAgentMessages_waits {n : ℕ} {input : List UInt8}
    (h : turn texts (hosts n) input = .waits) (fuel : ℕ) :
    processAgentMessages texts hosts fuel n input = ([], true) := by
  cases fuel with
  | zero => rfl
  | succ fuel => simp only [processAgentMessages, h]

theorem processAgentMessages_closes {n : ℕ} {input sent : List UInt8}
    (h : turn texts (hosts n) input = .closes sent) (fuel : ℕ) :
    processAgentMessages texts hosts (fuel + 1) n input = (sent, false) := by
  simp only [processAgentMessages, h]

theorem processAgentMessages_nil (fuel n : ℕ) :
    processAgentMessages texts hosts fuel n [] = ([], true) := by
  cases fuel <;> rfl

/-- Frames that are all answerable are answered one by one. -/
theorem answers_of_answerable {payloads : List (List UInt8)} {n : ℕ}
    (hsize : ∀ data ∈ payloads, data.length ≤ maxMessage)
    (h : ∀ i data, payloads[i]? = some data → Answerable texts (hosts (n + i)) data) :
    ∃ replies : List (List UInt8), replies.length = payloads.length ∧
      (∀ reply ∈ replies, reply.length < 2 ^ 32) ∧ ∀ fuel rest,
        processAgentMessages texts hosts (fuel + payloads.length) n
            (payloads.flatMap frame ++ rest) =
          (replies.flatMap frame ++
              (processAgentMessages texts hosts fuel (n + payloads.length) rest).1,
            (processAgentMessages texts hosts fuel (n + payloads.length) rest).2) := by
  induction payloads generalizing n with
  | nil => exact ⟨[], rfl, fun _ hreply => (nomatch hreply), fun _ _ => rfl⟩
  | cons data payloads ih =>
    have hfirst : Answerable texts (hosts n) data := h 0 data rfl
    obtain ⟨reply, hshort, hturn⟩ := turn_answerable (hsize data List.mem_cons_self) hfirst
    have hlater : ∀ i d, payloads[i]? = some d → Answerable texts (hosts (n + 1 + i)) d := by
      intro i d hd
      have hnext := h (i + 1) d hd
      rwa [Nat.add_comm i 1, ← Nat.add_assoc] at hnext
    obtain ⟨replies, hlength, hreplies, hrun⟩ :=
      ih (fun d hd => hsize d (List.mem_cons_of_mem _ hd)) hlater
    refine ⟨reply :: replies, congrArg (· + 1) hlength, ?_, fun fuel rest => ?_⟩
    · intro r hr
      obtain rfl | hr := List.mem_cons.mp hr
      · exact hshort
      · exact hreplies r hr
    · have hcount : n + (data :: payloads).length = n + 1 + payloads.length := by
        rw [List.length_cons]
        omega
      rw [List.flatMap_cons, List.append_assoc, List.length_cons, ← Nat.add_assoc,
        processAgentMessages_goesOn (hturn _), hrun, ← hcount, List.length_cons,
        List.flatMap_cons, List.append_assoc]

theorem length_le_length_flatMap_frame (payloads : List (List UInt8)) :
    payloads.length ≤ (payloads.flatMap frame).length := by
  induction payloads with
  | nil => exact Nat.le_refl 0
  | cons data payloads ih =>
    rw [List.flatMap_cons, List.length_append, frame_length, List.length_cons]
    omega

/-- What a connection sends for answerable frames followed by more bytes. -/
theorem serve_answerable {payloads : List (List UInt8)}
    (hsize : ∀ data ∈ payloads, data.length ≤ maxMessage)
    (h : ∀ i data, payloads[i]? = some data → Answerable texts (hosts i) data) :
    ∃ replies : List (List UInt8), replies.length = payloads.length ∧
      (∀ reply ∈ replies, reply.length < 2 ^ 32) ∧ ∀ rest, ∃ fuel, rest.length ≤ fuel ∧
        serve texts hosts (payloads.flatMap frame ++ rest) =
          (replies.flatMap frame ++
              (processAgentMessages texts hosts fuel payloads.length rest).1,
            (processAgentMessages texts hosts fuel payloads.length rest).2) := by
  have hfrom : ∀ i data, payloads[i]? = some data → Answerable texts (hosts (0 + i)) data := by
    intro i data hdata
    rw [Nat.zero_add]
    exact h i data hdata
  obtain ⟨replies, hlength, hreplies, hrun⟩ := answers_of_answerable hsize hfrom
  refine ⟨replies, hlength, hreplies, fun rest => ?_⟩
  have hbytes := length_le_length_flatMap_frame payloads
  refine ⟨(payloads.flatMap frame).length - payloads.length + rest.length,
    Nat.le_add_left _ _, ?_⟩
  have hfuel : (payloads.flatMap frame ++ rest).length =
      (payloads.flatMap frame).length - payloads.length + rest.length + payloads.length := by
    rw [List.length_append]
    omega
  unfold serve
  rw [hfuel, hrun, Nat.zero_add]

/-- A frame that is answered after others that were is answerable. -/
theorem answerable_of_answered {data : List UInt8} {before after : List (List UInt8)} {fuel n : ℕ}
    (hdata : data.length ≤ maxMessage) (hfuel : (frame data).length ≤ fuel)
    (hbefore : ∀ reply ∈ before, reply.length < 2 ^ 32)
    (hafter : ∀ reply ∈ after, reply.length < 2 ^ 32) (hlength : after.length = before.length + 1)
    (hsent : before.flatMap frame ++ (processAgentMessages texts hosts fuel n (frame data)).1 =
      after.flatMap frame)
    (hopen : (processAgentMessages texts hosts fuel n (frame data)).2 = true) :
    Answerable texts (hosts n) data := by
  obtain ⟨fuel, rfl⟩ : ∃ k, fuel = k + 1 := by
    refine Nat.exists_eq_add_one.mpr ?_
    rw [frame_length] at hfuel
    omega
  have hturn := @turn_frame φ texts (hosts n) data hdata []
  rw [List.append_nil] at hturn
  -- a turn that sends nothing leaves no more frames than before
  have hsilent : (processAgentMessages texts hosts (fuel + 1) n (frame data)).1 ≠ [] := by
    intro hnil
    rw [hnil, List.append_nil] at hsent
    have hsame := flatMap_frame_inj hbefore hafter hsent
    rw [hsame] at hlength
    omega
  cases hresponse : responseTo texts (hosts n) data with
  | skipped =>
    rw [hresponse] at hturn
    rw [processAgentMessages_goesOn hturn, processAgentMessages_nil] at hsilent
    exact absurd rfl hsilent
  | endless =>
    rw [hresponse] at hturn
    rw [processAgentMessages_waits hturn] at hsilent
    exact absurd rfl hsilent
  | answered response =>
    rw [hresponse] at hturn
    cases hmembers : response.toMembers with
    | none =>
      simp only [respond, hmembers, Option.map_none] at hturn
      rw [processAgentMessages_closes hturn] at hopen
      cases hopen
    | some members =>
      simp only [respond, hmembers, Option.map_some] at hturn
      rw [processAgentMessages_goesOn hturn, processAgentMessages_nil, List.append_nil] at hsent
      exact answerable_iff.mpr ⟨response, members, hresponse, hmembers,
        short_of_flatMap_frame hbefore hafter hlength hsent⟩

/-- Every frame is answered, in order and on an open connection, exactly if every payload is
answerable. -/
theorem each_frame_answered_iff {payloads : List (List UInt8)}
    (hsize : ∀ data ∈ payloads, data.length ≤ maxMessage) :
    AnswersEach texts hosts payloads ↔
      ∀ i data, payloads[i]? = some data → Answerable texts (hosts i) data := by
  constructor
  · intro h i
    -- strong induction: the frames before are answered, and so this one must be
    induction i using Nat.strong_induction_on with
    | _ i ih =>
      intro data hi
      have hlt : i < payloads.length := (List.getElem?_eq_some_iff.mp hi).1
      have htake : payloads.take (i + 1) = payloads.take i ++ [data] := by
        rw [List.take_add_one, hi, Option.toList_some]
      have hcount : (payloads.take i).length = i := List.length_take_of_le (Nat.le_of_lt hlt)
      obtain ⟨before, hbeforeLength, hbefore, hrun⟩ := @serve_answerable φ texts hosts
        (payloads.take i) (fun d hd => hsize d (List.mem_of_mem_take hd)) (fun j d hj => by
          have hj' : j < i := by
            have := (List.getElem?_eq_some_iff.mp hj).1
            omega
          rw [List.getElem?_take_of_lt hj'] at hj
          exact ih j hj' d hj)
      obtain ⟨after, hafterLength, hafter, hserved⟩ := h _ (List.take_prefix (i + 1) payloads)
      obtain ⟨fuel, hfuel, hrun⟩ := hrun (frame data)
      rw [htake, List.flatMap_append, List.flatMap_singleton, hrun, Prod.mk.injEq] at hserved
      rw [htake, List.length_append, List.length_singleton, hcount] at hafterLength
      rw [hcount] at hbeforeLength hserved
      exact answerable_of_answered (hsize data (List.mem_of_getElem? hi)) hfuel hbefore hafter
        (by rw [hafterLength, hbeforeLength]) hserved.1 hserved.2
  · intro h pre hpre
    obtain ⟨replies, hlength, hreplies, hrun⟩ := @serve_answerable φ texts hosts pre
      (fun d hd => hsize d (hpre.subset hd))
      (fun i d hi => by
        obtain ⟨hlt, rfl⟩ := List.getElem?_eq_some_iff.mp hi
        exact h i _ (List.prefix_iff_getElem?.mp hpre i hlt))
    obtain ⟨fuel, -, hrun⟩ := hrun []
    refine ⟨replies, hlength, hreplies, ?_⟩
    rw [List.append_nil] at hrun
    rw [hrun, processAgentMessages_nil, List.append_nil]

end Run

/-! ## Concrete connections -/

def trueRequest : String :=
  "\x7b\"type\":\"ExecCommand\",\"cmd\":[\"true\"],\"env\":\x7b\x7d,\"workdir\":null\x7d"

def processListRequest : String := "\x7b\"type\":\"ProcessList\"\x7d"

def silentText : String :=
  "\x7b\"type\":\"ExecOutput\",\"stdout\":[],\"stderr\":[],\"exit_code\":0\x7d"

/-- The texts of serde that the connections below meet. -/
def sampleTexts : Texts φ where
  print
    | [("type", .str "ExecOutput"), ("stdout", .arr []), ("stderr", .arr []),
        ("exit_code", .int 0)] => utf8 silentText
    | _ => []
  read line :=
    if line = trueRequest then .ok (.execCommand ["true"] ∅ none)
    else if line = processListRequest then .ok .processList
    else .error "expected value at line 1 column 1"
  utf8Error _ := "invalid utf-8 sequence"

/-- A guest without processes where every command succeeds silently. -/
def quietHost : HostAnswers φ where
  processes := []
  metrics := .error "No such file or directory"
  file _ := some (.error "No such file or directory")
  command _ := some (.ok ([], [], 0))

theorem answerable_trueRequest : @Answerable ℕ sampleTexts quietHost (utf8 trueRequest) := by
  have hread : (@sampleTexts ℕ).read trueRequest = .ok (.execCommand ["true"] ∅ none) := by
    simp only [sampleTexts, if_true]
  have hresponse := @responseTo_of_read ℕ sampleTexts quietHost _ _ _ (by decide)
    (fromUTF8?_utf8 trueRequest) hread
  refine answerable_iff.mpr ⟨_, _, hresponse, rfl, ?_⟩
  decide

/-- A command is answered. -/
theorem command_answered :
    (utf8 trueRequest).length ≤ maxMessage ∧
      @AnswersEach ℕ sampleTexts (fun _ => quietHost) [utf8 trueRequest] := by
  have hsize : (utf8 trueRequest).length ≤ maxMessage := by decide
  refine ⟨hsize, (each_frame_answered_iff ?_).mpr ?_⟩
  · intro data hdata
    rw [List.mem_singleton.mp hdata]
    exact hsize
  · intro i data hi
    obtain ⟨-, rfl⟩ : i = 0 ∧ utf8 trueRequest = data := by
      cases i with
      | zero => exact ⟨rfl, Option.some.inj hi⟩
      | succ i => cases hi
    exact answerable_trueRequest

/-- Asking for the processes ends the connection without an answer. -/
theorem process_list_ends_connection :
    (utf8 processListRequest).length ≤ maxMessage ∧
      ¬@AnswersEach ℕ sampleTexts (fun _ => quietHost) [utf8 processListRequest] := by
  have hsize : (utf8 processListRequest).length ≤ maxMessage := by decide
  refine ⟨hsize, fun h => ?_⟩
  have hread : (@sampleTexts ℕ).read processListRequest = .ok .processList := by
    have hother : processListRequest ≠ trueRequest := by decide
    simp only [sampleTexts, if_neg hother, if_true]
  have hresponse := @responseTo_of_read ℕ sampleTexts quietHost _ _ _ (by decide)
    (fromUTF8?_utf8 processListRequest) hread
  have hturn := @turn_frame ℕ sampleTexts quietHost _ hsize []
  rw [hresponse, List.append_nil] at hturn
  obtain ⟨replies, -, -, hserved⟩ := h _ (List.prefix_refl _)
  rw [List.flatMap_singleton] at hserved
  unfold serve at hserved
  rw [frame_length] at hserved
  have hclosed := @processAgentMessages_closes ℕ sampleTexts (fun _ => quietHost) 0 _ _ hturn
  rw [hclosed, Prod.mk.injEq] at hserved
  cases hserved.2

end Vyoma.Agent
