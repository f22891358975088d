import Vyoma.StreamingServer

/-!
# Streams over whole runs

Handlers, timers, sessions and the clock in any order. Every connection of the streaming server
is made for a token that a handler has returned at most four hours before it was checked; and
none goes to a VM, since no token knows an address. A request with a token that has been
returned is not turned away before the four hours are over.
-/
namespace Vyoma.Cri
open GoStrings LockPrograms Runs

/-! ## Tokens that have been handed out -/

theorem mem_handedOut_iff {c : CriConfig} {t : StreamingToken} :
    t ∈ handedOut c ↔ ∃ url, .ret (.stream url t) ∈ c.threads := by
  unfold handedOut
  rw [List.mem_filterMap]
  constructor
  · rintro ⟨p, hp, hstream⟩
    unfold streamOf at hstream
    split at hstream
    · cases hstream
      exact ⟨_, hp⟩
    · cases hstream
  · rintro ⟨url, hp⟩
    exact ⟨_, hp, rfl⟩

theorem handedOut_step {c : CriConfig} {t : StreamingToken} (h : t ∈ handedOut c)
    (a : Action Query Request) : t ∈ handedOut (step service c a) := by
  obtain ⟨url, hp⟩ := mem_handedOut_iff.mp h
  exact mem_handedOut_iff.mpr ⟨url, ret_mem_step hp a⟩

theorem handedOut_of_drawn {c : CriConfig} {a : Action Query Request} {t : StreamingToken}
    (h : drawn c a = some t) : t ∈ handedOut (step service c a) := by
  cases a with
  | arrives req => cases h
  | runs i world waiting =>
    simp only [drawn] at h
    split_ifs at h
    · obtain ⟨p, hp, hstream⟩ := Option.bind_eq_some_iff.mp h
      exact List.mem_filterMap.mpr ⟨p, List.mem_of_getElem? hp, hstream⟩

theorem local_of_handedOut {c : CriConfig} {t : StreamingToken}
    (hkept : Kept recordContract Recorded Reply.Local c) (h : t ∈ handedOut c) :
    ∃ url, t.Local url := by
  obtain ⟨url, hp⟩ := mem_handedOut_iff.mp h
  exact ⟨url, hkept.threads _ hp⟩

/-! ## What is known of the tokens -/

/-- The token has been returned by a handler, not later than now. -/
structure IssuedToken.Known (n : Node) (issued : IssuedToken) : Prop where
  handedOut : issued.token ∈ handedOut n.cri
  created : issued.created ≤ n.now

/-- Some token with the text has been returned. -/
def Used (n : Node) (text : String) : Prop :=
  text ∈ (handedOut n.cri).map StreamingToken.token

theorem IssuedToken.Known.used {n : Node} {issued : IssuedToken} (h : issued.Known n) :
    Used n issued.token.token :=
  List.mem_map.mpr ⟨issued.token, h.handedOut, rfl⟩

/-- The token was checked within four hours of its return. -/
structure InTime (n : Node) (issued : IssuedToken) (checked : ℕ) : Prop where
  handedOut : issued.token ∈ handedOut n.cri
  created : issued.created ≤ checked
  valid : checked ≤ issued.created + tokenLifetime

def Session.Backed (n : Node) : Session → Prop
  | .loading _ _ _ => True
  | .checking _ _ token issued => issued.token.token = token ∧ issued.Known n
  | .expired token => Used n token
  | .admitted _ _ issued checked => InTime n issued checked
  | .ended _ => True

/-- A connection that the streaming server makes. It goes to the machine that the server itself
runs on, whatever pod it is for. -/
structure Connection.Sound (n : Node) (c : Connection) : Prop where
  inTime : InTime n c.issued c.checked
  type : c.issued.token.type = c.endpoint.type
  agent : c.endpoint ≠ .portForward → c.dial.1 = ":9999"
  port : c.endpoint = .portForward →
    ∃ p ∈ c.issued.token.ports, c.dial = (":" ++ toString p.toInt, [])

/-- The invariant of the runs. -/
structure Backed (n : Node) : Prop where
  kept : Kept recordContract Recorded Reply.Local n.cri
  tokens : ∀ key issued, n.tokens.lookup key = some issued →
    issued.token.token = key ∧ issued.Known n
  timers : ∀ timer ∈ n.timers, Used n timer.1
  sessions : ∀ session ∈ n.sessions, session.Backed n
  connections : ∀ c ∈ n.connections, c.Sound n

/-- More has been handed out, and time has passed. -/
structure Later (n n' : Node) : Prop where
  handedOut : ∀ t ∈ handedOut n.cri, t ∈ Cri.handedOut n'.cri
  now : n.now ≤ n'.now

section Later

variable {n n' : Node}

theorem Later.of_eq (hcri : n'.cri = n.cri) (hnow : n.now ≤ n'.now) : Later n n' :=
  ⟨fun _ h => hcri ▸ h, hnow⟩

theorem Later.used (h : Later n n') {text : String} (htext : Used n text) : Used n' text := by
  obtain ⟨t, ht, rfl⟩ := List.mem_map.mp htext
  exact List.mem_map.mpr ⟨t, h.handedOut t ht, rfl⟩

theorem Later.known (h : Later n n') {issued : IssuedToken} (hissued : issued.Known n) :
    issued.Known n' :=
  ⟨h.handedOut _ hissued.handedOut, Nat.le_trans hissued.created h.now⟩

theorem Later.inTime (h : Later n n') {issued : IssuedToken} {checked : ℕ}
    (hchecked : InTime n issued checked) : InTime n' issued checked :=
  ⟨h.handedOut _ hchecked.handedOut, hchecked.created, hchecked.valid⟩

theorem Later.session (h : Later n n') {session : Session} (hsession : session.Backed n) :
    session.Backed n' := by
  cases session with
  | loading e get token => exact trivial
  | checking e get token issued => exact ⟨hsession.1, h.known hsession.2⟩
  | expired token => exact h.used hsession
  | admitted e get issued checked => exact h.inTime hsession
  | ended response => exact trivial

theorem Later.connection (h : Later n n') {c : Connection} (hc : c.Sound n) : c.Sound n' :=
  ⟨h.inTime hc.inTime, hc.type, hc.agent, hc.port⟩

/-- A step that adds nothing but time and tokens. -/
theorem Backed.later (hn : Backed n) (h : Later n n')
    (hkept : Kept recordContract Recorded Reply.Local n'.cri)
    (htokens : ∀ key issued, n'.tokens.lookup key = some issued →
      n.tokens.lookup key = some issued ∨ issued.token.token = key ∧ issued.Known n')
    (htimers : ∀ timer ∈ n'.timers, timer ∈ n.timers ∨ Used n' timer.1)
    (hsessions : ∀ session ∈ n'.sessions, session ∈ n.sessions ∨ session.Backed n')
    (hconnections : ∀ c ∈ n'.connections, c ∈ n.connections ∨ c.Sound n') : Backed n' where
  kept := hkept
  tokens key issued hkey := by
    obtain hold | hnew := htokens key issued hkey
    · obtain ⟨htext, hknown⟩ := hn.tokens key issued hold
      exact ⟨htext, h.known hknown⟩
    · exact hnew
  timers timer htimer := (htimers timer htimer).elim (fun hold => h.used (hn.timers timer hold)) id
  sessions session hsession :=
    (hsessions session hsession).elim (fun hold => h.session (hn.sessions session hold)) id
  connections c hc :=
    (hconnections c hc).elim (fun hold => h.connection (hn.connections c hold)) id

end Later

/-! ## One step -/

/-- However the calls end, there is one connection. -/
theorem dial_handleExec (st : StreamingToken) (get : Bool) (answers : StreamAnswers) :
    ∃ commands, (handleExec st get answers).2 = [(agentAddress st.vmIp, commands)] := by
  unfold handleExec
  dsimp only
  cases answers.connect with
  | error e => exact ⟨_, rfl⟩
  | ok _ =>
    dsimp only
    by_cases hget : get = true
    · rw [if_pos hget]
      exact ⟨_, rfl⟩
    · rw [if_neg hget]
      cases answers.body with
      | none => exact ⟨_, rfl⟩
      | some value =>
        cases answers.ran with
        | error e => exact ⟨_, rfl⟩
        | ok result => exact ⟨_, rfl⟩

theorem dial_handleAttach (st : StreamingToken) (answers : StreamAnswers) :
    ∃ commands, (handleAttach st answers).2 = [(agentAddress st.vmIp, commands)] := by
  unfold handleAttach
  dsimp only
  cases answers.connect with
  | error e => exact ⟨_, rfl⟩
  | ok _ => exact ⟨_, rfl⟩

theorem dial_handlePortForward {st : StreamingToken} {get : Bool} {dial : Dial}
    (h : dial ∈ (handlePortForward st get).2) : ∃ p ∈ st.ports, dial = forwardPort st.vmIp p := by
  unfold handlePortForward at h
  split_ifs at h
  · cases h
  · obtain ⟨p, hp, rfl⟩ := List.mem_map.mp h
    exact ⟨p, hp, rfl⟩

/-- What the handlers of the endpoints connect to. -/
theorem sound_serve {n : Node} {e : Endpoint} {issued : IssuedToken} {checked : ℕ}
    (hkept : Kept recordContract Recorded Reply.Local n.cri) (hchecked : InTime n issued checked)
    (get : Bool) (answers : StreamAnswers) {dial : Dial}
    (h : dial ∈ (e.serve issued.token get answers).2) :
    Connection.Sound n ⟨e, issued, checked, dial⟩ := by
  obtain ⟨url, hlocal⟩ := local_of_handedOut hkept hchecked.handedOut
  have hagent : agentAddress issued.token.vmIp = ":9999" := by
    rw [hlocal.vmIp]
    rfl
  unfold Endpoint.serve at h
  split_ifs at h with htype
  · cases h
  have htype : issued.token.type = e.type := not_not.mp htype
  refine ⟨hchecked, htype, fun he => ?_, fun he => ?_⟩
  · rw [← hagent]
    cases e with
    | exec =>
      obtain ⟨commands, hdial⟩ := dial_handleExec issued.token get answers
      dsimp only at h
      rw [hdial] at h
      rw [List.mem_singleton.mp h]
    | attach =>
      obtain ⟨commands, hdial⟩ := dial_handleAttach issued.token answers
      dsimp only at h
      rw [hdial] at h
      rw [List.mem_singleton.mp h]
    | portForward => exact absurd rfl he
  · cases he
    obtain ⟨p, hp, rfl⟩ := dial_handlePortForward h
    refine ⟨p, hp, ?_⟩
    rw [forwardPort, hlocal.vmIp]
    rfl

/-- A session goes on, and may have removed a token or made connections. -/
theorem Backed.turned {n : Node} (hn : Backed n) (i : ℕ) {next : Session}
    (tokens : HashMap String IssuedToken) (connections : List Connection)
    (hnext : next.Backed n)
    (htokens : ∀ key issued, tokens.lookup key = some issued → n.tokens.lookup key = some issued)
    (hconnections : ∀ c ∈ connections, c.Sound n) :
    Backed
      { n with
        tokens := tokens, sessions := n.sessions.set i next
        connections := n.connections ++ connections } := by
  have hlater : Later n
      { n with
        tokens := tokens, sessions := n.sessions.set i next
        connections := n.connections ++ connections } := .of_eq rfl (Nat.le_refl _)
  refine hn.later hlater hn.kept (fun key issued h => .inl (htokens key issued h))
    (fun _ h => .inl h) (fun session hsession => ?_) fun c hc => ?_
  · obtain hold | rfl := List.mem_or_eq_of_mem_set hsession
    · exact .inl hold
    · exact .inr (hlater.session hnext)
  · obtain hold | hnew := List.mem_append.mp hc
    · exact .inl hold
    · exact .inr (hlater.connection (hconnections c hnew))

theorem Backed.turned_only {n : Node} (hn : Backed n) {i : ℕ} {next : Session}
    (hnext : next.Backed n) : Backed { n with sessions := n.sessions.set i next } := by
  have hturned := hn.turned i n.tokens [] hnext (fun _ _ h => h) fun _ h => nomatch h
  rwa [List.append_nil] at hturned

theorem backed_nodeStep {n : Node} (hn : Backed n) (a : NodeAction) : Backed (nodeStep n a) := by
  have hsteps := nodeSteps_nodeStep n a
  generalize nodeStep n a = n' at hsteps ⊢
  cases hsteps with
  | idle => exact hn
  | @ran a h =>
    exact hn.later ⟨fun _ ht => handedOut_step ht a, Nat.le_refl _⟩
      (kept_step honours_recorded keepsRecords_handle hn.kept a)
      (fun _ _ h => .inl h) (fun _ h => .inl h) (fun _ h => .inl h) fun _ h => .inl h
  | @drew a t h =>
    have hnew : t ∈ handedOut (step service n.cri a) := handedOut_of_drawn h
    refine hn.later ⟨fun _ ht => handedOut_step ht a, Nat.le_refl _⟩
      (kept_step honours_recorded keepsRecords_handle hn.kept a)
      (fun key issued hkey => ?_) (fun timer htimer => ?_) (fun _ h => .inl h) fun _ h => .inl h
    · rw [Node.generateToken, HashMap.lookup_insert] at hkey
      split_ifs at hkey with heq
      · cases hkey
        exact .inr ⟨heq, hnew, Nat.le_refl _⟩
      · exact .inl hkey
    · obtain hold | hlast := List.mem_append.mp htimer
      · exact .inl hold
      · rw [List.mem_singleton.mp hlast]
        exact .inr (List.mem_map.mpr ⟨t, hnew, rfl⟩)
  | passed time =>
    exact hn.later (.of_eq rfl (Nat.le_add_right _ _)) hn.kept (fun _ _ h => .inl h)
      (fun _ h => .inl h) (fun _ h => .inl h) fun _ h => .inl h
  | fired h hdue =>
    exact hn.later (.of_eq rfl (Nat.le_refl _)) hn.kept
      (fun _ _ h => .inl (HashMap.lookup_of_lookup_erase h))
      (fun _ h => .inl (List.mem_of_mem_eraseIdx h)) (fun _ h => .inl h) fun _ h => .inl h
  | requested h =>
    refine hn.later (.of_eq rfl (Nat.le_refl _)) hn.kept (fun _ _ h => .inl h)
      (fun _ h => .inl h) (fun session hsession => ?_) fun _ h => .inl h
    obtain hold | hlast := List.mem_append.mp hsession
    · exact .inl hold
    · rw [List.mem_singleton.mp hlast]
      exact .inr trivial
  | missed h htoken => exact hn.turned_only trivial
  | found h htoken => exact hn.turned_only (hn.tokens _ _ htoken)
  | foundExpired h hlate =>
    obtain ⟨rfl, hknown⟩ := hn.sessions _ (List.mem_of_getElem? h)
    exact hn.turned_only hknown.used
  | @admitted i answers e get token issued h htime =>
    obtain ⟨-, hknown⟩ := hn.sessions _ (List.mem_of_getElem? h)
    have hchecked : InTime n issued n.now :=
      ⟨hknown.handedOut, hknown.created, issued.lasts ▸ htime⟩
    exact hn.turned_only (show (Session.admitted e get issued n.now).Backed n from hchecked)
  | @removed i answers token h =>
    have hturned := hn.turned i (n.tokens.erase token) [] (show unauthorized.Backed n from trivial)
      (fun _ _ h => HashMap.lookup_of_lookup_erase h) fun _ h => nomatch h
    rwa [List.append_nil] at hturned
  | served h =>
    refine hn.turned _ _ _ trivial (fun _ _ h => h) fun c hc => ?_
    obtain ⟨dial, hdial, rfl⟩ := List.mem_map.mp hc
    exact sound_serve hn.kept (hn.sessions _ (List.mem_of_getElem? h)) _ _ hdial

theorem backed_init : Backed Node.init where
  kept := kept_init
  tokens _ _ h := nomatch h
  timers _ h := nomatch h
  sessions _ h := nomatch h
  connections _ h := nomatch h

theorem backed_throughout (run : List NodeAction) :
    Throughout nodeStep Backed Node.init run :=
  throughout_of_invariant backed_init (fun _ a h => backed_nodeStep h a) run

/-- However handlers, timers, sessions and time have gone on: every connection of the streaming
server is for a token that a handler has returned for that endpoint, checked within four hours
of its return, and goes to the server's own machine, to the port of the agent or one that was
asked for. -/
theorem connections_sound (run : List NodeAction) :
    ∀ c ∈ (Runs.exec nodeStep .init run).connections, c.Sound (Runs.exec nodeStep .init run) :=
  (backed_throughout run).exec.connections

/-- A pod is made, and one of its ports is asked for. -/
def untilForward : List NodeAction :=
  let turn i : Action Query Request := .runs i quietWorld false
  (.arrives (.runPodSandbox ⟨"web", "default", "1", ∅, ∅, none, []⟩) :: List.replicate 5 (turn 0) ++
    .arrives (.portForward "vm1" [80]) :: List.replicate 3 (turn 1)).map .cri

def forwardToken : StreamingToken where
  token := "00000000000000000000000000000000"
  type := "portforward"
  containerId := ""
  podId := "vm1"
  vmId := "vm1"
  vmIp := ""
  command := []
  tty := false
  stdin := false
  stdout := false
  stderr := false
  ports := [80]

/-- The URL is opened at once. -/
def opened : List NodeAction :=
  untilForward ++ .cri (.runs 1 quietWorld false) ::
    .requests (Endpoint.portForward.path ++ forwardToken.token) false ::
      List.replicate 3 (.turns 0 ⟨.ok (), none, .error ""⟩)

def forwarded : Connection :=
  ⟨.portForward, ⟨forwardToken, 0, tokenLifetime, rfl⟩, 0, (":80", [])⟩

theorem forwarded_sound : forwarded.Sound (Runs.exec nodeStep .init opened) :=
  connections_sound opened forwarded (List.mem_singleton.mpr rfl)

/-! ## How long a token is good -/

/-- The text drawn for a token is not that of another one. -/
def Fresh (n : Node) : NodeAction → Prop
  | .cri a => ∀ t, drawn n.cri a = some t → ¬Used n t.token
  | _ => True

instance : ∀ (n : Node) (a : NodeAction), Decidable (Fresh n a)
  | n, .cri a =>
    match h : drawn n.cri a with
    | none => isTrue fun _ ht => nomatch h.symm.trans ht
    | some t =>
      decidable_of_iff (t.token ∉ (handedOut n.cri).map StreamingToken.token)
        ⟨fun hnew _ ht => Option.some.inj (h.symm.trans ht) ▸ hnew, fun hfresh => hfresh t h⟩
  | _, .passes _ => isTrue trivial
  | _, .fires _ => isTrue trivial
  | _, .requests _ _ => isTrue trivial
  | _, .turns _ _ => isTrue trivial

/-- The token with the text is stored until it is due, and nobody removes it sooner. -/
structure Honoured (text : String) (due : ℕ) (n : Node) : Prop where
  used : Used n text
  stored : (n.tokens.lookup text).isSome ∨ due ≤ n.now
  expires : ∀ issued, n.tokens.lookup text = some issued → issued.expires = due
  timers : ∀ timer ∈ n.timers, timer.1 = text → timer.2 = due
  checking : ∀ e get issued, .checking e get text issued ∈ n.sessions → issued.expires = due
  expired : .expired text ∈ n.sessions → due ≤ n.now

section Honoured

variable {n n' : Node} {text : String} {due : ℕ}

/-- The text was not in use before. -/
theorem honoured_drawn (hn : Backed n) {a : Action Query Request} {t : StreamingToken}
    (h : drawn n.cri a = some t) (hfresh : ¬Used n t.token) :
    Honoured t.token (n.now + tokenLifetime) (nodeStep n (.cri a)) := by
  have hstep : nodeStep n (.cri a) =
      { n with cri := step service n.cri a }.generateToken t := by
    show n.criStep a = _
    unfold Node.criStep
    rw [h]
  rw [hstep]
  refine ⟨?_, .inl ?_, fun issued hlookup => ?_, fun timer htimer htext => ?_,
    fun e get issued hsession => ?_, fun hsession => ?_⟩
  · exact List.mem_map.mpr ⟨t, handedOut_of_drawn h, rfl⟩
  · rw [Node.generateToken, HashMap.lookup_insert, if_pos rfl]
    rfl
  · rw [Node.generateToken, HashMap.lookup_insert, if_pos rfl] at hlookup
    cases hlookup
    rfl
  · obtain hold | hlast := List.mem_append.mp htimer
    · exact absurd (htext ▸ hn.timers timer hold) hfresh
    · rw [List.mem_singleton.mp hlast]
  · obtain ⟨htext, hknown⟩ := hn.sessions _ hsession
    exact absurd (htext ▸ hknown.used) hfresh
  · exact absurd (hn.sessions _ hsession) hfresh

/-- A session goes on: what it was and what it is now. -/
theorem Honoured.turned (h : Honoured text due n) (i : ℕ) {next : Session}
    (tokens : HashMap String IssuedToken) (connections : List Connection)
    (hstored : (tokens.lookup text).isSome ∨ due ≤ n.now)
    (htokens : ∀ issued, tokens.lookup text = some issued → n.tokens.lookup text = some issued)
    (hchecking : ∀ e get issued, next = .checking e get text issued → issued.expires = due)
    (hexpired : next = .expired text → due ≤ n.now) :
    Honoured text due
      { n with
        tokens := tokens, sessions := n.sessions.set i next, connections := connections } where
  used := h.used
  stored := hstored
  expires issued hlookup := h.expires issued (htokens issued hlookup)
  timers := h.timers
  checking e get issued hsession := by
    obtain hold | hnew := List.mem_or_eq_of_mem_set hsession
    · exact h.checking e get issued hold
    · exact hchecking e get issued hnew.symm
  expired hsession := by
    obtain hold | hnew := List.mem_or_eq_of_mem_set hsession
    · exact h.expired hold
    · exact hexpired hnew.symm

/-- Something is removed: another token, or this one when it is due. -/
theorem Honoured.stored_erase (h : Honoured text due n) {other : String}
    (hother : other = text → due ≤ n.now) :
    ((n.tokens.erase other).lookup text).isSome ∨ due ≤ n.now := by
  by_cases heq : other = text
  · exact .inr (hother heq)
  · rw [AList.lookup_erase_ne (Ne.symm heq)]
    exact h.stored

theorem Honoured.nodeStep (h : Honoured text due n) {a : NodeAction} (hfresh : Fresh n a) :
    Honoured text due (nodeStep n a) := by
  have hsteps := nodeSteps_nodeStep n a
  generalize Cri.nodeStep n a = n' at hsteps ⊢
  cases hsteps with
  | idle => exact h
  | @ran a hdrawn =>
    have hlater : Later n { n with cri := step service n.cri a } :=
      ⟨fun _ ht => handedOut_step ht a, Nat.le_refl _⟩
    exact ⟨hlater.used h.used, h.stored, h.expires, h.timers, h.checking, h.expired⟩
  | @drew a t hdrawn =>
    have hne : text ≠ t.token := by
      rintro rfl
      exact hfresh t hdrawn h.used
    have hlookup : ({ n with cri := step service n.cri a }.generateToken t).tokens.lookup text =
        n.tokens.lookup text := by
      rw [Node.generateToken, HashMap.lookup_insert, if_neg (Ne.symm hne)]
    have hlater : Later n ({ n with cri := step service n.cri a }.generateToken t) :=
      ⟨fun _ ht => handedOut_step ht a, Nat.le_refl _⟩
    refine ⟨hlater.used h.used, hlookup ▸ h.stored, hlookup ▸ h.expires,
      fun timer htimer htext => ?_, h.checking, h.expired⟩
    obtain hold | hlast := List.mem_append.mp htimer
    · exact h.timers timer hold htext
    · rw [List.mem_singleton.mp hlast] at htext
      exact absurd htext.symm hne
  | passed time =>
    exact ⟨h.used, h.stored.imp_right (Nat.le_add_right_of_le ·), h.expires, h.timers, h.checking,
      fun hsession => Nat.le_add_right_of_le (h.expired hsession)⟩
  | @fired i other due' htimer hdue =>
    refine ⟨h.used, h.stored_erase fun heq => ?_,
      fun issued hlookup => h.expires issued (HashMap.lookup_of_lookup_erase hlookup),
      fun timer hmem => h.timers timer (List.mem_of_mem_eraseIdx hmem), h.checking, h.expired⟩
    rw [← h.timers _ (List.mem_of_getElem? htimer) heq]
    exact hdue
  | requested hroute =>
    refine ⟨h.used, h.stored, h.expires, h.timers, fun e get issued hsession => ?_,
      fun hsession => ?_⟩
    · obtain hold | hlast := List.mem_append.mp hsession
      · exact h.checking e get issued hold
      · cases List.mem_singleton.mp hlast
    · obtain hold | hlast := List.mem_append.mp hsession
      · exact h.expired hold
      · cases List.mem_singleton.mp hlast
  | missed hi htoken =>
    exact h.turned _ n.tokens n.connections h.stored (fun _ hlookup => hlookup)
      (fun _ _ _ hnext => nomatch hnext) fun hnext => nomatch hnext
  | found hi htoken =>
    refine h.turned _ n.tokens n.connections h.stored (fun _ hlookup => hlookup)
      (fun e get issued hnext => ?_) fun hnext => nomatch hnext
    cases hnext
    exact h.expires _ htoken
  | foundExpired hi hlate =>
    refine h.turned _ n.tokens n.connections h.stored (fun _ hlookup => hlookup)
      (fun _ _ _ hnext => nomatch hnext) fun hnext => ?_
    cases hnext
    rw [← h.checking _ _ _ (List.mem_of_getElem? hi)]
    exact Nat.le_of_lt hlate
  | admitted hi htime =>
    exact h.turned _ n.tokens n.connections h.stored (fun _ hlookup => hlookup)
      (fun _ _ _ hnext => nomatch hnext) fun hnext => nomatch hnext
  | removed hi =>
    refine h.turned _ _ n.connections (h.stored_erase fun heq => ?_)
      (fun _ hlookup => HashMap.lookup_of_lookup_erase hlookup)
      (fun _ _ _ hnext => nomatch hnext) fun hnext => nomatch hnext
    exact h.expired (heq ▸ List.mem_of_getElem? hi)
  | served hi =>
    exact h.turned _ n.tokens _ h.stored (fun _ hlookup => hlookup)
      (fun _ _ _ hnext => nomatch hnext) fun hnext => nomatch hnext

/-! ## Requests with a token -/

/-- A request with the text has not been turned away for its token, or only when it was due. -/
def Session.Waits (text : String) (due now : ℕ) : Session → Prop
  | .loading _ _ token => token = text
  | .checking _ _ token _ => token = text
  | .expired token => token = text
  | .admitted _ _ _ _ => True
  | .ended response => ∀ message, response = .error 401 message → due ≤ now

def Waits (text : String) (due j : ℕ) (n : Node) : Prop :=
  ∃ session, n.sessions[j]? = some session ∧ session.Waits text due n.now

theorem serve_ne_unauthorized (e : Endpoint) (st : StreamingToken) (get : Bool)
    (answers : StreamAnswers) (message : String) :
    (e.serve st get answers).1 ≠ .error 401 message := by
  intro h
  unfold Endpoint.serve at h
  split_ifs at h
  · cases h
  cases e with
  | exec =>
    unfold handleExec at h
    dsimp only at h
    cases hconnect : answers.connect with
    | error e =>
      rw [hconnect] at h
      cases h
    | ok _ =>
      rw [hconnect] at h
      dsimp only at h
      by_cases hget : get = true
      · rw [if_pos hget] at h
        cases h
      · rw [if_neg hget] at h
        cases hbody : answers.body with
        | none =>
          rw [hbody] at h
          cases h
        | some value =>
          rw [hbody] at h
          cases hran : answers.ran with
          | error e =>
            rw [hran] at h
            cases h
          | ok result =>
            rw [hran] at h
            cases h
  | attach =>
    unfold handleAttach at h
    dsimp only at h
    cases hconnect : answers.connect with
    | error e =>
      rw [hconnect] at h
      cases h
    | ok _ =>
      rw [hconnect] at h
      cases h
  | portForward =>
    unfold handlePortForward at h
    dsimp only at h
    split_ifs at h

theorem Session.Waits.later {session : Session} {now now' : ℕ} (h : session.Waits text due now)
    (hnow : now ≤ now') : session.Waits text due now' := by
  cases session with
  | ended response => exact fun message he => Nat.le_trans (h message he) hnow
  | _ => exact h

theorem Waits.same {j : ℕ} (h : Waits text due j n) (hsessions : n'.sessions = n.sessions)
    (hnow : n.now ≤ n'.now) : Waits text due j n' := by
  obtain ⟨session, hj, hwaits⟩ := h
  exact ⟨session, hsessions ▸ hj, hwaits.later hnow⟩

/-- The session that goes on is this one, or another. -/
theorem Waits.turned {j i : ℕ} (h : Waits text due j n) {old next : Session}
    (hi : n.sessions[i]? = some old) (hsessions : n'.sessions = n.sessions.set i next)
    (hnow : n'.now = n.now)
    (hnext : old.Waits text due n.now → next.Waits text due n.now) : Waits text due j n' := by
  obtain ⟨session, hj, hwaits⟩ := h
  rw [Waits, hsessions, hnow]
  by_cases hij : i = j
  · subst hij
    rw [hi] at hj
    cases hj
    obtain ⟨hlt, -⟩ := List.getElem?_eq_some_iff.mp hi
    exact ⟨next, List.getElem?_set_self hlt, hnext hwaits⟩
  · exact ⟨session, by rw [List.getElem?_set_ne hij, hj], hwaits⟩

theorem Waits.nodeStep {j : ℕ} (h : Waits text due j n) (hhonoured : Honoured text due n)
    (a : NodeAction) : Waits text due j (nodeStep n a) := by
  have hsteps := nodeSteps_nodeStep n a
  generalize Cri.nodeStep n a = n' at hsteps ⊢
  cases hsteps with
  | idle => exact h
  | ran hdrawn => exact h.same rfl (Nat.le_refl _)
  | drew hdrawn => exact h.same rfl (Nat.le_refl _)
  | passed time => exact h.same rfl (Nat.le_add_right _ _)
  | fired htimer hdue => exact h.same rfl (Nat.le_refl _)
  | requested hroute =>
    obtain ⟨session, hj, hwaits⟩ := h
    refine ⟨session, ?_, hwaits⟩
    rw [List.getElem?_append_left (List.getElem?_eq_some_iff.mp hj).1]
    exact hj
  | missed hi htoken =>
    refine h.turned hi rfl rfl fun htext message _ => ?_
    have htext : _ = text := htext
    refine hhonoured.stored.resolve_left fun hsome => ?_
    rw [htext] at htoken
    rw [htoken] at hsome
    cases hsome
  | found hi htoken => exact h.turned hi rfl rfl id
  | foundExpired hi hlate => exact h.turned hi rfl rfl id
  | admitted hi htime => exact h.turned hi rfl rfl fun _ => trivial
  | removed hi =>
    refine h.turned hi rfl rfl fun htext message _ => ?_
    have htext : _ = text := htext
    exact hhonoured.expired (htext ▸ List.mem_of_getElem? hi)
  | served hi =>
    exact h.turned hi rfl rfl fun _ message he => absurd he (serve_ne_unauthorized _ _ _ _ message)

theorem Honoured.run (h : Honoured text due n) {run : List NodeAction}
    (hfresh : Along Cri.nodeStep Fresh n run) :
    Honoured text due (Runs.exec Cri.nodeStep n run) :=
  (throughout_of_along h (fun _ _ h ha => h.nodeStep ha) hfresh).exec

theorem Waits.run {j : ℕ} (h : Waits text due j n) (hhonoured : Honoured text due n)
    {run : List NodeAction} (hfresh : Along Cri.nodeStep Fresh n run) :
    Waits text due j (Runs.exec Cri.nodeStep n run) := by
  have hboth := throughout_of_along (Q := fun n => Honoured text due n ∧ Waits text due j n)
    ⟨hhonoured, h⟩ (fun _ a h ha => ⟨h.1.nodeStep ha, h.2.nodeStep h.1 a⟩) hfresh
  exact hboth.exec.2

end Honoured

theorem trimPrefix_append (start text : String) : trimPrefix start (start ++ text) = text := by
  have hstarts : start.toList.isPrefixOf (start ++ text).toList = true :=
    List.isPrefixOf_iff_prefix.mpr (by rw [String.toList_append]; exact List.prefix_append _ _)
  unfold trimPrefix
  rw [if_pos hstarts, String.toList_append, ← String.length_toList, List.drop_left,
    String.ofList_toList]

/-- The path of a URL leads to the endpoint of the token and to the token. -/
theorem route_path (e : Endpoint) (text : String) : route (e.path ++ text) = some (e, text) := by
  have hfind : ([.exec, .attach, .portForward].find? fun e' : Endpoint =>
      e'.path.toList.isPrefixOf (e.path ++ text).toList) = some e := by
    rw [String.toList_append]
    cases e with
    | exec => rfl
    | attach => rfl
    | portForward => rfl
  unfold route
  rw [hfind, Option.map_some, trimPrefix_append]

/-- The session of a request that has just arrived. -/
theorem waits_request (n : Node) (e : Endpoint) (text : String) (get : Bool) (due : ℕ) :
    Waits text due n.sessions.length (nodeStep n (.requests (e.path ++ text) get)) := by
  have hstep : nodeStep n (.requests (e.path ++ text) get) =
      { n with sessions := n.sessions ++ [.loading e get text] } := by
    show n.request (e.path ++ text) get = _
    unfold Node.request
    rw [route_path]
  rw [hstep]
  exact ⟨.loading e get text, List.getElem?_concat_length, rfl⟩

/-- A request with a token that a handler has returned is not turned away for its token before
the four hours are over: neither has its container or its pod been looked at, nor can a token
be used up. -/
theorem token_honoured {pre mid post : List NodeAction} {a : Action Query Request}
    {t : StreamingToken} {e : Endpoint} {get : Bool} {message : String}
    (hdrawn : drawn (Runs.exec nodeStep .init pre).cri a = some t)
    (hfresh : Along nodeStep Fresh .init
      ((pre ++ .cri a :: mid) ++ .requests (e.path ++ t.token) get :: post))
    (hrefused : (Runs.exec nodeStep .init
        ((pre ++ .cri a :: mid) ++ .requests (e.path ++ t.token) get :: post)).sessions[
        (Runs.exec nodeStep .init (pre ++ .cri a :: mid)).sessions.length]? =
      some (.ended (.error 401 message))) :
    (Runs.exec nodeStep .init pre).now + tokenLifetime ≤
      (Runs.exec nodeStep .init
        ((pre ++ .cri a :: mid) ++ .requests (e.path ++ t.token) get :: post)).now := by
  obtain ⟨hbefore, hafter⟩ := along_append.mp hfresh
  obtain ⟨hpre, hdraw, hmid⟩ := along_append.mp hbefore
  have hbacked : Backed (Runs.exec nodeStep .init pre) := (backed_throughout pre).exec
  have hreturned := honoured_drawn hbacked hdrawn (hdraw t hdrawn)
  -- the token is good when the request arrives, and from then on the session waits for it
  have hhonoured := hreturned.run hmid
  rw [← Runs.exec_cons, ← Runs.exec_append] at hhonoured
  obtain ⟨hrequest, hpost⟩ := hafter
  have hwaits := (waits_request _ e t.token get _).run (hhonoured.nodeStep hrequest) hpost
  rw [Runs.exec_append, Runs.exec_cons] at hrefused ⊢
  obtain ⟨session, hj, hsession⟩ := hwaits
  rw [hrefused] at hj
  cases hj
  exact hsession message rfl

/-- Five hours later the URL is opened. -/
def fiveHoursLater : List NodeAction := [.passes (5 * 60 * 60 * 10 ^ 9), .fires 0]

theorem forward_refused :
    (Runs.exec nodeStep .init untilForward).now + tokenLifetime ≤
      (Runs.exec nodeStep .init
        ((untilForward ++ .cri (.runs 1 quietWorld false) :: fiveHoursLater) ++
          .requests (Endpoint.portForward.path ++ forwardToken.token) false ::
            [.turns 0 ⟨.ok (), none, .error ""⟩])).now :=
  token_honoured (t := forwardToken) rfl (by decide) rfl

end Vyoma.Cri
