import Vyoma.InitScript

/-!
# What the init script leaves in the start script

The start script is written by a here-document, which ends at the first line that is its
delimiter when NUL characters are left out. Escaping an argument keeps the line breaks in it, so
an argument may hold that line. Then the document ends there, and the shell reads the rest of the
argument as part of the init script.
-/
namespace Vyoma.VmService
open Image (OciImageConfig)
open RustText (append_eq_ofList isDigit_of_mem_toString of_ofList)
open ShellText ShellText.Reader

section Contents

variable {unicode : Char → Bool}

/-! ## Lines of the init script -/

theorem calm_of_ordinary {c : Char} (h : ordinary c = true) : calm c = true := by
  simp only [ordinary, calm, List.mem_cons, List.not_mem_nil, or_false, not_or,
    decide_eq_true_eq] at h ⊢
  simp [h]

theorem calm_of_all_isSafe {cs : List Char} (h : cs.all (isSafe unicode) = true) :
    ∀ c ∈ cs, calm c = true :=
  fun c hc => calm_of_ordinary (ordinary_of_isSafe (List.all_eq_true.mp h c hc))

/-- What the shell reads of an escaped text. -/
theorem input_shellEscape_cases (unicode : Char → Bool) (s : String) :
    (s.toList.all (isSafe unicode) = true ∧ input s.toList = s.toList ∧
      input (shellEscape unicode s).toList = s.toList) ∨
    input (shellEscape unicode s).toList = singleQuoted (input s.toList) := by
  obtain ⟨hsafe, htext⟩ | ⟨_, htext⟩ := shellEscape_cases unicode s
  · have hinput := input_of_calm (calm_of_all_isSafe hsafe)
    exact .inl ⟨hsafe, hinput, by rw [htext, hinput]⟩
  · exact .inr (by rw [htext, input_singleQuoted])

theorem stays_shellEscape (unicode : Char → Bool) (s : String) :
    Stays (input (shellEscape unicode s).toList) := by
  obtain ⟨hsafe, -, htext⟩ | htext := input_shellEscape_cases unicode s
  · rw [htext]
    exact stays_calm (calm_of_all_isSafe hsafe)
  · rw [htext]
    exact stays_singleQuoted _

/-- Dotted decimal text, as the addresses of a VM are written. -/
def IsDotted (address : String) : Prop := ∀ c ∈ address.toList, c.isDigit = true ∨ c = '.'

instance (address : String) : Decidable (IsDotted address) :=
  inferInstanceAs (Decidable (∀ c ∈ address.toList, _))

theorem stays_input {cs : List Char} (h : ∀ c ∈ cs, calm c = true) : Stays (input cs) := by
  rw [input_of_calm h]
  exact stays_calm h

theorem stays_digits {cs : List Char} (h : ∀ c ∈ cs, c.isDigit = true ∨ c = '.') :
    Stays (input cs) := by
  apply stays_input
  intro c hc
  rw [calm, decide_eq_true_eq]
  intro hmem
  simp only [List.mem_cons, List.not_mem_nil, or_false] at hmem
  have := h c hc
  rcases hmem with rfl | rfl | rfl | rfl | rfl | rfl | rfl | rfl | rfl <;> revert this <;> decide

theorem settles_literal {text : String} {cs : List Char} (h : text = String.ofList cs)
    (hread : Reader.start.read (input cs) = Reader.start ∧
      documents (Reader.start.pieces (input cs)) = []) : Settles (input text.toList) :=
  of_ofList (p := fun cs => Settles (input cs)) h ⟨hread.1, hread.2⟩

theorem settles_preamble : ∀ text ∈ preamble, Settles (input text.toList) := by
  simp only [preamble, List.forall_mem_cons, List.not_mem_nil, false_imp_iff, implies_true,
    and_true, -String.reduceToList]
  and_intros
  all_goals exact settles_literal rfl (by decide +kernel)

theorem settles_rootfs : ∀ text ∈ rootfs, Settles (input text.toList) := by
  simp only [rootfs, List.forall_mem_cons, List.not_mem_nil, false_imp_iff, implies_true,
    and_true, -String.reduceToList]
  and_intros
  all_goals first
    | exact settles_literal rfl (by decide +kernel)
    | exact settles_literal (append_eq_ofList rfl rfl) (by decide +kernel)
    | exact settles_literal
        (append_eq_ofList (append_eq_ofList (append_eq_ofList rfl rfl) rfl) rfl) (by decide +kernel)

theorem settles_agentFiles : ∀ text ∈ agentFiles, Settles (input text.toList) := by
  simp only [agentFiles, List.forall_mem_cons, List.not_mem_nil, false_imp_iff, implies_true,
    and_true, -String.reduceToList]
  and_intros
  all_goals exact settles_literal rfl (by decide +kernel)

theorem settles_switchRoot : ∀ text ∈ switchRoot, Settles (input text.toList) := by
  simp only [switchRoot, List.forall_mem_cons, List.not_mem_nil, false_imp_iff, implies_true,
    and_true, -String.reduceToList]
  and_intros
  all_goals exact settles_literal rfl (by decide +kernel)

theorem stays_literal {text : String} {cs : List Char} (h : text = String.ofList cs)
    (hcalm : cs.all calm = true) : Stays (input text.toList) :=
  of_ofList (p := fun cs => Stays (input cs)) h (stays_input (List.all_eq_true.mp hcalm))

theorem stays_append_text {a b : String} (ha : Stays (input a.toList))
    (hb : Stays (input b.toList)) : Stays (input (a ++ b).toList) := by
  rw [String.toList_append, input_append]
  exact stays_append ha hb

/-- What stays within a line, and the rest of the line. -/
theorem settles_line_text {a b : String} {cs : List Char} (ha : Stays (input a.toList))
    (hb : b = String.ofList cs) (hend : cs = cs.dropLast ++ ['\n'])
    (hcalm : cs.dropLast.all calm = true) : Settles (input (a ++ b).toList) := by
  have hnewline : input ['\n'] = ['\n'] := rfl
  rw [String.toList_append, hb, String.toList_ofList, hend, ← List.append_assoc, input_append,
    input_append, hnewline]
  exact settles_line (stays_append ha (stays_input (List.all_eq_true.mp hcalm)))

theorem settles_network {ipAddress gateway : String} (hip : IsDotted ipAddress)
    (hgateway : IsDotted gateway) :
    ∀ text ∈ network ipAddress gateway, Settles (input text.toList) := by
  simp only [network, List.forall_mem_cons, List.not_mem_nil, false_imp_iff, implies_true,
    and_true, -String.reduceToList]
  and_intros
  · exact settles_line_text (stays_append_text (stays_literal rfl rfl) (stays_digits hip))
      rfl rfl rfl
  · exact settles_literal rfl (by decide +kernel)
  · exact settles_line_text (stays_append_text (stays_literal rfl rfl) (stays_digits hgateway))
      rfl rfl rfl
  · exact settles_literal rfl (by decide +kernel)

theorem settles_exports (config : OciImageConfig) :
    ∀ text ∈ exports unicode config, Settles (input text.toList) := by
  intro text htext
  obtain ⟨env, _, henv⟩ := List.mem_filterMap.mp htext
  obtain ⟨⟨key, value⟩, _, rfl⟩ := Option.map_eq_some_iff.mp henv
  exact settles_line_text (stays_append_text (stays_append_text (stays_append_text
    (stays_literal rfl rfl) (stays_shellEscape unicode key)) (stays_literal rfl rfl))
    (stays_shellEscape unicode value)) rfl rfl rfl

theorem settles_workdirExport (config : OciImageConfig) :
    ∀ text ∈ workdirExport unicode config, Settles (input text.toList) := by
  intro text htext
  obtain ⟨workdir, _, rfl⟩ := List.mem_map.mp htext
  exact settles_line_text
    (stays_append_text (stays_literal rfl rfl) (stays_shellEscape unicode workdir)) rfl rfl rfl

theorem settles_volumeMounts (volumes : List VolumeMount) :
    ∀ text ∈ volumeMounts unicode volumes, Settles (input text.toList) := by
  intro text htext
  obtain ⟨⟨vol, idx⟩, _, htext⟩ := List.mem_flatMap.mp htext
  have hpath := stays_shellEscape unicode vol.vmPath
  have htag : Stays (input ("vol" ++ toString idx).toList) := by
    refine stays_append_text (stays_literal rfl rfl) (stays_digits fun c hc => .inl ?_)
    exact isDigit_of_mem_toString hc
  simp only [List.mem_cons, List.not_mem_nil, or_false] at htext
  obtain rfl | rfl := htext
  · exact settles_line_text (stays_append_text (stays_literal rfl rfl) hpath) rfl rfl rfl
  · exact settles_line_text (stays_append_text (stays_append_text (stays_append_text
      (stays_literal rfl rfl) htag) (stays_literal rfl rfl)) hpath) rfl rfl rfl

/-! ## The line that ends the document -/

/-- The delimiter of the here-document. -/
def eof : List Char := ['E', 'O', 'F']

/-- A line that is the delimiter, with the line breaks around it. -/
def eofLine : List Char := '\n' :: eof ++ ['\n']

theorem not_infix_of_count {cs : List Char} (h : cs.count '\n' ≤ 1) : ¬ eofLine <:+: cs := by
  intro heof
  have hcount := heof.sublist.count_le '\n'
  have htwo : eofLine.count '\n' = 2 := rfl
  omega

theorem eofLine_infix_escapeQuotes (cs : List Char) :
    eofLine <:+: escapeQuotes cs ↔ eofLine <:+: cs := by
  induction hlength : cs.length using Nat.strong_induction_on generalizing cs with
  | h n ih =>
    by_cases hquote : '\'' ∈ cs
    · obtain ⟨before, after, rfl, hbefore⟩ := List.eq_append_cons_of_mem hquote
      have hshorter : after.length < n := by
        rw [List.length_append, List.length_cons] at hlength
        omega
      have htext : escapeQuotes (before ++ '\'' :: after) =
          before ++ '\'' :: ([] ++ '\\' :: ([] ++ '\'' :: ([] ++ '\'' :: escapeQuotes after))) := by
        rw [escapeQuotes_append, escapeQuotes_of_notMem hbefore]
        rfl
      have hnil : ¬ eofLine <:+: [] := not_infix_of_count (by simp)
      rw [htext, infix_append_cons_iff (by decide), infix_append_cons_iff (by decide),
        infix_append_cons_iff (by decide), infix_append_cons_iff (by decide),
        infix_append_cons_iff (by decide), ih after.length hshorter after rfl]
      simp [hnil]
    · rw [escapeQuotes_of_notMem hquote]

/-- Escaping neither adds such a line nor removes one. -/
theorem eofLine_infix_shellEscape {p : List Char} (hp : p.count '\n' ≤ 1) (s : String) :
    eofLine <:+: p ++ input (shellEscape unicode s).toList ↔ eofLine <:+: input s.toList := by
  have hnone : ¬ eofLine <:+: p := not_infix_of_count hp
  have hnil : ¬ eofLine <:+: [] := not_infix_of_count (by simp)
  obtain ⟨hsafe, hinput, htext⟩ | htext := input_shellEscape_cases unicode s
  · have hcount : s.toList.count '\n' = 0 := by
      rw [List.count_eq_zero]
      intro hmem
      exact absurd (ordinary_of_isSafe (List.all_eq_true.mp hsafe _ hmem)) (by decide)
    rw [htext, hinput]
    refine iff_of_false (not_infix_of_count ?_) (not_infix_of_count (by omega))
    rw [List.count_append]
    omega
  · rw [htext, singleQuoted, List.cons_append, infix_append_cons_iff (by decide),
      infix_append_cons_iff (by decide), eofLine_infix_escapeQuotes]
    simp [hnone, hnil]

/-- The words of a command, the blank behind each of them, and what follows. -/
theorem eofLine_infix_arguments (args : List String) {p r : List Char} (hp : p.count '\n' ≤ 1)
    (hr : ¬ eofLine <:+: p ++ r) (hr' : ¬ eofLine <:+: r) :
    eofLine <:+: p ++ ((args.flatMap fun s => input (shellEscape unicode s).toList ++ [' ']) ++ r) ↔
      ∃ arg ∈ args, eofLine <:+: input arg.toList := by
  induction args generalizing p with
  | nil => simpa using hr
  | cons s args ih =>
    have hsplit : p ++
        (((s :: args).flatMap fun s => input (shellEscape unicode s).toList ++ [' ']) ++ r) =
        (p ++ input (shellEscape unicode s).toList) ++ ' ' ::
          ([] ++ ((args.flatMap fun s => input (shellEscape unicode s).toList ++ [' ']) ++ r)) := by
      simp
    rw [hsplit, infix_append_cons_iff (by decide), eofLine_infix_shellEscape hp,
      ih (by simp) (by simpa using hr')]
    simp

/-- A line without NUL characters that is not the delimiter. -/
structure OtherLine (cs : List Char) : Prop where
  input_eq : input cs = cs
  exists_line : ∃ line, cs = line ++ ['\n'] ∧ '\n' ∉ line ∧ line ≠ eof

theorem otherLine_literal {text : String} {cs : List Char} (h : text = String.ofList cs)
    (hline : input cs = cs ∧ cs = cs.dropLast ++ ['\n'] ∧ '\n' ∉ cs.dropLast ∧
      cs.dropLast ≠ eof) : OtherLine text.toList :=
  of_ofList h ⟨hline.1, cs.dropLast, hline.2⟩

theorem otherLine_startHead : ∀ text ∈ startHead, OtherLine text.toList := by
  simp only [startHead, List.forall_mem_cons, List.not_mem_nil, false_imp_iff, implies_true,
    and_true, -String.reduceToList]
  and_intros
  all_goals exact otherLine_literal rfl (by decide +kernel)

theorem otherLine_startTail : OtherLine startTail.toList :=
  otherLine_literal rfl (by decide +kernel)

theorem eofLine_infix_lines (texts : List String) (h : ∀ text ∈ texts, OtherLine text.toList)
    (r : List Char) :
    eofLine <:+: '\n' :: (texts.flatMap String.toList ++ r) ↔ eofLine <:+: '\n' :: r := by
  induction texts with
  | nil => simp
  | cons text texts ih =>
    obtain ⟨-, line, htext, hnewline, hne⟩ := h text List.mem_cons_self
    have hsplit : '\n' :: ((text :: texts).flatMap String.toList ++ r) =
        '\n' :: line ++ '\n' :: (texts.flatMap String.toList ++ r) := by simp [htext]
    rw [hsplit, eofLine, infix_line_iff (by decide) hnewline hne]
    exact ih fun t ht => h t (List.mem_cons_of_mem text ht)

theorem toList_startScript (unicode : Char → Bool) (config : OciImageConfig) :
    (String.join (startScript unicode config)).toList = startHead.flatMap String.toList ++
      ((config.fullCommand.flatMap fun s => (shellEscape unicode s).toList ++ [' ']) ++
        (['\n'] ++ startTail.toList)) := by
  simp [startScript, fullCommand_ne_nil config, toList_commandLine]

/-- What the shell reads of the start script. -/
theorem input_startScript (unicode : Char → Bool) (config : OciImageConfig) :
    input (String.join (startScript unicode config)).toList = startHead.flatMap String.toList ++
      ((config.fullCommand.flatMap fun s => input (shellEscape unicode s).toList ++ [' ']) ++
        '\n' :: startTail.toList) := by
  have hhead : input (startHead.flatMap String.toList) = startHead.flatMap String.toList := by
    rw [input_flatMap]
    exact List.flatMap_congr fun text htext => (otherLine_startHead text htext).input_eq
  have hblank : input [' '] = [' '] := rfl
  have hnewline : input ['\n'] = ['\n'] := rfl
  rw [toList_startScript, input_append, input_append, input_append, hhead, input_flatMap, hnewline,
    otherLine_startTail.input_eq]
  simp only [input_append, hblank, List.singleton_append]

/-- The start script has such a line exactly when an argument has it. -/
theorem eofLine_infix_startScript (unicode : Char → Bool) (config : OciImageConfig) :
    eofLine <:+: '\n' :: input (String.join (startScript unicode config)).toList ↔
      ∃ arg ∈ config.fullCommand, eofLine <:+: input arg.toList := by
  have htail : ¬ eofLine <:+: '\n' :: startTail.toList := by
    have hlines := eofLine_infix_lines [startTail] (by simpa using otherLine_startTail) []
    rw [List.append_nil, List.flatMap_singleton] at hlines
    rw [hlines]
    exact not_infix_of_count (by simp)
  have hblank : ¬ eofLine <:+: ['\n'] ++ '\n' :: startTail.toList := by
    have hempty : eofLine <:+: '\n' :: [] ++ '\n' :: startTail.toList ↔
        eofLine <:+: '\n' :: startTail.toList := infix_line_iff (by decide) (by simp) (by decide)
    exact fun h => htail (hempty.mp h)
  rw [input_startScript, eofLine_infix_lines startHead otherLine_startHead]
  exact eofLine_infix_arguments (p := ['\n']) config.fullCommand (by simp) hblank htail

/-! ## The document -/

/-- The start script, as it is read, is what the document holds, and the shell reads outside it
what it would read without the command. -/
structure Contained (unicode : Char → Bool) (config : OciImageConfig)
    (ipAddress gateway : String) (volumes : List VolumeMount) : Prop where
  document : documents (Reader.start.pieces (input (generateInitScript unicode config ipAddress
    gateway volumes).toList)) = [input (String.join (startScript unicode config)).toList]
  outside : lines (Reader.start.pieces (input (generateInitScript unicode config ipAddress gateway
    volumes).toList)) = lines (Reader.start.pieces (input (generateInitScript unicode
      { config with entrypoint := none, cmd := none } ipAddress gateway volumes).toList))

/-- What stands before the here-document. -/
def beforeDocument (unicode : Char → Bool) (config : OciImageConfig) (ipAddress gateway : String)
    (volumes : List VolumeMount) : List String :=
  preamble ++ network ipAddress gateway ++ exports unicode config ++
    workdirExport unicode config ++ rootfs ++ volumeMounts unicode volumes ++ agentFiles

theorem settles_beforeDocument (unicode : Char → Bool) (config : OciImageConfig)
    {ipAddress gateway : String} (hip : IsDotted ipAddress) (hgateway : IsDotted gateway)
    (volumes : List VolumeMount) : Settles (input
      ((beforeDocument unicode config ipAddress gateway volumes).flatMap String.toList)) := by
  apply settles_flatMap
  simp only [beforeDocument, List.forall_mem_append]
  exact ⟨⟨⟨⟨⟨⟨settles_preamble, settles_network hip hgateway⟩, settles_exports config⟩,
    settles_workdirExport config⟩, settles_rootfs⟩, settles_volumeMounts volumes⟩,
    settles_agentFiles⟩

theorem input_generateInitScript (unicode : Char → Bool) (config : OciImageConfig)
    (ipAddress gateway : String) (volumes : List VolumeMount) :
    input (generateInitScript unicode config ipAddress gateway volumes).toList =
      input ((beforeDocument unicode config ipAddress gateway volumes).flatMap String.toList) ++
        (input openDocument.toList ++ (input (String.join (startScript unicode config)).toList ++
          ((eof ++ ['\n']) ++ input (switchRoot.flatMap String.toList)))) := by
  have hclose : closeDocument.toList = eof ++ ['\n'] := rfl
  have hkept : input (eof ++ ['\n']) = eof ++ ['\n'] := rfl
  have htext : (generateInitScript unicode config ipAddress gateway volumes).toList =
      (beforeDocument unicode config ipAddress gateway volumes).flatMap String.toList ++
        (openDocument.toList ++ ((String.join (startScript unicode config)).toList ++
          ((eof ++ ['\n']) ++ switchRoot.flatMap String.toList))) := by
    rw [generateInitScript, ← beforeDocument]
    simp only [String.toList_join, List.flatMap_append, List.flatMap_singleton, hclose,
      List.append_assoc]
  rw [htext, input_append, input_append, input_append, input_append _ (switchRoot.flatMap _), hkept]

/-- The line that opens the here-document. -/
theorem read_openDocument :
    Reader.start.read (input openDocument.toList) = ⟨.document eof [] [] [], .empty, []⟩ ∧
      documents (Reader.start.pieces (input openDocument.toList)) = [] :=
  of_ofList (p := fun cs => Reader.start.read (input cs) = ⟨.document eof [] [] [], .empty, []⟩ ∧
    documents (Reader.start.pieces (input cs)) = []) rfl (by decide +kernel)

theorem pieces_generateInitScript (unicode : Char → Bool) {config : OciImageConfig}
    {ipAddress gateway : String} (hip : IsDotted ipAddress) (hgateway : IsDotted gateway)
    (volumes : List VolumeMount)
    (h : ∀ arg ∈ config.fullCommand, ¬ eofLine <:+: input arg.toList) :
    Reader.start.pieces (input (generateInitScript unicode config ipAddress gateway
        volumes).toList) =
      Reader.start.pieces (input ((beforeDocument unicode config ipAddress gateway volumes).flatMap
        String.toList)) ++ (Reader.start.pieces (input openDocument.toList) ++
        .document (input (String.join (startScript unicode config)).toList) ::
          Reader.start.pieces (input (switchRoot.flatMap String.toList))) := by
  have hbefore := settles_beforeDocument unicode config hip hgateway volumes
  have hnone : ¬ eofLine <:+: '\n' :: input (String.join (startScript unicode config)).toList := by
    rw [eofLine_infix_startScript]
    exact fun hex => hex.elim fun arg harg => h arg harg.1 harg.2
  have hbody : ∃ text,
      input (String.join (startScript unicode config)).toList = text ++ ['\n'] := by
    obtain ⟨-, line, htail, _⟩ := otherLine_startTail
    refine ⟨startHead.flatMap String.toList ++ ((config.fullCommand.flatMap fun s =>
      input (shellEscape unicode s).toList ++ [' ']) ++ '\n' :: line), ?_⟩
    rw [input_startScript, htail]
    simp
  obtain ⟨hread, hpieces⟩ := read_hereDocument (d := eof) (by decide) hbody hnone
  rw [input_generateInitScript, pieces_append, hbefore.read_eq, pieces_append,
    read_openDocument.1, ← List.append_assoc _ (eof ++ ['\n']), pieces_append, hpieces, hread,
    List.singleton_append]

theorem documents_append (a b : List Piece) : documents (a ++ b) = documents a ++ documents b :=
  List.filterMap_append

theorem documents_cons_document (text : List Char) (pieces : List Piece) :
    documents (.document text :: pieces) = text :: documents pieces := rfl

theorem lines_cons_document (text : List Char) (pieces : List Piece) :
    lines (.document text :: pieces) = lines pieces := rfl

theorem lines_append (a b : List Piece) : lines (a ++ b) = lines a ++ lines b :=
  List.filterMap_append

/-- The document ends at the line that an argument has. -/
theorem not_contained_of_eofLine (unicode : Char → Bool) {config : OciImageConfig}
    {ipAddress gateway : String} (hip : IsDotted ipAddress) (hgateway : IsDotted gateway)
    (volumes : List VolumeMount) {arg : String} (harg : arg ∈ config.fullCommand)
    (heof : eofLine <:+: input arg.toList) :
    ¬ Contained unicode config ipAddress gateway volumes := by
  intro hcontained
  have hbefore := settles_beforeDocument unicode config hip hgateway volumes
  have hline : '\n' :: eof ++ ['\n'] <:+:
      ['\n'] ++ input (String.join (startScript unicode config)).toList := by
    rw [List.singleton_append]
    exact (eofLine_infix_startScript unicode config).mpr ⟨arg, harg, heof⟩
  obtain ⟨doc, rest, hpieces, hshorter⟩ :=
    pieces_document (d := eof) (by decide) [] .empty [] [] List.not_mem_nil hline
  have hdocument := hcontained.document
  rw [input_generateInitScript, pieces_append, hbefore.read_eq, pieces_append,
    read_openDocument.1, pieces_append, hpieces, documents_append, hbefore.no_document,
    documents_append, read_openDocument.2, List.nil_append, List.nil_append, List.cons_append,
    documents_cons_document] at hdocument
  have hdoc : doc = input (String.join (startScript unicode config)).toList :=
    (List.cons.inj hdocument).1
  rw [hdoc, List.nil_append, List.nil_append] at hshorter
  exact Nat.lt_irrefl _ hshorter

/-- The start script is read to the last character when no argument has a NUL character. -/
theorem input_startScript_eq_self_iff (unicode : Char → Bool) (config : OciImageConfig) :
    input (String.join (startScript unicode config)).toList =
        (String.join (startScript unicode config)).toList ↔
      ∀ arg ∈ config.fullCommand, '\x00' ∉ arg.toList := by
  have hescape : ∀ s : String, '\x00' ∈ (shellEscape unicode s).toList ↔ '\x00' ∈ s.toList := by
    intro s
    obtain ⟨-, htext⟩ | ⟨-, htext⟩ := shellEscape_cases unicode s
    · rw [htext]
    · rw [htext, singleQuoted, escapeQuotes]
      simp only [List.cons_append, List.mem_cons, List.mem_append, List.mem_flatMap,
        List.not_mem_nil, or_false]
      constructor
      · rintro (hnul | ⟨c, hc, hnul⟩ | hnul)
        · cases hnul
        · split_ifs at hnul with hquote
          · simp at hnul
          · rwa [List.mem_singleton.mp hnul]
        · cases hnul
      · exact fun hnul => .inr (.inl ⟨_, hnul, by simp⟩)
  have hhead : '\x00' ∉ startHead.flatMap String.toList := by
    intro hnul
    obtain ⟨text, htext, hnul⟩ := List.mem_flatMap.mp hnul
    exact input_eq_self_iff.mp (otherLine_startHead text htext).input_eq hnul
  have htail : '\x00' ∉ startTail.toList := input_eq_self_iff.mp otherLine_startTail.input_eq
  rw [input_eq_self_iff, toList_startScript]
  simp [hhead, htail, hescape]

/-- The command does not get out of the start script exactly when no argument has, its NUL
characters deleted, the line that ends the document. The document is then the start script to the
last character exactly when no argument has a NUL character. -/
theorem contained_iff (unicode : Char → Bool) (config : OciImageConfig)
    {ipAddress gateway : String} (hip : IsDotted ipAddress) (hgateway : IsDotted gateway)
    (volumes : List VolumeMount) :
    (Contained unicode config ipAddress gateway volumes ↔
      ∀ arg ∈ config.fullCommand, ¬ eofLine <:+: input arg.toList) ∧
    (Contained unicode config ipAddress gateway volumes ∧
        input (String.join (startScript unicode config)).toList =
          (String.join (startScript unicode config)).toList ↔
      ∀ arg ∈ config.fullCommand, '\x00' ∉ arg.toList ∧ ¬ eofLine <:+: arg.toList) := by
  have hcontained : Contained unicode config ipAddress gateway volumes ↔
      ∀ arg ∈ config.fullCommand, ¬ eofLine <:+: input arg.toList := by
    constructor
    · intro hcontained arg harg heof
      exact not_contained_of_eofLine unicode hip hgateway volumes harg heof hcontained
    · intro h
      have hbefore := settles_beforeDocument unicode config hip hgateway volumes
      have hafter : Settles (input (switchRoot.flatMap String.toList)) :=
        settles_flatMap settles_switchRoot
      have hpieces := pieces_generateInitScript unicode hip hgateway volumes h
      have hdefault : ∀ arg ∈ ({ config with entrypoint := none, cmd := none } :
          OciImageConfig).fullCommand, ¬ eofLine <:+: input arg.toList := by
        intro arg harg
        obtain rfl : arg = "/bin/sh" := by simpa [OciImageConfig.fullCommand] using harg
        exact not_infix_of_count (by decide)
      have hsame : beforeDocument unicode { config with entrypoint := none, cmd := none } ipAddress
          gateway volumes = beforeDocument unicode config ipAddress gateway volumes := rfl
      constructor
      · rw [hpieces, documents_append, hbefore.no_document, documents_append, read_openDocument.2,
          documents_cons_document, hafter.no_document, List.nil_append, List.nil_append]
      · rw [hpieces, pieces_generateInitScript unicode hip hgateway volumes hdefault, hsame]
        simp only [lines_append, lines_cons_document]
  refine ⟨hcontained, ?_⟩
  rw [hcontained, input_startScript_eq_self_iff]
  constructor
  · rintro ⟨heof, hnul⟩ arg harg
    have hkept := heof arg harg
    rw [input_of_notMem (hnul arg harg)] at hkept
    exact ⟨hnul arg harg, hkept⟩
  · intro h
    refine ⟨fun arg harg => ?_, fun arg harg => (h arg harg).1⟩
    rw [input_of_notMem (h arg harg).1]
    exact (h arg harg).2

theorem contained_echo : Contained (fun _ => false) { cmd := some ["/bin/echo", "it's\nhere"] }
    "172.16.0.2" "172.16.0.1" [] :=
  (contained_iff _ _ (by decide +kernel) (by decide +kernel) []).1.mpr (by decide +kernel)

/-- The second line of the argument ends the document, and the third is a command of the
init script. -/
theorem not_contained_reboot : ¬ Contained (fun _ => false) { cmd := some ["\nEOF\nreboot\n"] }
    "172.16.0.2" "172.16.0.1" [] := by
  have harg : "\nEOF\nreboot\n" ∈
      ({ cmd := some ["\nEOF\nreboot\n"] } : OciImageConfig).fullCommand := by decide +kernel
  exact not_contained_of_eofLine _ (by decide +kernel) (by decide +kernel) [] harg
    (by decide +kernel)

/-- Without the NUL character the second line is the delimiter. -/
example : ¬ Contained (fun _ => false) { cmd := some ["\nE\x00OF\nreboot\n"] }
    "172.16.0.2" "172.16.0.1" [] := by
  have harg : "\nE\x00OF\nreboot\n" ∈
      ({ cmd := some ["\nE\x00OF\nreboot\n"] } : OciImageConfig).fullCommand := by decide +kernel
  exact not_contained_of_eofLine _ (by decide +kernel) (by decide +kernel) [] harg
    (by decide +kernel)

end Contents

end Vyoma.VmService
