import Vyoma.RustText
import Vyoma.ShellText
import Vyoma.VmLifecycle
import Vyoma.VmifManifest

/-!
# The script that starts a VM

The script that runs as the first process of a VM exports the environment of the image,
mounts what the VM needs, and writes a second script into the new root with a
here-document. That script starts the agent and runs the command of the image, whose words
are escaped for the shell. What a character beyond ASCII is, `char::is_alphanumeric` reads
off the Unicode tables.
-/
namespace Vyoma.Image.OciImageConfig

/-- The entrypoint and the command, or a shell. -/
def fullCommand (config : OciImageConfig) : List String :=
  let cmd := config.entrypoint.getD [] ++ config.cmd.getD []
  if cmd = [] then ["/bin/sh"] else cmd

end Vyoma.Image.OciImageConfig

namespace Vyoma.VmService
open Image (OciImageConfig)
open RustText (splitOnce)

section Generator

variable (unicode : Char → Bool)

def isAlphanumeric (c : Char) : Bool := if c.toNat < 128 then c.isAlphanum else unicode c

/-- `str::replace` of a character. -/
def replaceChar (s : String) (c : Char) (by_ : String) : String :=
  String.ofList (s.toList.flatMap fun d => if d = c then by_.toList else [d])

def isSafe (c : Char) : Bool :=
  isAlphanumeric unicode c || c = '_' || c = '-' || c = '.' || c = '/' || c = ':'

def shellEscape (s : String) : String :=
  if s.toList.all (isSafe unicode) then s else "'" ++ replaceChar s '\'' "'\\''" ++ "'"

/-! Each list of texts below is what consecutive `push_str` calls append. -/

def preamble : List String :=
  ["#!/bin/busybox sh\n",
    "set -e\n",
    "set -u\n",
    "trap 'echo Init error at line $LINENO; /bin/busybox poweroff -f' ERR\n",
    "\n",
    "/bin/busybox mkdir -p /proc /sys /dev\n",
    "/bin/busybox mount -t proc proc /proc 2>/dev/null || true\n",
    "/bin/busybox mount -t sysfs sys /sys 2>/dev/null || true\n",
    "/bin/busybox mount -t devtmpfs dev /dev 2>/dev/null || true\n",
    "/bin/busybox ip link set lo up 2>/dev/null || true\n",
    "# Configure eth0 if virtio-net is attached\n",
    "if /bin/busybox ip link show eth0 >/dev/null 2>&1; then\n"]

def network (ipAddress gateway : String) : List String :=
  ["  /bin/busybox ip addr add " ++ ipAddress ++ "/24 dev eth0 2>/dev/null || true\n",
    "  /bin/busybox ip link set eth0 up 2>/dev/null || true\n",
    "  /bin/busybox ip route add default via " ++ gateway ++ " 2>/dev/null || true\n",
    "fi\n"]

def exports (config : OciImageConfig) : List String :=
  (config.env.getD []).filterMap fun env =>
    (splitOnce '=' env).map fun (key, value) =>
      "export " ++ shellEscape unicode key ++ "=" ++ shellEscape unicode value ++ "\n"

def workdirExport (config : OciImageConfig) : List String :=
  config.workingDir.toList.map fun workdir =>
    "export VWORKDIR=" ++ shellEscape unicode workdir ++ "\n"

def rootfs : List String :=
  ["# Mount container rootfs using overlayfs\n",
    "/bin/busybox mkdir -p /lower\n",
    "# Wait for /dev/vda to appear\n",
    "while [ ! -b /dev/vda ]; do /bin/busybox sleep 0.1; done\n",
    "/bin/busybox mount -r -t ext4 /dev/vda /lower 2>/dev/null || " ++
      "/bin/busybox mount -r -t squashfs /dev/vda /lower 2>/dev/null || " ++
      "/bin/busybox mount -r /dev/vda /lower 2>/dev/null || " ++
      "/bin/busybox mount -t tmpfs tmpfs /lower\n",
    "/bin/busybox mkdir -p /overlay\n",
    "/bin/busybox mount -t tmpfs tmpfs /overlay\n",
    "/bin/busybox mkdir -p /overlay/upper /overlay/work\n",
    "/bin/busybox mkdir -p /sysroot\n",
    "/bin/busybox mount -t overlay overlay -o " ++
      "lowerdir=/lower,upperdir=/overlay/upper,workdir=/overlay/work /sysroot\n",
    "# Mount virtiofs volumes\n"]

def volumeMounts (volumes : List VolumeMount) : List String :=
  volumes.zipIdx.flatMap fun (vol, idx) =>
    let tag := "vol" ++ toString idx
    let vmPath := shellEscape unicode vol.vmPath
    ["/bin/busybox mkdir -p /sysroot" ++ vmPath ++ "\n",
      "/bin/busybox mount -t virtiofs " ++ tag ++ " /sysroot" ++ vmPath ++ " 2>/dev/null || true\n"]

def agentFiles : List String :=
  ["# Inject agent into container\n",
    "/bin/busybox mkdir -p /sysroot/mnt\n",
    "/bin/busybox cp /sbin/vyoma-agent-vm /sysroot/mnt/vyoma-agent-vm\n",
    "/bin/busybox chmod +x /sysroot/mnt/vyoma-agent-vm\n",
    "/bin/busybox mkdir -p /sysroot/bin\n",
    "/bin/busybox cp /bin/busybox /sysroot/bin/busybox 2>/dev/null || true\n"]

def openDocument : String := "cat << 'EOF' > /sysroot/mnt/start.sh\n"

/-- `cmd_args.join(" ")`, with a blank and the end of the line. -/
def commandLine (config : OciImageConfig) : String :=
  " ".intercalate (config.fullCommand.map (shellEscape unicode)) ++ " \n"

def startHead : List String :=
  ["#!/bin/busybox sh\n",
    "/bin/busybox mkdir -p /proc /sys /dev\n",
    "/bin/busybox mount -t proc proc /proc || true\n",
    "/bin/busybox mount -t sysfs sys /sys || true\n",
    "/bin/busybox mount -t devtmpfs dev /dev || true\n",
    "/bin/busybox --install -s /bin || true\n",
    "/mnt/vyoma-agent-vm --mode vsock > /dev/console 2>&1 &\n"]

def startTail : String := "while true; do /bin/busybox sleep 3600; done\n"

/-- The script that is written to `/sysroot/mnt/start.sh`. -/
def startScript (config : OciImageConfig) : List String :=
  startHead ++
    [if config.fullCommand ≠ [] then commandLine unicode config else "/bin/busybox sh\n"] ++
    [startTail]

def closeDocument : String := "EOF\n"

def switchRoot : List String :=
  ["/bin/busybox chmod +x /sysroot/mnt/start.sh\n",
    "exec /bin/busybox switch_root -- /sysroot /mnt/start.sh\n"]

def generateInitScript (config : OciImageConfig) (ipAddress gateway : String)
    (volumes : List VolumeMount) : String :=
  String.join (preamble ++ network ipAddress gateway ++ exports unicode config ++
    workdirExport unicode config ++ rootfs ++ volumeMounts unicode volumes ++ agentFiles ++
    [openDocument] ++ startScript unicode config ++ [closeDocument] ++ switchRoot)

end Generator

/-! ## Escaped words -/

section Words

open ShellText ShellText.Reader

variable {unicode : Char → Bool}

theorem ordinary_of_isSafe {c : Char} (h : isSafe unicode c = true) : ordinary c = true := by
  have hspecial : ∀ d ∈ ['\n', ' ', '\t', '\'', '"', '\\', '$', '`', '<', '|', '&', ';', '(', ')',
      '>', '#', '*', '?', '[', '~', '\x00'], isSafe unicode d = false := by
    intro d hd
    simp only [List.mem_cons, List.not_mem_nil, or_false] at hd
    rcases hd with rfl | rfl | rfl | rfl | rfl | rfl | rfl | rfl | rfl | rfl | rfl | rfl | rfl |
      rfl | rfl | rfl | rfl | rfl | rfl | rfl | rfl <;> rfl
  rw [ordinary, decide_eq_true_eq]
  intro hmem
  rw [hspecial c hmem] at h
  cases h

/-- Either every character stands for itself, or the text is quoted. -/
theorem shellEscape_cases (unicode : Char → Bool) (s : String) :
    (s.toList.all (isSafe unicode) = true ∧ (shellEscape unicode s).toList = s.toList) ∨
    (s.toList.all (isSafe unicode) = false ∧
      (shellEscape unicode s).toList = singleQuoted s.toList) := by
  unfold shellEscape
  cases hsafe : s.toList.all (isSafe unicode) with
  | true => exact .inl ⟨rfl, rfl⟩
  | false => exact .inr ⟨rfl, by simp [replaceChar, singleQuoted, escapeQuotes]⟩

/-- The tokens of an escaped argument: one word, or none for the empty argument. -/
def argTokens (unicode : Char → Bool) (s : String) : List Token :=
  if s = "" then []
  else [.word ⟨s.toList, !s.toList.all (isSafe unicode), false⟩]

theorem pieces_shellEscape (s : String) (inWord : Bool) (w : Word) (tokens : List Token) :
    (⟨.plain inWord, w, tokens⟩ : Reader).pieces (shellEscape unicode s).toList = [] := by
  obtain ⟨hsafe, htext⟩ | ⟨_, htext⟩ := shellEscape_cases unicode s
  · rw [htext]
    apply pieces_of_notMem
    intro hmem
    exact absurd (ordinary_of_isSafe (List.all_eq_true.mp hsafe _ hmem)) (by decide)
  · rw [htext, pieces_singleQuoted]

/-- An escaped argument, read at the start of a word. -/
theorem read_shellEscape (s : String) (tokens : List Token) :
    (⟨.plain false, .empty, tokens⟩ : Reader).read (shellEscape unicode s).toList =
      if s = "" then ⟨.plain false, .empty, tokens⟩
      else ⟨.plain true, ⟨s.toList, !s.toList.all (isSafe unicode), false⟩, tokens⟩ := by
  obtain ⟨hsafe, htext⟩ | ⟨hquoted, htext⟩ := shellEscape_cases unicode s
  · rw [htext, hsafe,
      read_ordinary (fun c hc => ordinary_of_isSafe (List.all_eq_true.mp hsafe c hc))]
    by_cases hs : s = "" <;> simp [hs, Word.empty]
  · have hne : s ≠ "" := by
      rintro rfl
      cases hquoted
    rw [htext, read_singleQuoted, if_neg hne, hquoted]
    rfl

/-- A blank ends the word that an argument is. -/
theorem read_argument (s : String) (tokens : List Token) :
    (⟨.plain false, .empty, tokens⟩ : Reader).read ((shellEscape unicode s).toList ++ [' ']) =
      ⟨.plain false, .empty, tokens ++ argTokens unicode s⟩ := by
  rw [read_append, read_shellEscape]
  by_cases hs : s = ""
  · simp [hs, argTokens, Reader.step, unquoted, endWord, lineTokens]
  · simp [hs, argTokens, Reader.step, unquoted, endWord, lineTokens]

theorem read_arguments (unicode : Char → Bool) (args : List String) (tokens : List Token) :
    (⟨.plain false, .empty, tokens⟩ : Reader).read
        (args.flatMap fun s => (shellEscape unicode s).toList ++ [' ']) =
      ⟨.plain false, .empty, tokens ++ args.flatMap (argTokens unicode)⟩ ∧
    (⟨.plain false, .empty, tokens⟩ : Reader).pieces
        (args.flatMap fun s => (shellEscape unicode s).toList ++ [' ']) = [] := by
  induction args generalizing tokens with
  | nil => simp
  | cons s args ih =>
    obtain ⟨hread, hpieces⟩ := ih (tokens ++ argTokens unicode s)
    have hblank : ((⟨.plain false, .empty, tokens⟩ : Reader).read
        (shellEscape unicode s).toList).pieces [' '] = [] := pieces_of_notMem (by simp) _
    rw [List.flatMap_cons, read_append, pieces_append, read_argument, hread, hpieces,
      pieces_append, pieces_shellEscape, hblank, List.flatMap_cons, List.append_assoc]
    exact ⟨rfl, rfl⟩

theorem hereDoc_notMem_argTokens (unicode : Char → Bool) (args : List String) :
    .hereDoc ∉ args.flatMap (argTokens unicode) := by
  intro h
  obtain ⟨s, _, hs⟩ := List.mem_flatMap.mp h
  unfold argTokens at hs
  split_ifs at hs <;> simp at hs

theorem asWord_argTokens (unicode : Char → Bool) (args : List String) :
    (args.flatMap (argTokens unicode)).mapM Token.asWord = some (args.filter (· ≠ "")) := by
  induction args with
  | nil => rfl
  | cons s args ih =>
    by_cases hs : s = ""
    · simpa [hs, argTokens] using ih
    · simp [hs, argTokens, Token.asWord, ih]

theorem intercalate_blank {texts : List (List Char)} (h : texts ≠ []) :
    [' '].intercalate texts ++ [' '] = texts.flatMap fun text => text ++ [' '] := by
  induction texts with
  | nil => exact absurd rfl h
  | cons text texts ih =>
    cases texts with
    | nil => simp
    | cons text' texts => simpa using ih (by simp)

theorem fullCommand_ne_nil (config : OciImageConfig) : config.fullCommand ≠ [] := by
  simp only [OciImageConfig.fullCommand]
  split_ifs with h
  · simp
  · exact h

theorem toList_commandLine (unicode : Char → Bool) (config : OciImageConfig) :
    (commandLine unicode config).toList =
      (config.fullCommand.flatMap fun s => (shellEscape unicode s).toList ++ [' ']) ++ ['\n'] := by
  have hne : (config.fullCommand.map (shellEscape unicode)).map String.toList ≠ [] := by
    simpa using fullCommand_ne_nil config
  have hblank : " ".toList = [' '] := rfl
  have hend : " \n".toList = [' '] ++ ['\n'] := rfl
  rw [commandLine, String.toList_append, String.toList_intercalate, hblank, hend,
    ← List.append_assoc, intercalate_blank hne, List.flatMap_map, List.flatMap_map]

/-- The arguments that are not empty come back, and the empty ones are lost. -/
theorem commands_commandLine (unicode : Char → Bool) (config : OciImageConfig) :
    commands (commandLine unicode config).toList =
      some (if config.fullCommand.filter (· ≠ "") = [] then []
        else [config.fullCommand.filter (· ≠ "")]) := by
  obtain ⟨hread, hpieces⟩ := read_arguments unicode config.fullCommand []
  have hwords := asWord_argTokens unicode config.fullCommand
  have hdelims := delimiters_of_notMem (hereDoc_notMem_argTokens unicode config.fullCommand)
  generalize config.fullCommand.flatMap (argTokens unicode) = tokens at hread hwords hdelims
  have hstart : Reader.start = ⟨.plain false, .empty, []⟩ := rfl
  have hline : (⟨.plain false, .empty, tokens⟩ : Reader).lineTokens = tokens := rfl
  have hend : (⟨.plain false, .empty, tokens⟩ : Reader).step '\n' = Reader.start := by
    show Reader.endLine _ = Reader.start
    rw [endLine, hline, hdelims]
  have hcompleted : (⟨.plain false, .empty, tokens⟩ : Reader).completed '\n' =
      if tokens = [] then none else some (.line tokens) := rfl
  rw [List.nil_append] at hread
  rw [commands, toList_commandLine, read_append, pieces_append, hstart, hread, hpieces, read_cons,
    pieces_cons, hend, hcompleted]
  by_cases htokens : tokens = []
  · subst htokens
    have hnone : config.fullCommand.filter (· ≠ "") = [] := by simpa using hwords.symm
    rw [hnone]
    rfl
  · have hsome : config.fullCommand.filter (· ≠ "") ≠ [] := by
      intro hnone
      rw [hnone] at hwords
      cases tokens with
      | nil => exact htokens rfl
      | cons token tokens => simp [List.mapM_cons, Option.bind_eq_some_iff] at hwords
    rw [if_neg htokens, if_neg hsome]
    simp [Reader.start, endedLine, lineTokens, Piece.asWords, hwords]

theorem commands_shellEscape (unicode : Char → Bool) (s : String) :
    commands (shellEscape unicode s).toList = some (if s = "" then [] else [[s]]) := by
  have hstart : Reader.start = ⟨.plain false, .empty, []⟩ := rfl
  rw [commands, hstart, read_shellEscape, pieces_shellEscape]
  by_cases hs : s = ""
  · rw [if_pos hs, if_pos hs]
    rfl
  · rw [if_neg hs, if_neg hs]
    simp [endedLine, lineTokens, Piece.asWords, Token.asWord]

/-- The shell reads an escaped text as the one word that it is, and the command line as the
full command, exactly when the text and the arguments are not empty. -/
theorem shellEscape_faithful_iff (unicode : Char → Bool) (s : String) (config : OciImageConfig) :
    (commands (shellEscape unicode s).toList = some [[s]] ↔ s ≠ "") ∧
    (commands (commandLine unicode config).toList = some [config.fullCommand] ↔
      "" ∉ config.fullCommand) := by
  constructor
  · rw [commands_shellEscape]
    by_cases hs : s = "" <;> simp [hs]
  · have hkept : config.fullCommand.filter (· ≠ "") = config.fullCommand ↔
        "" ∉ config.fullCommand := by
      rw [List.filter_eq_self]
      simp only [ne_eq, decide_not, Bool.not_eq_true', decide_eq_false_iff_not]
      exact List.forall_mem_ne'
    rw [commands_commandLine, ← hkept, Option.some_inj]
    split_ifs with hnone
    · rw [hnone]
      exact iff_of_false (by simp) fun he => fullCommand_ne_nil config he.symm
    · simp

/-- An empty argument is not quoted, so the shell does not see it. -/
theorem commands_emptyArgument : commands (shellEscape (fun _ => false) "").toList ≠ some [[""]] ∧
    commands (commandLine (fun _ => false)
      { cmd := some ["/bin/echo", "", "-n"] }).toList = some [["/bin/echo", "-n"]] := by
  decide

end Words

end Vyoma.VmService
