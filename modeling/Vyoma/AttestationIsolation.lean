import Vyoma.ManifestSigning
import Vyoma.OrderedMaps
import Vyoma.PcrQuotes
import Vyoma.Runs

/-!
# Attestation checks that run side by side

Each VM that boots has its own check: its vTPM writes a quote to a file, the file is read
back and parsed, and the registers are compared with the manifest of the image. The name
of the file is built from a tag, and every check passes the same tag, so a quote can be
replaced by that of another VM before it is read.
-/
namespace Vyoma.VmService
open Attest Image OrderedMaps Runs

structure PcrResult where
  pcrIndex : UInt32
  expected : String
  actual : String
  verified : Bool
  deriving DecidableEq, Repr

structure AttestationResult where
  verified : Bool
  pcrResults : List PcrResult
  signedManifestVerified : Bool
  error : Option String
  deriving DecidableEq, Repr

/-- What a run of `tpm2_quote` on the socket of one vTPM comes to. It writes the file
only when it succeeds. -/
inductive QuoteRun where
  | notStarted (e : String)
  | failed (stderr : String)
  | wrote (quote : List UInt8)
  deriving DecidableEq, Repr

/-- What one check meets: the quote of its own vTPM, whether the file can be read, what
`load_and_verify_manifest` returns for its image, and an order for the map of results. -/
structure Check where
  imageName : String
  quoteRun : QuoteRun
  readError : Option String
  manifest : Except String SignedManifest
  order : HashMap.Traversal UInt32 Bool

abbrev Files : Type := Std.ExtTreeMap String (List UInt8)

def quotePath (vmId : String) : String := "/tmp/" ++ vmId ++ "_quote.bin"

def QuoteRun.error : QuoteRun → Option String
  | .notStarted e => some ("Failed to get TPM quote: " ++ e)
  | .failed stderr => some ("tpm2_quote failed: " ++ stderr)
  | .wrote _ => none

/-- The first half of `get_pcr_quote`. -/
def writeQuote (vmId : String) (quoteRun : QuoteRun) (files : Files) : Files × Except String Unit :=
  match quoteRun with
  | .wrote quote => (files.insert (quotePath vmId) quote, .ok ())
  | .notStarted e => (files, .error ("Failed to get TPM quote: " ++ e))
  | .failed stderr => (files, .error ("tpm2_quote failed: " ++ stderr))

/-- The second half of `get_pcr_quote`. -/
def readQuote (vmId : String) (readError : Option String) (files : Files) :
    Except String (List UInt8) :=
  match readError, files[quotePath vmId]? with
  | some e, _ => .error ("Failed to read quote: " ++ e)
  | none, some quote => .ok quote
  | none, none => .error "Failed to read quote: No such file or directory (os error 2)"

/-- The first register of the manifest that the live ones do not match. -/
def directCheck (livePcrs expectedPcrs : HashMap UInt32 String) : Option String :=
  expectedPcrs.pairs.findSome? fun p =>
    match livePcrs.lookup p.1 with
    | some actual =>
      if actual ≠ p.2 then
        some ("PCR " ++ toString p.1.toNat ++ " mismatch after unified verification: expected " ++
          p.2 ++ ", got " ++ actual)
      else none
    | none =>
      some ("PCR " ++ toString p.1.toNat ++ " not found in live quote but expected in manifest")

namespace Check

variable (check : Check)

/-- The rest of the check, once the quote is read and parsed. -/
def compareWithManifest (quoteData : List UInt8) (livePcrs : HashMap UInt32 String) :
    Except String AttestationResult := do
  let signed ← check.manifest
  match signed.manifest.measuredBoot.pcrPolicy with
  | none => .error ("No PCR policy found in manifest for image " ++ check.imageName)
  | some expectedPcrs =>
    let result ← (verifyTpmAttestation check.order
      { vmId := check.imageName
        verified := true
        quote := some ⟨quoteData, [], livePcrs, ""⟩
        pcrResults := ∅
        error := none } expectedPcrs).mapError ("Attestation verification error: " ++ ·)
    let pcrResults := expectedPcrs.pairs.map fun p =>
      let actual := (livePcrs.lookup p.1).getD ""
      ⟨p.1, p.2, actual, actual == p.2⟩
    if !result.verified then
      return ⟨false, pcrResults, result.verified,
        some (result.error.getD "PCR verification failed")⟩
    else match directCheck livePcrs expectedPcrs with
      | some error => return ⟨false, pcrResults, result.verified, some error⟩
      | none => return ⟨true, pcrResults, result.verified, none⟩

/-- The whole check of one VM, undisturbed. -/
def verifyAttestationFromManifest (files : Files) : Files × Except String AttestationResult :=
  match writeQuote "attest" check.quoteRun files with
  | (files, .error e) => (files, .error ("Failed to get PCR quote: " ++ e))
  | (files, .ok ()) => (files, do
      let quoteData ← (readQuote "attest" check.readError files).mapError
        ("Failed to get PCR quote: " ++ ·)
      let livePcrs ← (parsePcrValues quoteData).mapError
        ("Failed to parse PCR values from quote: " ++ ·)
      check.compareWithManifest quoteData livePcrs)

end Check

/-- Where a check is, with the data it carries there. -/
inductive CheckPhase where
  | quoting
  | reading
  | parsing (quoteData : List UInt8)
  | comparing (quoteData : List UInt8) (livePcrs : HashMap UInt32 String)
  | finished (verdict : Except String AttestationResult)

def CheckPhase.verdict : CheckPhase → Option (Except String AttestationResult)
  | .finished verdict => some verdict
  | _ => none

/-- One step of a check. -/
def Check.turn (check : Check) (files : Files) : CheckPhase → Files × CheckPhase
  | .quoting =>
    match writeQuote "attest" check.quoteRun files with
    | (files, .error e) => (files, .finished (.error ("Failed to get PCR quote: " ++ e)))
    | (files, .ok ()) => (files, .reading)
  | .reading =>
    match readQuote "attest" check.readError files with
    | .error e => (files, .finished (.error ("Failed to get PCR quote: " ++ e)))
    | .ok quoteData => (files, .parsing quoteData)
  | .parsing quoteData =>
    match parsePcrValues quoteData with
    | .error e => (files, .finished (.error ("Failed to parse PCR values from quote: " ++ e)))
    | .ok livePcrs => (files, .comparing quoteData livePcrs)
  | .comparing quoteData livePcrs =>
    (files, .finished (check.compareWithManifest quoteData livePcrs))
  | .finished verdict => (files, .finished verdict)

/-- The files under `/tmp` and the phase of each VM's check. -/
structure Checks where
  files : Files
  phase : String → CheckPhase

def Checks.start (files : Files) : Checks := ⟨files, fun _ => .quoting⟩

/-- One turn of the check of the VM. -/
def Checks.turn (checks : String → Check) (s : Checks) (vmId : String) : Checks where
  files := ((checks vmId).turn s.files (s.phase vmId)).1
  phase := Function.update s.phase vmId ((checks vmId).turn s.files (s.phase vmId)).2

/-- The verdict on a VM after the turns of a schedule. -/
def verdictOf (checks : String → Check) (files : Files) (schedule : List String) (vmId : String) :
    Option (Except String AttestationResult) :=
  ((exec (Checks.turn checks) (Checks.start files) schedule).phase vmId).verdict

/-- The verdict on every VM depends on what its own check meets, and on nothing else. -/
def Isolated (schedule : List String) : Prop :=
  ∀ (checks checks' : String → Check) (files files' : Files) (vmId : String),
    checks vmId = checks' vmId →
      verdictOf checks files schedule vmId = verdictOf checks' files' schedule vmId

/-- Another VM takes its first turn, in which its quote is written, while the check of
this VM has taken one turn: its quote is written and not yet read. -/
def QuoteReplaced (schedule : List String) (vmId : String) : Prop :=
  ∃ pre other post, schedule = pre ++ other :: post ∧ other ≠ vmId ∧ other ∉ pre ∧
    pre.count vmId = 1

section Turns

variable {check : Check} {files : Files} {phase : CheckPhase}

/-- Only a check that is quoting writes the file. -/
theorem turn_files (h : phase ≠ .quoting) : (check.turn files phase).1 = files := by
  cases phase with
  | quoting => exact absurd rfl h
  | reading =>
    simp only [Check.turn]
    split <;> rfl
  | parsing quoteData => rfl
  | comparing quoteData livePcrs => rfl
  | finished verdict => rfl

theorem mem_turn_files {path : String} (h : path ∈ files) : path ∈ (check.turn files phase).1 := by
  by_cases hquoting : phase = .quoting
  · rw [hquoting]
    cases hrun : check.quoteRun <;> simp [Check.turn, writeQuote, hrun, h]
  · rwa [turn_files hquoting]

/-- What a check has come to after so many turns by its own doing, before it compares. -/
def Check.early (check : Check) : ℕ → Option (Except String AttestationResult)
  | 0 => none
  | 1 => check.quoteRun.error.map fun e => .error ("Failed to get PCR quote: " ++ e)
  | _ + 2 => (check.quoteRun.error.or (check.readError.map ("Failed to read quote: " ++ ·))).map
      fun e => .error ("Failed to get PCR quote: " ++ e)

/-- Where a check can be after so many turns, whatever the others do. -/
def Stage (check : Check) (files : Files) : CheckPhase → ℕ → Prop
  | .quoting, n => n = 0
  | .reading, n => n = 1 ∧ check.early 1 = none ∧ quotePath "attest" ∈ files
  | .parsing _, n => n = 2 ∧ check.early 2 = none
  | .comparing _ _, n => n = 3 ∧ check.early 3 = none
  | .finished verdict, n => 4 ≤ n ∨ check.early n = some verdict

theorem stage_turn {n : ℕ} (h : Stage check files phase n) :
    Stage check (check.turn files phase).1 (check.turn files phase).2 (n + 1) := by
  cases phase with
  | quoting =>
    obtain rfl : n = 0 := h
    cases hrun : check.quoteRun <;>
      simp [Check.turn, writeQuote, hrun, Stage, Check.early, QuoteRun.error]
  | reading =>
    obtain ⟨rfl, hearly, hmem⟩ := h
    obtain ⟨quote, hquote⟩ := mem_iff_lookup.mp hmem
    have hrun : check.quoteRun.error = none := by simpa [Check.early] using hearly
    cases hread : check.readError <;>
      simp [Check.turn, readQuote, hread, hquote, Stage, Check.early, hrun]
  | parsing quoteData =>
    obtain ⟨rfl, hearly⟩ := h
    exact ⟨rfl, hearly⟩
  | comparing quoteData livePcrs =>
    obtain ⟨rfl, hearly⟩ := h
    exact .inl (by omega)
  | finished verdict =>
    obtain hlong | hearly := h
    · exact .inl (by omega)
    · refine .inr ?_
      match n, hearly with
      | 1, hearly =>
        obtain ⟨e, he, hverdict⟩ := Option.map_eq_some_iff.mp hearly
        simp [Check.early, he, hverdict]
      | n + 2, hearly => exact hearly

theorem Stage.mono {files' : Files} {n : ℕ} (h : Stage check files phase n)
    (hmem : quotePath "attest" ∈ files → quotePath "attest" ∈ files') :
    Stage check files' phase n := by
  cases phase with
  | reading => exact ⟨h.1, h.2.1, hmem h.2.2⟩
  | quoting => exact h
  | parsing quoteData => exact h
  | comparing quoteData livePcrs => exact h
  | finished verdict => exact h

/-- Before its fourth turn a check has a verdict only if it failed by itself. -/
theorem Stage.verdict_eq {n : ℕ} (h : Stage check files phase n) (hn : n < 4) :
    phase.verdict = check.early n := by
  cases phase with
  | quoting =>
    obtain rfl : n = 0 := h
    rfl
  | reading =>
    obtain ⟨rfl, hearly, _⟩ := h
    exact hearly.symm
  | parsing quoteData =>
    obtain ⟨rfl, hearly⟩ := h
    exact hearly.symm
  | comparing quoteData livePcrs =>
    obtain ⟨rfl, hearly⟩ := h
    exact hearly.symm
  | finished verdict =>
    obtain hlong | hearly := h
    · omega
    · exact hearly.symm

/-- A check reads nothing of the files but the quote, and that only when it is reading. -/
theorem turn_congr {files' : Files}
    (h : phase = .reading → files[quotePath "attest"]? = files'[quotePath "attest"]?) :
    (check.turn files phase).2 = (check.turn files' phase).2 ∧
      ((check.turn files phase).2 = .reading →
        (check.turn files phase).1[quotePath "attest"]? =
          (check.turn files' phase).1[quotePath "attest"]?) := by
  cases phase with
  | quoting => cases hrun : check.quoteRun <;> simp [Check.turn, writeQuote, hrun]
  | reading =>
    have hread : readQuote "attest" check.readError files =
        readQuote "attest" check.readError files' := by
      unfold readQuote
      rw [h rfl]
    simp only [Check.turn, hread]
    split <;> simp
  | parsing quoteData => exact ⟨rfl, fun hreading => nomatch hreading⟩
  | comparing quoteData livePcrs => exact ⟨rfl, fun hreading => nomatch hreading⟩
  | finished verdict => exact ⟨rfl, fun hreading => nomatch hreading⟩

end Turns

section Schedules

variable {checks checks' : String → Check} {files files' : Files} {vmId : String}

theorem turn_phase_self (s : Checks) :
    (Checks.turn checks s vmId).phase vmId = ((checks vmId).turn s.files (s.phase vmId)).2 :=
  Function.update_self vmId _ s.phase

theorem turn_phase_of_ne (s : Checks) {other : String} (h : other ≠ vmId) :
    (Checks.turn checks s other).phase vmId = s.phase vmId :=
  Function.update_of_ne h.symm _ s.phase

theorem stage_exec (checks : String → Check) (files : Files) (schedule : List String)
    (vmId : String) :
    Stage (checks vmId) (exec (Checks.turn checks) (Checks.start files) schedule).files
      ((exec (Checks.turn checks) (Checks.start files) schedule).phase vmId)
      (schedule.count vmId) := by
  induction schedule using List.reverseRecOn with
  | nil => exact rfl
  | append_singleton schedule other ih =>
    rw [exec_append, exec_cons, exec_nil, List.count_append]
    by_cases h : other = vmId
    · subst h
      rw [turn_phase_self, List.count_singleton_self]
      exact stage_turn ih
    · rw [turn_phase_of_ne _ h, List.count_singleton, if_neg (by simpa using h)]
      exact ih.mono mem_turn_files

theorem QuoteReplaced.append {schedule : List String} (h : QuoteReplaced schedule vmId)
    (rest : List String) : QuoteReplaced (schedule ++ rest) vmId := by
  obtain ⟨pre, other, post, rfl, hne, hfresh, hcount⟩ := h
  exact ⟨pre, other, post ++ rest, by simp, hne, hfresh, hcount⟩

/-- Two runs of the same check agree on where it is and, while it is reading, on the quote
in the file, if nobody else writes a quote in between. -/
theorem phase_eq_of_not_replaced (hsame : checks vmId = checks' vmId) {schedule : List String}
    (h : ¬ QuoteReplaced schedule vmId) :
    let s := exec (Checks.turn checks) (Checks.start files) schedule
    let s' := exec (Checks.turn checks') (Checks.start files') schedule
    s.phase vmId = s'.phase vmId ∧ (s.phase vmId = .reading →
      s.files[quotePath "attest"]? = s'.files[quotePath "attest"]?) := by
  induction schedule using List.reverseRecOn with
  | nil => exact ⟨rfl, fun hreading => nomatch hreading⟩
  | append_singleton schedule other ih =>
    have hbefore := ih fun hreplaced => h (hreplaced.append [other])
    have hstage := stage_exec checks files schedule
    have hstage' := stage_exec checks' files' schedule
    simp only [exec_append, exec_cons, exec_nil]
    generalize exec (Checks.turn checks) (Checks.start files) schedule = s at hbefore hstage ⊢
    generalize exec (Checks.turn checks') (Checks.start files') schedule = s' at hbefore hstage' ⊢
    obtain ⟨hphase, hfile⟩ := hbefore
    by_cases hother : other = vmId
    · subst hother
      rw [turn_phase_self, turn_phase_self, ← hsame, ← hphase]
      have hcongr := @turn_congr (checks other) s.files (s.phase other) s'.files hfile
      refine ⟨hcongr.1, fun hreading => ?_⟩
      simpa only [Checks.turn, ← hsame, ← hphase] using hcongr.2 hreading
    · rw [turn_phase_of_ne _ hother, turn_phase_of_ne _ hother]
      refine ⟨hphase, fun hreading => ?_⟩
      -- the other check is past its quote: this one has written and not yet read
      have hone : schedule.count vmId = 1 := by
        have hvm := hstage vmId
        rw [hreading] at hvm
        exact hvm.1
      have hmem : other ∈ schedule := by
        by_contra hfresh
        exact h ⟨schedule, other, [], rfl, hother, hfresh, hone⟩
      have hturned : 0 < schedule.count other := List.count_pos_iff.mpr hmem
      have hquiet : ∀ (check : Check) (t : Checks),
          Stage check t.files (t.phase other) (schedule.count other) → t.phase other ≠ .quoting := by
        intro check t hst hquoting
        rw [hquoting] at hst
        exact absurd hst (by simp only [Stage]; omega)
      show (((checks other).turn s.files (s.phase other)).1)[quotePath "attest"]? =
        (((checks' other).turn s'.files (s'.phase other)).1)[quotePath "attest"]?
      rw [turn_files (hquiet _ s (hstage other)), turn_files (hquiet _ s' (hstage' other))]
      exact hfile hreading

/-- The turns of one check alone give the verdict of the whole check. -/
theorem verdictOf_alone (checks : String → Check) (files : Files) (vmId : String) :
    verdictOf checks files (List.replicate 4 vmId) vmId =
      some ((checks vmId).verifyAttestationFromManifest files).2 := by
  simp only [verdictOf, List.replicate, exec_cons, exec_nil]
  cases hrun : (checks vmId).quoteRun with
  | notStarted e =>
    simp [Checks.turn, Checks.start, Check.turn, writeQuote, hrun, CheckPhase.verdict,
      Check.verifyAttestationFromManifest]
  | failed stderr =>
    simp [Checks.turn, Checks.start, Check.turn, writeQuote, hrun, CheckPhase.verdict,
      Check.verifyAttestationFromManifest]
  | wrote quote =>
    cases hread : (checks vmId).readError with
    | some e => simp [Checks.turn, Checks.start, Check.turn, writeQuote, readQuote, hrun, hread,
        CheckPhase.verdict, Check.verifyAttestationFromManifest, Except.mapError, bind, Except.bind]
    | none => simp [Checks.turn, Checks.start, Check.turn, writeQuote, readQuote, hrun, hread,
        CheckPhase.verdict, Check.verifyAttestationFromManifest, Except.mapError, bind, Except.bind,
        parsePcrValues]

/-- The check goes on with the given quote. -/
def Follows (check : Check) (vmId : String) (quote : List UInt8)
    (livePcrs : HashMap UInt32 String) (s : Checks) : Prop :=
  (s.phase vmId = .reading ∧ s.files[quotePath "attest"]? = some quote) ∨
    s.phase vmId = .parsing quote ∨ s.phase vmId = .comparing quote livePcrs ∨
    s.phase vmId = .finished (check.compareWithManifest quote livePcrs)

theorem turn_lookup_of_wrote {check : Check} {quote : List UInt8} {phase : CheckPhase}
    (hrun : check.quoteRun = .wrote quote)
    (h : phase = .quoting ∨ files[quotePath "attest"]? = some quote) :
    (check.turn files phase).1[quotePath "attest"]? = some quote := by
  by_cases hquoting : phase = .quoting
  · rw [hquoting]
    simp [Check.turn, writeQuote, hrun]
  · rw [turn_files hquoting]
    exact h.resolve_left hquoting

theorem follows_turn {quote : List UInt8} {livePcrs : HashMap UInt32 String}
    (hread : (checks vmId).readError = none) (hparse : parsePcrValues quote = .ok livePcrs)
    (hothers : ∀ other, other ≠ vmId → (checks other).quoteRun = .wrote quote) (s : Checks)
    (other : String) (h : Follows (checks vmId) vmId quote livePcrs s) :
    Follows (checks vmId) vmId quote livePcrs (Checks.turn checks s other) := by
  unfold Follows at h ⊢
  by_cases hother : other = vmId
  · subst hother
    rw [turn_phase_self]
    obtain ⟨hphase, hfile⟩ | hphase | hphase | hphase := h
    · refine .inr (.inl ?_)
      simp [hphase, Check.turn, readQuote, hread, hfile]
    · refine .inr (.inr (.inl ?_))
      simp [hphase, Check.turn, hparse]
    · exact .inr (.inr (.inr (by rw [hphase, Check.turn])))
    · exact .inr (.inr (.inr (by rw [hphase, Check.turn])))
  · rw [turn_phase_of_ne _ hother]
    refine h.imp_left fun hreading => ⟨hreading.1, ?_⟩
    exact turn_lookup_of_wrote (hothers other hother) (.inr hreading.2)

/-- Once its quote is replaced, the verdict on a VM is that of the other VM's quote. -/
theorem verdictOf_replaced {own quote : List UInt8} {livePcrs : HashMap UInt32 String}
    (hown : (checks vmId).quoteRun = .wrote own) (hread : (checks vmId).readError = none)
    (hparse : parsePcrValues quote = .ok livePcrs)
    (hothers : ∀ other, other ≠ vmId → (checks other).quoteRun = .wrote quote)
    {schedule : List String} (hreplaced : QuoteReplaced schedule vmId)
    (hcount : 4 ≤ schedule.count vmId) :
    verdictOf checks files schedule vmId =
      some ((checks vmId).compareWithManifest quote livePcrs) := by
  have hend := stage_exec checks files schedule vmId
  obtain ⟨pre, other, post, rfl, hother, hfresh, hone⟩ := hreplaced
  have hvm := stage_exec checks files pre vmId
  have hquoting := stage_exec checks files pre other
  rw [List.count_eq_zero_of_not_mem hfresh] at hquoting
  have hfollows : Follows (checks vmId) vmId quote livePcrs
      (exec (Checks.turn checks) (Checks.start files) (pre ++ other :: post)) := by
    rw [exec_append, exec_cons]
    refine exec_of_invariant ?_ (follows_turn hread hparse hothers) post
    refine .inl ⟨?_, turn_lookup_of_wrote (hothers other hother) (.inl ?_)⟩
    · rw [turn_phase_of_ne _ hother]
      cases hphase : (exec (Checks.turn checks) (Checks.start files) pre).phase vmId with
      | reading => rfl
      | quoting => simp [hphase, Stage, hone] at hvm
      | parsing quoteData => simp [hphase, Stage, hone] at hvm
      | comparing quoteData livePcrs => simp [hphase, Stage, hone] at hvm
      | finished verdict => simp [hphase, Stage, hone, Check.early, hown, QuoteRun.error] at hvm
    · cases hphase : (exec (Checks.turn checks) (Checks.start files) pre).phase other with
      | quoting => rfl
      | reading => simp [hphase, Stage] at hquoting
      | parsing quoteData => simp [hphase, Stage] at hquoting
      | comparing quoteData livePcrs => simp [hphase, Stage] at hquoting
      | finished verdict => simp [hphase, Stage, Check.early] at hquoting
  unfold verdictOf
  obtain ⟨hphase, _⟩ | hphase | hphase | hphase := hfollows
  · rw [hphase] at hend
    exact absurd hend.1 (by omega)
  · rw [hphase] at hend
    exact absurd hend.1 (by omega)
  · rw [hphase] at hend
    exact absurd hend.1 (by omega)
  · rw [hphase]
    rfl

/-- An image whose register 0 is to hold `a`. -/
def expectingImage : SignedManifest where
  manifest := { VmifManifest.new "2024-01-01T00:00:00Z" "x86_64" none none "rootfs.img" {} 0 with
    measuredBoot := { pcrPolicy := some (AList.singleton 0 "a") } }
  signature := []
  publicKey := []

/-- One VM with the first quote, all others with the second. -/
def quotedBy (vmId : String) (own quote : List UInt8) (other : String) : Check where
  imageName := "image"
  quoteRun := .wrote (if other = vmId then own else quote)
  readError := none
  manifest := .ok expectingImage
  order := .inOrder _ _

/-- Register 0 as `a` and as `b` are told apart, whatever was quoted. -/
theorem compareWithManifest_quotedBy (vmId : String) (own quote : List UInt8) :
    ((quotedBy vmId own quote vmId).compareWithManifest [48, 58, 97]
        (AList.singleton 0 "a")).toOption.map AttestationResult.verified = some true ∧
      ((quotedBy vmId own quote vmId).compareWithManifest [48, 58, 98]
        (AList.singleton 0 "b")).toOption = none := by
  have hchecked : ∀ quoteData livePcrs,
      (quotedBy vmId own quote vmId).compareWithManifest quoteData livePcrs =
        (quotedBy "" [] [] "").compareWithManifest quoteData livePcrs := fun _ _ => rfl
  rw [hchecked, hchecked]
  exact ⟨by decide, by decide⟩

/-- Whatever the checks meet, each verdict is its own VM's, exactly when no check that gets
to its end has its quote replaced by the turns of the schedule. -/
theorem isolated_iff (schedule : List String) : Isolated schedule ↔
    ∀ vmId, 4 ≤ schedule.count vmId → ¬ QuoteReplaced schedule vmId := by
  constructor
  · intro hisolated vmId hcount hreplaced
    have hsame := hisolated (quotedBy vmId [48, 58, 97] [48, 58, 97])
      (quotedBy vmId [48, 58, 97] [48, 58, 98]) ∅ ∅ vmId (by simp [quotedBy])
    have hother : ∀ quote other, other ≠ vmId →
        (quotedBy vmId [48, 58, 97] quote other).quoteRun = .wrote quote := by
      intro quote other hne
      simp [quotedBy, hne]
    have hown : ∀ quote, (quotedBy vmId [48, 58, 97] quote vmId).quoteRun = .wrote [48, 58, 97] := by
      intro quote
      simp [quotedBy]
    have hparse : parsePcrValues [48, 58, 97] = .ok (AList.singleton 0 "a") ∧
        parsePcrValues [48, 58, 98] = .ok (AList.singleton 0 "b") := ⟨rfl, rfl⟩
    rw [verdictOf_replaced (hown _) rfl hparse.1 (hother _) hreplaced hcount,
      verdictOf_replaced (hown _) rfl hparse.2 (hother _) hreplaced hcount] at hsame
    have hverdicts := congrArg Except.toOption (Option.some.inj hsame)
    rw [(compareWithManifest_quotedBy vmId _ _).2] at hverdicts
    have hverified := (compareWithManifest_quotedBy vmId [48, 58, 97] [48, 58, 97]).1
    rw [hverdicts] at hverified
    cases hverified
  · intro h checks checks' files files' vmId hsame
    by_cases hcount : 4 ≤ schedule.count vmId
    · exact congrArg CheckPhase.verdict (phase_eq_of_not_replaced hsame (h vmId hcount)).1
    · have hlt : schedule.count vmId < 4 := by omega
      unfold verdictOf
      rw [(stage_exec checks files schedule vmId).verdict_eq hlt,
        (stage_exec checks' files' schedule vmId).verdict_eq hlt, hsame]

end Schedules

/-- The registers of `vm-a` do not match its manifest, those of `vm-b` do. On its own `vm-a`
is refused, but when `vm-b` is quoted before its quote is read it is verified. -/
theorem verified_by_quote_of_other :
    verdictOf (quotedBy "vm-a" [48, 58, 98] [48, 58, 97]) ∅ ["vm-a", "vm-a", "vm-a", "vm-a"] "vm-a" =
        some (.error "Attestation verification error: PCR 0 mismatch: expected a, got b") ∧
      verdictOf (quotedBy "vm-a" [48, 58, 98] [48, 58, 97]) ∅
          ["vm-a", "vm-b", "vm-a", "vm-a", "vm-a"] "vm-a" =
        some (.ok ⟨true, [⟨0, "a", "a", true⟩], true, none⟩) ∧
      ¬ Isolated ["vm-a", "vm-b", "vm-a", "vm-a", "vm-a"] := by
  refine ⟨by decide, by decide, fun hisolated => ?_⟩
  have hsame := hisolated (quotedBy "vm-a" [48, 58, 98] [48, 58, 97])
    (quotedBy "vm-a" [48, 58, 98] [48, 58, 98]) ∅ ∅ "vm-a" (by simp [quotedBy])
  exact absurd hsame (by decide)

end Vyoma.VmService
