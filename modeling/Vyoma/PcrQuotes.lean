import Vyoma.HashMaps
import Vyoma.RustText

/-!
# PCR values of a TPM quote

A quote is read as text with one register a line, `index : hash`. The verifier compares
the registers it finds with the expected ones; a register that the quote does not hold is
passed over by the comparison and shows up in the results only.
-/
namespace Vyoma.Attest
open RustText

structure TpmQuote where
  quote : List UInt8
  signature : List UInt8
  pcrValues : HashMap UInt32 String
  timestamp : String

structure AttestationResponse where
  vmId : String
  verified : Bool
  quote : Option TpmQuote
  pcrResults : HashMap UInt32 Bool
  error : Option String

/-- One line of a quote. Lines of one part, or whose index is no number, are left out, and
so is whatever follows a second colon. -/
def parsePcrLine (pcrs : HashMap UInt32 String) (line : List Char) : HashMap UInt32 String :=
  match line.splitOn ':' with
  | index :: hash :: _ =>
    match parseUnsigned 32 (String.ofList (trim index)) with
    | some n => pcrs.insert (UInt32.ofNat n) (String.ofList (trim hash))
    | none => pcrs
  | _ => pcrs

def parsePcrValues (data : List UInt8) : Except String (HashMap UInt32 String) :=
  .ok ((lines (fromUtf8Lossy data)).foldl parsePcrLine ∅)

def mismatch (index : UInt32) (expected actual : String) : String :=
  "PCR " ++ toString index.toNat ++ " mismatch: expected " ++ expected ++ ", got " ++ actual

def verifyQuote (quote : TpmQuote) (expectedPcrs : HashMap UInt32 String) : Except String Unit :=
  if quote.pcrValues.entries = [] then .error "Empty PCR values in quote"
  else expectedPcrs.pairs.forM fun p =>
    match quote.pcrValues.lookup p.1 with
    | some actual => if actual ≠ p.2 then .error (mismatch p.1 p.2 actual) else .ok ()
    | none => .ok ()

/-- The value a response reports for a register, empty when there is none. -/
def AttestationResponse.actual (response : AttestationResponse) (index : UInt32) : String :=
  ((response.quote.bind fun q => q.pcrValues.lookup index).getD "")

def verify (response : AttestationResponse) (expectedPcrs : HashMap UInt32 String) :
    Except String AttestationResponse :=
  if !response.verified then .error "Attestation failed at source"
  else match response.quote with
    | none => .error "No quote in response"
    | some quote => do
      verifyQuote quote expectedPcrs
      return { response with
        pcrResults := expectedPcrs.pairs.foldl
          (fun results p => results.insert p.1 (response.actual p.1 == p.2)) response.pcrResults }

inductive AttestationType where
  | tpm
  | sevSnp
  | tdx
  deriving DecidableEq, Repr

structure MeasurementResult where
  name : String
  value : String
  verified : Bool
  deriving DecidableEq, Repr

structure UnifiedAttestationResponse where
  vmId : String
  attestationType : AttestationType
  verified : Bool
  measurements : List MeasurementResult
  error : Option String
  deriving DecidableEq, Repr

/-- The measurements come in the order in which the map of results happens to be met. -/
def verifyTpmAttestation (order : HashMap.Traversal UInt32 Bool) (response : AttestationResponse)
    (expectedPcrs : HashMap UInt32 String) : Except String UnifiedAttestationResponse := do
  let result ← verify response expectedPcrs
  return {
    vmId := response.vmId
    attestationType := .tpm
    verified := result.verified
    measurements := (order.visit result.pcrResults).pairs.map fun p =>
      ⟨"PCR" ++ toString p.1.toNat, response.actual p.1, p.2⟩
    error := result.error }

section Verdicts

variable {response : AttestationResponse} {expectedPcrs : HashMap UInt32 String}

theorem forM_eq_ok_iff {α ε : Type} {f : α → Except ε Unit} {l : List α} :
    l.forM f = .ok () ↔ ∀ a ∈ l, f a = .ok () := by
  induction l with
  | nil => exact iff_of_true rfl (by simp)
  | cons a l ih =>
    rw [List.forall_mem_cons, ← ih]
    show (f a >>= fun _ => l.forM f) = .ok () ↔ _
    cases f a with
    | error e => exact iff_of_false (by rintro ⟨⟩) (by rintro ⟨⟨⟩, _⟩)
    | ok u => exact (and_iff_right rfl).symm

/-- A quote passes when it holds a register at all and no expected one with another value. -/
theorem verifyQuote_eq_ok_iff {quote : TpmQuote} : verifyQuote quote expectedPcrs = .ok () ↔
    quote.pcrValues.entries ≠ [] ∧ ∀ index expected actual,
      expectedPcrs.lookup index = some expected → quote.pcrValues.lookup index = some actual →
        actual = expected := by
  unfold verifyQuote
  by_cases hempty : quote.pcrValues.entries = []
  · simp [hempty]
  · rw [if_neg hempty, forM_eq_ok_iff]
    constructor
    · intro h
      refine ⟨hempty, fun index expected actual hexp hact => ?_⟩
      have hpair := h (index, expected) (HashMap.mem_pairs.mpr hexp)
      simp only [hact] at hpair
      by_contra hne
      rw [if_pos hne] at hpair
      cases hpair
    · intro h p hp
      obtain ⟨index, expected⟩ := p
      cases hact : quote.pcrValues.lookup index with
      | none => rfl
      | some actual =>
        have hsame := h.2 index expected actual (HashMap.mem_pairs.mp hp) hact
        simp [hsame]

/-- A response that the verifier accepts is the one it was given, but for the results. -/
theorem verify_verified {result : AttestationResponse}
    (h : verify response expectedPcrs = .ok result) :
    result.verified = true ∧ result.error = response.error ∧
      ∃ quote, response.quote = some quote ∧ verifyQuote quote expectedPcrs = .ok () := by
  unfold verify at h
  cases hverified : response.verified with
  | false => simp [hverified] at h
  | true =>
    cases hquote : response.quote with
    | none => simp [hverified, hquote] at h
    | some quote =>
      cases hchecked : verifyQuote quote expectedPcrs with
      | error e =>
        simp only [hverified, hquote, hchecked] at h
        cases h
      | ok u =>
        simp only [hverified, hquote, hchecked] at h
        cases h
        exact ⟨rfl, rfl, quote, rfl, hchecked⟩

/-- The verifier goes through with a response that has this quote. -/
structure Accepted (response : AttestationResponse) (expectedPcrs : HashMap UInt32 String)
    (quote : TpmQuote) : Prop where
  verified : response.verified = true
  quoted : response.quote = some quote
  notEmpty : quote.pcrValues.entries ≠ []
  noMismatch : ∀ index expected actual, expectedPcrs.lookup index = some expected →
    quote.pcrValues.lookup index = some actual → actual = expected

/-- The results of a verification: the expected registers as they compare, and whatever the
response came with for others. -/
def resultsOf (response : AttestationResponse) (expectedPcrs : HashMap UInt32 String) :
    HashMap UInt32 Bool :=
  expectedPcrs.pairs.foldl (fun results p => results.insert p.1 (response.actual p.1 == p.2))
    response.pcrResults

theorem lookup_resultsOf (index : UInt32) :
    (resultsOf response expectedPcrs).lookup index =
      ((expectedPcrs.lookup index).map (response.actual index == ·)).or
        (response.pcrResults.lookup index) :=
  HashMap.lookup_foldl_insert_pairs (fun index expected => response.actual index == expected)
    expectedPcrs response.pcrResults index

theorem verify_of_accepted {quote : TpmQuote} (h : Accepted response expectedPcrs quote) :
    verify response expectedPcrs =
      .ok { response with pcrResults := resultsOf response expectedPcrs } := by
  have hquote := verifyQuote_eq_ok_iff.mpr ⟨h.notEmpty, h.noMismatch⟩
  unfold verify
  rw [h.verified, h.quoted]
  show (verifyQuote quote expectedPcrs >>= _) = _
  rw [hquote]
  rfl

theorem accepted_of_verify {result : AttestationResponse}
    (h : verify response expectedPcrs = .ok result) :
    ∃ quote, Accepted response expectedPcrs quote := by
  obtain ⟨hverified, -, quote, hquote, hchecked⟩ := verify_verified h
  obtain ⟨hempty, hmatch⟩ := verifyQuote_eq_ok_iff.mp hchecked
  refine ⟨quote, ?_, hquote, hempty, hmatch⟩
  by_contra hnot
  rw [verify, (Bool.not_eq_true _).mp hnot] at h
  cases h

/-- A verdict of true stands for every expected register, and so does every measurement. -/
def Confirms (response : AttestationResponse) (expectedPcrs : HashMap UInt32 String)
    (out : Except String UnifiedAttestationResponse) : Prop :=
  ∀ result, out = .ok result → result.verified = true →
    (∀ index expected, expectedPcrs.lookup index = some expected →
      ∃ quote, response.quote = some quote ∧ quote.pcrValues.lookup index = some expected) ∧
    ∀ m ∈ result.measurements, m.verified = true

/-- A quote that the verifier goes through with holds every expected register, and the response
came with no failed result for another one. -/
structure Complete (response : AttestationResponse) (expectedPcrs : HashMap UInt32 String)
    (quote : TpmQuote) : Prop where
  holds : ∀ index ∈ expectedPcrs, index ∈ quote.pcrValues
  noStale : ∀ index, index ∉ expectedPcrs → response.pcrResults.lookup index ≠ some false

variable {order : HashMap.Traversal UInt32 Bool} {quote : TpmQuote}

theorem verifyTpmAttestation_of_accepted (h : Accepted response expectedPcrs quote) :
    verifyTpmAttestation order response expectedPcrs = .ok {
      vmId := response.vmId
      attestationType := .tpm
      verified := true
      measurements := (order.visit (resultsOf response expectedPcrs)).pairs.map fun p =>
        ⟨"PCR" ++ toString p.1.toNat, response.actual p.1, p.2⟩
      error := response.error } := by
  unfold verifyTpmAttestation
  rw [verify_of_accepted h]
  simp only [h.verified]
  rfl

theorem measurements_verified_iff :
    (∀ m ∈ (order.visit (resultsOf response expectedPcrs)).pairs.map fun p =>
      (⟨"PCR" ++ toString p.1.toNat, response.actual p.1, p.2⟩ : MeasurementResult),
        m.verified = true) ↔
      ∀ index, (resultsOf response expectedPcrs).lookup index ≠ some false := by
  constructor
  · intro h index hfalse
    have hmem : (index, false) ∈ (order.visit (resultsOf response expectedPcrs)).pairs := by
      rw [HashMap.mem_pairs, HashMap.lookup_visit]
      exact hfalse
    have hverified := h _ (List.mem_map.mpr ⟨_, hmem, rfl⟩)
    cases hverified
  · intro h m hm
    obtain ⟨⟨index, verified⟩, hmem, rfl⟩ := List.mem_map.mp hm
    rw [HashMap.mem_pairs, HashMap.lookup_visit] at hmem
    cases verified with
    | true => rfl
    | false => exact absurd hmem (h index)

theorem Accepted.actual_eq (h : Accepted response expectedPcrs quote) (index : UInt32) :
    response.actual index = (quote.pcrValues.lookup index).getD "" := by
  rw [AttestationResponse.actual, h.quoted]
  rfl

theorem Complete.lookup (h : Complete response expectedPcrs quote)
    (haccepted : Accepted response expectedPcrs quote) {index : UInt32} {expected : String}
    (hexpected : expectedPcrs.lookup index = some expected) :
    quote.pcrValues.lookup index = some expected := by
  have hmem : index ∈ expectedPcrs := AList.lookup_isSome.mp (by rw [hexpected]; rfl)
  obtain ⟨actual, hactual⟩ := Option.isSome_iff_exists.mp
    (AList.lookup_isSome.mpr (h.holds index hmem))
  rw [hactual, haccepted.noMismatch index expected actual hexpected hactual]

/-- A verdict is confirmed by the registers exactly if every quote that is gone through with
is complete. -/
theorem tpm_verdict_confirmed_iff (order : HashMap.Traversal UInt32 Bool)
    (response : AttestationResponse) (expectedPcrs : HashMap UInt32 String) :
    Confirms response expectedPcrs (verifyTpmAttestation order response expectedPcrs) ↔
      ∀ quote, Accepted response expectedPcrs quote → Complete response expectedPcrs quote := by
  constructor
  · intro h quote haccepted
    obtain ⟨hregisters, hmeasured⟩ := h _ (verifyTpmAttestation_of_accepted haccepted) rfl
    have hresults := measurements_verified_iff.mp hmeasured
    constructor
    · intro index hmem
      obtain ⟨expected, hexpected⟩ := Option.isSome_iff_exists.mp (AList.lookup_isSome.mpr hmem)
      obtain ⟨quote', hquote', hlookup⟩ := hregisters index expected hexpected
      rw [haccepted.quoted] at hquote'
      cases hquote'
      exact AList.lookup_isSome.mp (by rw [hlookup]; rfl)
    · intro index hnot hstale
      have hresult := hresults index
      rw [lookup_resultsOf, AList.lookup_eq_none.mpr hnot, hstale] at hresult
      exact hresult rfl
  · intro h result hresult _
    obtain ⟨quote, haccepted⟩ : ∃ quote, Accepted response expectedPcrs quote := by
      cases hverify : verify response expectedPcrs with
      | error e =>
        rw [verifyTpmAttestation, hverify] at hresult
        cases hresult
      | ok verified => exact accepted_of_verify hverify
    have hcomplete := h quote haccepted
    rw [verifyTpmAttestation_of_accepted haccepted] at hresult
    cases hresult
    refine ⟨fun index expected hexpected =>
      ⟨quote, haccepted.quoted, hcomplete.lookup haccepted hexpected⟩, ?_⟩
    refine measurements_verified_iff.mpr fun index => ?_
    rw [lookup_resultsOf]
    cases hexpected : expectedPcrs.lookup index with
    | none => exact hcomplete.noStale index (AList.lookup_eq_none.mp hexpected)
    | some expected =>
      have hactual : response.actual index = expected := by
        rw [haccepted.actual_eq, hcomplete.lookup haccepted hexpected]
        rfl
      rw [hactual]
      simp

/-- A quote of one register, against a policy of two. -/
def sparseResponse : AttestationResponse where
  vmId := "vm-1"
  verified := true
  quote := some ⟨[], [], AList.singleton 7 "aa", ""⟩
  pcrResults := ∅
  error := none

def twoRegisters : HashMap UInt32 String := AList.insert 14 "bb" (AList.singleton 7 "aa")

/-- The register that is not there is reported as failed, under a verdict of true. -/
theorem missing_register_passes :
    ¬Confirms sparseResponse twoRegisters
      (verifyTpmAttestation (.inOrder _ _) sparseResponse twoRegisters) := by
  intro h
  obtain ⟨hregisters, -⟩ := h _ rfl rfl
  obtain ⟨quote, hquote, hlookup⟩ := hregisters 14 "bb" rfl
  cases hquote
  cases hlookup

end Verdicts

end Vyoma.Attest
