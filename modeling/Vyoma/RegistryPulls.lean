import Vyoma.AuthChallenges
import Vyoma.ImageRefs
import Vyoma.VmifManifest

/-!
# Pulling from a registry

Manifests and blobs are pulled by programs that send requests, remember tokens and go on with the
answers. Each builds its URLs from the parsed reference anew, and the two ways of choosing the
scheme differ: the manifest is asked for over `http` when the registry starts with `localhost`, a
blob when it holds `localhost` anywhere.
-/
namespace Vyoma.Oci
open RustText
open Image (OciImageConfig)

/-- What a URL of the registry API starts with: `{scheme}://{registry}/v2/{repository}`. -/
structure Endpoint where
  scheme : String
  registry : String
  repository : String
  deriving DecidableEq, Repr

inductive Target where
  | manifest (endpoint : Endpoint) (reference : String)
  | blob (endpoint : Endpoint) (digest : String)
  | token (url : String)

namespace Target

def url : Target → String
  | .manifest e reference =>
    e.scheme ++ "://" ++ e.registry ++ "/v2/" ++ e.repository ++ "/manifests/" ++ reference
  | .blob e digest =>
    e.scheme ++ "://" ++ e.registry ++ "/v2/" ++ e.repository ++ "/blobs/" ++ digest
  | .token url => url

/-- The endpoint of the registry, for a request that goes there. -/
def endpoint? : Target → Option Endpoint
  | .manifest e _ => some e
  | .blob e _ => some e
  | .token _ => none

end Target

structure Request where
  target : Target
  accept : Option String := none
  /-- The token of the `Authorization` header. -/
  bearer : Option String := none
  basicAuth : Option (String × String) := none

/-- A header is an error when its bytes are not the text that `to_str` wants. -/
structure Response where
  status : ℕ
  statusText : String
  wwwAuthenticate : Option (Except String String)
  contentType : Option (Except String String)
  body : List UInt8

def Response.isSuccess (resp : Response) : Bool := 200 ≤ resp.status && resp.status < 300

/-- A program that pulls. An error of the connection ends it as `fail` does. -/
inductive Pull (α : Type) where
  | done (a : α)
  | fail (error : String)
  | send (request : Request) (next : Response → Pull α)
  | cached (key : String) (next : Option String → Pull α)
  | remember (key token : String) (next : Pull α)

namespace Pull

def bind {α β : Type} : Pull α → (α → Pull β) → Pull β
  | .done a, f => f a
  | .fail e, _ => .fail e
  | .send r next, f => .send r fun resp => (next resp).bind f
  | .cached key next, f => .cached key fun token => (next token).bind f
  | .remember key token next, f => .remember key token (next.bind f)

instance : Monad Pull where
  pure := .done
  bind := bind

def ofExcept {α : Type} : Except String α → Pull α
  | .ok a => .done a
  | .error e => .fail e

/-- `ok_or_else(..)?` -/
def require {α : Type} (error : String) : Option α → Pull α
  | some a => .done a
  | none => .fail error

/-- The requests that some run of the program makes. -/
inductive Asks {α : Type} : Pull α → Request → Prop
  | here (r next) : Asks (.send r next) r
  | answered {r next resp r'} : Asks (next resp) r' → Asks (.send r next) r'
  | found {key next token r'} : Asks (next token) r' → Asks (.cached key next) r'
  | remembered {key token next r'} : Asks next r' → Asks (.remember key token next) r'

end Pull

open Pull

structure Platform where
  architecture : String
  os : String

structure ManifestDescriptor where
  digest : String
  platform : Platform

structure DockerAuth where
  auth : String

structure DockerConfig where
  auths : Std.ExtTreeMap String DockerAuth

/-- What is read outside this code: Docker's configuration file, if it is there and can be parsed,
base64, the text of a body by its character set, and JSON. -/
structure Readers where
  dockerConfig : Option DockerConfig
  base64 : String → Option ByteArray
  text : List UInt8 → Except String String
  tokenResponse : List UInt8 → Except String String
  manifestList : String → Except String (List ManifestDescriptor)
  ociConfigBlob : List UInt8 → Except String OciImageConfig

variable (readers : Readers)

/-- An entry that does not decode to `user:pass` is passed over. -/
def loadDockerCreds (registry : String) : Option (String × String) := do
  let config ← readers.dockerConfig
  [registry, "https://" ++ registry, "https://index.docker.io/v1/"].findSome? fun key => do
    let authEntry ← config.auths[key]?
    let decodedBytes ← readers.base64 authEntry.auth
    let decodedStr ← String.fromUTF8? decodedBytes
    splitOnce ':' decodedStr

def dockerTypes : String :=
  "application/vnd.docker.distribution.manifest.v2+json, application/vnd.oci.image.manifest.v1+json"

def manifestTypes : String := dockerTypes ++
  ", application/vnd.oci.image.index.v1+json, application/vnd.docker.distribution.manifest.list.v2+json"

def fetchToken (realm : String) (service scope : Option String) (registryHost : String) :
    Pull String := do
  let query := (service.map fun s => "service=" ++ s).toList ++
    (scope.map fun s => "scope=" ++ s).toList
  let url := if query.isEmpty then realm else realm ++ "?" ++ "&".intercalate query
  let resp ← Pull.send
    { target := .token url, basicAuth := loadDockerCreds readers registryHost } .done
  if !resp.isSuccess then
    Pull.fail ("Token request failed for " ++ registryHost ++ ": " ++ resp.statusText)
  else Pull.ofExcept (readers.tokenResponse resp.body)

/-- The authentication after a 401, with a new token for the retry. -/
def negotiate (missingHeader : String) (resp : Response) (registry cacheKey : String) :
    Pull String := do
  let header ← Pull.require missingHeader resp.wwwAuthenticate
  let header ← Pull.ofExcept header
  let realm ← Pull.require "Missing realm" (extractField header "realm")
  let service := extractField header "service"
  let scope := extractField header "scope"
  let newToken ← fetchToken readers realm service scope registry
  Pull.remember cacheKey newToken (.done newToken)

/-- A request with the token remembered for the repository, sent again with a new one after a
401. -/
def sendAuthorized (missingHeader registry cacheKey : String) (request : Request) :
    Pull Response := do
  let token ← Pull.cached cacheKey .done
  let resp ← Pull.send { request with bearer := token } .done
  if resp.status = 401 then do
    let newToken ← negotiate readers missingHeader resp registry cacheKey
    Pull.send { request with bearer := some newToken } .done
  else return resp

def isLinuxAmd64 (m : ManifestDescriptor) : Bool :=
  (m.platform.architecture == "amd64" || m.platform.architecture == "x86_64") &&
    m.platform.os == "linux"

/-- `registry.starts_with("localhost")`. -/
def startsWithLocalhost (registry : String) : Bool :=
  "localhost".toList.isPrefixOf registry.toList

/-- The endpoint that `pull_manifest` builds. -/
def manifestEndpoint (image : String) : Endpoint :=
  let (registry, repository, _) := parseImageRef image
  let proto := if startsWithLocalhost registry then "http" else "https"
  ⟨proto, registry, repository⟩

/-- The endpoint that `pull_layer` builds. -/
def layerEndpoint (image : String) : Endpoint :=
  let (registry, repository, _) := parseImageRef image
  let proto := if contains registry "localhost" then "http" else "https"
  ⟨proto, registry, repository⟩

def cacheKey (endpoint : Endpoint) : String := endpoint.registry ++ "/" ++ endpoint.repository

def pullManifest (image : String) : Pull String := do
  let endpoint := manifestEndpoint image
  let tag := (parseImageRef image).2.2
  let resp ← sendAuthorized readers "401 Unauthorized but missing Www-Authenticate header"
    endpoint.registry (cacheKey endpoint)
    { target := .manifest endpoint tag, accept := some manifestTypes }
  if !resp.isSuccess then Pull.fail ("Failed to fetch manifest: " ++ resp.statusText)
  else
    let contentType := (resp.contentType.bind Except.toOption).getD "unknown"
    let body ← Pull.ofExcept (readers.text resp.body)
    if contains contentType "list" || contains contentType "index" then do
      let list ← Pull.ofExcept (readers.manifestList body)
      let target ← Pull.require "No linux/amd64 manifest found in list" (list.find? isLinuxAmd64)
      let token ← Pull.cached (cacheKey endpoint) .done
      -- the status of this answer is not looked at
      let resolved ← Pull.send
        { target := .manifest endpoint target.digest, accept := some dockerTypes, bearer := token }
        .done
      Pull.ofExcept (readers.text resolved.body)
    else return body

def pullLayer (image digest : String) : Pull (List UInt8) := do
  let endpoint := layerEndpoint image
  let resp ← sendAuthorized readers "401 but no Www-Authenticate" endpoint.registry
    (cacheKey endpoint) { target := .blob endpoint digest }
  if !resp.isSuccess then
    Pull.fail ("Failed to fetch layer " ++ digest ++ ": " ++ resp.statusText)
  else return resp.body

def pullConfigBlob (image digest : String) : Pull OciImageConfig := do
  let blob ← pullLayer readers image digest
  Pull.ofExcept ((readers.ociConfigBlob blob).mapError fun e =>
    "Failed to parse OCI config blob: " ++ e)

/-! ## The endpoints of the requests -/

section Asks

variable {α β : Type} {P : Request → Prop}

/-- Every request of every run satisfies the condition. -/
def AsksOnly (P : Request → Prop) (p : Pull α) : Prop := ∀ r, Asks p r → P r

theorem asksOnly_done (a : α) : AsksOnly P (.done a) := nofun

theorem asksOnly_fail (e : String) : AsksOnly P (.fail e : Pull α) := nofun

theorem asksOnly_ofExcept (x : Except String α) : AsksOnly P (Pull.ofExcept x) := by
  cases x with
  | ok a => exact asksOnly_done a
  | error e => exact asksOnly_fail e

theorem asksOnly_require (e : String) (x : Option α) : AsksOnly P (Pull.require e x) := by
  cases x with
  | some a => exact asksOnly_done a
  | none => exact asksOnly_fail e

theorem asksOnly_send {r : Request} (h : P r) : AsksOnly P (Pull.send r .done) := by
  intro r' hr'
  cases hr' with
  | here => exact h
  | answered hnext => cases hnext

theorem asksOnly_cached (key : String) : AsksOnly P (Pull.cached key .done) := by
  intro r hr
  cases hr with
  | found hnext => cases hnext

theorem AsksOnly.bind {p : Pull α} (h : AsksOnly P p) {f : α → Pull β}
    (hf : ∀ a, AsksOnly P (f a)) : AsksOnly P (p >>= f) := by
  induction p with
  | done a => exact hf a
  | fail e => exact asksOnly_fail e
  | send r next ih =>
    intro r' hr'
    cases hr' with
    | here => exact h r (.here r next)
    | answered hnext => exact ih _ (fun r'' hr'' => h r'' (.answered hr'')) r' hnext
  | cached key next ih =>
    intro r' hr'
    cases hr' with
    | found hnext => exact ih _ (fun r'' hr'' => h r'' (.found hr'')) r' hnext
  | remember key token next ih =>
    intro r' hr'
    cases hr' with
    | remembered hnext => exact ih (fun r'' hr'' => h r'' (.remembered hr'')) r' hnext

theorem AsksOnly.ite {c : Prop} [Decidable c] {p q : Pull α} (hp : AsksOnly P p)
    (hq : AsksOnly P q) : AsksOnly P (if c then p else q) := by
  split_ifs
  · exact hp
  · exact hq

/-- What is asked for before the answer decides anything. -/
theorem Pull.Asks.bind {p : Pull α} {r : Request} (h : Asks p r) (f : α → Pull β) :
    Asks (p >>= f) r := by
  induction h with
  | here r next => exact .here _ _
  | answered _ ih => exact .answered ih
  | found _ ih => exact .found ih
  | remembered _ ih => exact .remembered ih

end Asks

/-- The request goes to the endpoint, or to a server for tokens. -/
def GoesTo (endpoint : Endpoint) (r : Request) : Prop :=
  ∀ e ∈ r.target.endpoint?, e = endpoint

variable {readers}

theorem asksOnly_negotiate (endpoint : Endpoint) (missingHeader : String) (resp : Response)
    (registry key : String) :
    AsksOnly (GoesTo endpoint) (negotiate readers missingHeader resp registry key) := by
  refine (asksOnly_require _ _).bind fun header => ?_
  refine (asksOnly_ofExcept _).bind fun header => ?_
  refine (asksOnly_require _ _).bind fun realm => ?_
  refine AsksOnly.bind ?_ fun newToken => ?_
  · refine (asksOnly_send ?_).bind fun resp => ?_
    · exact nofun
    · exact (asksOnly_fail _).ite (asksOnly_ofExcept _)
  · intro r hr
    cases hr with
    | remembered hnext => cases hnext

theorem asksOnly_sendAuthorized {endpoint : Endpoint} {request : Request}
    (h : ∀ e ∈ request.target.endpoint?, e = endpoint) (missingHeader registry key : String) :
    AsksOnly (GoesTo endpoint) (sendAuthorized readers missingHeader registry key request) := by
  refine (asksOnly_cached _).bind fun token => ?_
  refine (asksOnly_send (by exact h)).bind fun resp => ?_
  refine AsksOnly.ite ?_ (asksOnly_done _)
  exact (asksOnly_negotiate _ _ _ _ _).bind fun newToken => asksOnly_send (by exact h)

theorem asks_sendAuthorized (missingHeader registry key : String) (request : Request)
    (token : Option String) :
    Asks (sendAuthorized readers missingHeader registry key request)
      { request with bearer := token } :=
  .found (.here _ _)

theorem asksOnly_pullManifest (image : String) :
    AsksOnly (GoesTo (manifestEndpoint image)) (pullManifest readers image) := by
  have hself : ∀ reference, ∀ e ∈ (Target.manifest (manifestEndpoint image) reference).endpoint?,
      e = manifestEndpoint image := by
    intro reference e he
    exact (Option.some.inj he).symm
  refine (asksOnly_sendAuthorized (hself _) _ _ _).bind fun resp => ?_
  refine (asksOnly_fail _).ite ?_
  refine (asksOnly_ofExcept _).bind fun body => ?_
  refine AsksOnly.ite ?_ (asksOnly_done _)
  refine (asksOnly_ofExcept _).bind fun list => ?_
  refine (asksOnly_require _ _).bind fun target => ?_
  refine (asksOnly_cached _).bind fun token => ?_
  exact (asksOnly_send (by exact hself _)).bind fun resolved => asksOnly_ofExcept _

/-- The first request for the manifest. -/
theorem asks_pullManifest (image : String) : Asks (pullManifest readers image)
    { target := .manifest (manifestEndpoint image) (parseImageRef image).2.2,
      accept := some manifestTypes } := by
  unfold pullManifest
  exact (asks_sendAuthorized _ _ _ _ none).bind _

theorem asks_pullLayer (image digest : String) :
    Asks (pullLayer readers image digest) { target := .blob (layerEndpoint image) digest } := by
  unfold pullLayer
  exact (asks_sendAuthorized _ _ _ _ none).bind _

theorem asksOnly_pullLayer (image digest : String) :
    AsksOnly (GoesTo (layerEndpoint image)) (pullLayer readers image digest) := by
  refine (asksOnly_sendAuthorized ?_ _ _ _).bind fun resp => ?_
  · intro e he
    exact (Option.some.inj he).symm
  · exact (asksOnly_fail _).ite (asksOnly_done _)

theorem asksOnly_pullConfigBlob (image digest : String) :
    AsksOnly (GoesTo (layerEndpoint image)) (pullConfigBlob readers image digest) :=
  (asksOnly_pullLayer image digest).bind fun _ => asksOnly_ofExcept _

/-- Wherever a run of `pull_manifest` asks the registry, runs of `pull_layer` and of
`pull_config_blob` ask it for the same reference. -/
structure SameEndpoint (readers : Readers) (image digest : String) : Prop where
  layer : ∀ m e, Asks (pullManifest readers image) m → e ∈ m.target.endpoint? →
    ∀ b e', Asks (pullLayer readers image digest) b → e' ∈ b.target.endpoint? → e = e'
  config : ∀ m e, Asks (pullManifest readers image) m → e ∈ m.target.endpoint? →
    ∀ b e', Asks (pullConfigBlob readers image digest) b → e' ∈ b.target.endpoint? → e = e'

/-- The reference names a registry that holds `localhost` without starting with it. -/
def LocalhostWithin (image : String) : Prop :=
  ∃ reg repo, '/' ∉ reg.toList ∧ looksLikeRegistry reg = true ∧ contains reg "localhost" = true ∧
    startsWithLocalhost reg = false ∧
    (image = reg ++ "/" ++ repo ∧ ':' ∉ image.toList ∨
      ∃ tag, image = reg ++ "/" ++ repo ++ ":" ++ tag ∧ ':' ∉ tag.toList)

/-- The text holds `localhost` but does not start with it. -/
def Within (registry : String) : Prop :=
  contains registry "localhost" = true ∧ startsWithLocalhost registry = false

theorem not_within_hub : ¬Within hubRegistry := by
  rintro ⟨hcontains, -⟩
  exact absurd hcontains (by decide +kernel)

/-- The alias of Docker Hub does not matter. -/
theorem within_finalReg_iff (registry : String) : Within (finalReg registry) ↔ Within registry := by
  unfold finalReg
  split_ifs with halias
  · refine iff_of_false not_within_hub ?_
    rintro ⟨hcontains, -⟩
    rw [halias] at hcontains
    exact absurd hcontains (by decide +kernel)
  · rfl

/-- The registry is what stands before the first slash, if that looks like one. -/
theorem within_splitRegistry_iff (rest : String) : Within (splitRegistry rest).1 ↔
    ∃ reg repo, '/' ∉ reg.toList ∧ looksLikeRegistry reg = true ∧ Within reg ∧
      rest = reg ++ "/" ++ repo := by
  constructor
  · intro h
    unfold splitRegistry at h
    cases hcut : splitOnce '/' rest with
    | none =>
      rw [hcut] at h
      exact absurd h not_within_hub
    | some parts =>
      obtain ⟨reg, repo⟩ := parts
      obtain ⟨htext, hslash⟩ := splitOnce_eq_some hcut
      rw [hcut] at h
      dsimp only at h
      split_ifs at h with hlooks
      · exact ⟨reg, repo, hslash, hlooks, h, htext⟩
      · exact absurd h not_within_hub
  · rintro ⟨reg, repo, hslash, hlooks, hwithin, rfl⟩
    have hcut : splitOnce '/' (reg ++ "/" ++ repo) = some (reg, repo) :=
      splitOnce_of_notMem hslash repo
    unfold splitRegistry
    rw [hcut]
    dsimp only
    rwa [if_pos hlooks]

/-- What stands before the tag is the whole reference, or what is before its last colon. -/
theorem splitTag_fst_eq_iff (image rest : String) : (splitTag image).1 = rest ↔
    (image = rest ∧ ':' ∉ image.toList) ∨ ∃ tag, image = rest ++ ":" ++ tag ∧ ':' ∉ tag.toList := by
  constructor
  · rintro rfl
    unfold splitTag
    cases hcut : rsplitOnce ':' image with
    | some parts =>
      obtain ⟨before, tag⟩ := parts
      obtain ⟨htext, htag⟩ := rsplitOnce_eq_some hcut
      have hcolon : String.singleton ':' = ":" := rfl
      rw [hcolon] at htext
      exact .inr ⟨tag, htext, htag⟩
    | none =>
      exact .inl ⟨rfl, notMem_of_rsplitOnce hcut⟩
  · rintro (⟨rfl, hcolon⟩ | ⟨tag, rfl, htag⟩)
    · rw [splitTag, rsplitOnce_eq_none hcolon]
      rfl
    · have hcut : rsplitOnce ':' (rest ++ ":" ++ tag) = some (rest, tag) :=
        rsplitOnce_of_notMem htag rest
      rw [splitTag, hcut]
      rfl

theorem within_parseImageRef_iff (image : String) :
    Within (parseImageRef image).1 ↔ LocalhostWithin image := by
  have hparse : (parseImageRef image).1 = finalReg (splitRegistry (splitTag image).1).1 := by
    simp only [parseImageRef]
  rw [hparse, within_finalReg_iff, within_splitRegistry_iff]
  constructor
  · rintro ⟨reg, repo, hslash, hlooks, hwithin, htext⟩
    exact ⟨reg, repo, hslash, hlooks, hwithin.1, hwithin.2, (splitTag_fst_eq_iff _ _).mp htext⟩
  · rintro ⟨reg, repo, hslash, hlooks, hcontains, hstarts, htext⟩
    exact ⟨reg, repo, hslash, hlooks, ⟨hcontains, hstarts⟩, (splitTag_fst_eq_iff _ _).mpr htext⟩

/-- A registry that starts with `localhost` holds it. -/
theorem contains_of_startsWith {registry : String} (h : startsWithLocalhost registry = true) :
    contains registry "localhost" = true :=
  decide_eq_true (List.isPrefixOf_iff_prefix.mp h).isInfix

theorem endpoints_eq_iff (image : String) :
    manifestEndpoint image = layerEndpoint image ↔ ¬LocalhostWithin image := by
  rw [← within_parseImageRef_iff, Within]
  have himp := @contains_of_startsWith (parseImageRef image).1
  unfold manifestEndpoint layerEndpoint
  dsimp only
  cases hstarts : startsWithLocalhost (parseImageRef image).1 with
  | true => simp [himp hstarts]
  | false => cases contains (parseImageRef image).1 "localhost" <;> simp

/-- The pulls that reach the servers ask at both endpoints. -/
theorem SameEndpoint.endpoints_eq {readers : Readers} {image digest : String}
    (h : SameEndpoint readers image digest) : manifestEndpoint image = layerEndpoint image :=
  h.layer _ _ (asks_pullManifest image) rfl _ _ (asks_pullLayer image digest) rfl

/-- The manifest and the blobs are asked for at one endpoint, whatever the servers answer and the
cache holds, exactly when the reference does not name a registry with `localhost` behind its start. -/
theorem sameEndpoint_iff (readers : Readers) (image digest : String) :
    SameEndpoint readers image digest ↔ ¬LocalhostWithin image := by
  rw [← endpoints_eq_iff]
  constructor
  · intro h
    exact h.endpoints_eq
  · intro heq
    constructor
    · intro m e hm he b e' hb he'
      rw [asksOnly_pullManifest image m hm e he, asksOnly_pullLayer image digest b hb e' he', heq]
    · intro m e hm he b e' hb he'
      rw [asksOnly_pullManifest image m hm e he, asksOnly_pullConfigBlob image digest b hb e' he',
        heq]

/-- Readers that find nothing. -/
def noReaders : Readers where
  dockerConfig := none
  base64 _ := none
  text _ := .error "no text"
  tokenResponse _ := .error "no token"
  manifestList _ := .error "no list"
  ociConfigBlob _ := .error "no config"

/-- `my.localhost/app`: the manifest is asked for over `https`, its layers over `http`. -/
theorem subdomain_over_http :
    manifestEndpoint "my.localhost/app" = ⟨"https", "my.localhost", "app"⟩ ∧
    layerEndpoint "my.localhost/app" = ⟨"http", "my.localhost", "app"⟩ ∧
    ¬SameEndpoint noReaders "my.localhost/app" "sha256:0" := by
  have hparse : parseImageRef "my.localhost/app" = ("my.localhost", "app", "latest") := by
    decide +kernel
  have hstarts : startsWithLocalhost "my.localhost" = false := by decide +kernel
  have hcontains : contains "my.localhost" "localhost" = true := by decide +kernel
  have hmanifest : manifestEndpoint "my.localhost/app" = ⟨"https", "my.localhost", "app"⟩ := by
    simp [manifestEndpoint, hparse, hstarts]
  have hlayer : layerEndpoint "my.localhost/app" = ⟨"http", "my.localhost", "app"⟩ := by
    simp [layerEndpoint, hparse, hcontains]
  refine ⟨hmanifest, hlayer, fun h => ?_⟩
  have hsame := h.endpoints_eq
  rw [hmanifest, hlayer] at hsame
  exact absurd hsame (by decide)

end Vyoma.Oci
