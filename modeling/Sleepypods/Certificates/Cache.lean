import Sleepypods.Certificates.Resources
import Sleepypods.Library.Fallible
import Sleepypods.Library.Table
import Sleepypods.Library.Transition

/-! The certificate cache of the frontline: demand-loaded views of hostnames, bounded fetches that
replace them and watch notifications that invalidate them. Instants and durations are in
milliseconds. -/

set_option autoImplicit false

namespace Sleepypods.CertificateCache

open Library Library.Fallible Certificates

def certificateCacheEntries : Nat := 1024

def certificateLookupTimeout : Nat := 3000

def fetchBytes : Nat := 8 * 1024 * 1024

def configOverhead : Nat := 128 * 1024

def serialBound : Nat := 2 ^ 64

inductive CertificateLookupError where
  | invalid
  | unavailable
  | capacity
  | deadline
  | stopped
  deriving DecidableEq

/-- `pb::CertificateMetadata`. -/
structure WireMetadata where
  certificateId : String
  version : Nat
  deleted : Bool
  notBeforeUnixMillis : Int
  notAfterUnixMillis : Int
  dnsNames : List String
  leafSha256 : Bytes
  sealingKeyId : Option String
  sealingRevision : Nat
  deriving DecidableEq

/-- `pb::CertificateBundle`. -/
structure WireBundle where
  chainDer : List Bytes
  privateKeyPkcs8Der : Bytes

inductive WireValue where
  | missing
  | unchanged (metadata : WireMetadata)
  | found (metadata : Option WireMetadata) (bundle : Option WireBundle)

/-- `pb::ResolveTlsCertificateResponse`. -/
structure ResolveResponse where
  serverName : String
  viewRevision : Nat
  observedAtUnixMillis : Int
  authorizationTtlMillis : Nat
  value : Option WireValue

/-- The TLS configuration that serves a bundle. Sessions, tickets and early data are off. -/
structure ServerConfig where
  bundle : CertificateBundle
  alpnProtocols : List String
  deriving DecidableEq

structure View where
  revision : Nat
  config : Option ServerConfig
  metadata : Option WireMetadata
  expires : Nat
  refresh : Nat
  deriving DecidableEq

structure Entry where
  incarnation : Nat
  floor : Nat
  refreshRequested : Bool
  generation : Nat
  touched : Nat
  value : Option View
  pending : Bool
  lastError : Option CertificateLookupError

structure Fetch where
  hostname : TlsHostname
  generation : Nat
  prior : Option View
  floor : Nat

/-- A fetch that a task works on, with the clocks it read when it began. -/
structure Running where
  fetch : Fetch
  started : Nat
  wall : Int

structure State where
  entries : Table TlsHostname Entry
  serial : Nat
  stopped : Bool
  shutdown : Bool
  queued : List Fetch
  running : List Running

def State.new : State := ⟨.empty, 0, false, false, [], []⟩

/-- What `validate_view` asks of the certificate library and of rustls. -/
structure CacheEnv where
  checks : CertificateChecks
  acceptsKey : CertificateBundle → Bool

/-- What the semaphores and the channel answer while a fetch is queued: they are shared with
configurations that connections still hold. -/
structure Supply where
  slot : Bool
  denials : Nat
  room : Bool

/-! ### Views -/

def usable (view : View) (now : Nat) (wall : Int) : Bool :=
  decide (now < view.expires) &&
    view.metadata.all fun metadata =>
      decide (metadata.notBeforeUnixMillis ≤ wall) && decide (wall < metadata.notAfterUnixMillis)

/-- `CertificateRevision::new` accepts the value. -/
def isRevision (value : Nat) : Bool := decide (value < revisionBound)

def remaining (metadata : WireMetadata) (authority : Int) : Except CertificateLookupError Nat := do
  require (metadata.notBeforeUnixMillis ≤ authority ∧ authority < metadata.notAfterUnixMillis)
    .invalid
  return (metadata.notAfterUnixMillis - authority).toNat

def sealingBounded (metadata : WireMetadata) : Bool :=
  metadata.sealingKeyId.all (fun key => decide (key.utf8ByteSize ≤ 64)) &&
    isRevision metadata.sealingRevision

def materialMetadataMatches (old new : WireMetadata) : Bool :=
  !new.deleted && decide (new.certificateId = old.certificateId) &&
    decide (new.version = old.version) &&
    decide (new.notBeforeUnixMillis = old.notBeforeUnixMillis) &&
    decide (new.notAfterUnixMillis = old.notAfterUnixMillis) &&
    decide (new.dnsNames = old.dnsNames) && decide (new.leafSha256 = old.leafSha256) &&
    sealingBounded new

def acceptFound (env : CacheEnv) (hostname : TlsHostname) (viewRevision : Nat) (now : Int)
    (metadata : WireMetadata) (wire : WireBundle) : Except CertificateLookupError ServerConfig := do
  let bundle ← (CertificateBundle.new wire.chainDer wire.privateKeyPkcs8Der).mapError
    fun _ => CertificateLookupError.invalid
  require (isCertificateId metadata.certificateId = true ∧ isRevision metadata.version = true ∧
    metadata.deleted = false ∧ metadata.version ≠ 0 ∧ viewRevision ≠ 0 ∧
    sealingBounded metadata = true) .invalid
  let validated ← (env.checks.validateCertificate bundle now).mapError
    fun _ => CertificateLookupError.invalid
  (env.checks.validateHostname bundle.chainDer hostname).mapError
    fun _ => CertificateLookupError.invalid
  require (metadata.notBeforeUnixMillis = validated.notBeforeUnixMillis ∧
    metadata.notAfterUnixMillis = validated.notAfterUnixMillis ∧
    metadata.dnsNames = validated.dnsNames ∧ metadata.leafSha256 = validated.leafSha256) .invalid
  let bytes := (bundle.chainDer.map List.length).sum + bundle.privateKeyPkcs8Der.length
  require (configOverhead + 4 * bytes ≤ fetchBytes ∧ env.acceptsKey bundle = true) .invalid
  return ⟨bundle, ["h2", "http/1.1"]⟩

def acceptValue (env : CacheEnv) (fetch : Fetch) (response : ResolveResponse) (authority : Int)
    (elapsed : Nat) (ttl : Nat) :
    Except CertificateLookupError (Option ServerConfig × Option WireMetadata × Nat) :=
  match response.value with
  | none => .error .invalid
  | some .missing => do
      require (¬fetch.prior.any fun prior =>
        decide (prior.revision = response.viewRevision) && prior.config.isSome) .invalid
      return (none, none, min ttl 1000)
  | some (.unchanged metadata) => do
      let prior ← orError fetch.prior .invalid
      require (prior.revision = response.viewRevision ∧ prior.config.isSome = true ∧
        prior.metadata.any (fun old => materialMetadataMatches old metadata) = true) .invalid
      let left ← remaining metadata authority
      return (prior.config, some metadata, min ttl left)
  | some (.found metadata bundle) => do
      require (¬fetch.prior.any fun prior => decide (prior.revision = response.viewRevision)) .invalid
      let metadata ← orError metadata .invalid
      let bundle ← orError bundle .invalid
      let now := min (authority + elapsed) (2 ^ 63 - 1)
      let config ← acceptFound env fetch.hostname response.viewRevision now metadata bundle
      let left ← remaining metadata authority
      return (some config, some metadata, min ttl left)

def refreshJitter (hostname : TlsHostname) : Nat :=
  hostname.value.toList.foldl (fun total c => (total * 31 + c.toNat) % 2 ^ 64) 0 % 6001

def validateView (env : CacheEnv) (fetch : Fetch) (response : ResolveResponse) (started : Nat)
    (wall : Int) (elapsed : Nat) : Except CertificateLookupError View := do
  require (response.serverName = fetch.hostname.value ∧ 0 ≤ response.observedAtUnixMillis) .invalid
  require (isRevision response.viewRevision = true) .invalid
  require (fetch.floor ≤ response.viewRevision) .invalid
  require (fetch.prior.all (fun prior => decide (prior.revision ≤ response.viewRevision)) = true)
    .invalid
  let authority := max wall response.observedAtUnixMillis
  let (config, metadata, ttl) ← acceptValue env fetch response authority elapsed
    (min response.authorizationTtlMillis 300000)
  require (ttl ≠ 0) .invalid
  return {
    revision := response.viewRevision
    config := config
    metadata := metadata
    expires := started + ttl
    refresh := started + min (60000 + refreshJitter fetch.hostname) (ttl / 2) }

def State.updateEntry (state : State) (hostname : TlsHostname) (change : Entry → Entry) : State :=
  { state with
    entries := state.entries.mapRows fun key entry => if key = hostname then change entry else entry }

def evictOne (state : State) (exclude : Option TlsHostname) : Option State :=
  let candidates := state.entries.entries.filter fun entry => decide (some entry.1 ≠ exclude)
  (candidates.argmin fun entry => entry.2.touched).map fun victim =>
    { state with entries := state.entries.erase victim.1 }

def reserveMemory (hostname : TlsHostname) : Nat → State → State × Bool
  | 0, state => (state, true)
  | denials + 1, state =>
    match evictOne state (some hostname) with
    | some state => reserveMemory hostname denials state
    | none => (state, false)

def Entry.fetch (hostname : TlsHostname) (entry : Entry) : Fetch :=
  ⟨hostname, entry.generation, entry.value, entry.floor⟩

/-- A failed call keeps its evictions. -/
def queueLocked (supply : Supply) (hostname : TlsHostname) (state : State) :
    State × Except CertificateLookupError Unit :=
  match state.entries.find? hostname with
  | none => (state, .error .unavailable)
  | some entry =>
    if entry.pending then (state, .ok ())
    else if supply.slot = false then (state, .error .capacity)
    else
      let (state, granted) := reserveMemory hostname supply.denials state
      if granted && supply.room then
        ({ state.updateEntry hostname fun entry =>
            { entry with pending := true, refreshRequested := false, lastError := none } with
            queued := state.queued ++ [entry.fetch hostname] }, .ok ())
      else (state, .error .capacity)

def cached (state : State) (hostname : TlsHostname) (now : Nat) (wall : Int) :
    Option (Option ServerConfig) :=
  ((state.entries.find? hostname).bind Entry.value).bind fun view =>
    if usable view now wall then some view.config else none

inductive Lookup where
  | answered (result : Except CertificateLookupError (Option ServerConfig))
  | waits

def awaitFetch (supply : Supply) (hostname : TlsHostname) (state : State) : State × Lookup :=
  match queueLocked supply hostname state with
  | (state, .ok ()) => (state, .waits)
  | (state, .error error) => (state, .answered (.error error))

def resolveCached (hostname : TlsHostname) (now : Nat) (wall : Int) (supply : Supply)
    (state : State) : State × Lookup :=
  let state := state.updateEntry hostname fun entry => { entry with touched := state.serial }
  match cached state hostname now wall with
  | some config => (state, .answered (.ok config))
  | none => awaitFetch supply hostname state

def Entry.new (serial : Nat) : Entry := ⟨serial, 0, false, serial, serial, none, false, none⟩

def resolveNew (hostname : TlsHostname) (entryMemory : Bool) (supply : Supply) (state : State) :
    State × Lookup :=
  let state := if state.entries.size = certificateCacheEntries then
      (evictOne state none).getD state
    else state
  if entryMemory then
    awaitFetch supply hostname
      { state with entries := state.entries.insert hostname (.new state.serial) }
  else (state, .answered (.error .capacity))

/-- `resolve` up to its first wait. -/
def resolve (hostname : TlsHostname) (now : Nat) (wall : Int) (entryMemory : Bool)
    (supply : Supply) (state : State) : State × Lookup :=
  if state.stopped then (state, .answered (.error .stopped))
  else if serialBound ≤ state.serial + 1 then (state, .answered (.error .capacity))
  else
    let state := { state with serial := state.serial + 1 }
    if (state.entries.find? hostname).isSome then resolveCached hostname now wall supply state
    else resolveNew hostname entryMemory supply state

/-- One round of the loop in which `resolve` waits. -/
def poll (hostname : TlsHostname) (now : Nat) (wall : Int) (state : State) : Lookup :=
  match state.entries.find? hostname with
  | none => .answered (.error .unavailable)
  | some entry =>
    match cached state hostname now wall with
    | some config => .answered (.ok config)
    | none => if entry.pending then .waits
        else .answered (.error (entry.lastError.getD .unavailable))

def retained (view : View) (id : Option String) (lastInvalidatingRevision : Nat) : Bool :=
  id.isSome && decide (lastInvalidatingRevision ≤ view.revision) &&
    view.metadata.any fun metadata => decide (some metadata.certificateId = id)

def Entry.invalidated (entry : Entry) (serial revision : Nat) (id : Option String)
    (lastInvalidatingRevision : Nat) : Entry :=
  { entry with
    floor := revision
    generation := serial
    pending := false
    refreshRequested := true
    value := entry.value.filter fun view => retained view id lastInvalidatingRevision }

structure Notification where
  hostname : TlsHostname
  incarnation : Nat
  revision : Nat
  certificateId : Option String
  lastInvalidatingRevision : Nat

/-- Whether `apply` goes through: the entry is the one registered, and the revision is news. -/
def applies (notification : Notification) (state : State) : Bool :=
  (state.entries.find? notification.hostname).any (fun entry =>
      decide (entry.incarnation = notification.incarnation) &&
        decide (entry.floor < notification.revision)) &&
    decide (state.serial + 1 < serialBound)

/-- The invalidation itself, which capacity pressure never postpones. -/
def invalidate (notification : Notification) (state : State) : State :=
  { state with serial := state.serial + 1 }.updateEntry notification.hostname fun entry =>
    entry.invalidated (state.serial + 1) notification.revision notification.certificateId
      notification.lastInvalidatingRevision

def apply (notification : Notification) (supply : Supply) (state : State) : State :=
  if applies notification state then
    (queueLocked supply notification.hostname (invalidate notification state)).1
  else state

def due (state : State) (now : Nat) : List TlsHostname :=
  (state.entries.entries.filter fun row =>
    !row.2.pending && (row.2.refreshRequested ||
      row.2.value.any fun view => view.config.isSome && decide (view.refresh ≤ now))).map Prod.fst

def tick (now : Nat) (supply : TlsHostname → Supply) (state : State) : State :=
  (due state now).foldl (fun state hostname => (queueLocked (supply hostname) hostname state).1) state

/-- What a task of the worker met: the answer, or the error that stood for it, and the clock at
each of its readings. -/
structure Report where
  response : Except CertificateLookupError ResolveResponse
  elapsed : Nat
  checkedAt : Nat
  installedAt : Nat
  failedAt : Nat

def Running.result (env : CacheEnv) (task : Running) (report : Report) :
    Except CertificateLookupError View := do
  let response ← report.response
  validateView env task.fetch response task.started task.wall report.elapsed

def Running.outcome (env : CacheEnv) (task : Running) (report : Report) (shutdown : Bool) :
    Except CertificateLookupError View := do
  require (shutdown = false ∧ report.checkedAt < task.started + certificateLookupTimeout) .deadline
  let view ← task.result env report
  require (report.installedAt < view.expires) .invalid
  return view

def Entry.finished (entry : Entry) (outcome : Except CertificateLookupError View)
    (failedAt : Nat) : Entry :=
  match outcome with
  | .ok view =>
    { entry with
      pending := false, floor := max entry.floor view.revision, value := some view
      lastError := none }
  | .error error =>
    { entry with
      pending := false, lastError := some error
      value := entry.value.map fun view => { view with refresh := failedAt + 60000 } }

/-- The end of `fetch_one`: a task whose entry is gone or renewed is canceled. -/
def finish (env : CacheEnv) (task : Running) (report : Report) (state : State) : State :=
  match state.entries.find? task.fetch.hostname with
  | some entry =>
    if entry.generation = task.fetch.generation then
      state.updateEntry task.fetch.hostname fun entry =>
        entry.finished (task.outcome env report state.shutdown) report.failedAt
    else state
  | none => state

inductive Event where
  | resolve (hostname : TlsHostname) (now : Nat) (wall : Int) (entryMemory : Bool) (supply : Supply)
  | poll (hostname : TlsHostname) (now : Nat) (wall : Int)
  | notify (notification : Notification) (supply : Supply)
  | tick (now : Nat) (supply : TlsHostname → Supply)
  | start (now : Nat) (wall : Int)
  | finish (index : Nat) (report : Report)
  /-- Dropped with the channel or with its task. -/
  | discardQueued
  | discardRunning (index : Nat)
  | shutdown
  | stop

def handle (env : CacheEnv) (event : Event) (state : State) : State :=
  match event with
  | .resolve hostname now wall entryMemory supply =>
    (resolve hostname now wall entryMemory supply state).1
  | .poll _ _ _ => state
  | .notify notification supply => apply notification supply state
  | .tick now supply => tick now supply state
  | .start now wall =>
    match state.queued with
    | [] => state
    | fetch :: rest =>
      { state with queued := rest, running := state.running ++ [⟨fetch, now, wall⟩] }
  | .finish index report =>
    match state.running[index]? with
    | none => state
    | some task =>
      finish env task report { state with running := state.running.eraseIdx index }
  | .discardQueued => { state with queued := [] }
  | .discardRunning index => { state with running := state.running.eraseIdx index }
  | .shutdown => { state with shutdown := true }
  | .stop => { state with stopped := true, entries := .empty }

def answer (event : Event) (state : State) : Option (TlsHostname × Lookup) :=
  match event with
  | .resolve hostname now wall entryMemory supply =>
    some (hostname, (resolve hostname now wall entryMemory supply state).2)
  | .poll hostname now wall => some (hostname, poll hostname now wall state)
  | _ => none

def cacheSystem (env : CacheEnv) : TransitionSystem State Event where
  initial state := state = .new
  step event state next := handle env event state = next

end Sleepypods.CertificateCache
