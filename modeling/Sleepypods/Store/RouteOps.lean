import Sleepypods.Store.Statements

/-! Route bindings: how an identity is stored and decoded, idempotent creation, deletion, and
the query that resolves a request to its most specific binding. -/

set_option autoImplicit false

namespace Sleepypods.Store

open Library Library.Fallible

def hostKindToDb : RouteHostKind → String
  | .exact => "exact"
  | .wildcardSuffix => "wildcard_suffix"

def identityKindOf : RouteIdentity → IdentityKind
  | .http _ _ => .http
  | .sni _ => .sni

def routeIdentityKey : RouteIdentity → String
  | .http host path =>
    "http:" ++ hostKindToDb host.kind ++ ":" ++ host.host ++ ":" ++
      (path.map PathPrefix.value).getD ""
  | .sni host => "sni:" ++ hostKindToDb host.kind ++ ":" ++ host.host

def routeBindingRow (instanceId : InstanceId) (identity : RouteIdentity) (protocol : ProtocolRoute) :
    RouteBindingRow where
  instanceId := instanceId
  identityKey := routeIdentityKey identity
  identityKind := identityKindOf identity
  hostKind := identity.host.kind
  host := identity.host.host
  pathPrefix := identity.pathText
  protocol := protocol

def invalidStoredData (message : String) : StoreError :=
  .internal ("stored Postgres data is invalid: " ++ message)

/-- `route_identity_from_parts`: the stored host is normalized once more. -/
def routeIdentityFromParts (kind : IdentityKind) (hostKind : RouteHostKind) (host : String)
    (path : Option String) : StoreResult RouteIdentity :=
  match RouteHost.new hostKind host with
  | .error invalid => .error (invalidStoredData invalid.reason)
  | .ok host =>
    match kind, path with
    | .sni, _ => .ok (.sni host)
    | .http, none => .ok (.http host none)
    | .http, some path =>
      match PathPrefix.new path with
      | some path => .ok (.http host (some path))
      | none => .error (invalidStoredData
          ("route path prefix \"" ++ path ++ "\" must start with /"))

def RouteBindingRow.decode (id : RouteBindingId) (row : RouteBindingRow) :
    StoreResult RouteBindingRecord := do
  let identity ← routeIdentityFromParts row.identityKind row.hostKind row.host row.pathPrefix
  return { id := id, instanceId := row.instanceId, identity := identity, protocol := row.protocol }

def validateRouteProtocol (spec : RouteBindingSpec) : StoreResult Unit :=
  match spec.identity, spec.protocol with
  | .http _ _, .http => .ok ()
  | .sni _, .tlsSni => .ok ()
  | .http _ _, .tlsSni =>
    .error (.invalidArgument "HTTP route identities must use the HTTP protocol route")
  | .sni _, .http =>
    .error (.invalidArgument "SNI route identities must use the TLS SNI protocol route")

def expired (session : Session) (record : IdempotencyRecord) : Bool :=
  record.expiresAt.any fun expiresAt => decide (expiresAt ≤ session.now)

/-- `expire_key`: forget one key whose replay window has closed. -/
def expireKey (session : Session) (key : IdempotencyKey) (db : Database) : Database :=
  { db with
    idempotency := db.idempotency.filterRows fun other record =>
      !(decide (other = key) && expired session record) }

/-- `expire_records`: delete expired keys, the longest expired first. -/
def expireRecords (session : Session) (limit : Nat) (db : Database) : StoreResult Database := do
  require (0 < limit ∧ limit ≤ 10000)
    (.invalidArgument "idempotency GC batch must be between 1 and 10000")
  let due := (db.idempotency.entries.filter fun entry => expired session entry.2).insertionSort
    fun left right =>
      left.2.expiresAt.getD 0 < right.2.expiresAt.getD 0 ∨
        (left.2.expiresAt = right.2.expiresAt ∧ left.1.value ≤ right.1.value)
  let doomed := (due.take limit).map Prod.fst
  return { db with idempotency := db.idempotency.filterRows fun key _ => !doomed.contains key }

def insertIdempotencyRecord (session : Session) (key : IdempotencyKey)
    (operation : IdempotentOperation) (fingerprint : RequestFingerprint) (resourceId : String)
    (db : Database) : StoreResult Database := do
  let expiresAt := session.idempotencyRetentionMillis.map fun retention => session.now + retention
  require (expiresAt.all fitsBigint = true) bigintOutOfRange
  return { db with
    idempotency := db.idempotency.insert key
      { operation := operation
        fingerprint := fingerprint
        resourceId := resourceId
        expiresAt := expiresAt
        resourceDeletedAt := none } }

def checkReplay (record : IdempotencyRecord) (operation : IdempotentOperation)
    (fingerprint : RequestFingerprint) (resource : String) : StoreResult Unit := do
  require (record.operation = operation ∧ record.fingerprint = fingerprint) .idempotencyConflict
  require (record.resourceDeletedAt = none) (.idempotencyResourceDeleted resource)

def createRouteBindingFingerprint (request : CreateRouteBindingRequest) : RequestFingerprint :=
  .createRouteBinding request.routeBindingId request.instanceId request.identity request.protocol

def createRouteBinding (session : Session) (request : CreateRouteBindingRequest) (db : Database) :
    StoreResult (RouteBindingRecord × Database) := do
  validateRouteProtocol { identity := request.identity, protocol := request.protocol }
  let fingerprint := createRouteBindingFingerprint request
  let live := expireKey session request.idempotencyKey db
  match live.idempotency.find? request.idempotencyKey with
  | some record =>
    checkReplay record .createRouteBinding fingerprint "route binding"
    let (id, row) ← orError
      (live.routeBindings.select? fun id _ => decide (id.value = record.resourceId))
      (.notFound "route binding")
    let existing ← row.decode id
    return (existing, live)
  | none =>
    let recorded ← insertIdempotencyRecord session request.idempotencyKey .createRouteBinding
      fingerprint request.routeBindingId.value live
    let row := routeBindingRow request.instanceId request.identity request.protocol
    let inserted ← insertRouteBinding session request.routeBindingId row recorded
    let created ← row.decode request.routeBindingId
    return (created, inserted)

def deleteRouteBinding (session : Session) (id : RouteBindingId) (db : Database) :
    StoreResult (Bool × Database) := do
  let after ← deleteRouteBindings session (fun other _ => decide (other = id)) db
  return ((db.routeBindings.find? id).isSome, after)

/-! ### Resolving a route -/

structure ResolveRouteRequest where
  identity : RouteIdentity
  target : MaterializationTarget

def hostSuffixes : List Char → List (List Char)
  | [] => []
  | c :: rest => if c = '.' then rest :: hostSuffixes rest else hostSuffixes rest

/-- The `WHERE` clause on a stored path. -/
def storedPathMatches (lookup stored : Option String) : Bool :=
  match stored, lookup with
  | none, _ => true
  | some _, none => false
  | some stored, some lookup =>
    decide (stored = "/") || decide (stored = lookup) ||
      (decide (stored.toList.getLast? = some '/') && stored.toList.isPrefixOf lookup.toList) ||
      (stored.toList ++ ['/']).isPrefixOf lookup.toList

/-- The `WHERE` clause of the route query. -/
def RouteBindingRow.matches (row : RouteBindingRow) (identity : RouteIdentity) : Bool :=
  decide (row.identityKind = identityKindOf identity) &&
    (match row.hostKind with
    | .exact => decide (row.host = identity.host.host)
    | .wildcardSuffix =>
      (hostSuffixes identity.host.host.toList).contains row.host.toList) &&
    storedPathMatches identity.pathText row.pathPrefix

/-- The `ORDER BY` keys of the route query, each descending. -/
def RouteBindingRow.rank (row : RouteBindingRow) : Nat × Nat × Nat :=
  (match row.hostKind with
    | .exact => 1
    | .wildcardSuffix => 0,
    row.host.utf8ByteSize, (row.pathPrefix.map String.utf8ByteSize).getD 0)

def outranks (left right : Nat × Nat × Nat) : Prop :=
  right.1 < left.1 ∨ (right.1 = left.1 ∧
    (right.2.1 < left.2.1 ∨ (right.2.1 = left.2.1 ∧ right.2.2 < left.2.2)))

instance (left right : Nat × Nat × Nat) : Decidable (outranks left right) :=
  inferInstanceAs (Decidable (_ ∨ _))

/-- The order of the route query: by rank, then by binding id. -/
def selectedBefore (left right : RouteBindingId × RouteBindingRow) : Prop :=
  outranks left.2.rank right.2.rank ∨
    (left.2.rank = right.2.rank ∧ left.1.value ≤ right.1.value)

instance : DecidableRel selectedBefore := fun _ _ => inferInstanceAs (Decidable (_ ∨ _))

def selectedBinding (db : Database) (identity : RouteIdentity) :
    Option (RouteBindingId × RouteBindingRow) :=
  ((db.routeBindings.entries.filter fun entry => entry.2.matches identity).insertionSort
    selectedBefore).head?

def readyMaterialization (db : Database) (instanceId : InstanceId) (generation : Nat)
    (target : MaterializationTarget) : Option MaterializationRow :=
  (db.materializations.select? fun _ row =>
    decide (row.instanceId = instanceId) && decide (row.instanceGeneration = generation) &&
      decide (row.target = target) && decide (row.state = .ready)).map Prod.snd

/-- `default_negative_cache_policy`: one second. -/
def defaultNegativeCacheTtl : Nat := 1000000000

def resolveRoute (db : Database) (request : ResolveRouteRequest) : StoreResult RouteResolution :=
  match (selectedBinding db request.identity).bind fun (id, row) =>
      (db.instances.find? row.instanceId).map fun found => (id, row, found) with
  | none => .ok (.miss defaultNegativeCacheTtl)
  | some (id, row, found) => do
      let record ← row.decode id
      let ready := readyMaterialization db row.instanceId found.generation request.target
      return .resolved record.identity
        { routeBindingId := id
          instanceId := row.instanceId
          instanceState := found.state
          instanceGeneration := found.generation
          backend := ready.bind MaterializationRow.backend
          backendGeneration := ready.map MaterializationRow.backendGeneration }

theorem resolveRoute_resolved {db : Database} {request : ResolveRouteRequest}
    {identity : RouteIdentity} {entry : RouteEntry}
    (resolved : resolveRoute db request = .ok (.resolved identity entry)) :
    ∃ id row record found, selectedBinding db request.identity = some (id, row) ∧
      db.instances.find? row.instanceId = some found ∧ row.decode id = .ok record ∧
      identity = record.identity ∧
      entry =
        { routeBindingId := id
          instanceId := row.instanceId
          instanceState := found.state
          instanceGeneration := found.generation
          backend := (readyMaterialization db row.instanceId found.generation request.target).bind
            MaterializationRow.backend
          backendGeneration :=
            (readyMaterialization db row.instanceId found.generation request.target).map
              MaterializationRow.backendGeneration } := by
  unfold resolveRoute at resolved
  split at resolved
  · cases resolved
  next id row found selected =>
    obtain ⟨⟨_, _⟩, bound, joined⟩ := Option.bind_eq_some_iff.mp selected
    obtain ⟨_, present, same⟩ := Option.map_eq_some_iff.mp joined
    cases same
    simp only [Fallible.bind_eq_ok, Fallible.pure_eq_ok, RouteResolution.resolved.injEq] at resolved
    obtain ⟨record, decoded, identity, entry⟩ := resolved
    exact ⟨id, row, record, found, bound, present, decoded, identity.symm, entry.symm⟩

end Sleepypods.Store
