import Sleepypods.Api.Ids

/-! Route identities: host normalization, path prefixes, and the score by which the most
specific matching binding is selected. -/

set_option autoImplicit false

namespace Sleepypods

inductive RouteHostKind where
  | exact
  | wildcardSuffix
  deriving DecidableEq

def RouteHostKind.isWildcard : RouteHostKind → Bool
  | .exact => false
  | .wildcardSuffix => true

inductive InvalidRouteHost where
  | empty
  | embeddedWildcard
  | noDot
  deriving DecidableEq

def InvalidRouteHost.reason : InvalidRouteHost → String
  | .empty => "route host must not be empty"
  | .embeddedWildcard => "route host wildcard is only allowed as a leading wildcard suffix"
  | .noDot => "route host must contain at least one dot"

/-- Remove a leading `*.` where there is one. -/
def stripWildcard : List Char → List Char
  | '*' :: '.' :: rest => rest
  | host => host

/-- Trim white space, then trailing dots, and fold ASCII case; nothing is trimmed again after
the dots are gone. -/
def foldHost (value : String) (wildcard : Bool) : List Char :=
  let host := (trimEndMatches (· == '.') (trimText value.toList)).map Char.toLower
  if wildcard then stripWildcard host else host

def normalizeHost (value : String) (wildcard : Bool) : Except InvalidRouteHost String :=
  let host := foldHost value wildcard
  if host.isEmpty then .error .empty
  else if host.contains '*' then .error .embeddedWildcard
  else if !host.contains '.' then .error .noDot
  else .ok (String.ofList host)

/-- A host that one of the constructors returned. -/
structure RouteHost where
  kind : RouteHostKind
  host : String
  accepted : ∃ value, normalizeHost value kind.isWildcard = .ok host

instance : DecidableEq RouteHost := fun left right =>
  decidable_of_iff (left.kind = right.kind ∧ left.host = right.host) (by
    cases left
    cases right
    simp)

/-- `RouteHost::exact` and `RouteHost::wildcard_suffix`. -/
def RouteHost.new (kind : RouteHostKind) (value : String) : Except InvalidRouteHost RouteHost :=
  match normalized : normalizeHost value kind.isWildcard with
  | .ok host => .ok ⟨kind, host, ⟨value, normalized⟩⟩
  | .error error => .error error

structure PathPrefix where
  value : String
  absolute : value.toList.head? = some '/'
  deriving DecidableEq

def PathPrefix.new (value : String) : Option PathPrefix :=
  if absolute : value.toList.head? = some '/' then some ⟨value, absolute⟩ else none

inductive RouteIdentity where
  | http (host : RouteHost) (path : Option PathPrefix)
  | sni (host : RouteHost)
  deriving DecidableEq

def RouteIdentity.host : RouteIdentity → RouteHost
  | .http host _ => host
  | .sni host => host

def RouteIdentity.pathText : RouteIdentity → Option String
  | .http _ path => path.map PathPrefix.value
  | .sni _ => none

/-- `route_identity_from_proto` of what was sent: the host goes through its constructor again. -/
def RouteIdentity.received : RouteIdentity → Except InvalidRouteHost RouteIdentity
  | .http host path => (RouteHost.new host.kind host.host).map fun host => .http host path
  | .sni host => (RouteHost.new host.kind host.host).map .sni

inductive ProtocolRoute where
  | http
  | tlsSni
  deriving DecidableEq

structure RouteBindingSpec where
  identity : RouteIdentity
  protocol : ProtocolRoute
  deriving DecidableEq

structure RouteBindingRecord where
  id : RouteBindingId
  instanceId : InstanceId
  identity : RouteIdentity
  protocol : ProtocolRoute
  deriving DecidableEq

structure RouteEntry where
  routeBindingId : RouteBindingId
  instanceId : InstanceId
  instanceState : InstanceState
  instanceGeneration : Nat
  backend : Option BackendEndpoint
  backendGeneration : Option Nat
  deriving DecidableEq

/-- A lookup's answer; a miss may be cached for `negativeCacheTtl` nanoseconds. -/
inductive RouteResolution where
  | resolved (matchedIdentity : RouteIdentity) (entry : RouteEntry)
  | miss (negativeCacheTtl : Nat)
  deriving DecidableEq

/-- The length of a matching suffix, or `usize::MAX` for an exact host: no string is that long. -/
inductive HostScore where
  | suffix (bytes : Nat)
  | exact
  deriving DecidableEq

def HostScore.lt : HostScore → HostScore → Prop
  | .suffix left, .suffix right => left < right
  | .suffix _, .exact => True
  | .exact, _ => False

instance : LT HostScore := ⟨HostScore.lt⟩

instance : (left right : HostScore) → Decidable (left < right)
  | .suffix left, .suffix right => inferInstanceAs (Decidable (left < right))
  | .suffix _, .exact => .isTrue trivial
  | .exact, _ => .isFalse id

/-- Ordered by host first, then by path. -/
structure RouteMatchScore where
  host : HostScore
  path : Nat
  deriving DecidableEq

def RouteMatchScore.lt (left right : RouteMatchScore) : Prop :=
  left.host < right.host ∨ (left.host = right.host ∧ left.path < right.path)

instance : LT RouteMatchScore := ⟨RouteMatchScore.lt⟩

instance (left right : RouteMatchScore) : Decidable (left < right) :=
  inferInstanceAs (Decidable (_ ∨ _))

/-- Whether `lookup` ends with `suffix` right after a dot. -/
def isSubdomainOf (lookup suffix : List Char) : Bool :=
  suffix.isSuffixOf lookup && (lookup.take (lookup.length - suffix.length)).getLast? == some '.'

def hostScore (binding lookup : RouteHost) : Option HostScore :=
  match binding.kind with
  | .exact => if binding.host = lookup.host then some .exact else none
  | .wildcardSuffix =>
    if isSubdomainOf lookup.host.toList binding.host.toList then
      some (.suffix binding.host.utf8ByteSize)
    else none

def pathPrefixMatches (lookup binding : String) : Bool :=
  if binding = "/" ∨ lookup = binding then true
  else if binding.toList.getLast? = some '/' then binding.toList.isPrefixOf lookup.toList
  else (binding.toList ++ ['/']).isPrefixOf lookup.toList

def pathScore : Option PathPrefix → Option PathPrefix → Option Nat
  | none, _ => some 0
  | some _, none => none
  | some binding, some lookup =>
    if pathPrefixMatches lookup.value binding.value then some binding.value.utf8ByteSize else none

def routeMatchScore : RouteIdentity → RouteIdentity → Option RouteMatchScore
  | .http bindingHost bindingPath, .http lookupHost lookupPath =>
    (hostScore bindingHost lookupHost).bind fun host =>
      (pathScore bindingPath lookupPath).map fun path => ⟨host, path⟩
  | .sni bindingHost, .sni lookupHost =>
    (hostScore bindingHost lookupHost).map fun host => ⟨host, 0⟩
  | _, _ => none

end Sleepypods
