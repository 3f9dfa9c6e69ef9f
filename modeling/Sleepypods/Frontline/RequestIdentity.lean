import Sleepypods.Frontline.Actor
import Sleepypods.Store.Selection

/-! The identity a request is resolved under, and the agreement of the two matchers on it: the
frontline checks an answer with its own rank, the control plane selected it by its score. -/

set_option autoImplicit false

namespace Sleepypods.Frontline

inductive RequestIdentityError where
  | emptyHost
  | invalidHostPort
  | unsupportedHostSyntax
  | invalidRouteHost (error : InvalidRouteHost)
  | invalidPath (path : String)
  deriving DecidableEq

/-- What the constructors below return: an exact host, and a concrete path over HTTP. -/
structure RouteRequestIdentity where
  identity : RouteIdentity
  canonical : identity.host.kind = .exact
  concrete : ∀ host, identity ≠ .http host none

/-- `str::rsplit_once`. -/
def rsplitOnce (separator : Char) (text : List Char) : Option (List Char × List Char) :=
  if text.contains separator then
    let after := text.reverse.takeWhile (· != separator)
    some ((text.reverse.drop (after.length + 1)).reverse, after.reverse)
  else none

def stripOptionalPort (host : List Char) : Except RequestIdentityError (List Char) :=
  match rsplitOnce ':' host with
  | some (name, port) =>
    if name.contains ':' then .error .unsupportedHostSyntax
    else if port.isEmpty || !port.all Char.isDigit then .error .invalidHostPort
    else .ok name
  | none => .ok host

def canonicalRequestHost (value : String) :
    Except RequestIdentityError { host : RouteHost // host.kind = .exact } := do
  let trimmed := trimText value.toList
  if trimmed.isEmpty then throw .emptyHost
  if trimmed.head? = some '[' then throw .unsupportedHostSyntax
  let withoutPort ← stripOptionalPort trimmed
  if (trimText withoutPort).isEmpty then throw .emptyHost
  if withoutPort.contains ':' || withoutPort.contains '/' then throw .unsupportedHostSyntax
  match normalized : normalizeHost (String.ofList withoutPort) false with
  | .ok host => return ⟨⟨.exact, host, ⟨_, normalized⟩⟩, rfl⟩
  | .error error => throw (.invalidRouteHost error)

def canonicalRequestPath (path : Option String) : Except RequestIdentityError PathPrefix :=
  let path := (path.filter (!·.isEmpty)).getD "/"
  match PathPrefix.new path with
  | some canonical => .ok canonical
  | none => .error (.invalidPath path)

namespace RouteRequestIdentity

def http (host : String) (path : Option String) :
    Except RequestIdentityError RouteRequestIdentity := do
  let host ← canonicalRequestHost host
  let path ← canonicalRequestPath path
  return ⟨.http host.1 (some path), host.2, by simp⟩

def sni (host : String) : Except RequestIdentityError RouteRequestIdentity := do
  let host ← canonicalRequestHost host
  return ⟨.sni host.1, host.2, by simp⟩

end RouteRequestIdentity

/-! ### Two matchers -/

theorem isSome_hostRank (request rule : RouteHost) :
    (hostRank request rule).isSome = (hostScore rule request).isSome := by
  cases kind : rule.kind with
  | exact =>
    simp only [hostRank, hostScore, kind, eq_comm]
    split <;> rfl
  | wildcardSuffix =>
    simp only [hostRank, hostScore, kind, isSubdomainOf, Bool.and_eq_true, beq_iff_eq]
    -- A host is not its own subdomain: nothing is left before the suffix.
    have apart : (request.host.toList.take
        (request.host.toList.length - rule.host.toList.length)).getLast? = some '.' →
        request.host ≠ rule.host := by
      intro dotted same
      simp [same] at dotted
    have same := and_iff_right_of_imp (a := request.host ≠ rule.host) fun
      under : rule.host.toList.isSuffixOf request.host.toList = true ∧ _ => apart under.2
    simp only [same]
    split <;> rfl

theorem rulePathMatches_eq (request rule : String) :
    rulePathMatches request rule = pathPrefixMatches request rule := by
  unfold rulePathMatches pathPrefixMatches
  split
  · rfl
  · split
    · rfl
    · rw [Bool.eq_iff_iff, Bool.and_eq_true, decide_eq_true_eq, List.isPrefixOf_iff_prefix,
        List.isPrefixOf_iff_prefix]
      constructor
      · rintro ⟨⟨rest, whole⟩, slash⟩
        rw [← whole, List.drop_left] at slash
        obtain ⟨deeper, rfl⟩ := List.head?_eq_some_iff.mp slash
        exact ⟨deeper, by simp [← whole]⟩
      · rintro ⟨deeper, whole⟩
        rw [← whole]
        simp

/-- The frontline reads an absent path as the root, the control plane only on the rule's side. -/
theorem isSome_rankMatch {request : RouteIdentity} (concrete : ∀ host, request ≠ .http host none)
    (rule : RouteIdentity) :
    (rankMatch request rule).isSome = (routeMatchScore rule request).isSome := by
  cases request with
  | sni host =>
    cases rule with
    | http => rfl
    | sni => simp [rankMatch, routeMatchScore, isSome_hostRank]
  | http host path =>
    cases rule with
    | sni => rfl
    | http ruleHost rulePath =>
      have hosts := isSome_hostRank host ruleHost
      cases path with
      | none => exact absurd rfl (concrete host)
      | some path =>
        have paths := rulePathMatches_eq path.value ((rulePath.map PathPrefix.value).getD "/")
        have scored : (pathScore rulePath (some path)).isSome =
            pathPrefixMatches path.value ((rulePath.map PathPrefix.value).getD "/") := by
          cases rulePath with
          | none => simp [pathScore, pathPrefixMatches]
          | some rulePath =>
            cases matched : pathPrefixMatches path.value rulePath.value <;>
              simp [pathScore, matched]
        cases ranked : hostRank host ruleHost <;> cases found : hostScore ruleHost host <;>
          simp_all [rankMatch, routeMatchScore]
        split <;> simp_all

/-- For every request the frontline can build and every rule, the two matchers accept the same, so
the check of an answer accepts the matched identity exactly when the control plane's does. -/
theorem RouteRequestIdentity.acceptance_agrees (request : RouteRequestIdentity)
    (rule : RouteIdentity) :
    ((rankMatch request.identity rule).isSome ↔
        (routeMatchScore rule request.identity).isSome) ∧
      ∀ requestId actual id entry policy,
        validateSubscribeResponse requestId request.identity
            (.routeResolved actual id rule entry policy) = .ok () ↔
          actual = requestId ∧ (routeMatchScore rule request.identity).isSome := by
  have same := isSome_rankMatch request.concrete rule
  constructor
  · rw [same]
  · intro requestId actual id entry policy
    simp only [validateSubscribeResponse, ← same]
    by_cases echoed : actual = requestId
    · cases rankMatch request.identity rule <;> simp [echoed]
    · simp [echoed]

end Sleepypods.Frontline
