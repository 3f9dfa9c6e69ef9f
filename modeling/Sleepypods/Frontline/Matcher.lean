import Sleepypods.Api.Route

/-! The frontline's own match of a rule against a request, by which it checks answers. -/

set_option autoImplicit false

namespace Sleepypods.Frontline

structure MatchRank where
  hostKind : Nat
  hostSpecificity : Nat
  pathSpecificity : Nat
  deriving DecidableEq

def hostRank (request rule : RouteHost) : Option (Nat × Nat) :=
  match rule.kind with
  | .exact => if request.host = rule.host then some (2, rule.host.utf8ByteSize) else none
  | .wildcardSuffix =>
    let text := request.host.toList
    let suffix := rule.host.toList
    -- The byte before the suffix is a dot exactly when the character before it is.
    if request.host ≠ rule.host ∧ suffix.isSuffixOf text = true ∧
        (text.take (text.length - suffix.length)).getLast? = some '.' then
      some (1, rule.host.utf8ByteSize)
    else none

def rulePathMatches (requestPath rulePath : String) : Bool :=
  if rulePath = "/" ∨ requestPath = rulePath then true
  else if rulePath.toList.getLast? = some '/' then rulePath.toList.isPrefixOf requestPath.toList
  else
    rulePath.toList.isPrefixOf requestPath.toList &&
      decide ((requestPath.toList.drop rulePath.toList.length).head? = some '/')

def rankMatch (request rule : RouteIdentity) : Option MatchRank :=
  match request, rule with
  | .http requestHost requestPath, .http ruleHost rulePath =>
    (hostRank requestHost ruleHost).bind fun rank =>
      let requestPath := (requestPath.map PathPrefix.value).getD "/"
      let rulePath := (rulePath.map PathPrefix.value).getD "/"
      if rulePathMatches requestPath rulePath then
        some
          { hostKind := rank.1
            hostSpecificity := rank.2
            pathSpecificity := rulePath.utf8ByteSize }
      else none
  | .sni requestHost, .sni ruleHost =>
    (hostRank requestHost ruleHost).map fun rank =>
      { hostKind := rank.1, hostSpecificity := rank.2, pathSpecificity := 0 }
  | _, _ => none

end Sleepypods.Frontline
