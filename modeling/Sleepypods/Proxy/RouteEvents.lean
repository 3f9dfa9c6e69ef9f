import Sleepypods.Api.Route
import Sleepypods.Store.Rows

/-! The events a control plane broadcasts to its subscribe streams, how they are decoded from the
outbox, and which recorded answers they invalidate. -/

set_option autoImplicit false

namespace Sleepypods.Proxy

inductive RouteBindingChange where
  | route (routeBindingId : RouteBindingId) (removed : Bool) (identity : Option RouteIdentity)
      (protocol : Option ProtocolRoute)
  | lifecycle (instanceId : InstanceId)
  | reset
  deriving DecidableEq

def routeEventBuffer : Nat := 1024

inductive PublishError where
  | host (error : InvalidRouteHost)
  | path
  deriving DecidableEq

/-- `publish_durable`: the host goes through its constructor once more. -/
def publishDurable : Store.RouteChange → Except PublishError RouteBindingChange
  | .lifecycle instanceId => .ok (.lifecycle instanceId)
  | .route true id _ _ _ _ _ _ => .ok (.route id true none none)
  | .route false id _ identityKind hostKind host pathPrefix _ =>
    match RouteHost.new hostKind host with
    | .error error => .error (.host error)
    | .ok host =>
      match identityKind with
      | .http =>
        match pathPrefix with
        | none => .ok (.route id false (some (.http host none)) (some .http))
        | some path =>
          match PathPrefix.new path with
          | none => .error .path
          | some path => .ok (.route id false (some (.http host (some path))) (some .http))
      | .sni => .ok (.route id false (some (.sni host)) (some .tlsSni))

structure ActiveRouteSubscription where
  routeBindingId : RouteBindingId
  instanceId : InstanceId
  requestIdentity : RouteIdentity
  matchedIdentity : RouteIdentity
  protocol : ProtocolRoute
  deriving DecidableEq

def protocolForRouteIdentity : RouteIdentity → ProtocolRoute
  | .http _ _ => .http
  | .sni _ => .tlsSni

def ActiveRouteSubscription.of (requestIdentity matchedIdentity : RouteIdentity)
    (entry : RouteEntry) : ActiveRouteSubscription where
  routeBindingId := entry.routeBindingId
  instanceId := entry.instanceId
  requestIdentity := requestIdentity
  matchedIdentity := matchedIdentity
  protocol := protocolForRouteIdentity matchedIdentity

def subscriptionInvalidatedByEvent (subscription : ActiveRouteSubscription) :
    RouteBindingChange → Bool
  | .reset => true
  | .lifecycle id => decide (subscription.instanceId = id)
  | .route id removed identity protocol =>
    if subscription.routeBindingId = id then true
    else if removed then false
    else
      match identity, protocol with
      | some identity, some protocol =>
        if subscription.protocol ≠ protocol then false
        else
          match routeMatchScore identity subscription.requestIdentity with
          | none => false
          | some newScore =>
            match routeMatchScore subscription.matchedIdentity
                subscription.requestIdentity with
            | none => true
            | some cachedScore => decide (cachedScore < newScore)
      | _, _ => false

end Sleepypods.Proxy
