import Sleepypods.Frontline.Cache

/-! Messages of a route subscription stream and what they do to the cache. -/

set_option autoImplicit false

namespace Sleepypods.Frontline

open Library

/-- Request ids are rendered from a counter. -/
abbrev RouteRequestId := Nat

inductive InvalidationReason where
  | routeRemoved
  | routeChanged
  | instanceChanged
  | backendChanged
  | streamClosed
  deriving DecidableEq

inductive SubscribeControlPlaneOutput where
  | routeResolved (requestId : RouteRequestId) (subscriptionId : SubscriptionId)
      (matchedIdentity : RouteIdentity) (entry : RouteEntry) (ttl : Nat)
  | routeMiss (requestId : RouteRequestId) (requestIdentity : RouteIdentity) (ttl : Nat)
  | routeUpdated (subscriptionId : SubscriptionId) (matchedIdentity : RouteIdentity)
      (entry : RouteEntry) (ttl : Nat)
  | routeInvalidated (subscriptionId : SubscriptionId) (reason : InvalidationReason)
  deriving DecidableEq

inductive RouteSubscriptionEvent where
  | update (message : SubscribeControlPlaneOutput)
  | streamEnded
  | streamClosed
  deriving DecidableEq

inductive ApplyUpdateOutcome where
  | replaced
  | missingSubscription
  | staleInstanceGeneration (current incoming : Nat)
  | staleBackendGeneration (current incoming : Nat)
  deriving DecidableEq

def staleUpdateOutcome : StaleRouteEntry → ApplyUpdateOutcome
  | .instanceGeneration current incoming => .staleInstanceGeneration current incoming
  | .backendGeneration current incoming => .staleBackendGeneration current incoming

namespace RouteCache

def applyUpdate (cache : RouteCache) (id : SubscriptionId) (matchedIdentity : RouteIdentity)
    (entry : RouteEntry) (ttl now : Nat) : RouteCache × ApplyUpdateOutcome :=
  match cache.positiveBySubscription id with
  | none => (cache, .missingSubscription)
  | some current =>
    match staleRouteEntry current.entry entry with
    | some stale => (cache, staleUpdateOutcome stale)
    | none => (cache.replaceSubscription id matchedIdentity entry ttl now, .replaced)

def applyControlPlaneMessage (cache : RouteCache) (message : SubscribeControlPlaneOutput)
    (now : Nat) : RouteCache × List SubscriptionId :=
  match message with
  | .routeResolved _ id matchedIdentity entry ttl =>
    cache.insertPositive id matchedIdentity entry ttl now
  | .routeMiss _ requestIdentity ttl => cache.insertNegative requestIdentity ttl now
  | .routeUpdated id matchedIdentity entry ttl =>
    ((cache.applyUpdate id matchedIdentity entry ttl now).1, [])
  | .routeInvalidated id _ => (cache.invalidateSubscription id, [])

/-- A reply is installed under the identity that was asked for. -/
def applyResolvedResponse (cache : RouteCache) (requestIdentity : RouteIdentity)
    (message : SubscribeControlPlaneOutput) (now : Nat) : RouteCache × List SubscriptionId :=
  match message with
  | .routeResolved _ id matchedIdentity entry ttl =>
    cache.insertResolved requestIdentity (.new id matchedIdentity entry ttl now) now
  | other => cache.applyControlPlaneMessage other now

/-- Install the backend of a finished wake on the answer cached for the identity the wake was
issued for. Of the answer now cached there, only the order of generations is checked. -/
def applyReadyWake (cache : RouteCache) (cached : PositiveCacheEntry) (ready : RouteEntry)
    (now : Nat) : RouteCache × ApplyUpdateOutcome :=
  match cache.positive cached.requestIdentity with
  | none => (cache, .missingSubscription)
  | some current =>
    match staleRouteEntry current.entry ready with
    | some stale => (cache, staleUpdateOutcome stale)
    | none =>
      (cache.refreshPositive cached.requestIdentity cached.matchedIdentity ready
        (cached.expiresAt - now) now, .replaced)

end RouteCache

end Sleepypods.Frontline
