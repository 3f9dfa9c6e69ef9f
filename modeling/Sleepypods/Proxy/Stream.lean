import Sleepypods.Library.Broadcast
import Sleepypods.Library.Table
import Sleepypods.Proxy.RouteEvents

/-! One subscribe stream of the control plane: it answers route requests, remembers the answers it
gave, and turns broadcast events into invalidations until it ends. -/

set_option autoImplicit false

namespace Sleepypods.Proxy

open Library

inductive ProxySubscribeRequest where
  | subscribeRoute (requestId : Nat) (identity : RouteIdentity)
  | unsubscribe (subscriptionId : NonEmptyString)
  deriving DecidableEq

inductive ProxyRouteInvalidationReason where
  | routeRemoved
  | routeChanged
  deriving DecidableEq

inductive ProxySubscribeResponse where
  | routeResolved (requestId : Nat) (subscriptionId : NonEmptyString)
      (matchedIdentity : RouteIdentity) (entry : RouteEntry) (ttl : Nat)
  | routeMiss (requestId : Nat) (requestIdentity : RouteIdentity) (ttl : Nat)
  | routeInvalidated (subscriptionId : NonEmptyString) (reason : ProxyRouteInvalidationReason)
  deriving DecidableEq

/-- An item of the response stream: a message, or the status that fails it. -/
inductive StreamItem where
  | response (response : ProxySubscribeResponse)
  | status
  deriving DecidableEq

def routeChangeReason : RouteBindingChange → ProxyRouteInvalidationReason
  | .route _ true _ _ => .routeRemoved
  | _ => .routeChanged

/-! ### Streams -/

inductive StreamEnd where
  | cancelled
  | responsesClosed
  | expired
  | requestsClosed
  | refused
  | unanswered
  | reset
  | lagged
  | undelivered
  deriving DecidableEq

/-- Events for live subscriptions of the stream may have been dropped. -/
def StreamEnd.lossy : StreamEnd → Bool
  | .reset => true
  | .lagged => true
  | .undelivered => true
  | _ => false

/-- Ends that depend on nothing the stream received. -/
def StreamEnd.external : StreamEnd → Bool
  | .cancelled => true
  | .responsesClosed => true
  | .expired => true
  | .requestsClosed => true
  | _ => false

structure StreamLimits where
  subscriptionsPerStream : Nat
  positiveRouteCacheTtl : Nat

structure Producer where
  subscriptions : Table NonEmptyString ActiveRouteSubscription
  nextSubscriptionNumber : Nat
  /-- Where the stream stands in the broadcast channel. -/
  position : Nat
  /-- Items sent and not yet read by the frontline. -/
  responses : List StreamItem
  ended : Option StreamEnd

def nextSubscriptionId (number : Nat) : NonEmptyString :=
  ⟨"sub:" ++ toString number, by simp [isBlank, isWhiteSpace, String.toList_append]⟩

def maxHostBytes : Nat := 253

def maxPathBytes : Nat := 4096

def validIdentitySize (identity : RouteIdentity) : Bool :=
  decide (identity.host.host.utf8ByteSize ≤ maxHostBytes) &&
    identity.pathText.all fun path => decide (path.utf8ByteSize ≤ maxPathBytes)

namespace Producer

/-- The receiver is attached before anything is resolved. -/
def start (channel : Broadcast RouteBindingChange) : Producer where
  subscriptions := .empty
  nextSubscriptionNumber := 0
  position := channel.subscribe
  responses := []
  ended := none

def finish (producer : Producer) (reason : StreamEnd) : Producer :=
  { producer with ended := some reason }

def send (producer : Producer) (item : StreamItem) : Producer :=
  { producer with responses := producer.responses ++ [item] }

/-- `subscribe_route`, given what the store answers: the dependency is recorded with the answer. -/
def subscribeRoute (producer : Producer) (limits : StreamLimits) (requestId : Nat)
    (identity : RouteIdentity) (resolution : Option RouteResolution) :
    Option (Producer × ProxySubscribeResponse) :=
  if validIdentitySize identity then
    match identity.received, resolution with
    | .ok requestIdentity, some (.resolved matchedIdentity entry) =>
      let number := producer.nextSubscriptionNumber + 1
      let id := nextSubscriptionId number
      some
        ({ producer with
            nextSubscriptionNumber := number
            subscriptions := producer.subscriptions.insert id
              (.of requestIdentity matchedIdentity entry) },
          .routeResolved requestId id matchedIdentity entry limits.positiveRouteCacheTtl)
    | .ok requestIdentity, some (.miss ttl) =>
      some (producer, .routeMiss requestId requestIdentity ttl)
    | _, _ => none
  else none

/-- `invalidations_for_route_event`: forget what an event invalidates, and say so. -/
def invalidationsForRouteEvent (producer : Producer) (change : RouteBindingChange) :
    Producer × List ProxySubscribeResponse :=
  ({ producer with
      subscriptions := producer.subscriptions.filterRows fun _ dependency =>
        !subscriptionInvalidatedByEvent dependency change },
    (producer.subscriptions.filterRows fun _ dependency =>
      subscriptionInvalidatedByEvent dependency change).entries.map fun entry =>
        .routeInvalidated entry.1 (routeChangeReason change))

/-- One request. `sent` says whether the response buffer took the answer. -/
def handleRequest (producer : Producer) (limits : StreamLimits)
    (resolution : Option RouteResolution) (sent : Bool) : ProxySubscribeRequest → Producer
  | .unsubscribe id => { producer with subscriptions := producer.subscriptions.erase id }
  | .subscribeRoute requestId identity =>
    let refused := (if sent then producer.send .status else producer).finish .refused
    if limits.subscriptionsPerStream ≤ producer.subscriptions.size then refused
    else
      match producer.subscribeRoute limits requestId identity resolution with
      | none => refused
      | some (producer, response) =>
        if sent then producer.send (.response response) else producer.finish .unanswered

/-- One event of the channel; `delivered` of its invalidations fit the response buffer, and
`interrupted` says why no more did. None when there is no event. -/
def handleEvent (producer : Producer) (channel : Broadcast RouteBindingChange) (delivered : Nat)
    (interrupted : StreamEnd) : Option Producer :=
  match channel.recv producer.position with
  | (.empty, _) => none
  | (.lagged, position) => some (({ producer with position := position }).finish .lagged)
  | (.event .reset, position) => some (({ producer with position := position }).finish .reset)
  | (.event change, position) =>
    let (producer, responses) :=
      ({ producer with position := position }).invalidationsForRouteEvent change
    let sent := { producer with
      responses := producer.responses ++ (responses.take delivered).map .response }
    some (if delivered < responses.length then sent.finish interrupted else sent)

end Producer

inductive ProducerAction where
  | request (request : ProxySubscribeRequest) (resolution : Option RouteResolution) (sent : Bool)
  | event (delivered : Nat) (interrupted : StreamEnd)
  | finish (reason : StreamEnd)
  deriving DecidableEq

/-- Sending stops for want of space or for shutdown; the other external ends are selected. -/
def Producer.act (producer : Producer) (limits : StreamLimits)
    (channel : Broadcast RouteBindingChange) : ProducerAction → Option Producer
  | .request request resolution sent =>
    if producer.ended.isSome then none
    else some (producer.handleRequest limits resolution sent request)
  | .event delivered interrupted =>
    if producer.ended.isSome ∨ ¬ (interrupted = .undelivered ∨ interrupted = .cancelled) then none
    else producer.handleEvent channel delivered interrupted
  | .finish reason =>
    if producer.ended.isSome ∨ reason.external = false then none
    else some (producer.finish reason)

end Sleepypods.Proxy
