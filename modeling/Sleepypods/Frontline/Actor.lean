import Sleepypods.Frontline.Matcher
import Sleepypods.Frontline.Observations
import Sleepypods.Frontline.Subscription
import Sleepypods.Frontline.Wake
import Sleepypods.Library.Transition

/-! The route actor: one loop that owns the cache, drains stream events, answers route commands
and joins the operations it has in flight. -/

set_option autoImplicit false

namespace Sleepypods.Frontline

open Library

def maxRouteFlights : Nat := 64

def maxReregistrationFlights : Nat := maxRouteFlights / 2

inductive RouteOutcome where
  | ready (backend : ReadyBackend)
  | miss (entry : NegativeCacheEntry)
  | waiting (wait : WakeWait)
  | waking (instanceId : InstanceId) (generation : Nat)
  | unavailable (unavailable : WakeUnavailable)
  | wakeFailed (instanceId : InstanceId) (generation : Nat) (reason : String)
  | wakeUnavailable (instanceId : InstanceId) (generation : Nat) (reason : String)
  | generationConflict (instanceId : InstanceId) (expectedGeneration actualGeneration : Nat)
  | rejectedWakeObservation (stale : StaleWakeObservation)
  deriving DecidableEq

inductive ResponseMismatch where
  | mismatchedRequestId (expected actual : RouteRequestId)
  | unexpectedRouteUpdated
  | unexpectedRouteInvalidated
  | mismatchedResolvedIdentity (requested matchedIdentity : RouteIdentity)
  | mismatchedMissIdentity (expected actual : RouteIdentity)
  deriving DecidableEq

/-- Errors of an operation in flight: the call failed, or its deadline passed. -/
inductive CallError where
  | failed
  | deadline
  deriving DecidableEq

inductive RouteError where
  | subscribe (error : CallError)
  | protocol (mismatch : ResponseMismatch)
  | wake (error : CallError)
  | saturated
  | invalidatedDuringResolution
  deriving DecidableEq

abbrev RouteResult := Except RouteError RouteOutcome

def wakeOutcome : WakeResponseDisposition → RouteOutcome
  | .ready backend => .ready backend
  | .wakeStarted id generation => .waking id generation
  | .stillWaking id generation => .waking id generation
  | .failed id generation reason => .wakeFailed id generation reason
  | .unavailable id generation reason => .wakeUnavailable id generation reason
  | .generationConflict id expected actual => .generationConflict id expected actual
  | .rejected stale => .rejectedWakeObservation stale

def validateSubscribeResponse (requestId : RouteRequestId) (identity : RouteIdentity) :
    SubscribeControlPlaneOutput → Except ResponseMismatch Unit
  | .routeResolved actual _ matchedIdentity _ _ =>
    if actual ≠ requestId then .error (.mismatchedRequestId requestId actual)
    else if (rankMatch identity matchedIdentity).isNone then
      .error (.mismatchedResolvedIdentity identity matchedIdentity)
    else .ok ()
  | .routeMiss actual requestIdentity _ =>
    if actual ≠ requestId then .error (.mismatchedRequestId requestId actual)
    else if requestIdentity ≠ identity then
      .error (.mismatchedMissIdentity identity requestIdentity)
    else .ok ()
  | .routeUpdated .. => .error .unexpectedRouteUpdated
  | .routeInvalidated .. => .error .unexpectedRouteInvalidated

def resolvedSubscriptionId : SubscribeControlPlaneOutput → Option SubscriptionId
  | .routeResolved _ id _ _ _ => some id
  | _ => none

inductive PendingRoute where
  | reregister (identity : RouteIdentity) (requestId : RouteRequestId)
      (observation : RouteObservation)
  | subscribe (identity : RouteIdentity) (requestId : RouteRequestId)
      (observation : RouteObservation)
  | wake (entry : PositiveCacheEntry) (request : WakeInstanceRequest)
      (observation : RouteObservation)
  deriving DecidableEq

inductive ClientCall where
  | unsubscribe (id : SubscriptionId)
  | reset
  deriving DecidableEq

structure Cleanup where
  call : ClientCall
  outcome : Option Bool
  deriving DecidableEq

structure Actor where
  cache : RouteCache
  observations : RouteObservations
  tracker : WakeTracker
  reregister : List RouteIdentity
  nextRequest : Nat
  tasks : List PendingRoute
  unsubscribes : List Cleanup
  /-- Every call made to the transport so far, in order. -/
  calls : List ClientCall

namespace Actor

def start (capacity : Nat) : Actor where
  cache := .new capacity
  observations := .initial
  tracker := .empty
  reregister := []
  nextRequest := 0
  tasks := []
  unsubscribes := []
  calls := []

/-- Events were lost, so cached authority goes with the session. -/
def resetRouteSession (actor : Actor) : Actor :=
  { actor with
    observations := actor.observations.reset
    cache := actor.cache.clear
    unsubscribes := [{ call := .reset, outcome := none }]
    calls := actor.calls ++ [.reset] }

def deferUnsubscribes (actor : Actor) (ids : List SubscriptionId) : Actor :=
  let failed := actor.unsubscribes.any fun cleanup => decide (cleanup.outcome = some false)
  let running := actor.unsubscribes.filter fun cleanup => cleanup.outcome.isNone
  let actor := { actor with unsubscribes := running }
  if failed = true ∨ maxRouteFlights < ids.length + running.length then actor.resetRouteSession
  else
    { actor with
      unsubscribes := running ++ ids.map fun id => { call := .unsubscribe id, outcome := none }
      calls := actor.calls ++ ids.map .unsubscribe }

def correlated : SubscribeControlPlaneOutput → Option SubscriptionId
  | .routeUpdated id _ _ _ => some id
  | .routeInvalidated id _ => some id
  | _ => none

/-- The observations after a message; none when the history is full. -/
def recorded (actor : Actor) (message : SubscribeControlPlaneOutput) : Option RouteObservations :=
  match correlated message with
  | some id => actor.observations.record id
  | none => some actor.observations

def applyEvent (actor : Actor) (now : Nat) :
    RouteSubscriptionEvent → Option (Actor × List SubscriptionId)
  | .streamEnded =>
    let (cache, rotated) := actor.cache.rotateSession
    some
      ({ actor with
          observations := actor.observations.rotate
          cache := cache
          reregister := actor.reregister ++ rotated }, [])
  | .streamClosed =>
    some ({ actor with observations := actor.observations.reset, cache := actor.cache.clear }, [])
  | .update message =>
    (actor.recorded message).map fun observations =>
      let (cache, released) := actor.cache.applyControlPlaneMessage message now
      ({ actor with observations := observations, cache := cache }, released)

/-- A batch up to the event that overflows the history, if there is one. -/
def applyEvents (now : Nat) :
    List RouteSubscriptionEvent → Actor → Actor × List SubscriptionId × Bool
  | [], actor => (actor, [], false)
  | event :: rest, actor =>
    match actor.applyEvent now event with
    | none => (actor, [], true)
    | some (next, released) =>
      let (final, later, overflow) := applyEvents now rest next
      (final, released ++ later, overflow)

/-- A failed drain is handled like a batch that holds one `streamClosed`. -/
def drainEvents (actor : Actor) (events : List RouteSubscriptionEvent) (now : Nat) : Actor :=
  let (actor, removed, overflow) := applyEvents now events actor
  if overflow then actor.resetRouteSession else actor.deferUnsubscribes removed

def dispatchEntry (actor : Actor) (entry : PositiveCacheEntry) : Actor × Option RouteResult :=
  if entry.entry.instanceState = .waking then
    (actor,
      some (.ok (.waiting
        { instanceId := entry.entry.instanceId
          generation := entry.entry.instanceGeneration
          reason := .alreadyWaking })))
  else
    match routeWakeDecision entry.entry with
    | .ready backend => (actor, some (.ok (.ready backend)))
    | .unavailable unavailable => (actor, some (.ok (.unavailable unavailable)))
    | .wake request _ =>
      match actor.tracker.admitWake request with
      | (tracker, .wait wait) =>
        ({ actor with tracker := tracker }, some (.ok (.waiting wait)))
      | (tracker, .start request) =>
        let (observations, observation) := actor.observations.begin
        ({ actor with
            tracker := tracker
            observations := observations
            tasks := actor.tasks ++ [.wake entry request observation] }, none)

def spawnSubscribe (actor : Actor) (identity : RouteIdentity) : Actor :=
  let (observations, observation) := actor.observations.begin
  let requestId := actor.nextRequest + 1
  { actor with
    nextRequest := requestId
    observations := observations
    tasks := actor.tasks ++ [.subscribe identity requestId observation] }

def dispatchLookup (actor : Actor) (identity : RouteIdentity) :
    CacheLookup → Actor × Option RouteResult
  | .positive entry => actor.dispatchEntry entry
  | .negative entry => (actor, some (.ok (.miss entry)))
  | .expired => (actor.spawnSubscribe identity, none)
  | .absent => (actor.spawnSubscribe identity, none)

def handleCommand (actor : Actor) (identity : RouteIdentity) (now : Nat) (refresh : Bool) :
    Actor × Option RouteResult :=
  if maxRouteFlights ≤ actor.tasks.length then (actor, some (.error .saturated))
  else if refresh then
    let (cache, released) := actor.cache.invalidateRequest identity
    let actor := ({ actor with cache := cache }).deferUnsubscribes released.toList
    actor.dispatchLookup identity .absent
  else actor.dispatchLookup identity (actor.cache.lookup identity now)

def expire (actor : Actor) (now : Nat) : Actor :=
  if actor.cache.hasExpired now then
    let (cache, released) :=
      actor.cache.expireLimited now (maxRouteFlights - actor.unsubscribes.length)
    ({ actor with cache := cache }).deferUnsubscribes released
  else actor.deferUnsubscribes []

def reregisterNext (actor : Actor) (now : Nat) : Option Actor :=
  if actor.tasks.length < maxReregistrationFlights then
    match actor.reregister with
    | [] => none
    | identity :: rest =>
      let actor := { actor with reregister := rest }
      if actor.cache.needsReregistration identity now then
        let (observations, observation) := actor.observations.begin
        let requestId := actor.nextRequest + 1
        some
          { actor with
            nextRequest := requestId
            observations := observations
            tasks := actor.tasks ++ [.reregister identity requestId observation] }
      else some actor
  else none

def reclaimCrossedReply (actor : Actor) (id : Option SubscriptionId)
    (sameStream crossedLossy : Bool) : Actor :=
  if sameStream then actor.deferUnsubscribes id.toList
  else if crossedLossy && id.isSome then actor.resetRouteSession
  else actor

/-- The checks both kinds of subscribe reply go through: the actor after them, whether the
observation still holds, and the first mismatch of the reply. -/
def checkReply (actor : Actor) (identity : RouteIdentity) (requestId : RouteRequestId)
    (observation : RouteObservation) (result : Except CallError SubscribeControlPlaneOutput) :
    Actor × Bool × Option ResponseMismatch :=
  let id := result.toOption.bind resolvedSubscriptionId
  let (observations, valid) := actor.observations.finish observation id
  let mismatch :=
    match result with
    | .ok message =>
      match validateSubscribeResponse requestId identity message with
      | .error mismatch => some mismatch
      | .ok _ => none
    | .error _ => none
  ({ actor with observations := observations }, valid, mismatch)

def rejectReply (actor : Actor) (observation : RouteObservation)
    (result : Except CallError SubscribeControlPlaneOutput) : Actor :=
  actor.reclaimCrossedReply (result.toOption.bind resolvedSubscriptionId)
    (decide (observation.streamEpoch = actor.observations.streamEpoch))
    (actor.observations.crossedLossy observation.streamEpoch)

def installReply (actor : Actor) (identity : RouteIdentity) (message : SubscribeControlPlaneOutput)
    (now : Nat) : Actor :=
  let (cache, removed) := actor.cache.applyResolvedResponse identity message now
  ({ actor with cache := cache }).deferUnsubscribes removed

def completeReregister (actor : Actor) (identity : RouteIdentity) (requestId : RouteRequestId)
    (observation : RouteObservation) (result : Except CallError SubscribeControlPlaneOutput)
    (now : Nat) : Actor :=
  let (actor, valid, mismatch) := actor.checkReply identity requestId observation result
  if valid = false ∨ mismatch.isSome then actor.rejectReply observation result
  else
    match result with
    | .ok message => actor.installReply identity message now
    | .error _ => actor

/-- `closed` says that the caller has gone. -/
def completeSubscribe (actor : Actor) (identity : RouteIdentity) (requestId : RouteRequestId)
    (observation : RouteObservation) (result : Except CallError SubscribeControlPlaneOutput)
    (closed : Bool) (now later : Nat) : Actor × Option RouteResult :=
  let (actor, valid, mismatch) := actor.checkReply identity requestId observation result
  if valid = false ∨ closed = true ∨ mismatch.isSome then
    (actor.rejectReply observation result,
      some (.error
        (match mismatch with
        | some mismatch => .protocol mismatch
        | none => .invalidatedDuringResolution)))
  else
    match result with
    | .error error => (actor, some (.error (.subscribe error)))
    | .ok message =>
      let actor := actor.installReply identity message now
      match actor.cache.lookup identity later with
      | .positive entry => actor.dispatchEntry entry
      | .negative entry => (actor, some (.ok (.miss entry)))
      | _ => (actor, some (.error .invalidatedDuringResolution))

def completeWake (actor : Actor) (entry : PositiveCacheEntry) (request : WakeInstanceRequest)
    (observation : RouteObservation) (result : Except CallError WakeInstanceResponse)
    (now : Nat) : Actor × RouteResult :=
  let tracker := actor.tracker.complete request.instanceId request.expectedGeneration
  let (observations, valid) := actor.observations.finish observation entry.subscriptionId
  let actor := { actor with tracker := tracker, observations := observations }
  if valid = false then (actor, .error .invalidatedDuringResolution)
  else
    match result with
    | .error error => (actor, .error (.wake error))
    | .ok reply =>
      let disposition := validateWakeResponse entry.entry reply
      match disposition with
      | .ready backend =>
        let ready := readyRouteEntry entry.entry backend
        ({ actor with cache := (actor.cache.applyReadyWake entry ready now).1 },
          .ok (wakeOutcome disposition))
      | _ => (actor, .ok (wakeOutcome disposition))

/-- What one turn of the loop does. Times are what the clock shows then; completions carry the
events that are drained right before them. -/
inductive ActorEvent where
  | drain (events : List RouteSubscriptionEvent) (now : Nat)
  | expire (now : Nat)
  | reregister (now : Nat)
  | joinReregister (identity : RouteIdentity) (requestId : RouteRequestId)
      (observation : RouteObservation) (result : Except CallError SubscribeControlPlaneOutput)
      (events : List RouteSubscriptionEvent) (now : Nat)
  | joinSubscribe (identity : RouteIdentity) (requestId : RouteRequestId)
      (observation : RouteObservation) (result : Except CallError SubscribeControlPlaneOutput)
      (closed : Bool) (events : List RouteSubscriptionEvent) (now later : Nat)
  | joinWake (entry : PositiveCacheEntry) (request : WakeInstanceRequest)
      (observation : RouteObservation) (result : Except CallError WakeInstanceResponse)
      (events : List RouteSubscriptionEvent) (now : Nat)
  | command (identity : RouteIdentity) (now : Nat) (refresh : Bool)
  | cleanupFinished (index : Nat) (delivered : Bool)

/-- The actor without a task it joined, after the drain that follows a join. -/
def joined (actor : Actor) (task : PendingRoute) (events : List RouteSubscriptionEvent)
    (now : Nat) : Option Actor :=
  if task ∈ actor.tasks then
    some (({ actor with tasks := actor.tasks.erase task }).drainEvents events now)
  else none

def handle (actor : Actor) : ActorEvent → Option Actor
  | .drain events now => some (actor.drainEvents events now)
  | .expire now => some (actor.expire now)
  | .reregister now => actor.reregisterNext now
  | .joinReregister identity requestId observation result events now =>
    (actor.joined (.reregister identity requestId observation) events now).map fun actor =>
      actor.completeReregister identity requestId observation result now
  | .joinSubscribe identity requestId observation result closed events now later =>
    (actor.joined (.subscribe identity requestId observation) events now).map fun actor =>
      (actor.completeSubscribe identity requestId observation result closed now later).1
  | .joinWake entry request observation result events now =>
    (actor.joined (.wake entry request observation) events now).map fun actor =>
      (actor.completeWake entry request observation result now).1
  | .command identity now refresh => some (actor.handleCommand identity now refresh).1
  | .cleanupFinished index delivered =>
    some
      { actor with
        unsubscribes := actor.unsubscribes.modify index fun cleanup =>
          { cleanup with outcome := some delivered } }

end Actor

def actorSystem (capacity : Nat) : TransitionSystem Actor Actor.ActorEvent where
  initial actor := actor = .start capacity
  step event actor next := actor.handle event = some next

end Sleepypods.Frontline
