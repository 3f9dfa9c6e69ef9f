import Sleepypods.Library.Relay
import Sleepypods.Proxy.Stream
import Sleepypods.Store.Outbox
import Sleepypods.Store.Resolution

/-! A control-plane process: the dispatcher that reads the route change outbox and broadcasts it,
and the subscribe streams that resolve routes meanwhile, while any process commits. -/

set_option autoImplicit false

namespace Sleepypods.Proxy

open Library
open Store

inductive DispatchPhase where
  | waiting
  | loadedRevision (revision : Nat)
  | publishing (reset : Bool) (events : List RouteChange) (next : Nat)

structure Dispatcher where
  cursor : Option Nat
  failures : Nat
  phase : DispatchPhase
  returned : Bool
  /-- The revision it started from. -/
  origin : Nat

def dispatchBatch : Nat := 1024

def dispatchFailures : Nat := 5

namespace Dispatcher

def start : Dispatcher where
  cursor := none
  failures := 0
  phase := .waiting
  returned := false
  origin := 0

def fail (dispatcher : Dispatcher) : Dispatcher :=
  { dispatcher with
    failures := dispatcher.failures + 1
    returned := decide (dispatchFailures ≤ dispatcher.failures + 1) }

/-- One tick: ask the store, for its revision as long as there is no cursor, then for changes. With
the dispatcher comes what it sends. -/
def load (dispatcher : Dispatcher) (db : Database) (fails : Bool) :
    Option (Dispatcher × List RouteBindingChange) :=
  match dispatcher.phase, dispatcher.cursor with
  | .waiting, none =>
    if fails then some (dispatcher.fail, [])
    else
      some
        ({ dispatcher with
            failures := 0
            phase := .loadedRevision db.outbox.revision
            origin := db.outbox.revision }, [])
  | .waiting, some start =>
    match if fails then none else (routeChanges db start dispatchBatch).toOption with
    | none => some (dispatcher.fail, [.reset])
    | some batch =>
      some
        ({ dispatcher with
            failures := 0
            phase := .publishing batch.reset batch.events batch.cursor }, [])
  | _, _ => none

/-- Go on with what was loaded. A change that cannot be decoded ends the dispatcher. -/
def advance (dispatcher : Dispatcher) : Option (Dispatcher × List RouteBindingChange) :=
  match dispatcher.phase with
  | .waiting => none
  | .loadedRevision revision =>
    some ({ dispatcher with cursor := some revision, phase := .waiting }, [])
  | .publishing true events next =>
    some ({ dispatcher with phase := .publishing false events next }, [.reset])
  | .publishing false [] next =>
    some ({ dispatcher with cursor := some next, phase := .waiting }, [])
  | .publishing false (change :: rest) next =>
    match publishDurable change with
    | .ok event => some ({ dispatcher with phase := .publishing false rest next }, [event])
    | .error _ => some ({ dispatcher with returned := true }, [])

def progress (dispatcher : Dispatcher) : Nat :=
  match dispatcher.phase with
  | .waiting => dispatcher.cursor.getD 0
  | .loadedRevision revision => revision
  | .publishing true _ _ => dispatcher.cursor.getD 0
  | .publishing false events next => next - events.length

end Dispatcher

/-- A route request whose lookup has been answered by the store, and not yet by the stream. -/
structure Lookup where
  requestId : Nat
  identity : RouteIdentity
  resolution : Option RouteResolution

/-- An answer, and how long the outbox was when the store gave it. -/
structure Answer where
  subscription : ActiveRouteSubscription
  snapshot : Nat

structure Subscriber where
  producer : Producer
  lookup : Option Lookup
  /-- How much had been sent to the channel when the stream attached to it. -/
  attachedAt : Nat
  /-- Every positive answer the store gave the stream. -/
  answers : List Answer

namespace Subscriber

def attach (channel : Broadcast RouteBindingChange) : Subscriber where
  producer := Producer.start channel
  lookup := none
  attachedAt := channel.subscribe
  answers := []

/-- The answer of the store, unless the request is refused before it is asked. -/
def resolution (subscriber : Subscriber) (limits : StreamLimits) (target : MaterializationTarget)
    (db : Database) (identity : RouteIdentity) : Option RouteResolution :=
  if subscriber.producer.subscriptions.size < limits.subscriptionsPerStream ∧
      validIdentitySize identity = true then
    match identity.received with
    | .ok requestIdentity => (resolveRoute db ⟨requestIdentity, target⟩).toOption
    | .error _ => none
  else none

def dependency (identity : RouteIdentity) : Option RouteResolution → Option ActiveRouteSubscription
  | some (.resolved matchedIdentity entry) =>
    identity.received.toOption.map fun requestIdentity => .of requestIdentity matchedIdentity entry
  | _ => none

def resolve (subscriber : Subscriber) (limits : StreamLimits) (target : MaterializationTarget)
    (db : Database) (requestId : Nat) (identity : RouteIdentity) : Option Subscriber :=
  if subscriber.producer.ended.isSome ∨ subscriber.lookup.isSome then none
  else
    let resolution := subscriber.resolution limits target db identity
    some { subscriber with
      lookup := some ⟨requestId, identity, resolution⟩
      answers := subscriber.answers ++
        ((dependency identity resolution).map fun subscription =>
          ⟨subscription, db.outbox.history.length⟩).toList }

/-- The stream records the dependency and answers; a lookup that timed out is refused. -/
def answer (subscriber : Subscriber) (limits : StreamLimits) (timedOut sent : Bool) :
    Option Subscriber :=
  if subscriber.producer.ended.isSome then none
  else
    subscriber.lookup.map fun lookup =>
      { subscriber with
        lookup := none
        producer := subscriber.producer.handleRequest limits
          (if timedOut then none else lookup.resolution) sent
          (.subscribeRoute lookup.requestId lookup.identity) }

/-- Everything else the stream's loop selects; during a lookup it can only end. -/
def act (subscriber : Subscriber) (limits : StreamLimits) (channel : Broadcast RouteBindingChange)
    (action : ProducerAction) : Option Subscriber :=
  let selectable := match action with
    | .request (.subscribeRoute _ _) _ _ => false
    | .request (.unsubscribe _) _ _ => subscriber.lookup.isNone
    | .event _ _ => subscriber.lookup.isNone
    | .finish _ => true
  if selectable then
    (subscriber.producer.act limits channel action).map fun producer =>
      { subscriber with producer := producer }
  else none

end Subscriber

structure Process where
  db : Database
  dispatcher : Dispatcher
  channel : Broadcast RouteBindingChange
  subscribers : Table Nat Subscriber

inductive ProcessEvent where
  /-- A transaction of any process. -/
  | commit (session : Session) (op : Op)
  | load (fails : Bool)
  | advance
  | shutdown
  /-- `notify_instance_changed`, by the other services of the process. -/
  | notify (instanceId : InstanceId)
  | attach (stream : Nat)
  | resolve (stream : Nat) (requestId : Nat) (identity : RouteIdentity)
  | answer (stream : Nat) (timedOut sent : Bool)
  | act (stream : Nat) (action : ProducerAction)

namespace Process

def start : Process where
  db := .empty
  dispatcher := .start
  channel := .channel routeEventBuffer
  subscribers := .empty

def dispatched (process : Process) (result : Option (Dispatcher × List RouteBindingChange)) :
    Option Process :=
  if process.dispatcher.returned then none
  else
    result.map fun (dispatcher, events) =>
      { process with
        dispatcher := dispatcher
        channel := events.foldl Broadcast.send process.channel }

def updated (process : Process) (stream : Nat) (update : Subscriber → Option Subscriber) :
    Option Process :=
  (process.subscribers.find? stream).bind fun subscriber =>
    (update subscriber).map fun subscriber =>
      { process with subscribers := process.subscribers.insert stream subscriber }

def handle (limits : StreamLimits) (target : MaterializationTarget) (event : ProcessEvent)
    (process : Process) : Option Process :=
  match event with
  | .commit session op =>
    (Store.commit session op process.db).toOption.map fun db => { process with db := db }
  | .load fails => process.dispatched (process.dispatcher.load process.db fails)
  | .advance => process.dispatched process.dispatcher.advance
  | .shutdown => process.dispatched (some ({ process.dispatcher with returned := true }, []))
  | .notify instanceId =>
    some { process with channel := process.channel.send (.lifecycle instanceId) }
  | .attach stream =>
    if (process.subscribers.find? stream).isSome then none
    else
      some { process with
        subscribers := process.subscribers.insert stream (.attach process.channel) }
  | .resolve stream requestId identity =>
    process.updated stream fun subscriber =>
      subscriber.resolve limits target process.db requestId identity
  | .answer stream timedOut sent =>
    process.updated stream fun subscriber => subscriber.answer limits timedOut sent
  | .act stream action =>
    process.updated stream fun subscriber => subscriber.act limits process.channel action

end Process

def processSystem (limits : StreamLimits) (target : MaterializationTarget) :
    TransitionSystem Process ProcessEvent where
  initial process := process = .start
  step event process next := Process.handle limits target event process = some next

end Sleepypods.Proxy
