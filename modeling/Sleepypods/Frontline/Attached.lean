import Sleepypods.Frontline.Moves
import Sleepypods.Frontline.Transport

/-! A frontline attached to a control plane: the broadcast channel, the subscribe streams, the
transport and the route actor, each taking its steps in any order. -/

set_option autoImplicit false

namespace Sleepypods.Frontline

open Library
open Proxy (Producer ProducerAction RouteBindingChange StreamLimits)

def Actor.ActorEvent.joins (event : Actor.ActorEvent) :
    Option (RouteRequestId × Except CallError SubscribeControlPlaneOutput) :=
  event.reply.bind fun reply => reply.1.request.map fun request => (request.1, reply.2)

/-- Cleanups finish when the transport is done with them. -/
def Actor.ActorEvent.ofLoop : Actor.ActorEvent → Bool
  | .cleanupFinished _ _ => false
  | _ => true

structure Attached where
  channel : Broadcast RouteBindingChange
  streams : Table Nat Producer
  transport : Transport
  actor : Actor
  /-- Sessions whose end or failure was drained; no step reads this or what follows. -/
  drained : List Nat
  /-- The session that granted the answer cached for an identity. -/
  origins : RouteIdentity → Option Nat

namespace Attached

def start (capacity : Nat) : Attached where
  channel := .channel Proxy.routeEventBuffer
  streams := .empty
  transport := .initial
  actor := .start capacity
  drained := []
  origins := fun _ => none

def publish (attached : Attached) (change : RouteBindingChange) : Attached :=
  { attached with channel := attached.channel.send change }

def withStream (attached : Attached) (id : Nat) (producer : Producer) : Attached :=
  { attached with streams := attached.streams.insert id producer }

def takeRequest (attached : Attached) (id : Nat) : ProducerAction → Option Attached
  | .request request _ _ =>
    (attached.transport.sessions.find? id).bind fun session =>
      if session.requests.head? = some request then
        some { attached with
          transport := attached.transport.modifySession id fun session =>
            { session with requests := session.requests.tail } }
      else none
  | _ => some attached

def produce (attached : Attached) (limits : StreamLimits) (id : Nat) (action : ProducerAction) :
    Option Attached :=
  (attached.takeRequest id action).bind fun attached =>
    (attached.streams.find? id).bind fun producer =>
      (producer.act limits attached.channel action).map (attached.withStream id)

def inFlight (attached : Attached) (requestId : RouteRequestId) (identity : RouteIdentity) : Bool :=
  attached.actor.tasks.any fun task => decide (task.request = some (requestId, identity))

/-- A call gets to the transport; a new session opens a new stream. -/
def subscribe (attached : Attached) (requestId : RouteRequestId) (identity : RouteIdentity)
    (connected delivered : Bool) : Option Attached :=
  if attached.inFlight requestId identity ∧ attached.transport.calls.find? requestId = none then
    let transport := attached.transport.subscribeRoute requestId identity connected delivered
    some
      { attached with
        transport := transport
        streams :=
          if transport.nextSession = attached.transport.nextSession then attached.streams
          else attached.streams.insert attached.transport.nextSession (.start attached.channel) }
  else none

def timeout (attached : Attached) (requestId : RouteRequestId) (identity : RouteIdentity) :
    Option Attached :=
  if attached.inFlight requestId identity ∧
      (attached.transport.calls.find? requestId).any RouteCall.isDone = false then
    some { attached with transport := attached.transport.timeoutCall requestId }
  else none

/-- Read the next item of a stream; `room` says whether a request fits the request buffer. -/
def read (attached : Attached) (id : Nat) (room : Bool) : Option Attached :=
  if attached.transport.isReading id then
    (attached.streams.find? id).bind fun producer =>
      match producer.responses with
      | .response response :: rest =>
        let attached := attached.withStream id { producer with responses := rest }
        match receiveResponse id response with
        | .error _ =>
          some { attached with transport := attached.transport.fail id .protocol }
        | .ok message =>
          some { attached with transport := attached.transport.readMessage id message room }
      | .status :: rest =>
        let attached := attached.withStream id { producer with responses := rest }
        some { attached with transport := attached.transport.fail id .status }
      | [] =>
        if producer.ended.isSome then
          some { attached with transport := attached.transport.fail id .responseStreamEnded }
        else none
  else none

def disconnect (attached : Attached) (id : Nat) : Option Attached :=
  if attached.transport.isReading id then
    some { attached with transport := attached.transport.fail id .status }
  else none

def leave (attached : Attached) (id : Nat) : Option Attached :=
  match (attached.transport.sessions.find? id).map TransportSession.reader with
  | some (.leaving (action :: rest)) =>
    some { attached with transport := (attached.transport.leave id rest).readerAction id action }
  | _ => none

/-- A dropped session is torn down, whatever its reader was doing. -/
def abort (attached : Attached) (id : Nat) : Option Attached :=
  if attached.transport.current ≠ some id then
    let transport := attached.transport.failPending id
    some { attached with
      transport := { transport with sessions := transport.sessions.erase id } }
  else none

/-! ### The actor -/

/-- The resets a turn asked for take effect on the transport at once. -/
def requestResets (transport : Transport) (calls : List ClientCall) : Transport :=
  calls.foldl (fun transport call => if call = .reset then transport.requestReset else transport)
    transport

/-- Which session granted each cached answer: the one its id is stamped with, and for an answer
without an id the one that granted it before. -/
def grantedBy (origins : RouteIdentity → Option Nat) (cache : RouteCache)
    (identity : RouteIdentity) : Option Nat :=
  (cache.positive identity).bind fun entry =>
    match entry.subscriptionId with
    | some id => id.session
    | none => origins identity

def sees (attached : Attached) (event : Actor.ActorEvent) : Bool :=
  event.ofLoop &&
    (!event.drains ||
      decide (event.events =
        attached.transport.queue.map GrpcRouteSubscriptionEvent.drained)) &&
    event.joins.all fun join =>
      decide (attached.transport.calls.find? join.1 = some (.done join.2))

def joined (transport : Transport) (event : Actor.ActorEvent) : Transport :=
  { transport with
    queue := if event.drains then [] else transport.queue
    ending := if event.drains then [] else transport.ending
    calls :=
      match event.joins with
      | some join => transport.calls.erase join.1
      | none => transport.calls }

def turn (attached : Attached) (event : Actor.ActorEvent) : Option Attached :=
  if attached.sees event then
    (attached.actor.handle event).map fun next =>
      { attached with
        actor := next
        transport := requestResets (joined attached.transport event)
          (next.calls.drop attached.actor.calls.length)
        drained :=
          if event.drains then attached.drained ++ attached.transport.ending else attached.drained
        origins := grantedBy attached.origins next.cache }
  else none

/-- An unsubscribe or a reset that was deferred comes to an end. -/
def cleanup (attached : Attached) (index : Nat) (outcome : Transport.CleanupOutcome) :
    Option Attached :=
  match attached.actor.unsubscribes[index]? with
  | some { call := call, outcome := none } =>
    let (transport, delivered) :=
      match call with
      | .unsubscribe id => attached.transport.unsubscribe id outcome
      | .reset => attached.transport.performReset outcome
    (attached.actor.handle (.cleanupFinished index delivered)).map fun next =>
      { attached with transport := transport, actor := next }
  | _ => none

end Attached

inductive AttachedEvent where
  | publish (change : RouteBindingChange)
  | produce (session : Nat) (action : ProducerAction)
  | subscribe (requestId : RouteRequestId) (identity : RouteIdentity) (connected delivered : Bool)
  | timeout (requestId : RouteRequestId) (identity : RouteIdentity)
  | read (session : Nat) (room : Bool)
  | disconnect (session : Nat)
  | leave (session : Nat)
  | abort (session : Nat)
  | turn (event : Actor.ActorEvent)
  | cleanup (index : Nat) (outcome : Transport.CleanupOutcome)

namespace Attached

def handle (limits : StreamLimits) : AttachedEvent → Attached → Option Attached
  | .publish change, attached => some (attached.publish change)
  | .produce id action, attached => attached.produce limits id action
  | .subscribe requestId identity connected delivered, attached =>
    attached.subscribe requestId identity connected delivered
  | .timeout requestId identity, attached => attached.timeout requestId identity
  | .read id room, attached => attached.read id room
  | .disconnect id, attached => attached.disconnect id
  | .leave id, attached => attached.leave id
  | .abort id, attached => attached.abort id
  | .turn event, attached => attached.turn event
  | .cleanup index outcome, attached => attached.cleanup index outcome

end Attached

def attachedSystem (capacity : Nat) (limits : StreamLimits) :
    TransitionSystem Attached AttachedEvent where
  initial attached := attached = .start capacity
  step event attached next := Attached.handle limits event attached = some next

end Sleepypods.Frontline
