import Sleepypods.Frontline.Actor
import Sleepypods.Proxy.Stream

/-! The transport under the route actor: sessions with the control plane, the readers of their
response streams, the calls that wait for a reply, and the bounded queue of events. -/

set_option autoImplicit false

namespace Sleepypods.Frontline

open Library
open Proxy (ProxySubscribeRequest ProxySubscribeResponse ProxyRouteInvalidationReason)

def subscribeResponseBuffer : Nat := 256

def maxPendingResponses : Nat := 64

def invalidationReason : ProxyRouteInvalidationReason → InvalidationReason
  | .routeRemoved => .routeRemoved
  | .routeChanged => .routeChanged

/-- `proxy_subscribe_response_from_proto`, and the session its ids are stamped with. -/
def receiveResponse (session : Nat) :
    ProxySubscribeResponse → Except InvalidRouteHost SubscribeControlPlaneOutput
  | .routeResolved requestId id matchedIdentity entry ttl =>
    matchedIdentity.received.map fun matchedIdentity =>
      .routeResolved requestId ⟨id, some session⟩ matchedIdentity entry ttl
  | .routeMiss requestId requestIdentity ttl =>
    requestIdentity.received.map fun requestIdentity =>
      .routeMiss requestId requestIdentity ttl
  | .routeInvalidated id reason =>
    .ok (.routeInvalidated ⟨id, some session⟩ (invalidationReason reason))

def responseRequestId : SubscribeControlPlaneOutput → Option RouteRequestId
  | .routeResolved requestId _ _ _ _ => some requestId
  | .routeMiss requestId _ _ => some requestId
  | .routeUpdated .. => none
  | .routeInvalidated .. => none

inductive GrpcRouteSubscriptionEvent where
  | message (message : SubscribeControlPlaneOutput)
  | responseStreamEnded
  | responseStreamClosed
  | status
  | protocol
  | unexpectedRouteResponse (requestId : RouteRequestId)
  deriving DecidableEq

/-- What `drain_subscription_events` makes of a queued event. -/
def GrpcRouteSubscriptionEvent.drained : GrpcRouteSubscriptionEvent → RouteSubscriptionEvent
  | .message output => .update output
  | .responseStreamEnded => .streamEnded
  | _ => .streamClosed

/-! ### State -/

inductive ReaderAction where
  | close
  | push (event : GrpcRouteSubscriptionEvent)
  | failPending
  deriving DecidableEq

inductive Reader where
  | reading
  | leaving (actions : List ReaderAction)
  deriving DecidableEq

structure TransportSession where
  /-- Requests on their way to the control plane. -/
  requests : List ProxySubscribeRequest
  /-- Requests that have no response yet; a cancelled one stays until its response arrives. -/
  pending : List RouteRequestId
  closed : Bool
  reader : Reader
  deriving DecidableEq

def TransportSession.register (session : TransportSession) (requestId : RouteRequestId)
    (identity : RouteIdentity) : TransportSession :=
  { session with
    pending := session.pending ++ [requestId]
    requests := session.requests ++ [.subscribeRoute requestId identity] }

inductive RouteCall where
  | waiting (session : Nat)
  | done (result : Except CallError SubscribeControlPlaneOutput)
  deriving DecidableEq

def RouteCall.isDone : RouteCall → Bool
  | .waiting _ => false
  | .done _ => true

structure Transport where
  current : Option Nat
  /-- Every session whose reader may still run. -/
  sessions : Table Nat TransportSession
  nextSession : Nat
  queue : List GrpcRouteSubscriptionEvent
  resetRequested : Bool
  calls : Table RouteRequestId RouteCall
  /-- Sessions whose end or failure is queued; no operation reads this. -/
  ending : List Nat

namespace Transport

def initial : Transport where
  current := none
  sessions := .empty
  nextSession := 1
  queue := []
  resetRequested := false
  calls := .empty
  ending := []

/-- `SubscriptionEvents::push`: an overflow replaces everything queued by one close barrier. -/
def push (transport : Transport) (event : GrpcRouteSubscriptionEvent) : Transport :=
  if transport.queue.length < subscribeResponseBuffer then
    { transport with queue := transport.queue ++ [event] }
  else { transport with queue := [.responseStreamClosed] }

def accepts (transport : Transport) : Bool :=
  decide (transport.queue.length < subscribeResponseBuffer)

def isReading (transport : Transport) (id : Nat) : Bool :=
  (transport.sessions.find? id).any fun session => decide (session.reader = .reading)

def isClosed (transport : Transport) (id : Nat) : Bool :=
  (transport.sessions.find? id).any TransportSession.closed

def modifySession (transport : Transport) (id : Nat)
    (change : TransportSession → TransportSession) : Transport :=
  { transport with
    sessions := transport.sessions.mapRows fun other session =>
      if other = id then change session else session }

def pushEnd (transport : Transport) (event : GrpcRouteSubscriptionEvent) (ids : List Nat) :
    Transport :=
  { transport.push event with ending := transport.ending ++ ids }

/-- Mark a session closed, and put the close barrier behind what is queued. -/
def closeSession (transport : Transport) (id : Nat) : Transport :=
  (transport.modifySession id fun session => { session with closed := true }).pushEnd
    .responseStreamClosed [id]

def finishCall (transport : Transport) (requestId : RouteRequestId)
    (result : Except CallError SubscribeControlPlaneOutput) : Transport :=
  { transport with calls := transport.calls.insert requestId (.done result) }

/-! ### Calls -/

def newSession : TransportSession where
  requests := []
  pending := []
  closed := false
  reader := .reading

/-- The current session, unless it was closed or a reset was requested. -/
def usableSession (transport : Transport) : Option Nat :=
  if transport.resetRequested then none
  else transport.current.filter fun id => !transport.isClosed id

/-- `ensure`: the session a call runs on, a new one where the last is of no use; none when the
control plane cannot be reached. -/
def ensure (transport : Transport) (connected : Bool) : Transport × Option Nat :=
  match transport.usableSession with
  | some id => (transport, some id)
  | none =>
    let transport := { transport with resetRequested := false, current := none }
    if connected then
      let id := transport.nextSession
      ({ transport with
          current := some id
          nextSession := id + 1
          sessions := transport.sessions.insert id newSession }, some id)
    else (transport, none)

/-- Whether nobody waits for the reply to a pending request any more. -/
def abandoned (transport : Transport) (id : Nat) (requestId : RouteRequestId) : Bool :=
  decide (transport.calls.find? requestId ≠ some (.waiting id))

/-- Register a request with a session and send it. `delivered` says whether the request stream
still takes requests. -/
def sendRequest (transport : Transport) (id : Nat) (requestId : RouteRequestId)
    (identity : RouteIdentity) (delivered : Bool) : Transport :=
  let pending := ((transport.sessions.find? id).map TransportSession.pending).getD []
  if maxPendingResponses ≤ pending.length then
    let transport :=
      if pending.any (transport.abandoned id) then transport.closeSession id else transport
    transport.finishCall requestId (.error .failed)
  else if delivered then
    { (transport.modifySession id fun session => session.register requestId identity) with
      calls := transport.calls.insert requestId (.waiting id) }
  else (transport.closeSession id).finishCall requestId (.error .failed)

def subscribeRoute (transport : Transport) (requestId : RouteRequestId) (identity : RouteIdentity)
    (connected delivered : Bool) : Transport :=
  match transport.ensure connected with
  | (transport, none) => transport.finishCall requestId (.error .failed)
  | (transport, some id) => transport.sendRequest id requestId identity delivered

/-- The deadline of a call: a stream that is late is not used again. -/
def timeoutCall (transport : Transport) (requestId : RouteRequestId) : Transport :=
  (({ transport with current := none }).pushEnd .responseStreamClosed
    transport.current.toList).finishCall requestId (.error .deadline)

/-- `reset_subscription`: the request is recorded at once, and the session dropped later. -/
def requestReset (transport : Transport) : Transport :=
  ({ transport with resetRequested := true }).pushEnd .responseStreamClosed
    transport.current.toList

inductive CleanupOutcome where
  | delivered
  | refused
  | late
  deriving DecidableEq

/-- `unsubscribe`: only the session that issued an id may be told about it. -/
def unsubscribe (transport : Transport) (id : SubscriptionId) (outcome : CleanupOutcome) :
    Transport × Bool :=
  match id.session with
  | none => (transport, false)
  | some origin =>
    match outcome with
    | .late => (transport.requestReset, false)
    | .delivered =>
      if transport.current = some origin then
        (transport.modifySession origin fun session =>
          { session with requests := session.requests ++ [.unsubscribe id.value] }, true)
      else (transport, true)
    | .refused =>
      if transport.current = some origin then (transport.closeSession origin, false)
      else (transport, true)

/-- The part of `reset_subscription` that waits for the transport. -/
def performReset (transport : Transport) (outcome : CleanupOutcome) : Transport × Bool :=
  match outcome with
  | .late => (transport, false)
  | _ =>
    (if transport.resetRequested then
      { transport with resetRequested := false, current := none }
    else transport, true)

def failPending (transport : Transport) (id : Nat) : Transport :=
  { (transport.modifySession id fun session => { session with pending := [] }) with
    calls := transport.calls.mapRows fun _ call =>
      if call = .waiting id then .done (.error .failed) else call }

def leave (transport : Transport) (id : Nat) (actions : List ReaderAction) : Transport :=
  transport.modifySession id fun session => { session with reader := .leaving actions }

def fail (transport : Transport) (id : Nat) (event : GrpcRouteSubscriptionEvent) : Transport :=
  transport.leave id [.close, .push event, .failPending]

/-- A reply to a pending request; one that nobody waits for is unsubscribed when there is room for
the request. -/
def reply (transport : Transport) (id : Nat) (requestId : RouteRequestId)
    (message : SubscribeControlPlaneOutput) (room : Bool) : Transport :=
  let answered := transport.modifySession id fun session =>
    { session with pending := session.pending.erase requestId }
  if transport.abandoned id requestId then
    match resolvedSubscriptionId message with
    | none => answered
    | some subscription =>
      if room then
        answered.modifySession id fun session =>
          { session with requests := session.requests ++ [.unsubscribe subscription.value] }
      else answered.fail id .responseStreamClosed
  else answered.finishCall requestId (.ok message)

def readMessage (transport : Transport) (id : Nat) (message : SubscribeControlPlaneOutput)
    (room : Bool) : Transport :=
  match responseRequestId message with
  | some requestId =>
    if (transport.sessions.find? id).any fun session => session.pending.contains requestId then
      transport.reply id requestId message room
    else transport.fail id (.unexpectedRouteResponse requestId)
  | none =>
    if transport.accepts then transport.push (.message message)
    else (transport.pushEnd (.message message) [id]).leave id [.close, .failPending]

def readerAction (transport : Transport) (id : Nat) : ReaderAction → Transport
  | .close => transport.modifySession id fun session => { session with closed := true }
  | .push event => transport.pushEnd event [id]
  | .failPending => transport.failPending id

end Transport

end Sleepypods.Frontline
