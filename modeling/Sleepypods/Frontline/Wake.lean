import Sleepypods.Library.Table
import Sleepypods.Api.Route

/-! What a frontline does with an answer: serve it, wake its instance, or wait; and what it makes
of the reply to a wake. -/

set_option autoImplicit false

namespace Sleepypods.Frontline

open Library

structure WakeInstanceRequest where
  instanceId : InstanceId
  expectedGeneration : Nat
  deriving DecidableEq

structure ReadyBackend where
  instanceId : InstanceId
  instanceGeneration : Nat
  backend : BackendEndpoint
  backendGeneration : Option Nat
  deriving DecidableEq

inductive WakeReason where
  | cold
  | waking
  | failed
  | draining
  | runningMissingBackend
  deriving DecidableEq

inductive WakeWaitReason where
  | alreadyWaking
  | duplicatePendingWake
  deriving DecidableEq

structure WakeWait where
  instanceId : InstanceId
  generation : Nat
  reason : WakeWaitReason
  deriving DecidableEq

inductive WakeUnavailableReason where
  | deleting
  | deleted
  deriving DecidableEq

structure WakeUnavailable where
  instanceId : InstanceId
  generation : Nat
  reason : WakeUnavailableReason
  deriving DecidableEq

inductive RouteWakeDecision where
  | ready (backend : ReadyBackend)
  | wake (request : WakeInstanceRequest) (reason : WakeReason)
  | unavailable (unavailable : WakeUnavailable)
  deriving DecidableEq

def wakeDecision (entry : RouteEntry) (reason : WakeReason) : RouteWakeDecision :=
  .wake { instanceId := entry.instanceId, expectedGeneration := entry.instanceGeneration } reason

def unavailableDecision (entry : RouteEntry) (reason : WakeUnavailableReason) :
    RouteWakeDecision :=
  .unavailable
    { instanceId := entry.instanceId, generation := entry.instanceGeneration, reason := reason }

def routeWakeDecision (entry : RouteEntry) : RouteWakeDecision :=
  match entry.instanceState with
  | .running =>
    match entry.backend with
    | some backend =>
      .ready
        { instanceId := entry.instanceId
          instanceGeneration := entry.instanceGeneration
          backend := backend
          backendGeneration := entry.backendGeneration }
    | none => wakeDecision entry .runningMissingBackend
  | .cold => wakeDecision entry .cold
  | .failed => wakeDecision entry .failed
  | .draining => wakeDecision entry .draining
  | .waking => wakeDecision entry .waking
  | .deleting => unavailableDecision entry .deleting
  | .deleted => unavailableDecision entry .deleted

inductive WakeInstanceResponse where
  | wakeStarted (instanceId : InstanceId) (generation : Nat)
  | alreadyRunning (instanceId : InstanceId) (generation : Nat) (backend : BackendEndpoint)
      (backendGeneration : Option Nat)
  | stillWaking (instanceId : InstanceId) (generation : Nat)
  | failed (instanceId : InstanceId) (generation : Nat) (reason : String)
  | unavailable (instanceId : InstanceId) (generation : Nat) (reason : String)
  | generationConflict (instanceId : InstanceId) (expectedGeneration actualGeneration : Nat)
  deriving DecidableEq

inductive StaleWakeObservation where
  | instanceMismatch (observed incoming : InstanceId)
  | staleInstanceGeneration (observed incoming : Nat)
  | staleBackendGeneration (observed incoming : Nat)
  deriving DecidableEq

inductive WakeResponseDisposition where
  | wakeStarted (instanceId : InstanceId) (generation : Nat)
  | ready (backend : ReadyBackend)
  | stillWaking (instanceId : InstanceId) (generation : Nat)
  | failed (instanceId : InstanceId) (generation : Nat) (reason : String)
  | unavailable (instanceId : InstanceId) (generation : Nat) (reason : String)
  | generationConflict (instanceId : InstanceId) (expectedGeneration actualGeneration : Nat)
  | rejected (stale : StaleWakeObservation)
  deriving DecidableEq

def staleObservation (observed : RouteEntry) (incomingId : InstanceId) (incomingGeneration : Nat)
    (incomingBackendGeneration : Option Nat) : Option StaleWakeObservation :=
  if observed.instanceId ≠ incomingId then
    some (.instanceMismatch observed.instanceId incomingId)
  else if incomingGeneration < observed.instanceGeneration then
    some (.staleInstanceGeneration observed.instanceGeneration incomingGeneration)
  else if incomingGeneration = observed.instanceGeneration then
    match observed.backendGeneration, incomingBackendGeneration with
    | some observed, some incoming =>
      if incoming < observed then some (.staleBackendGeneration observed incoming) else none
    | _, _ => none
  else none

def WakeInstanceResponse.stale (observed : RouteEntry) :
    WakeInstanceResponse → Option StaleWakeObservation
  | .wakeStarted id generation => staleObservation observed id generation none
  | .stillWaking id generation => staleObservation observed id generation none
  | .failed id generation _ => staleObservation observed id generation none
  | .unavailable id generation _ => staleObservation observed id generation none
  | .alreadyRunning id generation _ backendGeneration =>
    staleObservation observed id generation backendGeneration
  | .generationConflict id _ actualGeneration => staleObservation observed id actualGeneration none

def validateWakeResponse (observed : RouteEntry) (response : WakeInstanceResponse) :
    WakeResponseDisposition :=
  match response.stale observed with
  | some stale => .rejected stale
  | none =>
    match response with
    | .wakeStarted id generation => .wakeStarted id generation
    | .alreadyRunning id generation backend backendGeneration =>
      .ready
        { instanceId := id
          instanceGeneration := generation
          backend := backend
          backendGeneration := backendGeneration }
    | .stillWaking id generation => .stillWaking id generation
    | .failed id generation reason => .failed id generation reason
    | .unavailable id generation reason => .unavailable id generation reason
    | .generationConflict id expected actual => .generationConflict id expected actual

def readyRouteEntry (observed : RouteEntry) (backend : ReadyBackend) : RouteEntry where
  routeBindingId := observed.routeBindingId
  instanceId := observed.instanceId
  instanceState := .running
  instanceGeneration := backend.instanceGeneration
  backend := some backend.backend
  backendGeneration := backend.backendGeneration

/-- At most one wake of an instance at a generation is pending. -/
abbrev WakeTracker := Table (InstanceId × Nat) Unit

inductive WakeAdmission where
  | start (request : WakeInstanceRequest)
  | wait (wait : WakeWait)
  deriving DecidableEq

namespace WakeTracker

def admitWake (tracker : WakeTracker) (request : WakeInstanceRequest) : WakeTracker × WakeAdmission :=
  match tracker.find? (request.instanceId, request.expectedGeneration) with
  | none => (tracker.insert (request.instanceId, request.expectedGeneration) (), .start request)
  | some _ =>
    (tracker,
      .wait
        { instanceId := request.instanceId
          generation := request.expectedGeneration
          reason := .duplicatePendingWake })

def complete (tracker : WakeTracker) (id : InstanceId) (generation : Nat) : WakeTracker :=
  tracker.erase (id, generation)

end WakeTracker

end Sleepypods.Frontline
