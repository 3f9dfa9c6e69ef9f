import Sleepypods.Api.Route

/-! The rows of the control-plane store, its errors, and the requests its operations take. -/

set_option autoImplicit false

namespace Sleepypods.Store

inductive StoreError where
  | sleepDeferred (retryAfterMillis : Int)
  | invalidArgument (message : String)
  | notFound (resource : String)
  | alreadyExists (resource : String)
  | generationConflict (expected actual : Nat)
  | exclusivityConflict (clusterId namespaceName keyName : String)
      (ownerInstanceId : Option InstanceId) (ownerGeneration : Option Nat)
  | idempotencyConflict
  | idempotencyResourceDeleted (resource : String)
  | leaseConflict (message : String)
  | unavailable (message : String)
  | internal (message : String)
  deriving DecidableEq

abbrev StoreResult := Except StoreError

/-- What a transaction reads from its session: the database clock in Unix milliseconds, and
the settings of the process that opened it. -/
structure Session where
  now : Int
  operationTimeoutMillis : Int
  idempotencyRetentionMillis : Option Nat

/-- A span of time in nanoseconds. -/
abbrev Duration := Nat

def Duration.asMillis (duration : Duration) : Nat := duration / 1000000

/-! ### Rows -/

structure InstanceRow where
  workloadClass : WorkloadClassVersionRef
  values : List (String × String)
  state : InstanceState
  generation : Nat
  deriving DecidableEq

/-- The highest generation an instance id has ever had; it outlives the instance. -/
structure GenerationWatermark where
  lastGeneration : Nat
  retired : Bool
  deriving DecidableEq

inductive IdentityKind where
  | http
  | sni
  deriving DecidableEq

structure RouteBindingRow where
  instanceId : InstanceId
  identityKey : String
  identityKind : IdentityKind
  hostKind : RouteHostKind
  host : String
  pathPrefix : Option String
  protocol : ProtocolRoute
  deriving DecidableEq

inductive FailureKind where
  | transient
  | permanent
  | deadline
  | uncertain
  deriving DecidableEq

/-- A reconciliation lease: both columns are set together or not at all. -/
structure ReconcileLease where
  owner : String
  expiresAt : Int
  deriving DecidableEq

/-- The scheduling and failure columns of a materialization, which the triggers maintain. -/
structure WorkSchedule where
  stateEnteredAt : Int
  nextAttemptAt : Int
  drainNotBefore : Int
  wakeFailureMessage : String
  failureRequiresCleanup : Bool
  failureCount : Nat
  failureKind : Option FailureKind
  failureMessage : String
  operationDeadline : Int
  deriving DecidableEq

structure MaterializationRow where
  instanceId : InstanceId
  target : MaterializationTarget
  instanceGeneration : Nat
  projectionGeneration : Nat
  state : MaterializationState
  backend : Option BackendEndpoint
  backendGeneration : Nat
  renderedObjects : List RenderedObjectRef
  exclusivityKeys : List RenderedExclusivityKey
  lease : Option ReconcileLease
  reconcileAttempt : Nat
  schedule : WorkSchedule
  deriving DecidableEq

inductive EffectOperation where
  | apply
  | delete
  deriving DecidableEq

structure LiveObjectIdentity where
  uid : String
  resourceVersion : String
  deriving DecidableEq

/-- One Kubernetes mutation that may have been dispatched and has no definite outcome yet. -/
structure EffectRow where
  effectId : Nat
  leaseOwner : String
  leaseAttempt : Nat
  instanceGeneration : Nat
  operation : EffectOperation
  object : RenderedObjectRef
  precondition : Option LiveObjectIdentity
  deriving DecidableEq

/-- A wake accepted while its instance was draining. -/
structure DeferredWakeIntent where
  instanceGeneration : Nat
  projectionGeneration : Nat
  target : MaterializationTarget
  backendGeneration : Nat
  renderedObjects : List RenderedObjectRef
  exclusivityKeys : List RenderedExclusivityKey
  deriving DecidableEq

structure ObjectReservation where
  clusterId : String
  apiGroup : String
  kind : String
  namespaceName : String
  name : String
  deriving DecidableEq

structure KeyReservation where
  clusterId : String
  namespaceName : String
  keyName : String
  keyValue : String
  deriving DecidableEq

inductive IdempotentOperation where
  | createInstance
  | createRouteBinding
  deriving DecidableEq

/-- The contents of a request that a replay must repeat. -/
inductive RequestFingerprint where
  | createInstance (instanceId : InstanceId) (workloadClass : WorkloadClassVersionRef)
      (values : List (String × String)) (routeBindings : List RouteBindingSpec)
  | createRouteBinding (routeBindingId : RouteBindingId) (instanceId : InstanceId)
      (identity : RouteIdentity) (protocol : ProtocolRoute)
  deriving DecidableEq

structure IdempotencyRecord where
  operation : IdempotentOperation
  fingerprint : RequestFingerprint
  resourceId : String
  expiresAt : Option Int
  resourceDeletedAt : Option Int
  deriving DecidableEq

inductive RouteChange where
  | route (removed : Bool) (routeBindingId : RouteBindingId) (instanceId : InstanceId)
      (identityKind : IdentityKind) (hostKind : RouteHostKind) (host : String)
      (pathPrefix : Option String) (protocol : ProtocolRoute)
  | lifecycle (instanceId : InstanceId)
  deriving DecidableEq

/-! ### Requests -/

structure CreateInstanceRequest where
  idempotencyKey : IdempotencyKey
  instanceId : InstanceId
  workloadClass : WorkloadClassVersionRef
  values : List (String × String)
  routeBindings : List RouteBindingSpec

structure CreateRouteBindingRequest where
  idempotencyKey : IdempotencyKey
  routeBindingId : RouteBindingId
  instanceId : InstanceId
  identity : RouteIdentity
  protocol : ProtocolRoute

structure RecordMaterializationRequest where
  instanceId : InstanceId
  instanceGeneration : Nat
  projectionGeneration : Nat
  target : MaterializationTarget
  state : MaterializationState
  backend : Option BackendEndpoint
  backendGeneration : Nat
  renderedObjects : List RenderedObjectRef
  exclusivityKeys : List RenderedExclusivityKey

structure AcceptWakeRequest where
  expectedGeneration : Nat
  pending : RecordMaterializationRequest

structure RequestInstanceDeletion where
  instanceId : InstanceId
  expectedGeneration : Nat

structure BeginSleepRequest where
  instanceId : InstanceId
  expectedRunningGeneration : Nat
  target : MaterializationTarget
  drainGraceTimeout : Duration
  minimumReadyAge : Option Duration

structure ClaimRequest where
  materializationId : MaterializationId
  owner : String
  leaseTtl : Duration

structure RenewLeaseRequest where
  expectedState : MaterializationState
  instanceGeneration : Nat
  materializationId : MaterializationId
  owner : String
  leaseTtl : Duration
  attempt : Nat

structure ReleaseLeaseRequest where
  instanceGeneration : Nat
  materializationId : MaterializationId
  owner : String
  attempt : Nat

structure CompleteWakeRequest where
  instanceId : InstanceId
  expectedWakingGeneration : Nat
  target : MaterializationTarget
  backend : BackendEndpoint
  backendGeneration : Nat
  renderedObjects : List RenderedObjectRef
  exclusivityKeys : List RenderedExclusivityKey

structure CompleteWakeReconciliationRequest where
  materializationId : MaterializationId
  leaseOwner : String
  complete : CompleteWakeRequest
  attempt : Nat

structure FinalizeSleepRequest where
  instanceId : InstanceId
  expectedDrainingGeneration : Nat
  target : MaterializationTarget

structure FinalizeSleepReconciliationRequest where
  materializationId : MaterializationId
  leaseOwner : String
  finalize : FinalizeSleepRequest
  attempt : Nat

structure DeleteMaterializationReconciliationRequest where
  materializationId : MaterializationId
  leaseOwner : String
  expectedState : MaterializationState
  instanceId : InstanceId
  instanceGeneration : Nat
  target : MaterializationTarget
  attempt : Nat

structure RecordFailureRequest where
  expectedState : MaterializationState
  materializationId : MaterializationId
  owner : String
  attempt : Nat
  generation : Nat
  permanent : Bool
  message : String

structure EffectRequest where
  effectId : Nat
  materializationId : MaterializationId
  owner : String
  attempt : Nat
  instanceGeneration : Nat
  expectedState : MaterializationState
  operation : EffectOperation
  object : RenderedObjectRef
  precondition : Option LiveObjectIdentity

structure AcknowledgeEffectRequest where
  instanceGeneration : Nat
  effectId : Nat
  materializationId : MaterializationId
  owner : String
  attempt : Nat

structure ForceDeleteRequest where
  materializationId : MaterializationId
  operator : String
  reason : String

structure ForceReleaseKeyRequest where
  target : MaterializationTarget
  keyName : String
  keyValue : String
  operator : String
  reason : String

end Sleepypods.Store
