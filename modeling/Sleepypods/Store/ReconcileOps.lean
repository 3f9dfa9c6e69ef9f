import Sleepypods.Store.LifecycleOps

/-! The reconciler's side of the store: leases, effect markers, completions, failures, and the
operator overrides. -/

set_option autoImplicit false

namespace Sleepypods.Store

open Library Library.Fallible

def maxReconciliationLeaseTtl : Duration := 24 * 60 * 60 * 1000000000

def leaseTtlMillis (ttl : Duration) : StoreResult Nat := do
  require (ttl ≤ maxReconciliationLeaseTtl)
    (.invalidArgument "materialization reconciliation lease TTL exceeds 24 hours")
  require (Duration.asMillis ttl ≠ 0)
    (.invalidArgument "materialization reconciliation lease TTL must be at least one millisecond")
  return Duration.asMillis ttl

def validateLeaseOwner (owner : String) : StoreResult Unit :=
  require (isBlank owner = false) (.invalidArgument "materialization reconciliation owner is required")

def leaseAttempt (attempt : Nat) : StoreResult Unit :=
  require (0 < attempt ∧ attempt < bigintBound)
    (.invalidArgument "lease attempt must be a positive signed 64-bit integer")

/-- Whether a lease is held by `owner` and has not expired. -/
def MaterializationRow.leasedBy (row : MaterializationRow) (owner : String) (now : Int) : Bool :=
  row.lease.any fun lease => decide (lease.owner = owner) && decide (now < lease.expiresAt)

/-- Whether nobody holds a lease that has not expired. -/
def MaterializationRow.unleased (row : MaterializationRow) (now : Int) : Bool :=
  row.lease.all fun lease => decide (lease.expiresAt ≤ now)

def MaterializationRow.claimable (row : MaterializationRow) (now : Int) : Bool :=
  row.state.isWork &&
    (decide (row.schedule.failureKind = none) ||
      decide (row.schedule.failureKind = some .transient) || row.schedule.failureRequiresCleanup) &&
    decide (row.schedule.nextAttemptAt ≤ now) && decide (row.schedule.drainNotBefore ≤ now) &&
    row.unleased now

def claimedRow (session : Session) (owner : String) (ttlMillis : Nat) (old : MaterializationRow) :
    MaterializationRow :=
  { old with
    lease := some { owner := owner, expiresAt := session.now + ttlMillis }
    reconcileAttempt := old.reconcileAttempt + 1 }

def claimMaterializationReconciliation (session : Session) (request : ClaimRequest)
    (db : Database) : StoreResult (Option MaterializationRow × Database) := do
  validateLeaseOwner request.owner
  let ttlMillis ← leaseTtlMillis request.leaseTtl
  let id := request.materializationId
  match (db.materializations.find? id).filter fun row =>
      row.claimable session.now && (db.effects.find? id).isNone with
  | none => return (none, db)
  | some old =>
    let after ← updateMaterialization session id old
      (claimedRow session request.owner ttlMillis old) db
    return (some (beforeUpdate session old (claimedRow session request.owner ttlMillis old)), after)

def renewMaterializationReconciliationLease (session : Session) (request : RenewLeaseRequest)
    (db : Database) : StoreResult (Bool × Database) := do
  validateLeaseOwner request.owner
  let ttlMillis ← leaseTtlMillis request.leaseTtl
  leaseAttempt request.attempt
  generationToI64 request.instanceGeneration
  match (db.materializations.find? request.materializationId).filter fun row =>
      row.leasedBy request.owner session.now && decide (row.reconcileAttempt = request.attempt) &&
        decide (row.instanceGeneration = request.instanceGeneration) &&
        row.state.isWork && decide (row.state = request.expectedState) with
  | none => return (false, db)
  | some old =>
    let after ← updateMaterialization session request.materializationId old
      { old with
        lease := some { owner := request.owner, expiresAt := session.now + ttlMillis } } db
    return (true, after)

def releaseMaterializationReconciliationLease (session : Session) (request : ReleaseLeaseRequest)
    (db : Database) : StoreResult (Bool × Database) := do
  validateLeaseOwner request.owner
  leaseAttempt request.attempt
  generationToI64 request.instanceGeneration
  match (db.materializations.find? request.materializationId).filter fun row =>
      (db.effects.find? request.materializationId).isNone &&
        row.leasedBy request.owner session.now &&
        decide (row.reconcileAttempt = request.attempt) &&
        decide (row.instanceGeneration = request.instanceGeneration) &&
        row.state.isWork with
  | none => return (false, db)
  | some old =>
    let after ← updateMaterialization session request.materializationId old
      { old with
        lease := none
        schedule := { old.schedule with nextAttemptAt := session.now } } db
    return (true, after)

def EffectRequest.marker (request : EffectRequest) : EffectRow where
  effectId := request.effectId
  leaseOwner := request.owner
  leaseAttempt := request.attempt
  instanceGeneration := request.instanceGeneration
  operation := request.operation
  object := request.object
  precondition := request.precondition

/-- Begin an effect under the lease; a retry of the same operation finds its own marker. -/
def beginMaterializationEffect (session : Session) (request : EffectRequest) (db : Database) :
    StoreResult (Bool × Database) := do
  validateLeaseOwner request.owner
  leaseAttempt request.attempt
  leaseAttempt request.effectId
  generationToI64 request.instanceGeneration
  match (db.materializations.find? request.materializationId).filter fun row =>
      row.leasedBy request.owner session.now && decide (row.reconcileAttempt = request.attempt) &&
        decide (row.instanceGeneration = request.instanceGeneration) &&
        decide (row.state = request.expectedState) with
  | none => return (false, db)
  | some _ =>
    match db.effects.find? request.materializationId with
    | some marker => return (decide (marker = request.marker), db)
    | none => return (true,
        { db with effects := db.effects.insert request.materializationId request.marker })

def AcknowledgeEffectRequest.names (request : AcknowledgeEffectRequest) (marker : EffectRow) : Bool :=
  decide (marker.leaseOwner = request.owner) && decide (marker.leaseAttempt = request.attempt) &&
    decide (marker.effectId = request.effectId) &&
    decide (marker.instanceGeneration = request.instanceGeneration)

def acknowledgeMaterializationEffect (request : AcknowledgeEffectRequest) (db : Database) :
    StoreResult (Bool × Database) := do
  leaseAttempt request.attempt
  leaseAttempt request.effectId
  generationToI64 request.instanceGeneration
  match (db.effects.find? request.materializationId).filter request.names with
  | none => return (false, db)
  | some _ => return (true, { db with effects := db.effects.erase request.materializationId })

/-! ### Completions -/

def leaseNotOwned : StoreError :=
  .leaseConflict "materialization reconciliation lease is not currently owned"

def ensureReconciliationLease (session : Session) (id : MaterializationId) (owner : String)
    (attempt : Nat) (expectedState : MaterializationState) (instanceId : InstanceId)
    (instanceGeneration : Nat) (target : MaterializationTarget) (db : Database) :
    StoreResult MaterializationRow := do
  generationToI64 instanceGeneration
  let row ← orError
    ((db.materializations.find? id).filter fun row =>
      decide (row.state = expectedState) && decide (row.instanceId = instanceId) &&
        decide (row.instanceGeneration = instanceGeneration) && decide (row.target = target))
    (.notFound "materialization")
  require (row.lease.map ReconcileLease.owner = some owner) leaseNotOwned
  leaseAttempt attempt
  require (row.reconcileAttempt = attempt) leaseNotOwned
  require (row.leasedBy owner session.now = true)
    (.leaseConflict "materialization reconciliation lease is expired")
  require (db.effects.find? id = none)
    (.leaseConflict "Kubernetes effect outcome remains unacknowledged")
  return row

/-- `normalize_exclusivity_keys`: sorted by name and value, without repetitions. -/
def normalizeExclusivityKeys (keys : List RenderedExclusivityKey) : List RenderedExclusivityKey :=
  keys.dedup.insertionSort fun left right =>
    left.name < right.name ∨ (left.name = right.name ∧ left.value ≤ right.value)

def completeWakeInTransaction (session : Session) (request : CompleteWakeRequest) (db : Database) :
    StoreResult ((InstanceRow × MaterializationRow) × Database) := do
  let current ← orError (db.instances.find? request.instanceId) (.notFound "instance")
  require (current.generation = request.expectedWakingGeneration)
    (.generationConflict request.expectedWakingGeneration current.generation)
  validateInstanceStateTransition current.state .running .materializationReady
  let running := request.expectedWakingGeneration + 1
  generationToI64 running
  let moved ← updateInstance session request.instanceId current .running running db
  let prior := (findByTarget moved request.instanceId request.target).filter
    fun entry => decide (entry.2.state ≠ .deleted)
  let (row, after) ← upsertMaterialization session
    { instanceId := request.instanceId
      instanceGeneration := running
      projectionGeneration := (prior.map fun entry => entry.2.projectionGeneration).getD running
      target := request.target
      state := .ready
      backend := some request.backend
      backendGeneration := request.backendGeneration
      renderedObjects := request.renderedObjects
      exclusivityKeys := request.exclusivityKeys } moved
  return (({ current with state := .running, generation := running }, row), after)

def completeWakeReconciliation (session : Session) (request : CompleteWakeReconciliationRequest)
    (db : Database) : StoreResult ((InstanceRow × MaterializationRow) × Database) := do
  validateLeaseOwner request.leaseOwner
  let complete := { request.complete with
    exclusivityKeys := normalizeExclusivityKeys request.complete.exclusivityKeys }
  let _ ← ensureReconciliationLease session request.materializationId request.leaseOwner
    request.attempt .pending complete.instanceId complete.expectedWakingGeneration complete.target db
  completeWakeInTransaction session complete db

def deletedRow (old : MaterializationRow) : MaterializationRow :=
  { old with
    state := .deleted
    backend := none
    renderedObjects := []
    exclusivityKeys := []
    lease := none }

def finalizeSleepInTransaction (session : Session) (request : FinalizeSleepRequest)
    (db : Database) : StoreResult ((InstanceRow × Option MaterializationRow) × Database) := do
  let current ← orError (db.instances.find? request.instanceId) (.notFound "instance")
  require (current.generation = request.expectedDrainingGeneration)
    (.generationConflict request.expectedDrainingGeneration current.generation)
  validateInstanceStateTransition current.state .cold .drainCompleted
  let cold := request.expectedDrainingGeneration + 1
  generationToI64 cold
  let drained ← updateInstance session request.instanceId current .cold cold db
  let (materialization, deleted) ←
    match (findByTarget drained request.instanceId request.target).filter
        fun entry => decide (entry.2.state ≠ .deleted) with
    | none => pure (none, drained)
    | some (id, old) => do
        let assigned := { deletedRow old with instanceGeneration := cold }
        let after ← updateMaterialization session id old assigned drained
        pure (some (beforeUpdate session old assigned), after)
  let (activated, after) ← activateDeferredWake session request.instanceId deleted
  return ((activated.getD { current with state := .cold, generation := cold }, materialization),
    after)

def finalizeSleepReconciliation (session : Session) (request : FinalizeSleepReconciliationRequest)
    (db : Database) : StoreResult ((InstanceRow × Option MaterializationRow) × Database) := do
  validateLeaseOwner request.leaseOwner
  require (request.finalize.expectedDrainingGeneration ≠ 0)
    (.invalidArgument "generation has no predecessor")
  let _ ← ensureReconciliationLease session request.materializationId request.leaseOwner
    request.attempt .deleting request.finalize.instanceId
    (request.finalize.expectedDrainingGeneration - 1) request.finalize.target db
  finalizeSleepInTransaction session request.finalize db

def deleteMaterializationReconciliation (session : Session)
    (request : DeleteMaterializationReconciliationRequest) (db : Database) :
    StoreResult (Option MaterializationRow × Database) := do
  validateLeaseOwner request.leaseOwner
  let old ← ensureReconciliationLease session request.materializationId request.leaseOwner
    request.attempt request.expectedState request.instanceId request.instanceGeneration
    request.target db
  let after ← updateMaterialization session request.materializationId old (deletedRow old) db
  return (some (beforeUpdate session old (deletedRow old)), after)

def failureKindOf (uncertain expired permanent : Bool) : FailureKind :=
  if uncertain then .uncertain
  else if expired then .deadline
  else if permanent then .permanent
  else .transient

def boundedMessage (message : String) : String := String.ofList (message.toList.take 512)

/-- `failure_count` saturates at the largest 32-bit integer. -/
def nextFailureCount (count : Nat) : Nat := min (count + 1) (2 ^ 31 - 1)

/-- The columns that recording a failure writes; clearing the lease makes a retry a no-op. -/
def failedRow (session : Session) (count : Nat) (kind : FailureKind) (message : String)
    (cleanupRequired : Bool) (old : MaterializationRow) : MaterializationRow :=
  { old with
    lease := none
    schedule :=
      { old.schedule with
        failureCount := count
        failureKind := some kind
        failureMessage := message
        failureRequiresCleanup := cleanupRequired
        wakeFailureMessage := if cleanupRequired then message else old.schedule.wakeFailureMessage
        nextAttemptAt := session.now + 1000 * 2 ^ min count 5 } }

/-- A failed wake is cleaned up: its row becomes deleting and its instance failed. -/
def beginFailureCleanup (session : Session) (id : MaterializationId) (generation : Nat)
    (row : MaterializationRow) (owner : InstanceRow) (db : Database) : StoreResult Database := do
  let deleting ← updateMaterialization session id row { row with state := .deleting } db
  if owner.generation = generation ∧ owner.state = .waking then
    updateInstance session row.instanceId owner .failed (owner.generation + 1) deleting
  else return deleting

def recordFailure (session : Session) (request : RecordFailureRequest) (db : Database) :
    StoreResult (Bool × Database) := do
  require (request.attempt < bigintBound) (.invalidArgument "attempt overflow")
  generationToI64 request.generation
  let id := request.materializationId
  match (db.materializations.find? id).bind fun row =>
      (db.instances.find? row.instanceId).map fun owner => (row, owner) with
  | none => return (false, db)
  | some (row, owner) =>
    if row.leasedBy request.owner session.now ∧ row.reconcileAttempt = request.attempt ∧
        row.instanceGeneration = request.generation ∧ row.state = request.expectedState then
      let uncertain := (db.effects.find? id).isSome
      let expired := decide (row.schedule.operationDeadline ≤ session.now)
      let terminal := !uncertain && (request.permanent || expired)
      let cleanupRequired := terminal && decide (row.state = .pending)
      let started ←
        if cleanupRequired then beginFailureCleanup session id request.generation row owner db
        else pure db
      let current ← orError (started.materializations.find? id) (.notFound "materialization")
      let after ← updateMaterialization session id current
        (failedRow session (nextFailureCount row.schedule.failureCount)
          (failureKindOf uncertain expired request.permanent) (boundedMessage request.message)
          cleanupRequired current) started
      return (true, after)
    else return (false, db)

/-- `enqueue`: schedule work again without overriding grace, a live attempt or uncertainty. -/
def enqueueMaterialization (session : Session) (id : MaterializationId) (db : Database) :
    StoreResult (Bool × Database) :=
  match (db.materializations.find? id).filter fun row =>
      (row.state.isWork || decide (row.state = .failed)) &&
        row.unleased session.now && (db.effects.find? id).isNone with
  | none => .ok (false, db)
  | some old => do
      let due := max old.schedule.drainNotBefore session.now
      let after ← updateMaterialization session id old
        { old with
          state := if old.state = .failed then .deleting else old.state
          schedule :=
            { old.schedule with
              failureKind := none
              failureMessage := ""
              failureCount := 0
              operationDeadline := due + session.operationTimeoutMillis
              nextAttemptAt := due } } db
      return (true, after)

def validateOperatorAudit (operator reason : String) : StoreResult Unit :=
  require (isBlank operator = false ∧ isBlank reason = false)
    (.invalidArgument "operator and reason are required for force materialization operations")

def forceDeleteMaterialization (session : Session) (request : ForceDeleteRequest) (db : Database) :
    StoreResult (Option MaterializationRow × Database) := do
  validateOperatorAudit request.operator request.reason
  match db.materializations.find? request.materializationId with
  | none => return (none, db)
  | some old =>
    let after ← updateMaterialization session request.materializationId old (deletedRow old)
      { db with effects := db.effects.erase request.materializationId }
    return (some old, after)

def forceReleaseExclusivityKey (session : Session) (request : ForceReleaseKeyRequest)
    (db : Database) : StoreResult (List MaterializationRow × Database) := do
  validateOperatorAudit request.operator request.reason
  require (isBlank request.keyName = false ∧ isBlank request.keyValue = false)
    (.invalidArgument "force-release key name and value are required")
  let key : KeyReservation :=
    { clusterId := request.target.clusterId, namespaceName := request.target.namespaceName,
      keyName := request.keyName, keyValue := request.keyValue }
  let holds := fun (id : MaterializationId) (row : MaterializationRow) =>
    decide (row.target = request.target) && decide (row.state ≠ .deleted) &&
      decide (db.keyReservations.find? key = some id)
  let after ← updateMaterializations session holds
    (fun row => { row with
      exclusivityKeys := row.exclusivityKeys.filter fun held =>
        !(decide (held.name = request.keyName) && decide (held.value = request.keyValue)) }) db
  return ((db.materializations.entries.filter fun entry => holds entry.1 entry.2).map Prod.snd, after)

/-- Outbox rows younger than this are never pruned by age. -/
def outboxAgeMillis : Int := 600000

/-- A batch size, clamped. `maintain` expires idempotency keys and prunes the outbox in separate
statements, each of one batch; a poll returns at most one batch. -/
def clampedBatch (limit : Nat) : Nat := min (max limit 1) 1024

def pruneOutbox (session : Session) (limit : Nat) (db : Database) : Database :=
  { db with
    outbox := db.outbox.prune (session.now - outboxAgeMillis) (bigintBound - 1)
      (clampedBatch limit) }

/-- `changes`: the route changes after a cursor. -/
def routeChanges (db : Database) (cursor limit : Nat) : StoreResult (LogPoll RouteChange) := do
  require (cursor < bigintBound) (.invalidArgument "route cursor overflow")
  return db.outbox.poll cursor (clampedBatch limit)

end Sleepypods.Store
