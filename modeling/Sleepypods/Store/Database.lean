import Sleepypods.Library.Fallible
import Sleepypods.Library.Table
import Sleepypods.Library.RetainedLog
import Sleepypods.Store.Rows

/-! The database of the control plane and the SQL statements its transactions are made of,
each with the triggers that fire on it. A statement that raises an error aborts its
transaction. -/

set_option autoImplicit false

namespace Sleepypods.Store

open Library Library.Fallible

structure Database where
  instances : Table InstanceId InstanceRow
  watermarks : Table InstanceId GenerationWatermark
  routeBindings : Table RouteBindingId RouteBindingRow
  materializations : Table MaterializationId MaterializationRow
  effects : Table MaterializationId EffectRow
  deferredWakes : Table InstanceId DeferredWakeIntent
  objectReservations : Table ObjectReservation MaterializationId
  keyReservations : Table KeyReservation MaterializationId
  idempotency : Table IdempotencyKey IdempotencyRecord
  outbox : RetainedLog RouteChange

def Database.empty : Database where
  instances := .empty
  watermarks := .empty
  routeBindings := .empty
  materializations := .empty
  effects := .empty
  deferredWakes := .empty
  objectReservations := .empty
  keyReservations := .empty
  idempotency := .empty
  outbox := .empty

/-- One above the largest `bigint`. -/
def bigintBound : Nat := 2 ^ 63

def fitsBigint (value : Int) : Bool :=
  decide (-(bigintBound : Int) ≤ value) && decide (value < bigintBound)

def bigintOutOfRange : StoreError :=
  .internal "Postgres query failed: code=22003 message=bigint out of range"

def generationToI64 (value : Nat) : StoreResult Unit :=
  require (value < bigintBound) (.invalidArgument "generation does not fit in Postgres bigint")

def backendGenerationToI64 (value : Nat) : StoreResult Unit :=
  require (value < bigintBound)
    (.invalidArgument "backend generation does not fit in Postgres bigint")

/-- Every `bigint` column of the row holds a `bigint`. -/
def MaterializationRow.fits (row : MaterializationRow) : Bool :=
  decide (row.instanceGeneration < bigintBound) && decide (row.projectionGeneration < bigintBound) &&
    decide (row.backendGeneration < bigintBound) && decide (row.reconcileAttempt < bigintBound) &&
    row.lease.all (fun lease => fitsBigint lease.expiresAt) &&
    fitsBigint row.schedule.stateEnteredAt && fitsBigint row.schedule.nextAttemptAt &&
    fitsBigint row.schedule.drainNotBefore && fitsBigint row.schedule.operationDeadline

/-- `reset_materialization_schedule`: new work starts with a fresh failure budget. -/
def resetMaterializationSchedule (session : Session) (old new : MaterializationRow) :
    MaterializationRow :=
  { new with
    schedule :=
      if (new.state ≠ old.state ∧ (new.state = .pending ∨ new.state = .deleting)) ∨
          new.instanceGeneration ≠ old.instanceGeneration then
        { new.schedule with
          wakeFailureMessage :=
            if new.state = .pending then "" else new.schedule.wakeFailureMessage
          failureRequiresCleanup := false
          failureCount := 0
          failureKind := none
          failureMessage := ""
          operationDeadline :=
            max session.now new.schedule.drainNotBefore + session.operationTimeoutMillis }
      else new.schedule }

/-- `track_materialization_state_age`. -/
def trackMaterializationStateAge (session : Session) (old new : MaterializationRow) :
    MaterializationRow :=
  { new with
    schedule :=
      if new.state ≠ old.state then
        { new.schedule with
          stateEnteredAt := session.now
          nextAttemptAt :=
            if new.schedule.nextAttemptAt = old.schedule.nextAttemptAt then session.now
            else new.schedule.nextAttemptAt
          drainNotBefore := if new.state ≠ .deleting then 0 else new.schedule.drainNotBefore }
      else new.schedule }

/-- The `BEFORE UPDATE` triggers, in the order of their names. -/
def beforeUpdate (session : Session) (old new : MaterializationRow) : MaterializationRow :=
  trackMaterializationStateAge session old (resetMaterializationSchedule session old new)

/-- Rows further than this behind the newest revision are trimmed by every append. -/
def outboxRetention : Nat := 100000

/-- `record_route_changes`: append the changes of one statement under the next revisions. -/
def recordRouteChanges (session : Session) (changes : List RouteChange) (db : Database) :
    StoreResult Database := do
  require (db.outbox.revision + changes.length < bigintBound) bigintOutOfRange
  return { db with outbox := db.outbox.append session.now outboxRetention changes }

def RouteBindingRow.change (removed : Bool) (id : RouteBindingId) (row : RouteBindingRow) :
    RouteChange :=
  .route removed id row.instanceId row.identityKind row.hostKind row.host row.pathPrefix row.protocol

def routeVisibleChange (old new : MaterializationRow) : Bool :=
  decide ((new.state, new.backend, new.backendGeneration, new.instanceGeneration,
      new.schedule.failureKind) ≠
    (old.state, old.backend, old.backendGeneration, old.instanceGeneration,
      old.schedule.failureKind))

/-! ### Reservations -/

/-- The API group of an `apiVersion`: the text before its slash, empty for the core group. -/
def apiGroup (apiVersion : String) : String :=
  if apiVersion.toList.contains '/' then
    String.ofList (apiVersion.toList.takeWhile fun c => decide (c ≠ '/'))
  else ""

def objectReservation (clusterId : String) (ref : RenderedObjectRef) : ObjectReservation where
  clusterId := clusterId
  apiGroup := apiGroup ref.apiVersion
  kind := ref.kind
  namespaceName := if ref.kind = "PersistentVolume" then "" else ref.namespaceName
  name := ref.name

def keyReservation (target : MaterializationTarget) (key : RenderedExclusivityKey) :
    KeyReservation where
  clusterId := target.clusterId
  namespaceName := target.namespaceName
  keyName := key.name
  keyValue := key.value

def ObjectReservation.columns (key : ObjectReservation) : List String :=
  [key.apiGroup, key.kind, key.namespaceName, key.name]

def KeyReservation.columns (key : KeyReservation) : List String := [key.keyName, key.keyValue]

def MaterializationRow.objectIdentities (row : MaterializationRow) : List ObjectReservation :=
  (row.renderedObjects.map (objectReservation row.target.clusterId)).dedup.insertionSort
    fun left right => left.columns ≤ right.columns

def MaterializationRow.keyIdentities (row : MaterializationRow) : List KeyReservation :=
  (row.exclusivityKeys.map (keyReservation row.target)).dedup.insertionSort
    fun left right => left.columns ≤ right.columns

def objectCollision (db : Database) (row : MaterializationRow) (key : ObjectReservation)
    (owner : MaterializationId) : StoreError :=
  let apiVersion := ((row.renderedObjects.find? fun ref =>
    decide (ref.kind = key.kind ∧ ref.name = key.name)).map RenderedObjectRef.apiVersion).getD
      key.apiGroup
  let ownerInstance := ((db.materializations.find? owner).map fun other =>
    other.instanceId.value).getD ""
  .invalidArgument ("rendered Kubernetes object ref collision: " ++ apiVersion ++ " " ++ key.kind ++
    " " ++ key.namespaceName ++ "/" ++ key.name ++
    " is already owned by active materialization for instance " ++ ownerInstance)

def exclusivityConflict (db : Database) (key : KeyReservation) (owner : MaterializationId) :
    StoreError :=
  .exclusivityConflict key.clusterId key.namespaceName key.keyName
    ((db.materializations.find? owner).map MaterializationRow.instanceId)
    ((db.materializations.find? owner).map MaterializationRow.instanceGeneration)

def reserveObject (id : MaterializationId) (row : MaterializationRow) (db : Database)
    (key : ObjectReservation) : StoreResult Database :=
  match db.objectReservations.find? key with
  | some owner => .error (objectCollision db row key owner)
  | none => .ok { db with objectReservations := db.objectReservations.insert key id }

def reserveKey (id : MaterializationId) (db : Database) (key : KeyReservation) :
    StoreResult Database :=
  match db.keyReservations.find? key with
  | some owner => .error (exclusivityConflict db key owner)
  | none => .ok { db with keyReservations := db.keyReservations.insert key id }

def releaseReservations (id : MaterializationId) (db : Database) : Database :=
  { db with
    objectReservations := db.objectReservations.filterRows fun _ owner => decide (owner ≠ id)
    keyReservations := db.keyReservations.filterRows fun _ owner => decide (owner ≠ id) }

/-- Whether an update leaves a materialization's reservations alone. -/
def sameReservations (old new : MaterializationRow) : Bool :=
  decide (new.state = old.state) && decide (new.renderedObjects = old.renderedObjects) &&
    decide (new.exclusivityKeys = old.exclusivityKeys) &&
    decide (new.target.clusterId = old.target.clusterId) &&
    decide (new.target.namespaceName = old.target.namespaceName)

/-- `sync_materialization_reservations`, after an insert (`old` is absent) or an update. -/
def syncReservations (id : MaterializationId) (old : Option MaterializationRow)
    (new : MaterializationRow) (db : Database) : StoreResult Database :=
  if old.any fun old => sameReservations old new then .ok db
  else if new.state = .deleted then .ok (releaseReservations id db)
  else do
    let reserved ← new.objectIdentities.foldlM (reserveObject id new) (releaseReservations id db)
    new.keyIdentities.foldlM (reserveKey id) reserved

end Sleepypods.Store
