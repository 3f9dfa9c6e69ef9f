import Sleepypods.Store.InstanceOps

/-! Durable lifecycle acceptance: wakes, deferred wakes, sleep and deletion. Kubernetes effects
belong to the reconciler. -/

set_option autoImplicit false

namespace Sleepypods.Store

open Library Library.Fallible

inductive StateTransitionReason where
  | operatorRequested
  | wakeRequested
  | materializationReady
  | sleepRequested
  | idleReported
  | drainCompleted
  | failureReported (message : String)
  | deleteRequested
  | deleteFinalized
  deriving DecidableEq

def transitionAllowed : InstanceState → InstanceState → StateTransitionReason → Bool
  | .cold, .waking, .wakeRequested => true
  | .cold, .deleting, .deleteRequested => true
  | .waking, .running, .materializationReady => true
  | .waking, .failed, .failureReported _ => true
  | .waking, .deleting, .deleteRequested => true
  | .running, .draining, .sleepRequested => true
  | .running, .draining, .idleReported => true
  | .running, .deleting, .deleteRequested => true
  | .draining, .cold, .drainCompleted => true
  | .draining, .waking, .wakeRequested => true
  | .draining, .deleting, .deleteRequested => true
  | .failed, .waking, .wakeRequested => true
  | .failed, .deleting, .deleteRequested => true
  | .deleting, .deleted, .deleteFinalized => true
  | _, _, _ => false

def InstanceState.debugText : InstanceState → String
  | .cold => "Cold"
  | .waking => "Waking"
  | .running => "Running"
  | .draining => "Draining"
  | .failed => "Failed"
  | .deleting => "Deleting"
  | .deleted => "Deleted"

def StateTransitionReason.debugText : StateTransitionReason → String
  | .operatorRequested => "OperatorRequested"
  | .wakeRequested => "WakeRequested"
  | .materializationReady => "MaterializationReady"
  | .sleepRequested => "SleepRequested"
  | .idleReported => "IdleReported"
  | .drainCompleted => "DrainCompleted"
  | .failureReported message => "FailureReported(\"" ++ message ++ "\")"
  | .deleteRequested => "DeleteRequested"
  | .deleteFinalized => "DeleteFinalized"

def validateInstanceStateTransition (current next : InstanceState)
    (reason : StateTransitionReason) : StoreResult Unit :=
  require (transitionAllowed current next reason = true)
    (.invalidArgument ("invalid instance state transition: " ++ InstanceState.debugText current ++
      " -> " ++ InstanceState.debugText next ++ " for " ++ reason.debugText))

/-- The row of an instance in a target: the pair is unique. -/
def findByTarget (db : Database) (instanceId : InstanceId) (target : MaterializationTarget) :
    Option (MaterializationId × MaterializationRow) :=
  db.materializations.select? fun _ row =>
    decide (row.instanceId = instanceId) && decide (row.target = target)

def newMaterializationRow (session : Session) (request : RecordMaterializationRequest) :
    MaterializationRow where
  instanceId := request.instanceId
  target := request.target
  instanceGeneration := request.instanceGeneration
  projectionGeneration := request.projectionGeneration
  state := request.state
  backend := request.backend
  backendGeneration := request.backendGeneration
  renderedObjects := request.renderedObjects
  exclusivityKeys := request.exclusivityKeys
  lease := none
  reconcileAttempt := 0
  schedule :=
    { stateEnteredAt := session.now
      nextAttemptAt := session.now
      drainNotBefore := 0
      wakeFailureMessage := ""
      failureRequiresCleanup := false
      failureCount := 0
      failureKind := none
      failureMessage := ""
      operationDeadline := session.now + session.operationTimeoutMillis }

/-- The columns a conflicting insert overwrites: all but the counters and the schedule. -/
def overwrittenRow (old : MaterializationRow) (request : RecordMaterializationRequest) :
    MaterializationRow :=
  { old with
    instanceGeneration := request.instanceGeneration
    projectionGeneration := request.projectionGeneration
    state := request.state
    backend := request.backend
    backendGeneration := request.backendGeneration
    renderedObjects := request.renderedObjects
    exclusivityKeys := request.exclusivityKeys
    lease := none }

/-- Insert the row of an instance and target, or overwrite it in place under its id. -/
def upsertMaterialization (session : Session) (request : RecordMaterializationRequest)
    (db : Database) : StoreResult (MaterializationRow × Database) := do
  generationToI64 request.instanceGeneration
  generationToI64 request.projectionGeneration
  backendGenerationToI64 request.backendGeneration
  match findByTarget db request.instanceId request.target with
  | none =>
    let row := newMaterializationRow session request
    let after ← insertMaterialization session
      (materializationId request.instanceId request.target) row db
    return (row, after)
  | some (id, old) =>
    require (old.backendGeneration ≤ request.backendGeneration)
      (.invalidArgument ("materialization backend generation rewind rejected: existing backend " ++
        "generation " ++ toString old.backendGeneration ++
        " is newer than reported backend generation " ++ toString request.backendGeneration))
    let after ← updateMaterialization session id old (overwrittenRow old request) db
    return (beforeUpdate session old (overwrittenRow old request), after)

/-! ### Accepting a wake -/

/-- The backend generation of an accepted wake: above every one its target ever had. -/
def acceptedBackendGeneration (db : Database) (pending : RecordMaterializationRequest) :
    StoreResult Nat :=
  match ((db.materializations.entries.filter fun entry =>
      decide (entry.2.instanceId = pending.instanceId) &&
        decide (entry.2.target = pending.target)).map fun entry => entry.2.backendGeneration).max? with
  | none => .ok pending.backendGeneration
  | some previous => do
      require (previous + 1 < bigintBound) (.invalidArgument "backend generation exhausted")
      return max pending.backendGeneration (previous + 1)

/-- A replay observes the wake that was already accepted. -/
def replayWake (pending : RecordMaterializationRequest) (current : InstanceRow) (db : Database) :
    StoreResult (InstanceRow × Database) := do
  require (db.materializations.any (fun _ row =>
      decide (row.instanceId = pending.instanceId) && decide (row.target = pending.target) &&
        decide (row.state = .pending)) = true)
    (.invalidArgument "wake already accepted for another target")
  return (current, db)

/-- A wake of a draining instance is kept until the drain is finalized. -/
def deferWake (pending : RecordMaterializationRequest) (current : InstanceRow) (db : Database) :
    StoreResult (InstanceRow × Database) := do
  generationToI64 pending.instanceGeneration
  generationToI64 pending.projectionGeneration
  backendGenerationToI64 pending.backendGeneration
  match db.deferredWakes.find? pending.instanceId with
  | some intent =>
    require (intent.target = pending.target)
      (.invalidArgument "wake already accepted for another target")
    return (current, db)
  | none =>
    return (current,
      { db with
        deferredWakes := db.deferredWakes.insert pending.instanceId
          { instanceGeneration := pending.instanceGeneration
            projectionGeneration := pending.projectionGeneration
            target := pending.target
            backendGeneration := pending.backendGeneration
            renderedObjects := pending.renderedObjects
            exclusivityKeys := pending.exclusivityKeys } })

def startWake (session : Session) (pending : RecordMaterializationRequest) (current : InstanceRow)
    (db : Database) : StoreResult (InstanceRow × Database) := do
  generationToI64 pending.instanceGeneration
  let waking ← updateInstance session pending.instanceId current .waking
    pending.instanceGeneration db
  let (_, after) ← upsertMaterialization session pending waking
  return ({ current with state := .waking, generation := pending.instanceGeneration }, after)

/-- The waking generation a wake of this instance must have been prepared for. -/
def expectedWaking (current : InstanceRow) : Nat :=
  if current.state = .draining then current.generation + 2 else current.generation + 1

def acceptWake (session : Session) (request : AcceptWakeRequest) (db : Database) :
    StoreResult (InstanceRow × Database) := do
  let pending := request.pending
  let current ← orError (db.instances.find? pending.instanceId) (.notFound "instance")
  if current.state = .waking ∧ current.generation = pending.instanceGeneration then
    replayWake pending current db
  else
    require (current.generation = request.expectedGeneration)
      (.generationConflict request.expectedGeneration current.generation)
    require (current.state = .cold ∨ current.state = .failed ∨ current.state = .draining)
      (.invalidArgument "wake acceptance requires cold, failed, or draining instance")
    require (current.state = .draining ∨ hasLiveMaterialization db pending.instanceId = false)
      (.unavailable "previous materialization cleanup is still pending")
    require (pending.state = .pending ∧ pending.instanceGeneration = expectedWaking current ∧
        pending.projectionGeneration = expectedWaking current + 1 ∧ pending.backend = none)
      (.invalidArgument "accepted wake projection does not match its next incarnation")
    let backendGeneration ← acceptedBackendGeneration db pending
    let accepted := { pending with backendGeneration := backendGeneration }
    if current.state = .draining then deferWake accepted current db
    else startWake session accepted current db

/-- `activate_deferred_wake`, inside the transaction that finalized the drain. -/
def activateDeferredWake (session : Session) (id : InstanceId) (db : Database) :
    StoreResult (Option InstanceRow × Database) :=
  match db.deferredWakes.find? id with
  | none => .ok (none, db)
  | some intent => do
      let current ← orError
        ((db.instances.find? id).filter fun row =>
          decide (row.state = .cold) && decide (row.generation + 1 = intent.instanceGeneration))
        (.invalidArgument "deferred wake no longer matches drained incarnation")
      let waking ← updateInstance session id current .waking intent.instanceGeneration
        { db with deferredWakes := db.deferredWakes.erase id }
      let (_, after) ← upsertMaterialization session
        { instanceId := id
          instanceGeneration := intent.instanceGeneration
          projectionGeneration := intent.projectionGeneration
          target := intent.target
          state := .pending
          backend := none
          backendGeneration := intent.backendGeneration
          renderedObjects := intent.renderedObjects
          exclusivityKeys := intent.exclusivityKeys } waking
      return (some { current with state := .waking, generation := intent.instanceGeneration }, after)

/-- Automatic sleep: the generation must have been ready for a minimum age. -/
def checkReadyAge (session : Session) (request : BeginSleepRequest) (db : Database) :
    StoreResult Unit :=
  match request.minimumReadyAge with
  | none => .ok ()
  | some minimumReadyAge => do
      require (Duration.asMillis minimumReadyAge < bigintBound)
        (.invalidArgument "minimum Ready age exceeds database range")
      generationToI64 request.expectedRunningGeneration
      let row ← orError
        (readyMaterialization db request.instanceId request.expectedRunningGeneration request.target)
        (.invalidArgument "automatic sleep requires this generation's Ready materialization")
      let notBefore := row.schedule.stateEnteredAt + Duration.asMillis minimumReadyAge
      require (fitsBigint notBefore = true)
        (.invalidArgument "activation deadline exceeds database range")
      require (notBefore ≤ session.now) (.sleepDeferred (notBefore - session.now))

def drainingRow (session : Session) (grace : Nat) (old : MaterializationRow) : MaterializationRow :=
  { old with
    state := .deleting
    backend := none
    lease := none
    schedule := { old.schedule with drainNotBefore := session.now + grace } }

def markDeletingForSleep (session : Session) (request : BeginSleepRequest) (db : Database) :
    StoreResult (Option MaterializationRow × Database) := do
  generationToI64 request.expectedRunningGeneration
  let grace := Duration.asMillis request.drainGraceTimeout
  require (grace < bigintBound) (.invalidArgument "drain grace timeout is too large")
  match (findByTarget db request.instanceId request.target).filter
      fun entry => decide (entry.2.state ≠ .deleted) with
  | none => return (none, db)
  | some (id, old) =>
    require (old.instanceGeneration = request.expectedRunningGeneration)
      (.generationConflict request.expectedRunningGeneration old.instanceGeneration)
    let after ← updateMaterialization session id old (drainingRow session grace old) db
    return (some (beforeUpdate session old (drainingRow session grace old)), after)

def beginSleep (session : Session) (request : BeginSleepRequest) (db : Database) :
    StoreResult ((InstanceRow × Option MaterializationRow) × Database) := do
  let current ← orError (db.instances.find? request.instanceId) (.notFound "instance")
  require (current.generation = request.expectedRunningGeneration)
    (.generationConflict request.expectedRunningGeneration current.generation)
  validateInstanceStateTransition current.state .draining .idleReported
  checkReadyAge session request db
  generationToI64 (request.expectedRunningGeneration + 1)
  let draining ← updateInstance session request.instanceId current .draining
    (request.expectedRunningGeneration + 1) db
  let (materialization, after) ← markDeletingForSleep session request draining
  return (({ current with state := .draining,
                          generation := request.expectedRunningGeneration + 1 },
    materialization), after)

/-- Accept deletion: the instance and its work move to deleting; leases and drain deadlines are
kept. -/
def requestInstanceDeletion (session : Session) (request : RequestInstanceDeletion)
    (db : Database) : StoreResult (Bool × Database) := do
  generationToI64 request.expectedGeneration
  match db.instances.find? request.instanceId with
  | none => return (false, db)
  | some row =>
    require (row.generation = request.expectedGeneration ∨
        (row.state = .deleting ∧ row.generation = request.expectedGeneration + 1))
      (.generationConflict request.expectedGeneration row.generation)
    let deleting ←
      if row.state = .deleting then pure db
      else do
        generationToI64 (row.generation + 1)
        updateInstance session request.instanceId row .deleting (row.generation + 1) db
    let after ← updateMaterializations session
      (fun _ work => decide (work.instanceId = request.instanceId) &&
        !(decide (work.state = .deleted) || decide (work.state = .deleting)))
      (fun work => { work with state := .deleting })
      { deleting with deferredWakes := deleting.deferredWakes.erase request.instanceId }
    return (true, after)

/-- Deleting instances whose work is all deleted, in id order, skipping rows that another
transaction has locked. -/
def deletableInstances (db : Database) (locked : InstanceId → Bool) : List InstanceId :=
  ((db.instances.entries.filter fun entry =>
    decide (entry.2.state = .deleting) && !hasLiveMaterialization db entry.1 &&
      !locked entry.1).map Prod.fst).insertionSort fun left right => left.value ≤ right.value

def finalizeInstanceDeletions (session : Session) (limit : Nat) (locked : InstanceId → Bool)
    (db : Database) : StoreResult (Nat × Database) := do
  require (limit < bigintBound) (.invalidArgument "deletion batch too large")
  let completed := (deletableInstances db locked).take limit
  let after ← deleteInstances session completed db
  return (completed.length, after)

end Sleepypods.Store
