import Sleepypods.Lifecycle.State
import Sleepypods.Store.Step

/-! The lifecycle rules: what a committed store operation can do to the lifecycle state. One
constructor states one rule, with everything the code checked before it applied the rule. -/

set_option autoImplicit false

namespace Sleepypods.Lifecycle

open Library Store

/-! ### Recording a projection -/

variable {state : State}

namespace State

/-- The row that recording a projection leaves: a new one, or the old one overwritten. -/
def recordedRow (state : State) (session : Session) (request : RecordMaterializationRequest) :
    MaterializationRow :=
  match state.work (materializationId request.instanceId request.target) with
  | none => newMaterializationRow session request
  | some old => beforeUpdate session old (overwrittenRow old request)

def record (state : State) (session : Session) (request : RecordMaterializationRequest) : State :=
  state.setWork (materializationId request.instanceId request.target)
    (state.recordedRow session request)

theorem work_record_self (state : State) (session : Session)
    (request : RecordMaterializationRequest) :
    (state.record session request).work (materializationId request.instanceId request.target) =
      some (state.recordedRow session request) :=
  Function.update_self ..

/-- The row a projection overwrites belongs to the same instance and target, and its backend
generation does not rewind. -/
def Recordable (state : State) (request : RecordMaterializationRequest) : Prop :=
  ∀ old, state.work (materializationId request.instanceId request.target) = some old →
    old.instanceId = request.instanceId ∧ old.target = request.target ∧
      old.backendGeneration ≤ request.backendGeneration

def Keyed (state : State) : Prop :=
  ∀ id row, state.work id = some row → id = materializationId row.instanceId row.target

theorem Keyed.setWork (keyed : state.Keyed) {id : MaterializationId} {row : MaterializationRow}
    (same : id = materializationId row.instanceId row.target) :
    (state.setWork id row).Keyed := by
  intro other otherRow found
  rcases work_setWork_eq_some.mp found with ⟨rfl, rfl⟩ | ⟨-, kept⟩
  · exact same
  · exact keyed other otherRow kept

end State

/-- The projection is the one the next incarnation of this instance must have. -/
structure Prepared (current : InstanceRow) (pending : RecordMaterializationRequest) : Prop where
  state_eq : pending.state = .pending
  generation_eq : pending.instanceGeneration = expectedWaking current
  projection_eq : pending.projectionGeneration = expectedWaking current + 1
  backend_eq : pending.backend = none

theorem ne_of_settled {current busy : InstanceState}
    (settled : current = .cold ∨ current = .failed) (other : busy ≠ .cold ∧ busy ≠ .failed) :
    current ≠ busy := by
  rintro rfl
  exact settled.elim other.1 other.2

section prepared

variable {current : InstanceRow} {pending : RecordMaterializationRequest}

theorem expectedWaking_gt (current : InstanceRow) :
    current.generation < expectedWaking current := by
  unfold expectedWaking
  split <;> omega

variable (prepared : Prepared current pending)

include prepared

theorem Prepared.generation_lt : current.generation < pending.instanceGeneration :=
  prepared.generation_eq ▸ expectedWaking_gt current

theorem Prepared.of_settled (settled : current.state = .cold ∨ current.state = .failed) :
    pending.instanceGeneration = current.generation + 1 ∧
      pending.projectionGeneration = current.generation + 2 := by
  have awake : current.state ≠ .draining := ne_of_settled settled (by decide)
  rw [prepared.generation_eq, prepared.projection_eq, expectedWaking, if_neg awake]
  exact ⟨rfl, rfl⟩

theorem Prepared.of_draining (draining : current.state = .draining) :
    pending.instanceGeneration = current.generation + 2 ∧
      pending.projectionGeneration = current.generation + 3 := by
  rw [prepared.generation_eq, prepared.projection_eq, expectedWaking, if_pos draining]
  exact ⟨rfl, rfl⟩

end prepared

/-- A backend generation at least the requested one and above every one of the target. -/
structure BackendAccepted (state : State) (pending : RecordMaterializationRequest)
    (accepted : Nat) : Prop where
  requested_le : pending.backendGeneration ≤ accepted
  above : ∀ work old, state.work work = some old → old.instanceId = pending.instanceId →
    old.target = pending.target → old.backendGeneration < accepted
  least : accepted = pending.backendGeneration ∨
    ∃ work old, state.work work = some old ∧ old.instanceId = pending.instanceId ∧
      old.target = pending.target ∧ accepted = old.backendGeneration + 1

structure LeasedRow (session : Session) (state : State) (id : MaterializationId) (owner : String)
    (attempt : Nat) (row : MaterializationRow) : Prop where
  found : state.work id = some row
  leased : row.leasedBy owner session.now = true
  attempt_eq : row.reconcileAttempt = attempt

structure CompletableRow (session : Session) (state : State) (id : MaterializationId)
    (owner : String) (attempt : Nat) (row : MaterializationRow) : Prop extends
    LeasedRow session state id owner attempt row where
  resolved : state.effects id = none

structure WakeCompletable (session : Session) (state : State)
    (request : CompleteWakeReconciliationRequest) (current : InstanceRow)
    (row : MaterializationRow) : Prop extends
    CompletableRow session state request.materializationId request.leaseOwner request.attempt
      row where
  pending : row.state = .pending
  owned : row.instanceId = request.complete.instanceId
  targeted : row.target = request.complete.target
  stamped : row.instanceGeneration = request.complete.expectedWakingGeneration
  instanceFound : state.instances request.complete.instanceId = some current
  waking : current.state = .waking
  expected : current.generation = request.complete.expectedWakingGeneration
  backend : row.backendGeneration ≤ request.complete.backendGeneration

structure SleepFinalizable (session : Session) (state : State)
    (request : FinalizeSleepReconciliationRequest) (current : InstanceRow)
    (row : MaterializationRow) : Prop extends
    CompletableRow session state request.materializationId request.leaseOwner request.attempt
      row where
  deleting : row.state = .deleting
  owned : row.instanceId = request.finalize.instanceId
  targeted : row.target = request.finalize.target
  stamped : row.instanceGeneration + 1 = request.finalize.expectedDrainingGeneration
  instanceFound : state.instances request.finalize.instanceId = some current
  draining : current.state = .draining
  expected : current.generation = request.finalize.expectedDrainingGeneration

def deferredIntent (pending : RecordMaterializationRequest) (accepted : Nat) :
    DeferredWakeIntent where
  instanceGeneration := pending.instanceGeneration
  projectionGeneration := pending.projectionGeneration
  target := pending.target
  backendGeneration := accepted
  renderedObjects := pending.renderedObjects
  exclusivityKeys := pending.exclusivityKeys

def activatedRequest (id : InstanceId) (intent : DeferredWakeIntent) :
    RecordMaterializationRequest where
  instanceId := id
  instanceGeneration := intent.instanceGeneration
  projectionGeneration := intent.projectionGeneration
  target := intent.target
  state := .pending
  backend := none
  backendGeneration := intent.backendGeneration
  renderedObjects := intent.renderedObjects
  exclusivityKeys := intent.exclusivityKeys

def completedRequest (complete : CompleteWakeRequest) (projection : Nat) :
    RecordMaterializationRequest where
  instanceId := complete.instanceId
  instanceGeneration := complete.expectedWakingGeneration + 1
  projectionGeneration := projection
  target := complete.target
  state := .ready
  backend := some complete.backend
  backendGeneration := complete.backendGeneration
  renderedObjects := complete.renderedObjects
  exclusivityKeys := normalizeExclusivityKeys complete.exclusivityKeys

/-- The state after an instance moved to a state under its next generation. -/
def State.advance (state : State) (id : InstanceId) (row : InstanceRow) (next : InstanceState) :
    State :=
  state.setInstance id { row with state := next, generation := row.generation + 1 }

theorem State.instances_advance_self {id other : InstanceId} {row : InstanceRow}
    {next : InstanceState} (same : other = id) :
    (state.advance id row next).instances other =
      some { row with state := next, generation := row.generation + 1 } :=
  State.instances_setInstance_eq_some.mpr (.inl ⟨same, rfl⟩)

def State.drain (state : State) (session : Session) (request : FinalizeSleepReconciliationRequest)
    (current : InstanceRow) (row : MaterializationRow) : State :=
  (state.advance request.finalize.instanceId current .cold).setWork request.materializationId
    (beforeUpdate session row
      { deletedRow row with
        instanceGeneration := request.finalize.expectedDrainingGeneration + 1 })

/-- The state after a deferred wake was started in place of a drained incarnation. -/
def State.activate (drained : State) (session : Session) (id : InstanceId) (current : InstanceRow)
    (intent : DeferredWakeIntent) : State :=
  ((drained.setDeferred id none).setInstance id
    { current with state := .waking, generation := intent.instanceGeneration }).record session
      (activatedRequest id intent)

/-- Deleting accepted: an instance that is already deleting keeps its generation. -/
def State.acceptDeletion (state : State) (id : InstanceId) (row : InstanceRow) : State :=
  if row.state = .deleting then state else state.advance id row .deleting

theorem State.deleting_acceptDeletion {id : InstanceId} {row : InstanceRow}
    (found : state.instances id = some row) :
    ∃ later, (state.acceptDeletion id row).instances id = some later ∧ later.state = .deleting := by
  unfold State.acceptDeletion
  split
  next deleting => exact ⟨row, found, deleting⟩
  · exact ⟨_, State.instances_advance_self rfl, rfl⟩

def deletionRewrite (session : Session) (id : InstanceId) (row : MaterializationRow) :
    MaterializationRow :=
  if row.instanceId = id ∧ row.state ≠ .deleted ∧ row.state ≠ .deleting then
    beforeUpdate session row { row with state := .deleting }
  else row

def cleanupRow (session : Session) (row : MaterializationRow) : MaterializationRow :=
  beforeUpdate session row { row with state := .deleting }

/-- A wake that fails in its own generation fails its instance. -/
def State.failWake (state : State) (generation : Nat) (id : InstanceId) (owner : InstanceRow) :
    State :=
  if owner.generation = generation ∧ owner.state = .waking then state.advance id owner .failed
  else state

section deletionRewrite

variable (session : Session) (id : InstanceId) (row : MaterializationRow)

@[simp]
theorem deletionRewrite_instanceId :
    (deletionRewrite session id row).instanceId = row.instanceId := by
  unfold deletionRewrite
  split <;> rfl

theorem deletionRewrite_eq : ∃ state schedule, deletionRewrite session id row =
    { row with state := state, schedule := schedule } := by
  unfold deletionRewrite
  split
  · exact ⟨_, _, rfl⟩
  · exact ⟨_, _, rfl⟩

theorem deletionRewrite_state :
    (deletionRewrite session id row).state =
      if row.instanceId = id ∧ row.state ≠ .deleted then .deleting else row.state := by
  unfold deletionRewrite
  cases state : row.state <;> split <;> simp_all

end deletionRewrite

section frames

variable (state : State) (generation : Nat) (id : InstanceId) (row : InstanceRow)

@[simp]
theorem State.failWake_work : (state.failWake generation id row).work = state.work := by
  unfold State.failWake
  split <;> rfl

@[simp]
theorem State.failWake_effects : (state.failWake generation id row).effects = state.effects := by
  unfold State.failWake
  split <;> rfl

@[simp]
theorem State.failWake_deferred : (state.failWake generation id row).deferred = state.deferred := by
  unfold State.failWake
  split <;> rfl

@[simp]
theorem State.acceptDeletion_work : (state.acceptDeletion id row).work = state.work := by
  unfold State.acceptDeletion
  split <;> rfl

@[simp]
theorem State.acceptDeletion_effects : (state.acceptDeletion id row).effects = state.effects := by
  unfold State.acceptDeletion
  split <;> rfl

end frames

/-! ### The rules -/

inductive Step (session : Session) : Op → State → State → Prop where
  | unchanged (op : Op) (state : State) : Step session op state state
  | created {request : CreateInstanceRequest} {validated : StoreResult (List (String × String))}
      {state : State} {row : InstanceRow}
      (absent : state.instances request.instanceId = none)
      (cold : row.state = .cold)
      (fresh : row.generation = insertedGeneration 0 (state.watermarks request.instanceId)) :
      Step session (.createInstance request validated) state
        (state.setInstance request.instanceId row)
  | removed {op : Op} {state : State} {ids : List InstanceId}
      (deleting : ∀ id ∈ ids, ∃ row, state.instances id = some row ∧ row.state = .deleting)
      (cleaned : ∀ work row, state.work work = some row → row.instanceId ∈ ids →
        row.state = .deleted)
      (unreferenced : ∀ work row, state.work work = some row → row.instanceId ∈ ids →
        state.effects work = none) :
      Step session op state (state.remove ids)
  | wakeStarted {request : AcceptWakeRequest} {state : State} {current : InstanceRow}
      {accepted : Nat}
      (found : state.instances request.pending.instanceId = some current)
      (settled : current.state = .cold ∨ current.state = .failed)
      (expected : current.generation = request.expectedGeneration)
      (idle : ∀ work row, state.work work = some row →
        row.instanceId = request.pending.instanceId → row.state = .deleted)
      (prepared : Prepared current request.pending)
      (backend : BackendAccepted state request.pending accepted)
      (recordable : state.Recordable { request.pending with backendGeneration := accepted }) :
      Step session (.acceptWake request) state
        ((state.advance request.pending.instanceId current .waking).record session
          { request.pending with backendGeneration := accepted })
  | wakeDeferred {request : AcceptWakeRequest} {state : State} {current : InstanceRow}
      {accepted : Nat}
      (found : state.instances request.pending.instanceId = some current)
      (draining : current.state = .draining)
      (expected : current.generation = request.expectedGeneration)
      (prepared : Prepared current request.pending)
      (backend : BackendAccepted state request.pending accepted)
      (absent : state.deferred request.pending.instanceId = none) :
      Step session (.acceptWake request) state
        (state.setDeferred request.pending.instanceId
          (some (deferredIntent request.pending accepted)))
  | sleepBegun {request : BeginSleepRequest} {state : State} {current : InstanceRow}
      {work : MaterializationId} {row : MaterializationRow}
      (found : state.instances request.instanceId = some current)
      (running : current.state = .running)
      (expected : current.generation = request.expectedRunningGeneration)
      (foundRow : state.work work = some row)
      (owned : row.instanceId = request.instanceId)
      (targeted : row.target = request.target)
      (live : row.state ≠ .deleted)
      (stamped : row.instanceGeneration = request.expectedRunningGeneration)
      (ready : request.minimumReadyAge ≠ none → row.state = .ready) :
      Step session (.beginSleep request) state
        ((state.advance request.instanceId current .draining).setWork work
          (beforeUpdate session row
            (drainingRow session (Duration.asMillis request.drainGraceTimeout) row)))
  | sleepBegunWithoutWork {request : BeginSleepRequest} {state : State} {current : InstanceRow}
      (found : state.instances request.instanceId = some current)
      (running : current.state = .running)
      (expected : current.generation = request.expectedRunningGeneration)
      (unaged : request.minimumReadyAge = none) :
      Step session (.beginSleep request) state
        (state.advance request.instanceId current .draining)
  | deletionAccepted {request : RequestInstanceDeletion} {state : State} {row : InstanceRow}
      (found : state.instances request.instanceId = some row)
      (expected : row.generation = request.expectedGeneration ∨
        (row.state = .deleting ∧ row.generation = request.expectedGeneration + 1)) :
      Step session (.requestInstanceDeletion request) state
        (((state.acceptDeletion request.instanceId row).setDeferred request.instanceId none).mapWork
          fun _ => deletionRewrite session request.instanceId)
  | claimed {request : ClaimRequest} {state : State} {row : MaterializationRow} {ttlMillis : Nat}
      (found : state.work request.materializationId = some row)
      (claimable : row.claimable session.now = true)
      (resolved : state.effects request.materializationId = none) :
      Step session (.claim request) state
        (state.setWork request.materializationId
          (beforeUpdate session row (claimedRow session request.owner ttlMillis row)))
  | renewed {request : RenewLeaseRequest} {state : State} {row : MaterializationRow}
      {lease : ReconcileLease}
      (held : LeasedRow session state request.materializationId request.owner request.attempt row)
      (stamped : row.instanceGeneration = request.instanceGeneration)
      (worked : row.state.isWork = true)
      (expected : row.state = request.expectedState)
      (sameOwner : lease.owner = request.owner) :
      Step session (.renewLease request) state
        (state.setWork request.materializationId
          (beforeUpdate session row { row with lease := some lease }))
  | released {request : ReleaseLeaseRequest} {state : State} {row : MaterializationRow}
      {schedule : WorkSchedule}
      (held : CompletableRow session state request.materializationId request.owner request.attempt
        row)
      (stamped : row.instanceGeneration = request.instanceGeneration)
      (worked : row.state.isWork = true) :
      Step session (.releaseLease request) state
        (state.setWork request.materializationId
          (beforeUpdate session row { row with lease := none, schedule := schedule }))
  | effectBegun {request : EffectRequest} {state : State} {row : MaterializationRow}
      (held : CompletableRow session state request.materializationId request.owner request.attempt
        row)
      (stamped : row.instanceGeneration = request.instanceGeneration)
      (expected : row.state = request.expectedState) :
      Step session (.beginEffect request) state
        (state.setEffect request.materializationId (some request.marker))
  | effectAcknowledged {request : AcknowledgeEffectRequest} {state : State} {marker : EffectRow}
      (found : state.effects request.materializationId = some marker)
      (named : request.names marker = true) :
      Step session (.acknowledgeEffect request) state
        (state.setEffect request.materializationId none)
  | wakeCompleted {request : CompleteWakeReconciliationRequest} {state : State}
      {current : InstanceRow} {row : MaterializationRow}
      (completable : WakeCompletable session state request current row) :
      Step session (.completeWake request) state
        ((state.advance request.complete.instanceId current .running).setWork
          request.materializationId
          (beforeUpdate session row
            (overwrittenRow row (completedRequest request.complete row.projectionGeneration))))
  | sleepFinalized {request : FinalizeSleepReconciliationRequest} {state : State}
      {current : InstanceRow} {row : MaterializationRow}
      (finalizable : SleepFinalizable session state request current row)
      (undeferred : state.deferred request.finalize.instanceId = none) :
      Step session (.finalizeSleep request) state (state.drain session request current row)
  | deferredWakeActivated {request : FinalizeSleepReconciliationRequest} {state : State}
      {current : InstanceRow} {row : MaterializationRow} {intent : DeferredWakeIntent}
      (finalizable : SleepFinalizable session state request current row)
      (deferred : state.deferred request.finalize.instanceId = some intent)
      (next : intent.instanceGeneration = request.finalize.expectedDrainingGeneration + 2)
      (recordable : (state.drain session request current row).Recordable
        (activatedRequest request.finalize.instanceId intent)) :
      Step session (.finalizeSleep request) state
        ((state.drain session request current row).activate session request.finalize.instanceId
          current intent)
  | workDeleted {request : DeleteMaterializationReconciliationRequest} {state : State}
      {row : MaterializationRow}
      (held : CompletableRow session state request.materializationId request.leaseOwner
        request.attempt row)
      (expected : row.state = request.expectedState)
      (owned : row.instanceId = request.instanceId)
      (targeted : row.target = request.target)
      (stamped : row.instanceGeneration = request.instanceGeneration) :
      Step session (.deleteMaterialization request) state
        (state.setWork request.materializationId (beforeUpdate session row (deletedRow row)))
  | failureRecorded {request : RecordFailureRequest} {state : State} {row : MaterializationRow}
      {kind : FailureKind} {count : Nat} {message : String}
      (held : LeasedRow session state request.materializationId request.owner request.attempt row)
      (stamped : row.instanceGeneration = request.generation)
      (expected : row.state = request.expectedState) :
      Step session (.recordFailure request) state
        (state.setWork request.materializationId
          (beforeUpdate session row (failedRow session count kind message false row)))
  | wakeFailed {request : RecordFailureRequest} {state : State} {row : MaterializationRow}
      {owner : InstanceRow} {kind : FailureKind} {count : Nat} {message : String}
      (held : CompletableRow session state request.materializationId request.owner request.attempt
        row)
      (stamped : row.instanceGeneration = request.generation)
      (expected : row.state = request.expectedState)
      (pending : row.state = .pending)
      (found : state.instances row.instanceId = some owner) :
      Step session (.recordFailure request) state
        ((state.failWake request.generation row.instanceId owner).setWork
          request.materializationId
          (beforeUpdate session (cleanupRow session row)
            (failedRow session count kind message true (cleanupRow session row))))
  | enqueued {id : MaterializationId} {state : State} {row : MaterializationRow}
      {schedule : WorkSchedule}
      (found : state.work id = some row)
      (schedulable : row.state.isWork = true ∨ row.state = .failed)
      (unleased : row.unleased session.now = true)
      (resolved : state.effects id = none) :
      Step session (.enqueue id) state
        (state.setWork id
          (beforeUpdate session row
            { row with
              state := if row.state = .failed then .deleting else row.state
              schedule := schedule }))
  | forceDeleted {request : ForceDeleteRequest} {state : State} {row : MaterializationRow}
      (found : state.work request.materializationId = some row) :
      Step session (.forceDelete request) state
        ((state.setEffect request.materializationId none).setWork request.materializationId
          (beforeUpdate session row (deletedRow row)))
  | keyForceReleased {request : ForceReleaseKeyRequest} {state : State}
      {rewrite : MaterializationId → MaterializationRow → MaterializationRow}
      (keysOnly : ∀ id row, ∃ keys schedule,
        rewrite id row = { row with exclusivityKeys := keys, schedule := schedule }) :
      Step session (.forceReleaseKey request) state (state.mapWork rewrite)

end Sleepypods.Lifecycle
