import Sleepypods.Lifecycle.Invariants

/-! The effect barrier: while the outcome of a Kubernetes mutation is unknown, its marker keeps
the work it was begun for where it is. -/

set_option autoImplicit false

namespace Sleepypods.Lifecycle

open Library Store

/-- The columns a marker holds in place. -/
structure Frozen (before after : MaterializationRow) : Prop where
  instanceId : after.instanceId = before.instanceId
  reconcileAttempt : after.reconcileAttempt = before.reconcileAttempt
  instanceGeneration : after.instanceGeneration = before.instanceGeneration
  projectionGeneration : after.projectionGeneration = before.projectionGeneration
  renderedObjects : after.renderedObjects = before.renderedObjects
  exclusivityKeys : after.exclusivityKeys = before.exclusivityKeys

theorem Frozen.refl (row : MaterializationRow) : Frozen row row := ⟨rfl, rfl, rfl, rfl, rfl, rfl⟩

theorem Frozen.trans {first second third : MaterializationRow} (former : Frozen first second)
    (latter : Frozen second third) : Frozen first third where
  instanceId := latter.instanceId.trans former.instanceId
  reconcileAttempt := latter.reconcileAttempt.trans former.reconcileAttempt
  instanceGeneration := latter.instanceGeneration.trans former.instanceGeneration
  projectionGeneration := latter.projectionGeneration.trans former.projectionGeneration
  renderedObjects := latter.renderedObjects.trans former.renderedObjects
  exclusivityKeys := latter.exclusivityKeys.trans former.exclusivityKeys

def AcknowledgesExactly (request : AcknowledgeEffectRequest) (id : MaterializationId)
    (marker : EffectRow) : Prop :=
  request.materializationId = id ∧ request.owner = marker.leaseOwner ∧
    request.attempt = marker.leaseAttempt ∧ request.effectId = marker.effectId ∧
    request.instanceGeneration = marker.instanceGeneration

variable {marker : EffectRow}

theorem acknowledgesExactly_of_names {request : AcknowledgeEffectRequest}
    (named : request.names marker = true) :
    AcknowledgesExactly request request.materializationId marker := by
  simp only [AcknowledgeEffectRequest.names, Bool.and_eq_true, decide_eq_true_eq] at named
  obtain ⟨⟨⟨owner, attempt⟩, effectId⟩, generation⟩ := named
  exact ⟨rfl, owner.symm, attempt.symm, effectId.symm, generation.symm⟩

def Kept (state next : State) (id : MaterializationId) (marker : EffectRow) : Prop :=
  next.effects id = some marker ∧
    ∃ row after, state.work id = some row ∧ next.work id = some after ∧ Frozen row after

section kept

variable {state : State} {id : MaterializationId} {marker : EffectRow}

theorem kept_of_frame {next : State} (wf : WellFormed state)
    (marked : state.effects id = some marker) (sameEffects : next.effects = state.effects)
    (sameWork : next.work id = state.work id) : Kept state next id marker := by
  obtain ⟨row, found, -⟩ := wf.barred marked
  exact ⟨sameEffects ▸ marked, row, row, found, sameWork.trans found, .refl row⟩

/-- A rewrite of one row keeps the marker when it rewrites another row, or only columns that are
not frozen. -/
theorem kept_setWork {base : State} {other : MaterializationId} {old new : MaterializationRow}
    (wf : WellFormed state) (marked : state.effects id = some marker)
    (sameEffects : base.effects = state.effects) (sameWork : base.work = state.work)
    (found : state.work other = some old) (frozen : other = id → Frozen old new) :
    Kept state (base.setWork other new) id marker := by
  by_cases same : id = other
  · subst same
    exact ⟨sameEffects ▸ marked, old, new, found, State.work_setWork_eq_some.mpr (.inl ⟨rfl, rfl⟩),
      frozen rfl⟩
  · refine kept_of_frame wf marked sameEffects ?_
    rw [State.setWork_work, Function.update_of_ne same, sameWork]

theorem ne_of_resolved {other : MaterializationId} {conclusion : Prop}
    (marked : state.effects id = some marker) (resolved : state.effects other = none) :
    other = id → conclusion := by
  rintro rfl
  cases resolved.symm.trans marked

/-- Recording a projection of an instance without live work does not touch a marked row. -/
theorem ne_recorded {base : State} {request : RecordMaterializationRequest}
    {row : MaterializationRow} (found : base.work id = some row)
    (worked : row.state.isWork = true) (recordable : base.Recordable request)
    (idle : ∀ work row, base.work work = some row → row.instanceId = request.instanceId →
      row.state = .deleted) :
    id ≠ materializationId request.instanceId request.target := by
  rintro rfl
  exact isWork_ne_deleted worked (idle _ _ found (recordable row found).1)

end kept

variable {id : MaterializationId}

theorem Step.barrier {session : Session} {op : Op} {state next : State}
    (step : Step session op state next) (wf : WellFormed state) (unforced : op.isForce = false)
    (marked : state.effects id = some marker) :
    Kept state next id marker ∨
      ∃ request, op = .acknowledgeEffect request ∧ AcknowledgesExactly request id marker ∧
        next.effects id = none := by
  obtain ⟨row, stored, worked, -, -⟩ := wf.barred marked
  have frame {next : State} (sameEffects : next.effects = state.effects)
      (sameWork : next.work = state.work) : Kept state next id marker :=
    kept_of_frame wf marked sameEffects (congrFun sameWork id)
  cases step with
  | unchanged | created => exact .inl (frame rfl rfl)
  | removed _ cleaned =>
    refine .inl (kept_of_frame wf marked rfl ?_)
    rw [State.remove_work, stored]
    refine Option.filter_eq_some_iff.mpr ⟨rfl, decide_eq_true fun removed => ?_⟩
    exact isWork_ne_deleted worked (cleaned id row stored removed)
  | wakeStarted _ _ _ idle _ _ recordable =>
    have different := ne_recorded stored worked recordable idle
    refine .inl (kept_of_frame wf marked rfl ?_)
    exact Function.update_of_ne different ..
  | wakeDeferred | sleepBegunWithoutWork => exact .inl (frame rfl rfl)
  | sleepBegun _ _ _ foundRow =>
    exact .inl (kept_setWork wf marked rfl rfl foundRow fun _ => ⟨rfl, rfl, rfl, rfl, rfl, rfl⟩)
  | deletionAccepted found expected =>
    rename_i request _
    refine .inl ⟨by simpa using marked, row, deletionRewrite session request.instanceId row, stored,
      by simp [stored], ?_⟩
    obtain ⟨_, _, rewritten⟩ := deletionRewrite_eq session request.instanceId row
    rw [rewritten]
    exact ⟨rfl, rfl, rfl, rfl, rfl, rfl⟩
  | claimed found _ resolved =>
    exact .inl (kept_setWork wf marked rfl rfl found (ne_of_resolved marked resolved))
  | renewed held | failureRecorded held =>
    exact .inl (kept_setWork wf marked rfl rfl held.found
      fun _ => ⟨rfl, rfl, rfl, rfl, rfl, rfl⟩)
  | released held | workDeleted held =>
    exact .inl (kept_setWork wf marked rfl rfl held.found (ne_of_resolved marked held.resolved))
  | effectBegun held =>
    refine .inl ⟨?_, row, row, stored, stored, .refl row⟩
    exact (Function.update_of_ne (fun same => ne_of_resolved marked held.resolved same.symm) ..).trans
      marked
  | effectAcknowledged found named =>
    rename_i request _
    by_cases same : request.materializationId = id
    · subst same
      cases found.symm.trans marked
      exact .inr ⟨request, rfl, acknowledgesExactly_of_names named, Function.update_self ..⟩
    · refine .inl ⟨?_, row, row, stored, stored, .refl row⟩
      exact (Function.update_of_ne (Ne.symm same) ..).trans marked
  | wakeCompleted completable =>
    exact .inl (kept_setWork wf marked rfl rfl completable.found
      (ne_of_resolved marked completable.resolved))
  | sleepFinalized finalizable =>
    exact .inl (kept_setWork wf marked rfl rfl finalizable.found
      (ne_of_resolved marked finalizable.resolved))
  | deferredWakeActivated finalizable deferred next recordable =>
    rename_i request current deleting intent
    -- The drained row is another one, and no other row of the instance was live.
    have other : id ≠ request.materializationId := fun same =>
      ne_of_resolved marked finalizable.resolved same.symm
    have drained : (state.drain session request current deleting).work id = state.work id :=
      Function.update_of_ne other ..
    have different := ne_recorded (drained.trans stored) worked recordable
      fun _ _ => wf.idle_drain finalizable
    exact .inl (kept_of_frame wf marked rfl ((Function.update_of_ne different ..).trans drained))
  | wakeFailed held =>
    exact .inl (kept_setWork wf marked (State.failWake_effects ..) (State.failWake_work ..)
      held.found (ne_of_resolved marked held.resolved))
  | enqueued found _ _ resolved =>
    exact .inl (kept_setWork wf marked rfl rfl found (ne_of_resolved marked resolved))
  | forceDeleted | keyForceReleased => cases unforced

/-! ### Runs of the store -/

/-- No operation that would move work past its unresolved effect succeeds. -/
structure Blocked (db : Database) (id : MaterializationId) : Prop where
  claim : ∀ session request result after, request.materializationId = id →
    claimMaterializationReconciliation session request db = .ok (result, after) →
    result = none ∧ after = db
  release : ∀ session request result after, request.materializationId = id →
    releaseMaterializationReconciliationLease session request db = .ok (result, after) →
    result = false ∧ after = db
  enqueue : ∀ session result after, enqueueMaterialization session id db = .ok (result, after) →
    result = false ∧ after = db
  complete : ∀ session request result, request.materializationId = id →
    completeWakeReconciliation session request db ≠ .ok result
  finalize : ∀ session request result, request.materializationId = id →
    finalizeSleepReconciliation session request db ≠ .ok result
  delete : ∀ session request result, request.materializationId = id →
    deleteMaterializationReconciliation session request db ≠ .ok result

theorem blocked_of_marked {db : Database} (keyed : (view db).Keyed)
    (marked : (view db).effects id = some marker) : Blocked db id where
  claim := by
    rintro session request result after rfl claimed
    rcases claim_ok claimed with unchanged | ⟨_, _, -, -, resolved, -⟩
    · exact unchanged
    · exact ne_of_resolved marked resolved rfl
  release := by
    rintro session request result after rfl released
    rcases releaseLease_ok released with unchanged | ⟨-, _, held, -⟩
    · exact unchanged
    · exact ne_of_resolved marked held.resolved rfl
  enqueue := by
    intro session result after enqueued
    rcases enqueue_ok enqueued with unchanged | ⟨-, _, -, -, -, resolved, -⟩
    · exact unchanged
    · exact ne_of_resolved marked resolved rfl
  complete := by
    rintro session request ⟨result, after⟩ rfl completed
    obtain ⟨_, _, completable, -⟩ := completeWake_ok keyed completed
    exact ne_of_resolved marked completable.resolved rfl
  finalize := by
    rintro session request ⟨result, after⟩ rfl finalized
    obtain ⟨_, _, finalizable, -⟩ := finalizeSleep_ok keyed finalized
    exact ne_of_resolved marked finalizable.resolved rfl
  delete := by
    rintro session request ⟨result, after⟩ rfl deleted
    obtain ⟨_, held, -⟩ := deleteMaterialization_ok deleted
    exact ne_of_resolved marked held.resolved rfl

def MarkedPath (id : MaterializationId) (marker : EffectRow) : Database → Database → Prop :=
  Relation.ReflTransGen fun db after =>
    storeSystem.Next production db after ∧ after.effects.find? id = some marker

theorem MarkedPath.frozen {db later : Database} (path : MarkedPath id marker db later)
    (wf : WellFormed (view db)) (marked : db.effects.find? id = some marker)
    {row : MaterializationRow} (found : (view db).work id = some row) :
    WellFormed (view later) ∧ later.effects.find? id = some marker ∧
      ∃ laterRow, (view later).work id = some laterRow ∧ Frozen row laterRow := by
  induction path with
  | refl => exact ⟨wf, marked, row, found, .refl row⟩
  | tail _ last ih =>
    obtain ⟨laterWf, laterMarked, laterRow, laterFound, frozen⟩ := ih
    obtain ⟨⟨label, unforced, committed⟩, stays⟩ := last
    have step := commit_refines laterWf.keyed committed
    refine ⟨step.wellFormed laterWf, stays, ?_⟩
    rcases step.barrier laterWf unforced laterMarked with
      ⟨-, before, after, beforeFound, afterFound, kept⟩ | ⟨_, -, -, removed⟩
    · cases laterFound.symm.trans beforeFound
      exact ⟨after, afterFound, frozen.trans kept⟩
    · cases removed.symm.trans stays

/-- In every reachable state an effect marker blocks its work: the work is neither claimed,
released, enqueued nor completed, until the marker is removed its row keeps the frozen columns and
its instance and is neither ready nor deleted, and only the exact acknowledgement removes the
marker. -/
theorem effect_marker_bars_its_work {db : Database} {id : MaterializationId} {marker : EffectRow}
    (reachable : storeSystem.Reachable production db)
    (marked : db.effects.find? id = some marker) :
    Blocked db id ∧
      (∃ row, db.materializations.find? id = some row ∧
        ∀ later, MarkedPath id marker db later →
          ∃ laterRow, later.materializations.find? id = some laterRow ∧ Frozen row laterRow ∧
            laterRow.state ≠ .ready ∧ laterRow.state ≠ .deleted ∧
            (later.instances.find? laterRow.instanceId).isSome) ∧
      ∀ session op after, production (session, op) → commit session op db = .ok after →
        after.effects.find? id = some marker ∨
          ∃ request, op = .acknowledgeEffect request ∧ AcknowledgesExactly request id marker := by
  have wf := wellFormed_of_reachable reachable
  obtain ⟨row, found, -⟩ := wf.barred marked
  refine ⟨blocked_of_marked wf.keyed marked, ⟨row, found, fun later path => ?_⟩, ?_⟩
  · obtain ⟨laterWf, laterMarked, laterRow, laterFound, frozen⟩ := path.frozen wf marked found
    obtain ⟨_, sameFound, worked, -⟩ := laterWf.barred laterMarked
    cases laterFound.symm.trans sameFound
    obtain ⟨owner, ownerFound, -⟩ := laterWf.owned laterFound
    refine ⟨laterRow, laterFound, frozen, ?_, isWork_ne_deleted worked,
      Option.isSome_iff_exists.mpr ⟨owner, ownerFound⟩⟩
    intro ready
    rw [ready] at worked
    cases worked
  · intro session op after unforced committed
    rcases (commit_refines wf.keyed committed).barrier wf unforced marked with
      ⟨stays, -⟩ | ⟨request, acknowledged, exactly, -⟩
    · exact .inl stays
    · exact .inr ⟨request, acknowledged, exactly⟩

theorem sample_effect_marker_bars_its_work :
    ∃ db, storeSystem.Reachable production db ∧
      db.effects.find? Sample.work = some Sample.applyPod.marker ∧ Blocked db Sample.work := by
  obtain ⟨db, reachable, marked⟩ := exists_reachable_of_runOps Sample.applying
    (fun db => decide (db.effects.find? Sample.work = some Sample.applyPod.marker))
    (by decide : ∀ label ∈ Sample.applying, production label) (by decide)
  exact ⟨db, reachable, of_decide_eq_true marked,
    (effect_marker_bars_its_work reachable (of_decide_eq_true marked)).1⟩

end Sleepypods.Lifecycle
