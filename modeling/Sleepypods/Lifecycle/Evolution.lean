import Sleepypods.Lifecycle.Invariants

/-! How rows evolve: watermarks never fall, and a work row either keeps its generation, and with
it its counters and its direction, or gets a generation its instance id never had before. -/

set_option autoImplicit false

namespace Sleepypods.Lifecycle

open Library Store State

def Grows (state next : State) : Prop :=
  ∀ id watermark, state.watermarks id = some watermark →
    ∃ later, next.watermarks id = some later ∧ watermark.lastGeneration ≤ later.lastGeneration

variable {state next : State}

theorem grows_of_eq (same : next.watermarks = state.watermarks) :
    Grows state next :=
  fun _ watermark found => ⟨watermark, same ▸ found, Nat.le_refl _⟩

theorem Grows.trans {first second third : State} (former : Grows first second)
    (latter : Grows second third) : Grows first third := by
  intro id watermark found
  obtain ⟨middle, middleFound, first⟩ := former id watermark found
  obtain ⟨later, laterFound, second⟩ := latter id middle middleFound
  exact ⟨later, laterFound, first.trans second⟩

theorem grows_setInstance (state : State) (id : InstanceId) (row : InstanceRow) :
    Grows state (state.setInstance id row) := by
  intro other watermark found
  by_cases same : other = id
  · subst same
    refine ⟨_, Function.update_self .., ?_⟩
    rw [found]
    exact Nat.le_max_left ..
  · exact ⟨watermark, (Function.update_of_ne same ..).trans found, Nat.le_refl _⟩

variable {session : Session} {op : Op}

theorem Step.grows (step : Step session op state next) : Grows state next := by
  cases step with
  | unchanged | removed | wakeDeferred | claimed | renewed | released | effectBegun
  | effectAcknowledged | workDeleted | failureRecorded | enqueued | forceDeleted
  | keyForceReleased => exact grows_of_eq rfl
  | created | wakeStarted | sleepBegun | sleepBegunWithoutWork | wakeCompleted | sleepFinalized =>
    exact grows_setInstance state _ _
  | deletionAccepted found expected =>
    rename_i request row
    refine Grows.trans ?_ (grows_of_eq rfl : Grows (state.acceptDeletion request.instanceId row) _)
    unfold acceptDeletion
    split
    · exact grows_of_eq rfl
    · exact grows_setInstance _ _ _
  | deferredWakeActivated finalizable deferred next recordable =>
    rename_i request current row intent
    have drained : Grows state (state.drain session request current row) :=
      grows_setInstance state _ _
    exact drained.trans (grows_setInstance (state.drain session request current row) _ _)
  | wakeFailed held stamped expected pending found =>
    rename_i request row owner _ _ _
    refine Grows.trans ?_
      (grows_of_eq rfl : Grows (state.failWake request.generation row.instanceId owner) _)
    unfold failWake
    split
    · exact grows_setInstance _ _ _
    · exact grows_of_eq rfl

variable {id : InstanceId}

variable {row : InstanceRow}

/-! ### Instances -/

inductive Moves (state next : State) (id : InstanceId) : Prop where
  | kept (instances : next.instances id = state.instances id)
      (watermarks : next.watermarks id = state.watermarks id)
      (deferred : ∀ row, state.instances id = some row → row.state = .draining →
        next.deferred id = state.deferred id)
  | deferred {row : InstanceRow} {intent : DeferredWakeIntent}
      (found : state.instances id = some row)
      (draining : row.state = .draining) (absent : state.deferred id = none)
      (stored : next.deferred id = some intent)
      (instances : next.instances id = state.instances id)
  | created {row : InstanceRow} (absent : state.instances id = none) (cold : row.state = .cold)
      (fresh : row.generation = insertedGeneration 0 (state.watermarks id))
      (stored : next.instances id = some row)
  | removed {row : InstanceRow} (found : state.instances id = some row)
      (deleting : row.state = .deleting) (gone : next.instances id = none)
      (watermarks : next.watermarks id = state.watermarks id)
  | advanced {row : InstanceRow} {later : InstanceState} (found : state.instances id = some row)
      (live : row.state ≠ .deleting)
      (undeferred : later ≠ .deleting → row.state = .draining → state.deferred id = none)
      (stored : next.instances id =
        some { row with state := later, generation := row.generation + 1 })
  | activated {row : InstanceRow} (found : state.instances id = some row)
      (draining : row.state = .draining)
      (stored : next.instances id =
        some { row with state := .waking, generation := row.generation + 2 })

theorem moves_advance {other : InstanceId} {later : InstanceState}
    (found : state.instances other = some row) (live : row.state ≠ .deleting)
    (undeferred : later ≠ .deleting → row.state = .draining → state.deferred other = none)
    (instances : next.instances = (state.advance other row later).instances)
    (watermarks : next.watermarks = (state.advance other row later).watermarks)
    (deferred : id ≠ other → next.deferred id = state.deferred id) : Moves state next id := by
  by_cases same : id = other
  · subst same
    exact .advanced found live undeferred
      ((congrFun instances id).trans (instances_advance_self rfl))
  · exact .kept ((congrFun instances id).trans (Function.update_of_ne same ..))
      ((congrFun watermarks id).trans (Function.update_of_ne same ..))
      (fun _ _ _ => deferred same)

theorem Step.moves (step : Step session op state next) (id : InstanceId) : Moves state next id := by
  cases step with
  | unchanged | claimed | renewed | released | effectBegun | effectAcknowledged | workDeleted
  | failureRecorded | enqueued | forceDeleted | keyForceReleased =>
    exact .kept rfl rfl fun _ _ _ => rfl
  | created absent cold fresh =>
    rename_i request _ row
    by_cases same : id = request.instanceId
    · subst same
      exact .created absent cold fresh (Function.update_self ..)
    · exact .kept (Function.update_of_ne same ..) (Function.update_of_ne same ..)
        fun _ _ _ => rfl
  | removed deleting cleaned unreferenced =>
    rename_i ids
    by_cases member : id ∈ ids
    · obtain ⟨row, found, isDeleting⟩ := deleting id member
      exact .removed found isDeleting (by rw [remove_instances, if_pos member]) rfl
    · exact .kept (by rw [remove_instances, if_neg member]) rfl
        fun _ _ _ => by rw [remove_deferred, if_neg member]
  | wakeStarted found settled =>
    exact moves_advance found (ne_of_settled settled (by decide))
      (fun _ draining => absurd draining (ne_of_settled settled (by decide))) rfl rfl fun _ => rfl
  | wakeDeferred found draining expected prepared backend absent =>
    rename_i request current accepted
    by_cases same : id = request.pending.instanceId
    · subst same
      exact .deferred found draining absent (Function.update_self ..) rfl
    · exact .kept rfl rfl fun _ _ _ => Function.update_of_ne same ..
  | sleepBegun found running | sleepBegunWithoutWork found running =>
    exact moves_advance found (running.symm ▸ (by decide))
      (fun _ draining => by cases running.symm.trans draining) rfl rfl fun _ => rfl
  | deletionAccepted found expected =>
    rename_i request row
    by_cases deleting : row.state = .deleting
    · refine .kept ?_ ?_ ?_
      · simp [acceptDeletion, deleting]
      · simp [acceptDeletion, deleting]
      · intro other otherFound draining
        by_cases same : id = request.instanceId
        · subst same
          cases found.symm.trans otherFound
          cases deleting.symm.trans draining
        · simp [acceptDeletion, deleting, Function.update_of_ne same]
    · have accepted : state.acceptDeletion request.instanceId row =
          state.advance request.instanceId row .deleting := if_neg deleting
      refine moves_advance found deleting (fun other => absurd rfl other) ?_ ?_ ?_
      · rw [accepted]
        rfl
      · rw [accepted]
        rfl
      · intro different
        simp [accepted, Function.update_of_ne different, advance]
  | wakeCompleted completable =>
    exact moves_advance completable.instanceFound (completable.waking.symm ▸ (by decide))
      (fun _ draining => by cases completable.waking.symm.trans draining) rfl rfl fun _ => rfl
  | sleepFinalized finalizable undeferred =>
    exact moves_advance finalizable.instanceFound (finalizable.draining.symm ▸ (by decide))
      (fun _ _ => undeferred) rfl rfl fun _ => rfl
  | deferredWakeActivated finalizable deferred next recordable =>
    rename_i request current row intent
    by_cases same : id = request.finalize.instanceId
    · subst same
      refine .activated finalizable.instanceFound finalizable.draining ?_
      have generation : intent.instanceGeneration = current.generation + 2 := by
        rw [next, finalizable.expected]
      exact (Function.update_self ..).trans (by rw [generation])
    · exact .kept
        ((Function.update_of_ne same ..).trans (Function.update_of_ne same ..))
        ((Function.update_of_ne same ..).trans (Function.update_of_ne same ..))
        fun _ _ _ => Function.update_of_ne same ..
  | wakeFailed held stamped expected pending found =>
    rename_i request row owner kind count message
    by_cases failing : owner.generation = request.generation ∧ owner.state = .waking
    · have failed : state.failWake request.generation row.instanceId owner =
          state.advance row.instanceId owner .failed := if_pos failing
      have instances := congrArg instances failed
      have watermarks := congrArg watermarks failed
      exact moves_advance found (failing.2.symm ▸ (by decide))
        (fun _ draining => by cases failing.2.symm.trans draining) instances watermarks
        fun _ => by simp
    · have kept : state.failWake request.generation row.instanceId owner = state :=
        if_neg failing
      exact .kept (by rw [setWork_instances, kept]) (by rw [setWork_watermarks, kept])
        fun _ _ _ => by simp

/-- An instance whose deletion was accepted stays deleting until it is removed. -/
theorem Step.deleting_stays (step : Step session op state next) {later : InstanceRow}
    (found : state.instances id = some row) (deleting : row.state = .deleting)
    (stored : next.instances id = some later) : later.state = .deleting := by
  have same (kept : next.instances id = state.instances id) : later.state = .deleting := by
    cases found.symm.trans (kept.symm.trans stored)
    exact deleting
  cases step.moves id with
  | kept instances => exact same instances
  | deferred _ _ _ _ instances => exact same instances
  | created absent => cases absent.symm.trans found
  | removed _ _ gone => cases gone.symm.trans stored
  | advanced there live =>
    cases found.symm.trans there
    exact absurd deleting live
  | activated there draining =>
    cases found.symm.trans there
    cases deleting.symm.trans draining

/-- An instance row that stands after a step is as it was, or at a generation its id never had. -/
def InstanceEvolves (state : State) (id : InstanceId) (after : InstanceRow) : Prop :=
  (∃ before, state.instances id = some before ∧ after.state = before.state ∧
      after.generation = before.generation) ∨
    ∀ watermark, state.watermarks id = some watermark →
      watermark.lastGeneration < after.generation

theorem WellFormed.lt_of_watermark (wf : WellFormed state) {current : InstanceRow}
    (found : state.instances id = some current) {generation : Nat}
    (above : current.generation < generation) :
    ∀ watermark, state.watermarks id = some watermark →
      watermark.lastGeneration < generation := by
  intro watermark watermarkFound
  obtain ⟨_, sameFound, last⟩ := wf.watermarked found
  cases watermarkFound.symm.trans sameFound
  exact last ▸ above

theorem Step.instance_eq_or_above (step : Step session op state next) (wf : WellFormed state)
    {after : InstanceRow} (stored : next.instances id = some after) :
    state.instances id = some after ∨ ∀ watermark, state.watermarks id = some watermark →
      watermark.lastGeneration < after.generation := by
  cases step.moves id with
  | kept instances => exact .inl (instances ▸ stored)
  | deferred _ _ _ _ instances => exact .inl (instances ▸ stored)
  | created _ _ fresh created =>
    cases stored.symm.trans created
    refine .inr fun watermark found => ?_
    rw [fresh, found]
    exact Nat.lt_of_lt_of_le (Nat.lt_succ_self _) (Nat.le_max_right ..)
  | removed _ _ gone => cases gone.symm.trans stored
  | advanced found _ _ advanced =>
    cases stored.symm.trans advanced
    exact .inr (wf.lt_of_watermark found (Nat.lt_succ_self _))
  | activated found _ activated =>
    cases stored.symm.trans activated
    exact .inr (wf.lt_of_watermark found (Nat.lt_add_of_pos_right Nat.two_pos))

theorem Step.instanceEvolves (step : Step session op state next) (wf : WellFormed state)
    {after : InstanceRow} (stored : next.instances id = some after) :
    InstanceEvolves state id after := by
  rcases step.instance_eq_or_above wf stored with kept | above
  · exact .inl ⟨after, kept, rfl, rfl⟩
  · exact .inr above

/-! ### Rows -/

/-- A row that kept its generation: its attempt counter did not fall, a lease only appears with a
new attempt, and it did not become pending. -/
structure Evolves (before after : MaterializationRow) : Prop where
  instanceId : after.instanceId = before.instanceId
  generation : after.instanceGeneration = before.instanceGeneration
  attempt : (after.reconcileAttempt = before.reconcileAttempt ∧
      (before.lease = none → after.lease = none)) ∨
    after.reconcileAttempt = before.reconcileAttempt + 1
  state : after.state = before.state ∨ after.state ≠ .pending

theorem Evolves.refl (row : MaterializationRow) : Evolves row row :=
  ⟨rfl, rfl, .inl ⟨rfl, id⟩, .inl rfl⟩

/-- The row is at a generation that its instance id never had in this state. -/
def AboveWatermark (state : State) (row : MaterializationRow) : Prop :=
  ∀ watermark, state.watermarks row.instanceId = some watermark →
    watermark.lastGeneration < row.instanceGeneration

variable {row : MaterializationRow}

theorem WellFormed.aboveWatermark (wf : WellFormed state) {current : InstanceRow}
    (found : state.instances id = some current) (owned : row.instanceId = id)
    (above : current.generation < row.instanceGeneration) : AboveWatermark state row := by
  subst owned
  exact wf.lt_of_watermark found above

def RowEvolves (state : State) (id : MaterializationId) (after : MaterializationRow) : Prop :=
  (∃ before, state.work id = some before ∧ Evolves before after) ∨ AboveWatermark state after

variable {id : MaterializationId}

/-- A pending row carries what its wake asked for. -/
structure Records (instanceId : InstanceId) (intent : DeferredWakeIntent)
    (row : MaterializationRow) : Prop where
  instanceId : row.instanceId = instanceId
  state : row.state = .pending
  generation : row.instanceGeneration = intent.instanceGeneration
  projection : row.projectionGeneration = intent.projectionGeneration
  backend : row.backendGeneration = intent.backendGeneration

theorem records_recordedRow {request : RecordMaterializationRequest}
    (recordable : state.Recordable request) (pending : request.state = .pending) :
    Records request.instanceId (deferredIntent request request.backendGeneration)
      (state.recordedRow session request) :=
  ⟨recordedRow_instanceId session recordable, (recordedRow_state ..).trans pending,
    recordedRow_instanceGeneration .., recordedRow_projectionGeneration ..,
    recordedRow_backendGeneration ..⟩

/-- How a work row that stands after a step came about. -/
inductive WorkOrigin (session : Session) (op : Op) (state : State) (id : MaterializationId)
    (after : MaterializationRow) : Prop where
  | kept (found : state.work id = some after)
  | evolved {before : MaterializationRow} (found : state.work id = some before)
      (instanceId : after.instanceId = before.instanceId) (target : after.target = before.target)
      (generation : after.instanceGeneration = before.instanceGeneration)
      (projection : after.projectionGeneration = before.projectionGeneration)
      (backend : after.backendGeneration = before.backendGeneration)
      (attempt : (after.reconcileAttempt = before.reconcileAttempt ∧
          (before.lease = none → after.lease = none)) ∨
        after.reconcileAttempt = before.reconcileAttempt + 1)
      (moves : after.state = before.state ∨ after.state = .deleting ∨ after.state = .deleted)
  | completed {request : CompleteWakeReconciliationRequest} {current : InstanceRow}
      {before : MaterializationRow} (called : op = .completeWake request)
      (named : request.materializationId = id)
      (completable : WakeCompletable session state request current before)
      (written : after = beforeUpdate session before
        (overwrittenRow before (completedRequest request.complete before.projectionGeneration)))
  | finalized {request : FinalizeSleepReconciliationRequest} {current : InstanceRow}
      {before : MaterializationRow} (named : request.materializationId = id)
      (finalizable : SleepFinalizable session state request current before)
      (written : after = beforeUpdate session before
        { deletedRow before with
          instanceGeneration := request.finalize.expectedDrainingGeneration + 1 })
  | started {request : AcceptWakeRequest} {current : InstanceRow} {accepted : Nat}
      (called : op = .acceptWake request)
      (found : state.instances request.pending.instanceId = some current)
      (settled : current.state = .cold ∨ current.state = .failed)
      (idle : ∀ old, state.work id = some old → old.state = .deleted)
      (prepared : Prepared current request.pending)
      (backend : BackendAccepted state request.pending accepted)
      (records : Records request.pending.instanceId (deferredIntent request.pending accepted) after)
  | activated {request : FinalizeSleepReconciliationRequest} {current : InstanceRow}
      {before : MaterializationRow} {intent : DeferredWakeIntent}
      (called : op = .finalizeSleep request)
      (finalizable : SleepFinalizable session state request current before)
      (deferred : state.deferred request.finalize.instanceId = some intent)
      (following : intent.instanceGeneration = request.finalize.expectedDrainingGeneration + 2)
      (named : id = materializationId request.finalize.instanceId intent.target)
      (records : Records request.finalize.instanceId intent after)

/-- A rewrite of one row accounts for every row when it does for the one it rewrites. -/
theorem workOrigin_setWork {base : State} {other : MaterializationId} {new : MaterializationRow}
    (sameWork : base.work = state.work) (stored : (base.setWork other new).work id = some row)
    (origin : WorkOrigin session op state other new) : WorkOrigin session op state id row := by
  rcases work_setWork_eq_some.mp stored with ⟨rfl, rfl⟩ | ⟨-, kept⟩
  · exact origin
  · exact .kept (sameWork ▸ kept)

section

variable (step : Step session op state next)

include step

theorem Step.workOrigin (stored : next.work id = some row) :
    WorkOrigin session op state id row := by
  cases step with
  | unchanged | created | wakeDeferred | sleepBegunWithoutWork | effectBegun
  | effectAcknowledged => exact .kept stored
  | removed => exact .kept (Option.filter_eq_some_iff.mp stored).1
  | wakeStarted found settled _ idle prepared backend recordable =>
    refine workOrigin_setWork rfl stored (.started rfl found settled ?_ prepared backend ?_)
    · exact fun old there => idle _ old there (recordable old there).1
    · exact records_recordedRow recordable prepared.state_eq
  | sleepBegun _ _ _ found =>
    exact workOrigin_setWork rfl stored
      (.evolved found rfl rfl rfl rfl rfl (.inl ⟨rfl, fun _ => rfl⟩) (.inr (.inl rfl)))
  | deletionAccepted =>
    obtain ⟨before, found, rfl⟩ := Option.map_eq_some_iff.mp stored
    simp only [setDeferred_work, acceptDeletion_work] at found
    dsimp only
    unfold deletionRewrite
    split
    · exact .evolved found rfl rfl rfl rfl rfl (.inl ⟨rfl, fun none => none⟩) (.inr (.inl rfl))
    · exact .kept found
  | claimed found =>
    exact workOrigin_setWork rfl stored (.evolved found rfl rfl rfl rfl rfl (.inr rfl) (.inl rfl))
  | renewed held =>
    refine workOrigin_setWork rfl stored
      (.evolved held.found rfl rfl rfl rfl rfl (.inl ⟨rfl, fun none => ?_⟩) (.inl rfl))
    exact absurd none held.lease_ne_none
  | released held | failureRecorded held =>
    exact workOrigin_setWork rfl stored
      (.evolved held.found rfl rfl rfl rfl rfl (.inl ⟨rfl, fun _ => rfl⟩) (.inl rfl))
  | wakeCompleted completable =>
    exact workOrigin_setWork rfl stored (.completed rfl rfl completable rfl)
  | sleepFinalized finalizable =>
    exact workOrigin_setWork rfl stored (.finalized rfl finalizable rfl)
  | deferredWakeActivated finalizable deferred following recordable =>
    rcases work_setWork_eq_some.mp stored with ⟨rfl, rfl⟩ | ⟨-, kept⟩
    · exact .activated rfl finalizable deferred following rfl
        (records_recordedRow recordable rfl)
    · exact workOrigin_setWork rfl kept (.finalized rfl finalizable rfl)
  | workDeleted held =>
    exact workOrigin_setWork rfl stored
      (.evolved held.found rfl rfl rfl rfl rfl (.inl ⟨rfl, fun _ => rfl⟩) (.inr (.inr rfl)))
  | wakeFailed held =>
    exact workOrigin_setWork (failWake_work ..) stored
      (.evolved held.found rfl rfl rfl rfl rfl (.inl ⟨rfl, fun _ => rfl⟩) (.inr (.inl rfl)))
  | enqueued found =>
    refine workOrigin_setWork rfl stored
      (.evolved found rfl rfl rfl rfl rfl (.inl ⟨rfl, fun none => none⟩) ?_)
    rw [beforeUpdate_state]
    split
    · exact .inr (.inl rfl)
    · exact .inl rfl
  | forceDeleted found =>
    exact workOrigin_setWork rfl stored
      (.evolved found rfl rfl rfl rfl rfl (.inl ⟨rfl, fun _ => rfl⟩) (.inr (.inr rfl)))
  | keyForceReleased keysOnly =>
    obtain ⟨before, found, rfl⟩ := Option.map_eq_some_iff.mp stored
    obtain ⟨keys, schedule, rewritten⟩ := keysOnly id before
    rw [rewritten]
    exact .evolved found rfl rfl rfl rfl rfl (.inl ⟨rfl, fun none => none⟩) (.inl rfl)

theorem Step.rowEvolves (wf : WellFormed state) (stored : next.work id = some row) :
    RowEvolves state id row := by
  cases step.workOrigin stored with
  | kept found => exact .inl ⟨row, found, .refl row⟩
  | evolved found instanceId _ generation _ _ attempt moves =>
    refine .inl ⟨_, found, instanceId, generation, attempt, moves.imp_right ?_⟩
    rintro (deleting | deleted) pending
    · cases deleting.symm.trans pending
    · cases deleted.symm.trans pending
  | completed _ _ completable written =>
    subst written
    refine .inr (wf.aboveWatermark completable.instanceFound completable.owned ?_)
    exact Nat.lt_succ_of_le (Nat.le_of_eq completable.expected)
  | finalized _ finalizable written =>
    subst written
    refine .inr (wf.aboveWatermark finalizable.instanceFound finalizable.owned ?_)
    exact Nat.lt_succ_of_le (Nat.le_of_eq finalizable.expected)
  | started _ found _ _ prepared _ records =>
    refine .inr (wf.aboveWatermark found records.instanceId ?_)
    rw [records.generation]
    exact prepared.generation_lt
  | activated _ finalizable _ following _ records =>
    refine .inr (wf.aboveWatermark finalizable.instanceFound records.instanceId ?_)
    rw [records.generation, following, finalizable.expected]
    exact Nat.lt_add_of_pos_right Nat.two_pos

/-- A wake that is deferred after a step was before, or was accepted by it. -/
theorem Step.intent {instanceId : InstanceId} {intent : DeferredWakeIntent}
    (stored : next.deferred instanceId = some intent) :
    state.deferred instanceId = some intent ∨
      ∃ request current backend, op = .acceptWake request ∧
        request.pending.instanceId = instanceId ∧ state.instances instanceId = some current ∧
        current.state = .draining ∧ Prepared current request.pending ∧
        BackendAccepted state request.pending backend ∧
        intent = deferredIntent request.pending backend := by
  have cleared {base : State} {other : InstanceId} (same : base.deferred = state.deferred)
      (kept : (base.setDeferred other none).deferred instanceId = some intent) :
      state.deferred instanceId = some intent := by
    rw [setDeferred_deferred, Function.update_apply] at kept
    split at kept
    · cases kept
    · exact same ▸ kept
  cases step with
  | removed =>
    rw [remove_deferred] at stored
    split at stored
    · cases stored
    · exact .inl stored
  | wakeDeferred found draining _ prepared backend =>
    rw [setDeferred_deferred, Function.update_apply] at stored
    split at stored
    next same =>
      cases stored
      exact .inr ⟨_, _, _, rfl, same.symm, same ▸ found, draining, prepared, backend, rfl⟩
    · exact .inl stored
  | deletionAccepted =>
    refine .inl (cleared ?_ stored)
    unfold acceptDeletion
    split <;> rfl
  | deferredWakeActivated =>
    exact .inl (cleared (rfl : (state.drain session _ _ _).deferred = _) stored)
  | wakeFailed => exact .inl (by simpa using stored)
  | unchanged | created | wakeStarted | sleepBegun | sleepBegunWithoutWork | claimed | renewed
  | released | effectBegun | effectAcknowledged | wakeCompleted | sleepFinalized | workDeleted
  | failureRecorded | enqueued | forceDeleted | keyForceReleased => exact .inl stored

/-! ### Invariants of single rows -/

/-- A property of every work row, and one of every deferred wake. -/
structure Everywhere (rowly : MaterializationRow → Prop) (intended : DeferredWakeIntent → Prop)
    (state : State) : Prop where
  rows : ∀ {id : MaterializationId} {row : MaterializationRow}, state.work id = some row →
    rowly row
  intents : ∀ {id : InstanceId} {intent : DeferredWakeIntent}, state.deferred id = some intent →
    intended intent

/-- What a step needs of such properties: rows are touched or ended, deferred wakes and pending
rows are made of accepted wakes, and wakes are completed. -/
structure Propagates (session : Session) (op : Op) (state : State)
    (rowly : MaterializationRow → Prop) (intended : DeferredWakeIntent → Prop) : Prop where
  touched : ∀ {old new : MaterializationRow}, rowly old → new.state = old.state →
    new.instanceGeneration = old.instanceGeneration →
    new.projectionGeneration = old.projectionGeneration →
    new.backendGeneration = old.backendGeneration → rowly new
  ended : ∀ {old new : MaterializationRow}, rowly old →
    new.state = .deleting ∨ new.state = .deleted →
    old.instanceGeneration ≤ new.instanceGeneration →
    new.backendGeneration = old.backendGeneration → rowly new
  accepted : ∀ {request : AcceptWakeRequest} {current : InstanceRow} {backend : Nat},
    op = .acceptWake request → state.instances request.pending.instanceId = some current →
    Prepared current request.pending → BackendAccepted state request.pending backend →
    intended (deferredIntent request.pending backend)
  recorded : ∀ {intent : DeferredWakeIntent} {row : MaterializationRow}, intended intent →
    row.state = .pending → row.instanceGeneration = intent.instanceGeneration →
    row.projectionGeneration = intent.projectionGeneration →
    row.backendGeneration = intent.backendGeneration → rowly row
  completed : ∀ {request : CompleteWakeReconciliationRequest} {current : InstanceRow}
    {row : MaterializationRow}, op = .completeWake request →
    WakeCompletable session state request current row → rowly row →
    rowly (beforeUpdate session row
      (overwrittenRow row (completedRequest request.complete row.projectionGeneration)))

theorem Step.everywhere {rowly : MaterializationRow → Prop} {intended : DeferredWakeIntent → Prop}
    (holds : Everywhere rowly intended state)
    (propagates : Propagates session op state rowly intended) :
    Everywhere rowly intended next where
  rows := by
    intro id row stored
    cases step.workOrigin stored with
    | kept found => exact holds.rows found
    | evolved found _ _ generation projection backend _ moves =>
      rcases moves with same | ending
      · exact propagates.touched (holds.rows found) same generation projection backend
      · exact propagates.ended (holds.rows found) ending generation.ge backend
    | completed called _ completable written =>
      subst written
      exact propagates.completed called completable (holds.rows completable.found)
    | finalized _ finalizable written =>
      subst written
      exact propagates.ended (holds.rows finalizable.found) (.inr rfl)
        (Nat.le_succ_of_le (Nat.le_of_succ_le finalizable.stamped.le)) rfl
    | started called found _ _ prepared backend records =>
      exact propagates.recorded (propagates.accepted called found prepared backend) records.state
        records.generation records.projection records.backend
    | activated _ _ deferred _ _ records =>
      exact propagates.recorded (holds.intents deferred) records.state records.generation
        records.projection records.backend
  intents := by
    intro id intent stored
    rcases step.intent stored with kept | ⟨_, _, _, called, rfl, found, -, prepared, backend, rfl⟩
    · exact holds.intents kept
    · exact propagates.accepted called found prepared backend

end

theorem work_setWork_ne_none {other : MaterializationId} {new : MaterializationRow}
    (there : state.work id ≠ none) : (state.setWork other new).work id ≠ none := by
  by_cases same : id = other
  · subst same
    simp
  · simpa [same] using there

theorem Step.work_ne_none (step : Step session op state next) (found : state.work id = some row)
    (live : row.state ≠ .deleted) : next.work id ≠ none := by
  have there : state.work id ≠ none := by
    rw [found]
    exact Option.some_ne_none row
  cases step with
  | unchanged | created | wakeDeferred | sleepBegunWithoutWork | effectBegun
  | effectAcknowledged => exact there
  | removed _ cleaned =>
    have kept : row.instanceId ∉ _ := fun gone => live (cleaned id row found gone)
    rw [remove_work, found, Option.filter_some, if_pos (decide_eq_true kept)]
    exact Option.some_ne_none row
  | wakeStarted | sleepBegun | claimed | renewed | released | wakeCompleted | sleepFinalized
  | workDeleted | failureRecorded | enqueued | forceDeleted => exact work_setWork_ne_none there
  | deferredWakeActivated => exact work_setWork_ne_none (work_setWork_ne_none there)
  | wakeFailed =>
    refine work_setWork_ne_none ?_
    rw [failWake_work]
    exact there
  | deletionAccepted | keyForceReleased =>
    simp only [mapWork_work, setDeferred_work, acceptDeletion_work, found,
      Option.map_some]
    exact Option.some_ne_none _

theorem Step.effects_eq_none (step : Step session op state next)
    (unleased : ∀ row, state.work id = some row → row.lease = none)
    (resolved : state.effects id = none) : next.effects id = none := by
  cases step with
  | effectBegun held stamped expected =>
    rename_i request row
    have different : id ≠ request.materializationId := by
      rintro rfl
      exact held.lease_ne_none (unleased row held.found)
    exact (Function.update_of_ne different ..).trans resolved
  | effectAcknowledged | forceDeleted =>
    simp only [setWork_effects, setEffect_effects, Function.update_apply, resolved]
    split <;> rfl
  | wakeFailed | deletionAccepted => simpa using resolved
  | unchanged | created | removed | wakeStarted | wakeDeferred | sleepBegun
  | sleepBegunWithoutWork | claimed | renewed | released | wakeCompleted | sleepFinalized
  | deferredWakeActivated | workDeleted | failureRecorded | enqueued | keyForceReleased =>
    exact resolved

end Sleepypods.Lifecycle
