import Sleepypods.Lifecycle.Projections
import Sleepypods.Lifecycle.WakeAcceptance
import Sleepypods.Reconciler.FencedClient

/-! Retried operations: `RetryingControlPlaneStore` executes a request again when the answer to it
was lost, although the first execution may have committed and anything may have happened since. -/

set_option autoImplicit false

namespace Sleepypods.Reconciler

open Library Library.Fallible Store Lifecycle

/-! ### Requests and answers -/

/-- The lifecycle requests the retrying store executes again after an unavailable error. -/
inductive Retried where
  | acceptWake (request : AcceptWakeRequest)
  | requestInstanceDeletion (request : RequestInstanceDeletion)
  | beginSleep (request : BeginSleepRequest)
  | recordFailure (request : RecordFailureRequest)
  | acknowledgeEffect (request : AcknowledgeEffectRequest)
  | releaseLease (request : ReleaseLeaseRequest)
  | completeWake (request : CompleteWakeReconciliationRequest)
  | finalizeSleep (request : FinalizeSleepReconciliationRequest)
  | deleteMaterialization (request : DeleteMaterializationReconciliationRequest)

inductive Outcome where
  | woken (found : InstanceRow)
  | answered (took : Bool)
  | slept (found : InstanceRow) (work : Option MaterializationRow)
  | completed (found : InstanceRow) (work : MaterializationRow)
  | deleted (work : Option MaterializationRow)

/-- Whether the transaction that gave this answer committed what was asked. -/
def Outcome.took : Outcome → Bool
  | .answered took => took
  | _ => true

def Retried.execute (session : Session) (db : Database) :
    Retried → StoreResult (Outcome × Database)
  | .acceptWake request => Prod.map .woken id <$> Store.acceptWake session request db
  | .requestInstanceDeletion request =>
    Prod.map .answered id <$> Store.requestInstanceDeletion session request db
  | .beginSleep request =>
    Prod.map (fun result => .slept result.1 result.2) id <$> Store.beginSleep session request db
  | .recordFailure request => Prod.map .answered id <$> Store.recordFailure session request db
  | .acknowledgeEffect request =>
    Prod.map .answered id <$> acknowledgeMaterializationEffect request db
  | .releaseLease request =>
    Prod.map .answered id <$> releaseMaterializationReconciliationLease session request db
  | .completeWake request =>
    Prod.map (fun result => .completed result.1 result.2) id <$>
      completeWakeReconciliation session request db
  | .finalizeSleep request =>
    Prod.map (fun result => .slept result.1 result.2) id <$>
      finalizeSleepReconciliation session request db
  | .deleteMaterialization request =>
    Prod.map .deleted id <$> deleteMaterializationReconciliation session request db

def Retried.op : Retried → Op
  | .acceptWake request => .acceptWake request
  | .requestInstanceDeletion request => .requestInstanceDeletion request
  | .beginSleep request => .beginSleep request
  | .recordFailure request => .recordFailure request
  | .acknowledgeEffect request => .acknowledgeEffect request
  | .releaseLease request => .releaseLease request
  | .completeWake request => .completeWake request
  | .finalizeSleep request => .finalizeSleep request
  | .deleteMaterialization request => .deleteMaterialization request

section execution

variable {α : Type} {session : Session} {db after : Database} {outcome : Outcome}

theorem map_outcome_eq_ok {wrap : α → Outcome} {result : StoreResult (α × Database)} :
    Prod.map wrap id <$> result = .ok (outcome, after) ↔
      ∃ value, result = .ok (value, after) ∧ outcome = wrap value := by
  cases result with
  | error => exact ⟨nofun, nofun⟩
  | ok result =>
    obtain ⟨value, final⟩ := result
    constructor
    · intro mapped
      cases mapped
      exact ⟨value, rfl, rfl⟩
    · rintro ⟨_, ⟨⟩, rfl⟩
      rfl

theorem Retried.commit_of_execute {retried : Retried}
    (executed : retried.execute session db = .ok (outcome, after)) :
    commit session retried.op db = .ok after := by
  have committed {α : Type} {wrap : α → Outcome} {result : StoreResult (α × Database)}
      (mapped : Prod.map wrap id <$> result = .ok (outcome, after)) :
      Prod.snd <$> result = .ok after := by
    obtain ⟨value, rfl, -⟩ := map_outcome_eq_ok.mp mapped
    rfl
  cases retried <;> exact committed executed

end execution

/-! ### The deployment -/

structure Deployment where
  db : Database
  begun : List AcknowledgeEffectRequest

def begins : Op → Option AcknowledgeEffectRequest
  | .beginEffect request => some (acknowledgementOf request)
  | _ => none

/-- A begin is executed once: its effect id is drawn from the counter of the process that holds the
attempt, and the retrying store does not repeat it. -/
def deploymentSystem : TransitionSystem Deployment (Session × Op) where
  initial deployment := deployment = { db := .empty, begun := [] }
  step label deployment next :=
    commit label.1 label.2 deployment.db = .ok next.db ∧
      (∀ name, begins label.2 = some name → name ∉ deployment.begun) ∧
      next.begun = (begins label.2).toList ++ deployment.begun

def markerName (id : MaterializationId) (marker : EffectRow) : AcknowledgeEffectRequest where
  instanceGeneration := marker.instanceGeneration
  effectId := marker.effectId
  materializationId := id
  owner := marker.leaseOwner
  attempt := marker.leaseAttempt

theorem eq_markerName_of_names {request : AcknowledgeEffectRequest} {marker : EffectRow}
    (named : request.names marker = true) :
    request = markerName request.materializationId marker := by
  simp only [AcknowledgeEffectRequest.names, Bool.and_eq_true, decide_eq_true_eq] at named
  obtain ⟨⟨⟨owner, attempt⟩, effect⟩, generation⟩ := named
  simp [markerName, owner, attempt, effect, generation]

theorem marker_of_step {session : Session} {op : Op} {state next : State}
    (step : Step session op state next) {id : MaterializationId} {marker : EffectRow}
    (found : next.effects id = some marker) :
    state.effects id = some marker ∨ begins op = some (markerName id marker) := by
  have cleared {key : MaterializationId} (kept : (state.setEffect key none).effects id = some marker) :
      state.effects id = some marker := by
    by_cases same : id = key
    · subst same
      cases (Function.update_self ..).symm.trans kept
    · exact (Function.update_of_ne same ..).symm.trans kept
  cases step with
  | unchanged | created | removed | wakeStarted | wakeDeferred | sleepBegun | sleepBegunWithoutWork
  | claimed | renewed | released | wakeCompleted | sleepFinalized | deferredWakeActivated
  | workDeleted | failureRecorded | enqueued | keyForceReleased => exact .inl found
  | deletionAccepted | wakeFailed => exact .inl (by simpa using found)
  | effectAcknowledged | forceDeleted => exact .inl (cleared found)
  | effectBegun held stamped expected =>
    rename_i request row
    by_cases same : id = request.materializationId
    · subst same
      cases (Function.update_self ..).symm.trans found
      exact .inr rfl
    · exact .inl ((Function.update_of_ne same ..).symm.trans found)

/-- What holds of every deployment: the lifecycle invariants, and no marker without its begin. -/
structure Deployment.Sound (deployment : Deployment) : Prop where
  wellFormed : WellFormed (view deployment.db)
  fit : WakesFit (view deployment.db)
  marked : ∀ id marker, (view deployment.db).effects id = some marker →
    markerName id marker ∈ deployment.begun

section sound

variable {label : Session × Op} {deployment next : Deployment}

theorem refines_of_step (stepped : deploymentSystem.step label deployment next)
    (sound : deployment.Sound) : Step label.1 label.2 (view deployment.db) (view next.db) :=
  commit_refines sound.wellFormed.keyed stepped.1

theorem Deployment.Sound.step (sound : deployment.Sound)
    (stepped : deploymentSystem.step label deployment next) : next.Sound := by
  have step := refines_of_step stepped sound
  refine ⟨step.wellFormed sound.wellFormed, step.wakesFit sound.wellFormed sound.fit, ?_⟩
  intro id marker found
  rw [stepped.2.2, List.mem_append]
  rcases marker_of_step step found with earlier | begun
  · exact .inr (sound.marked id marker earlier)
  · exact .inl (Option.mem_toList.mpr begun)

theorem sound_of_reachable {allowed : Session × Op → Prop}
    (reachable : deploymentSystem.Reachable allowed deployment) : deployment.Sound := by
  refine reachable.invariant ?_ fun _ _ _ _ sound stepped => sound.step stepped
  rintro _ rfl
  exact ⟨wellFormed_empty, wakesFit_empty, nofun⟩

end sound

/-! ### Accepted deletion -/

/-- An instance whose deletion was accepted: it wakes no more, and its work is being removed. -/
structure Condemned (id : InstanceId) (state : State) : Prop where
  deleting : ∃ row, state.instances id = some row ∧ row.state = .deleting
  undeferred : state.deferred id = none
  dead : ∀ work row, state.work work = some row → row.instanceId = id →
    row.state = .deleting ∨ row.state = .deleted

theorem condemned_of_deletion {session : Session} {id : InstanceId} {state : State}
    {row : InstanceRow} (found : state.instances id = some row) :
    Condemned id (((state.acceptDeletion id row).setDeferred id none).mapWork
      fun _ => deletionRewrite session id) := by
  refine ⟨State.deleting_acceptDeletion found, Function.update_self .., ?_⟩
  intro work workRow stored owned
  obtain ⟨old, -, rfl⟩ := Option.map_eq_some_iff.mp stored
  rw [deletionRewrite_instanceId] at owned
  rw [deletionRewrite_state]
  split
  · exact .inl rfl
  next kept =>
    right
    by_contra live
    exact kept ⟨owned, live⟩

theorem Condemned.step {session : Session} {op : Op} {id : InstanceId} {state next : State}
    (condemned : Condemned id state) (step : Step session op state next) :
    Condemned id next ∨ next.instances id = none := by
  obtain ⟨owner, found, deleting⟩ := condemned.deleting
  cases stored : next.instances id with
  | none => exact .inr rfl
  | some later =>
    refine .inl ⟨⟨later, stored, step.deleting_stays found deleting stored⟩, ?_, ?_⟩
    · cases deferred : next.deferred id with
      | none => rfl
      | some intent =>
        rcases step.intent deferred with earlier | ⟨_, _, _, -, -, sameFound, draining, -⟩
        · cases condemned.undeferred.symm.trans earlier
        · cases found.symm.trans sameFound
          cases deleting.symm.trans draining
    · intro work row rowStored owned
      have owning {other : InstanceId} {current : InstanceRow}
          (there : state.instances other = some current) (owner : row.instanceId = other) :
          current.state = .deleting := by
        subst owned owner
        cases found.symm.trans there
        exact deleting
      cases step.workOrigin rowStored with
      | kept there => exact condemned.dead work row there owned
      | evolved there instanceId _ _ _ _ _ moves =>
        rcases moves with same | ending
        · rw [same]
          exact condemned.dead _ _ there (instanceId.symm.trans owned)
        · exact ending
      | completed _ _ completable written =>
        subst written
        cases (owning completable.instanceFound completable.owned).symm.trans completable.waking
      | finalized _ _ written =>
        subst written
        exact .inr rfl
      | started _ there settled _ _ _ records =>
        exact absurd (owning there records.instanceId) (ne_of_settled settled (by decide))
      | activated _ finalizable _ _ _ records =>
        cases (owning finalizable.instanceFound records.instanceId).symm.trans finalizable.draining

/-- Deletion at a generation was accepted: the instance is condemned, or what stands under its id
is a later incarnation. -/
def DeletionDone (id : InstanceId) (expected : Nat) (state : State) : Prop :=
  (∃ watermark, state.watermarks id = some watermark ∧ expected ≤ watermark.lastGeneration) ∧
    (Condemned id state ∨ ∀ row, state.instances id = some row →
      expected < row.generation ∧ (row.state = .deleting → expected + 1 < row.generation))

section deletion

variable {session : Session} {op : Op} {id : InstanceId} {expected : Nat} {state next : State}

theorem DeletionDone.step (done : DeletionDone id expected state)
    (step : Step session op state next) : DeletionDone id expected next := by
  obtain ⟨⟨watermark, watermarkFound, reached⟩, condemned | later⟩ := done
  · obtain ⟨grown, grownFound, atLeast⟩ := step.grows id watermark watermarkFound
    refine ⟨⟨grown, grownFound, reached.trans atLeast⟩, ?_⟩
    rcases condemned.step step with still | gone
    · exact .inl still
    · refine .inr fun row found => ?_
      cases gone.symm.trans found
  · obtain ⟨grown, grownFound, atLeast⟩ := step.grows id watermark watermarkFound
    refine ⟨⟨grown, grownFound, reached.trans atLeast⟩, .inr fun row stored => ?_⟩
    cases step.moves id with
    | kept instances => exact later row (instances ▸ stored)
    | deferred _ _ _ _ instances => exact later row (instances ▸ stored)
    | created absent cold fresh created =>
      cases stored.symm.trans created
      rw [watermarkFound] at fresh
      have above : watermark.lastGeneration + 1 ≤ row.generation :=
        fresh ▸ Nat.le_max_right ..
      exact ⟨by omega, fun deleting => by cases cold.symm.trans deleting⟩
    | removed _ _ gone => cases gone.symm.trans stored
    | advanced found _ _ advanced =>
      cases stored.symm.trans advanced
      have before := (later _ found).1
      exact ⟨Nat.lt_succ_of_lt before, fun _ => Nat.succ_lt_succ before⟩
    | activated found _ activated =>
      cases stored.symm.trans activated
      have before := (later _ found).1
      exact ⟨before.trans (Nat.lt_add_of_pos_right Nat.two_pos), nofun⟩

theorem Condemned.deletion_eq (condemned : Condemned id state) {row : InstanceRow}
    (found : state.instances id = some row) :
    (((state.acceptDeletion id row).setDeferred id none).mapWork
      fun _ => deletionRewrite session id) = state := by
  obtain ⟨other, otherFound, deleting⟩ := condemned.deleting
  cases found.symm.trans otherFound
  have accepted : state.acceptDeletion id row = state := if_pos deleting
  rw [accepted]
  ext1
  · rfl
  · rfl
  · funext work
    cases stored : state.work work with
    | none => simp [stored]
    | some workRow =>
      have kept : deletionRewrite session id workRow = workRow := by
        refine if_neg ?_
        rintro ⟨owned, notDeleted, notDeleting⟩
        exact (condemned.dead work workRow stored owned).elim notDeleting notDeleted
      simp [stored, kept]
  · rfl
  · funext other
    by_cases same : other = id
    · subst same
      exact (Function.update_self ..).trans condemned.undeferred.symm
    · exact Function.update_of_ne same ..

variable {request : RequestInstanceDeletion}

theorem deletionDone_of_accepted {db after : Database} (wf : WellFormed (view db))
    (requested : requestInstanceDeletion session request db = .ok (true, after)) :
    DeletionDone request.instanceId request.expectedGeneration (view after) := by
  rcases requestInstanceDeletion_ok requested with ⟨refused, -⟩ | ⟨-, row, found, expected, viewed⟩
  · cases refused
  · obtain ⟨watermark, watermarkFound, last⟩ := wf.watermarked found
    have step : Step session (.requestInstanceDeletion request) (view db) (view after) := by
      rw [viewed]
      exact .deletionAccepted found expected
    obtain ⟨grown, grownFound, atLeast⟩ := step.grows _ watermark watermarkFound
    refine ⟨⟨grown, grownFound, ?_⟩, .inl ?_⟩
    · rcases expected with same | ⟨-, next⟩
      · omega
      · omega
    · rw [viewed]
      exact condemned_of_deletion found

theorem DeletionDone.again {db after : Database} {took : Bool}
    (done : DeletionDone request.instanceId request.expectedGeneration (view db))
    (requested : requestInstanceDeletion session request db = .ok (took, after)) :
    (took = true → Condemned request.instanceId (view db)) ∧ view after = view db := by
  rcases requestInstanceDeletion_ok requested with ⟨rfl, rfl⟩ | ⟨rfl, row, found, expected, viewed⟩
  · exact ⟨nofun, rfl⟩
  · obtain ⟨-, condemned | later⟩ := done
    · exact ⟨fun _ => condemned, viewed.trans (condemned.deletion_eq found)⟩
    · obtain ⟨above, deletingAbove⟩ := later row found
      rcases expected with same | ⟨deleting, next⟩
      · omega
      · have := deletingAbove deleting
        omega

end deletion

/-! ### Accepted wakes -/

def WakeDone (request : AcceptWakeRequest) (state : State) : Prop :=
  (∃ intent, Settled request.pending.instanceId request.expectedGeneration intent state) ∨
    ∃ watermark, state.watermarks request.pending.instanceId = some watermark ∧
      request.pending.instanceGeneration ≤ watermark.lastGeneration

section wakes

variable {session : Session} {op : Op} {state next : State} {request : AcceptWakeRequest}
  {row : InstanceRow} {db after : Database}

theorem WakeDone.step (done : WakeDone request state) (wf : WellFormed state)
    (step : Step session op state next) : WakeDone request next := by
  rcases done with ⟨intent, settled⟩ | ⟨watermark, found, reached⟩
  · exact .inl ⟨intent, step.settled wf settled⟩
  · obtain ⟨later, laterFound, grown⟩ := step.grows _ watermark found
    exact .inr ⟨later, laterFound, reached.trans grown⟩

theorem WakeDone.refuses (done : WakeDone request (view db)) (wf : WellFormed (view db))
    (accepted : acceptWake session request db = .ok (row, after)) : after = db := by
  rcases done with ⟨intent, settled⟩ | ⟨watermark, watermarkFound, reached⟩
  · exact settled.refuses wf rfl rfl accepted
  · rcases acceptWake_ok wf.keyed accepted with same | ⟨current, backend, found, -, prepared, -⟩
    · exact same
    · obtain ⟨_, sameFound, last⟩ := wf.watermarked found
      cases watermarkFound.symm.trans sameFound
      have ahead := prepared.generation_lt
      omega

variable {pending : RecordMaterializationRequest} {current : InstanceRow}

/-- A wake that found the draining instance with a deferred one for its target. -/
theorem deferWake_held (deferred : deferWake pending current db = .ok (row, db)) :
    row = current ∧ ∃ intent, db.deferredWakes.find? pending.instanceId = some intent ∧
      intent.target = pending.target := by
  simp only [deferWake, bind_eq_ok] at deferred
  obtain ⟨_, -, _, -, _, -, rest⟩ := deferred
  split at rest
  next intent found =>
    simp only [bind_eq_ok, require_eq_ok, pure_eq_ok, exists_const, Prod.mk.injEq] at rest
    obtain ⟨same, rfl, -⟩ := rest
    exact ⟨rfl, intent, found, same⟩
  next absent =>
    simp only [pure_eq_ok, Prod.mk.injEq] at rest
    have inserted := congrArg (fun final : Database =>
      final.deferredWakes.find? pending.instanceId) rest.2
    simp only [Table.find?_insert, Function.update_self] at inserted
    cases inserted.trans absent

theorem acceptWake_held (wf : WellFormed (view db)) (fit : WakesFit (view db))
    (accepted : acceptWake session request db = .ok (row, db)) :
    db.instances.find? request.pending.instanceId = some row ∧ WakeHeld request db ∧
      WakeDone request (view db) := by
  have unfolded := accepted
  simp only [acceptWake, bind_eq_ok, orError_eq_ok] at unfolded
  obtain ⟨current, found, rest⟩ := unfolded
  obtain ⟨watermark, watermarkFound, last⟩ := wf.watermarked found
  split at rest
  next waking =>
    obtain ⟨⟨work, stored, storedFound, owned, targeted, pending⟩, rfl, -⟩ := replayWake_eq_ok.mp rest
    obtain ⟨owner, ownerFound, -, same⟩ := (fit _).pending storedFound owned pending
    cases found.symm.trans ownerFound
    exact ⟨found, .pending work stored storedFound owned targeted pending
      (same.symm.trans waking.2), .inr ⟨watermark, watermarkFound, by omega⟩⟩
  · simp only [bind_eq_ok, require_eq_ok, exists_const] at rest
    obtain ⟨expected, wakeable, -, ⟨-, generation, -, -⟩, backendGeneration, -, rest⟩ := rest
    split at rest
    next draining =>
      obtain ⟨rfl, intent, stored, -⟩ := deferWake_held rest
      obtain ⟨owner, ownerFound, -, ahead⟩ := (fit _).deferred stored
      cases found.symm.trans ownerFound
      refine ⟨found, .deferred intent stored ?_, .inl ⟨some intent, .inr ⟨row, found, draining,
        expected, nofun, stored⟩⟩⟩
      rw [ahead, generation, expectedWaking, if_pos draining]
    next awake =>
      have next : request.pending.instanceGeneration = current.generation + 1 := by
        rw [generation, expectedWaking, if_neg awake]
      obtain ⟨-, -, viewed⟩ := startWake_ok wf.keyed rest next
      have advanced := (congrFun (congrArg State.instances viewed) _).trans
        (State.instances_advance_self rfl)
      have same := Option.some.inj (found.symm.trans advanced)
      have := congrArg InstanceRow.generation same
      simp at this

theorem wakeDone_of_accepted (wf : WellFormed (view db)) (fit : WakesFit (view db))
    (accepted : acceptWake session request db = .ok (row, after)) : WakeDone request (view after) := by
  by_cases same : after = db
  · subst same
    exact (acceptWake_held wf fit accepted).2.2
  · obtain ⟨intent, settled, -⟩ := acceptWake_fresh wf accepted same
    exact .inl ⟨intent, settled⟩

end wakes

def fence (id : MaterializationId) (owner : String) (attempt generation : Nat) : Stamp where
  id := id
  owner := owner
  attempt := attempt
  generation := generation
  state := .deleted

def Outdated (stamp : Stamp) (state : State) : Prop :=
  ∃ instanceId target, stamp.id = materializationId instanceId target ∧
    RowsSince stamp instanceId state (Spent stamp instanceId state)

section fences

variable {session : Session} {op : Op} {state next : State} {stamp : Stamp} {owner : String}
  {row : MaterializationRow} {db after : Database}

theorem Outdated.step (outdated : Outdated stamp state) (wf : WellFormed state)
    (step : Step session op state next) : Outdated stamp next := by
  obtain ⟨instanceId, target, keyed, since⟩ := outdated
  exact ⟨instanceId, target, keyed, spent_step since wf keyed step⟩

/-- A step that ends the lease, or moves its row to another generation, outdates the fence. -/
theorem outdated_of_step (wf : WellFormed state) (step : Step session op state next)
    (held : LeasedRow session state stamp.id owner stamp.attempt row)
    (stamped : row.instanceGeneration = stamp.generation)
    (ends : ∀ after, next.work stamp.id = some after →
      after.instanceGeneration ≠ stamp.generation ∨
        (after.reconcileAttempt = row.reconcileAttempt ∧ after.lease = none)) :
    Outdated stamp next := by
  have keyed := wf.keyed _ _ held.found
  obtain ⟨found, foundRow, reached⟩ := wf.owned held.found
  obtain ⟨watermark, watermarkFound, last⟩ := wf.watermarked foundRow
  have since : RowsSince stamp row.instanceId state fun _ => True := by
    refine ⟨⟨watermark, watermarkFound, by omega⟩, fun other stored => ?_⟩
    cases held.found.symm.trans stored
    exact .inr ⟨stamped, trivial⟩
  refine ⟨row.instanceId, row.target, keyed, since.step wf keyed step ?_⟩
  rintro before after beforeFound stored evolved -
  cases held.found.symm.trans beforeFound
  rcases ends after stored with moved | ⟨sameAttempt, unleased⟩
  · exact absurd (evolved.generation.trans stamped) moved
  · exact .inr (.inl ⟨held.attempt_eq.symm.trans sameAttempt.symm, unleased⟩)

theorem Outdated.not_leased {id : MaterializationId} {attempt generation : Nat}
    (outdated : Outdated (fence id owner attempt generation) (view db))
    (held : LeasedRow session (view db) id owner attempt row) :
    row.instanceGeneration ≠ generation := by
  intro stamped
  obtain ⟨instanceId, target, keyed, since⟩ := outdated
  obtain ⟨pending, -⟩ := moved_of_leased since held stamped rfl rfl rfl
  cases pending

end fences

/-! ### What a committed execution leaves behind -/

/-- A first execution of the request is committed, at this time or earlier. -/
def Done (deployment : Deployment) : Retried → Prop
  | .acceptWake request => WakeDone request (view deployment.db)
  | .requestInstanceDeletion request =>
    DeletionDone request.instanceId request.expectedGeneration (view deployment.db)
  | .beginSleep request =>
    ∃ watermark, (view deployment.db).watermarks request.instanceId = some watermark ∧
      request.expectedRunningGeneration < watermark.lastGeneration
  | .recordFailure request =>
    Outdated (fence request.materializationId request.owner request.attempt request.generation)
      (view deployment.db)
  | .acknowledgeEffect request =>
    request ∈ deployment.begun ∧
      ∀ marker, (view deployment.db).effects request.materializationId = some marker →
        request.names marker = false
  | .releaseLease request =>
    Outdated (fence request.materializationId request.owner request.attempt
      request.instanceGeneration) (view deployment.db)
  | .completeWake request =>
    Outdated (fence request.materializationId request.leaseOwner request.attempt
      request.complete.expectedWakingGeneration) (view deployment.db)
  | .finalizeSleep request =>
    Outdated (fence request.materializationId request.leaseOwner request.attempt
      (request.finalize.expectedDrainingGeneration - 1)) (view deployment.db)
  | .deleteMaterialization request =>
    Outdated (fence request.materializationId request.leaseOwner request.attempt
      request.instanceGeneration) (view deployment.db)

variable {retried : Retried} {deployment : Deployment}

theorem Done.step {label : Session × Op} {next : Deployment} (done : Done deployment retried)
    (sound : deployment.Sound) (stepped : deploymentSystem.step label deployment next) :
    Done next retried := by
  have step := refines_of_step stepped sound
  cases retried with
  | acceptWake => exact WakeDone.step done sound.wellFormed step
  | requestInstanceDeletion => exact DeletionDone.step done step
  | beginSleep =>
    obtain ⟨watermark, found, above⟩ := done
    obtain ⟨later, laterFound, grown⟩ := step.grows _ watermark found
    exact ⟨later, laterFound, above.trans_le grown⟩
  | acknowledgeEffect request =>
    obtain ⟨begun, unnamed⟩ := done
    refine ⟨?_, fun marker found => ?_⟩
    · rw [stepped.2.2]
      exact List.mem_append_right _ begun
    · rcases marker_of_step step found with earlier | begins
      · exact unnamed marker earlier
      · -- A second begin of the same effect is ruled out.
        refine Bool.eq_false_iff.mpr fun named => ?_
        rw [← eq_markerName_of_names named] at begins
        exact stepped.2.1 request begins begun
  | recordFailure | releaseLease | completeWake | finalizeSleep | deleteMaterialization =>
    exact Outdated.step done sound.wellFormed step

theorem done_of_execute {session : Session} {outcome : Outcome} {after : Database}
    (sound : deployment.Sound)
    (executed : retried.execute session deployment.db = .ok (outcome, after))
    (took : outcome.took = true) : Done { deployment with db := after } retried := by
  have wf := sound.wellFormed
  have step := commit_refines wf.keyed (Retried.commit_of_execute executed)
  cases retried
  all_goals obtain ⟨value, ran, rfl⟩ := map_outcome_eq_ok.mp executed
  case acceptWake =>
    exact wakeDone_of_accepted wf sound.fit ran
  case requestInstanceDeletion =>
    cases took
    exact deletionDone_of_accepted wf ran
  case beginSleep request =>
    obtain ⟨current, found, -, expected, moved⟩ := beginSleep_ok wf.keyed ran
    have advanced : (view after).instances request.instanceId =
        some { current with state := .draining, generation := current.generation + 1 } := by
      rcases moved with ⟨-, -, viewed⟩ | ⟨_, _, -, -, -, -, -, -, viewed⟩
      · rw [viewed]
        exact State.instances_advance_self rfl
      · rw [viewed]
        exact State.instances_advance_self rfl
    obtain ⟨watermark, watermarkFound, last⟩ := (step.wellFormed wf).watermarked advanced
    refine ⟨watermark, watermarkFound, ?_⟩
    rw [last, ← expected]
    exact Nat.lt_succ_self _
  case acknowledgeEffect =>
    cases took
    rcases acknowledgeEffect_ok ran with ⟨refused, -⟩ | ⟨-, marker, found, named, viewed⟩
    · cases refused
    · refine ⟨?_, fun other otherFound => ?_⟩
      · rw [eq_markerName_of_names named]
        exact sound.marked _ _ found
      · rw [viewed] at otherFound
        cases (Function.update_self ..).symm.trans otherFound
  case recordFailure =>
    cases took
    rcases recordFailure_ok ran with ⟨refused, -⟩ | ⟨-, row, owner, held, stamped, -, -,
      ⟨kind, count, message, -, viewed⟩ | ⟨-, -, kind, count, message, -, viewed⟩⟩
    · cases refused
    all_goals
      refine outdated_of_step wf step held stamped fun final stored => .inr ?_
      rw [viewed] at stored
      cases row_of_setWork stored rfl
      exact ⟨rfl, rfl⟩
  case releaseLease =>
    cases took
    rcases releaseLease_ok ran with ⟨refused, -⟩ | ⟨-, row, held, stamped, -, viewed⟩
    · cases refused
    · refine outdated_of_step wf step held.toLeasedRow stamped fun final stored => .inr ?_
      rw [viewed] at stored
      cases row_of_setWork stored rfl
      exact ⟨rfl, rfl⟩
  case completeWake =>
    obtain ⟨current, row, completable, viewed⟩ := completeWake_ok wf.keyed ran
    refine outdated_of_step wf step completable.toLeasedRow completable.stamped
      fun final stored => .inl ?_
    rw [viewed] at stored
    cases row_of_setWork stored rfl
    exact Nat.succ_ne_self _
  case finalizeSleep request =>
    obtain ⟨current, row, finalizable, -, outcome⟩ := finalizeSleep_ok wf.keyed ran
    have stamped := finalizable.stamped
    refine outdated_of_step wf step finalizable.toLeasedRow
      (Nat.eq_sub_of_add_eq stamped) fun final stored => .inl ?_
    rcases outcome with ⟨-, viewed⟩ | ⟨intent, -, next, -, viewed⟩
    · rw [viewed] at stored
      cases row_of_setWork stored rfl
      have : request.finalize.expectedDrainingGeneration + 1 ≠
          request.finalize.expectedDrainingGeneration - 1 := by omega
      exact this
    · rw [viewed] at stored
      rcases State.work_setWork_eq_some.mp stored with ⟨-, rfl⟩ | ⟨-, kept⟩
      · have : intent.instanceGeneration ≠ request.finalize.expectedDrainingGeneration - 1 := by
          omega
        rw [State.recordedRow_instanceGeneration]
        exact this
      · cases row_of_setWork kept rfl
        have : request.finalize.expectedDrainingGeneration + 1 ≠
            request.finalize.expectedDrainingGeneration - 1 := by omega
        exact this
  case deleteMaterialization =>
    obtain ⟨row, held, -, -, -, stamped, viewed⟩ := deleteMaterialization_ok ran
    refine outdated_of_step wf step held.toLeasedRow stamped fun final stored => .inr ?_
    rw [viewed] at stored
    cases row_of_setWork stored rfl
    exact ⟨rfl, rfl⟩

/-! ### Executing again -/

/-- What a request that is done answers: what it already committed, or that it did nothing. -/
inductive Repeats (db : Database) : Retried → Outcome → Prop where
  | woken {request : AcceptWakeRequest} {row : InstanceRow}
      (found : db.instances.find? request.pending.instanceId = some row)
      (held : WakeHeld request db) : Repeats db (.acceptWake request) (.woken row)
  | deleting {request : RequestInstanceDeletion} {row : InstanceRow}
      (found : db.instances.find? request.instanceId = some row)
      (deleting : row.state = .deleting) :
      Repeats db (.requestInstanceDeletion request) (.answered true)
  | refused {retried : Retried} : Repeats db retried (.answered false)

theorem Done.again {session : Session} {outcome : Outcome} {after : Database}
    (done : Done deployment retried) (sound : deployment.Sound)
    (executed : retried.execute session deployment.db = .ok (outcome, after)) :
    Repeats deployment.db retried outcome ∧ view after = view deployment.db := by
  have wf := sound.wellFormed
  cases retried
  all_goals obtain ⟨value, ran, rfl⟩ := map_outcome_eq_ok.mp executed
  case acceptWake =>
    obtain rfl := WakeDone.refuses done wf ran
    obtain ⟨found, held, -⟩ := acceptWake_held wf sound.fit ran
    exact ⟨.woken found held, rfl⟩
  case requestInstanceDeletion =>
    obtain ⟨condemned, same⟩ := DeletionDone.again done ran
    refine ⟨?_, same⟩
    cases value with
    | false => exact .refused
    | true =>
      obtain ⟨row, found, deleting⟩ := (condemned rfl).deleting
      exact .deleting found deleting
  case beginSleep request =>
    obtain ⟨current, found, -, expected, -⟩ := beginSleep_ok wf.keyed ran
    obtain ⟨watermark, watermarkFound, above⟩ := done
    obtain ⟨_, sameFound, last⟩ := wf.watermarked found
    cases watermarkFound.symm.trans sameFound
    omega
  case acknowledgeEffect =>
    rcases acknowledgeEffect_ok ran with ⟨rfl, rfl⟩ | ⟨-, marker, found, named, -⟩
    · exact ⟨.refused, rfl⟩
    · cases (done.2 marker found).symm.trans named
  case recordFailure =>
    rcases recordFailure_ok ran with ⟨rfl, rfl⟩ | ⟨-, row, owner, held, stamped, -⟩
    · exact ⟨.refused, rfl⟩
    · exact absurd stamped (Outdated.not_leased done held)
  case releaseLease =>
    rcases releaseLease_ok ran with ⟨rfl, rfl⟩ | ⟨-, row, held, stamped, -⟩
    · exact ⟨.refused, rfl⟩
    · exact absurd stamped (Outdated.not_leased done held.toLeasedRow)
  case completeWake =>
    obtain ⟨current, row, completable, -⟩ := completeWake_ok wf.keyed ran
    exact absurd completable.stamped (Outdated.not_leased done completable.toLeasedRow)
  case finalizeSleep =>
    obtain ⟨current, row, finalizable, -⟩ := finalizeSleep_ok wf.keyed ran
    exact absurd (Nat.eq_sub_of_add_eq finalizable.stamped)
      (Outdated.not_leased done finalizable.toLeasedRow)
  case deleteMaterialization =>
    obtain ⟨row, held, -, -, -, stamped, -⟩ := deleteMaterialization_ok ran
    exact absurd stamped (Outdated.not_leased done held.toLeasedRow)

/-- Once an execution has taken effect, executing its request again at any later time answers what
was committed, false or an error, and changes no lifecycle row. -/
theorem retries_repeat_nothing {session again : Session} {retried : Retried}
    {outcome result : Outcome} {deployment later : Deployment} {committed after : Database}
    (reachable : deploymentSystem.Reachable production deployment)
    (executed : retried.execute session deployment.db = .ok (outcome, committed))
    (took : outcome.took = true)
    (path : deploymentSystem.Path production { deployment with db := committed } later)
    (repeated : retried.execute again later.db = .ok (result, after)) :
    Repeats later.db retried result ∧ view after = view later.db := by
  have sound := sound_of_reachable reachable
  have first : deploymentSystem.step (session, retried.op) deployment
      { deployment with db := committed } := by
    refine ⟨Retried.commit_of_execute executed, ?_, ?_⟩
    · cases retried <;> exact nofun
    · cases retried <;> rfl
  have kept : ∀ label current next, production label → (current.Sound ∧ Done current retried) →
      deploymentSystem.step label current next → (next.Sound ∧ Done next retried) :=
    fun _ _ _ _ held stepped => ⟨held.1.step stepped, held.2.step held.1 stepped⟩
  obtain ⟨laterSound, done⟩ := path.preserves kept
    ⟨sound.step first, done_of_execute sound executed took⟩
  exact done.again laterSound repeated

namespace Sample

open Store.Sample

def claimed : List (Session × Op) := waking ++ [(session 2, .claim claimWork)]

def releaseWork : Retried :=
  .releaseLease
    { instanceGeneration := 1, materializationId := work, owner := controller, attempt := 1 }

def releasesTwice (db : Database) : Bool :=
  match releaseWork.execute (session 3) db with
  | .ok (.answered true, committed) =>
    match releaseWork.execute (session 4) committed with
    | .ok (.answered false, _) => true
    | _ => false
  | _ => false

end Sample

theorem sample_retries_repeat_nothing :
    ∃ committed after, Sample.releaseWork.execute (Store.Sample.session 4) committed =
      .ok (.answered false, after) ∧ view after = view committed := by
  have twice : (runOps Sample.claimed .empty).toOption.any Sample.releasesTwice = true := by decide
  obtain ⟨db, ran, releases⟩ := (Option.any_eq_true _ _).mp twice
  have path := @runOps_path (fun label => production label ∧ begins label.2 = none) _ (by decide)
    _ _ (toOption_eq_some.mp ran)
  have reachable := @TransitionSystem.Path.preserves _ _ _ _
    (fun db => deploymentSystem.Reachable production { db := db, begun := [] })
    (fun _ _ _ allows reached committed => reached.step allows.1
      ⟨committed, by rw [allows.2]; exact nofun, by rw [allows.2]; rfl⟩) _ _ path (.init rfl)
  unfold Sample.releasesTwice at releases
  split at releases
  next committed executed =>
    split at releases
    next after repeated =>
      exact ⟨committed, after, repeated,
        (retries_repeat_nothing reachable executed rfl .refl repeated).2⟩
    · cases releases
  · cases releases

end Sleepypods.Reconciler
