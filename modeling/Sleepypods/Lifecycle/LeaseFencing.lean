import Sleepypods.Lifecycle.Evolution

/-! Lease fencing: a claim hands out a stamp, and once the lease behind a stamp has ended no
operation that carries it succeeds, through any later history of its materialization id. -/

set_option autoImplicit false

namespace Sleepypods.Lifecycle

open Library Store

/-- What a claim returned: the fence that later calls of its job carry. -/
structure Stamp where
  id : MaterializationId
  owner : String
  attempt : Nat
  generation : Nat
  state : MaterializationState

def stampOf (request : ClaimRequest) (record : MaterializationRow) : Stamp where
  id := request.materializationId
  owner := request.owner
  attempt := record.reconcileAttempt
  generation := record.instanceGeneration
  state := record.state

/-- The committed transactions that end the lease of a stamp on the work of an instance. -/
inductive LeaseEnded (stamp : Stamp) (instanceId : InstanceId) : Database → Database → Prop where
  | reclaimed {db after : Database} {session : Session} {request : ClaimRequest}
      {record : MaterializationRow} (same : request.materializationId = stamp.id)
      (returned : claimMaterializationReconciliation session request db =
        .ok (some record, after)) :
      LeaseEnded stamp instanceId db after
  | released {db after : Database} {session : Session} {request : ReleaseLeaseRequest}
      (same : request.materializationId = stamp.id)
      (returned : releaseMaterializationReconciliationLease session request db =
        .ok (true, after)) :
      LeaseEnded stamp instanceId db after
  | completed {db after : Database} {session : Session}
      {request : CompleteWakeReconciliationRequest} {result : InstanceRow × MaterializationRow}
      (same : request.materializationId = stamp.id)
      (returned : completeWakeReconciliation session request db = .ok (result, after)) :
      LeaseEnded stamp instanceId db after
  | finalized {db after : Database} {session : Session}
      {request : FinalizeSleepReconciliationRequest}
      {result : InstanceRow × Option MaterializationRow}
      (same : request.materializationId = stamp.id)
      (returned : finalizeSleepReconciliation session request db = .ok (result, after)) :
      LeaseEnded stamp instanceId db after
  | deleted {db after : Database} {session : Session}
      {request : DeleteMaterializationReconciliationRequest} {result : Option MaterializationRow}
      (same : request.materializationId = stamp.id)
      (returned : deleteMaterializationReconciliation session request db = .ok (result, after)) :
      LeaseEnded stamp instanceId db after
  | failed {db after : Database} {session : Session} {request : RecordFailureRequest}
      (same : request.materializationId = stamp.id)
      (returned : recordFailure session request db = .ok (true, after)) :
      LeaseEnded stamp instanceId db after
  /-- Accepted deletion moved the work from pending to deleting. -/
  | superseded {db after : Database} {session : Session} {request : RequestInstanceDeletion}
      {row : MaterializationRow} (same : request.instanceId = instanceId)
      (found : db.materializations.find? stamp.id = some row) (pending : row.state = .pending)
      (returned : requestInstanceDeletion session request db = .ok (true, after)) :
      LeaseEnded stamp instanceId db after
  /-- The instance was created anew under the same id. -/
  | recreated {db after : Database} {session : Session} {request : CreateInstanceRequest}
      {validated : StoreResult (List (String × String))} {result : CreateInstanceResult}
      (same : request.instanceId = instanceId)
      (returned : createInstance session request validated db = .ok (result, after))
      (fresh : result.idempotencyReplayed = false) :
      LeaseEnded stamp instanceId db after

theorem LeaseEnded.next {stamp : Stamp} {instanceId : InstanceId} {db after : Database}
    (ended : LeaseEnded stamp instanceId db after) : storeSystem.Next production db after := by
  have committed {α : Type} {result : StoreResult (α × Database)} {value : α}
      (returned : result = .ok (value, after)) : Prod.snd <$> result = .ok after := by
    rw [returned]
    rfl
  cases ended with
  | reclaimed _ returned => exact ⟨(_, .claim _), rfl, committed returned⟩
  | released _ returned => exact ⟨(_, .releaseLease _), rfl, committed returned⟩
  | completed _ returned => exact ⟨(_, .completeWake _), rfl, committed returned⟩
  | finalized _ returned => exact ⟨(_, .finalizeSleep _), rfl, committed returned⟩
  | deleted _ returned => exact ⟨(_, .deleteMaterialization _), rfl, committed returned⟩
  | failed _ returned => exact ⟨(_, .recordFailure _), rfl, committed returned⟩
  | superseded _ _ _ returned => exact ⟨(_, .requestInstanceDeletion _), rfl, committed returned⟩
  | recreated _ returned => exact ⟨(_, .createInstance _ _), rfl, committed returned⟩

/-! ### The order of stamps -/

/-- A row of the stamp's materialization at a condition, or at a later generation. -/
def RowsSince (stamp : Stamp) (instanceId : InstanceId) (state : State)
    (condition : MaterializationRow → Prop) : Prop :=
  (∃ watermark, state.watermarks instanceId = some watermark ∧
      stamp.generation ≤ watermark.lastGeneration) ∧
    ∀ row, state.work stamp.id = some row →
      stamp.generation < row.instanceGeneration ∨
        (row.instanceGeneration = stamp.generation ∧ condition row)

def NotBehind (stamp : Stamp) (row : MaterializationRow) : Prop :=
  stamp.attempt ≤ row.reconcileAttempt ∧ (row.state = .pending → stamp.state = .pending)

def Spent (stamp : Stamp) (instanceId : InstanceId) (state : State) (row : MaterializationRow) :
    Prop :=
  stamp.attempt < row.reconcileAttempt ∨
    (stamp.attempt = row.reconcileAttempt ∧ row.lease = none) ∨
    (stamp.state = .pending ∧ row.state ≠ .pending ∧
      ∃ owner, state.instances instanceId = some owner ∧ owner.state = .deleting)

section order

variable {stamp : Stamp} {instanceId : InstanceId} {target : MaterializationTarget}
  {session : Session} {op : Op} {state next : State}

theorem instanceId_of_work (wf : WellFormed state)
    (keyed : stamp.id = materializationId instanceId target) {row : MaterializationRow}
    (found : state.work stamp.id = some row) : row.instanceId = instanceId :=
  materializationId_instance ((wf.keyed _ _ found).symm.trans keyed)

/-- A condition on rows is kept by a step when it is kept within one generation. -/
theorem RowsSince.step {condition conditionNext : MaterializationRow → Prop}
    (since : RowsSince stamp instanceId state condition) (wf : WellFormed state)
    (keyed : stamp.id = materializationId instanceId target)
    (step : Step session op state next)
    (evolves : ∀ before after, state.work stamp.id = some before →
      next.work stamp.id = some after → Evolves before after → condition before →
      conditionNext after) :
    RowsSince stamp instanceId next conditionNext := by
  obtain ⟨⟨watermark, watermarkFound, reached⟩, rows⟩ := since
  obtain ⟨later, laterFound, grown⟩ := step.grows instanceId watermark watermarkFound
  refine ⟨⟨later, laterFound, reached.trans grown⟩, fun row stored => ?_⟩
  rcases step.rowEvolves wf stored with ⟨before, found, evolved⟩ | above
  · rcases rows before found with newer | ⟨same, holds⟩
    · exact .inl (evolved.generation ▸ newer)
    · exact .inr ⟨evolved.generation.trans same, evolves before row found stored evolved holds⟩
  · have owned := instanceId_of_work (step.wellFormed wf) keyed stored
    exact .inl (Nat.lt_of_le_of_lt reached (above watermark (owned ▸ watermarkFound)))

theorem notBehind_step (since : RowsSince stamp instanceId state (NotBehind stamp))
    (wf : WellFormed state) (keyed : stamp.id = materializationId instanceId target)
    (step : Step session op state next) : RowsSince stamp instanceId next (NotBehind stamp) := by
  refine since.step wf keyed step ?_
  rintro before after - - evolved ⟨attempt, pending⟩
  refine ⟨?_, fun isPending => ?_⟩
  · rcases evolved.attempt with ⟨same, -⟩ | next <;> omega
  · rcases evolved.state with same | other
    · exact pending (same ▸ isPending)
    · exact absurd isPending other

theorem spent_step (since : RowsSince stamp instanceId state (Spent stamp instanceId state))
    (wf : WellFormed state) (keyed : stamp.id = materializationId instanceId target)
    (step : Step session op state next) :
    RowsSince stamp instanceId next (Spent stamp instanceId next) := by
  refine since.step wf keyed step ?_
  rintro before after - stored evolved (older | ⟨same, unleased⟩ | ⟨wasPending, moved, deleting⟩)
  · left
    rcases evolved.attempt with ⟨same, -⟩ | next <;> omega
  · rcases evolved.attempt with ⟨sameAttempt, lease⟩ | next
    · exact .inr (.inl ⟨same.trans sameAttempt.symm, lease unleased⟩)
    · left
      omega
  · obtain ⟨owner, ownerFound, isDeleting⟩ := deleting
    have nextWf := step.wellFormed wf
    obtain ⟨later, laterFound, -⟩ := nextWf.owned stored
    rw [instanceId_of_work nextWf keyed stored] at laterFound
    refine .inr (.inr ⟨wasPending, ?_, later, laterFound,
      step.deleting_stays ownerFound isDeleting laterFound⟩)
    rcases evolved.state with same | other
    · exact same ▸ moved
    · exact other

theorem spent_of_unleased {before after : MaterializationRow} (notBehind : NotBehind stamp before)
    (sameAttempt : after.reconcileAttempt = before.reconcileAttempt)
    (unleased : after.lease = none) : Spent stamp instanceId next after := by
  rcases Nat.lt_or_eq_of_le notBehind.1 with older | same
  · exact .inl (sameAttempt ▸ older)
  · exact .inr (.inl ⟨same.trans sameAttempt.symm, unleased⟩)

theorem row_of_setWork {base : State} {id other : MaterializationId} {new row : MaterializationRow}
    (stored : (base.setWork id new).work other = some row) (same : id = other) : row = new := by
  subst same
  exact ((State.work_setWork_eq_some.mp stored).resolve_right fun other => other.1 rfl).2

end order

theorem LeaseEnded.spent {stamp : Stamp} {instanceId : InstanceId}
    {target : MaterializationTarget} {db after : Database}
    (ended : LeaseEnded stamp instanceId db after) (wf : WellFormed (view db))
    (keyed : stamp.id = materializationId instanceId target)
    (since : RowsSince stamp instanceId (view db) (NotBehind stamp)) :
    RowsSince stamp instanceId (view after) (Spent stamp instanceId (view after)) := by
  obtain ⟨label, -, committed⟩ := ended.next
  refine since.step wf keyed (commit_refines wf.keyed committed) ?_
  intro before row found stored evolved notBehind
  cases ended with
  | reclaimed same returned =>
    rcases claim_ok returned with ⟨none, -⟩ | ⟨old, ttlMillis, oldFound, -, -, -, viewed⟩
    · cases none
    · rw [viewed] at stored
      cases row_of_setWork stored same
      cases (same ▸ oldFound).symm.trans found
      exact .inl (Nat.lt_succ_of_le notBehind.1)
  | released same returned =>
    rcases releaseLease_ok returned with ⟨none, -⟩ | ⟨-, old, held, -, -, viewed⟩
    · cases none
    · rw [viewed] at stored
      cases row_of_setWork stored same
      cases (same ▸ held.found).symm.trans found
      exact spent_of_unleased notBehind rfl rfl
  | completed same returned =>
    obtain ⟨current, old, completable, viewed⟩ := completeWake_ok wf.keyed returned
    rw [viewed] at stored
    cases row_of_setWork stored same
    cases (same ▸ completable.found).symm.trans found
    have generation : _ + 1 = before.instanceGeneration := evolved.generation
    have stamped := completable.stamped
    omega
  | finalized same returned =>
    obtain ⟨current, old, finalizable, -, ⟨-, viewed⟩ | ⟨intent, -, next, -, viewed⟩⟩ :=
      finalizeSleep_ok wf.keyed returned
    · rw [viewed] at stored
      cases row_of_setWork stored same
      cases (same ▸ finalizable.found).symm.trans found
      have generation : _ + 1 = before.instanceGeneration := evolved.generation
      have stamped := finalizable.stamped
      omega
    · rw [viewed] at stored
      have stamped := finalizable.stamped
      rcases State.work_setWork_eq_some.mp stored with ⟨-, rfl⟩ | ⟨-, kept⟩
      · cases (same ▸ finalizable.found).symm.trans found
        have generation : intent.instanceGeneration = before.instanceGeneration :=
          (State.recordedRow_instanceGeneration ..).symm.trans evolved.generation
        omega
      · cases row_of_setWork kept same
        cases (same ▸ finalizable.found).symm.trans found
        have generation : _ + 1 = before.instanceGeneration := evolved.generation
        omega
  | deleted same returned =>
    obtain ⟨old, held, -, -, -, -, viewed⟩ := deleteMaterialization_ok returned
    rw [viewed] at stored
    cases row_of_setWork stored same
    cases (same ▸ held.found).symm.trans found
    exact spent_of_unleased notBehind rfl rfl
  | failed same returned =>
    rcases recordFailure_ok returned with ⟨none, -⟩ | ⟨-, old, owner, held, -, -, -,
      ⟨kind, count, message, -, viewed⟩ | ⟨-, -, kind, count, message, -, viewed⟩⟩
    · cases none
    all_goals
      rw [viewed] at stored
      cases row_of_setWork stored same
      cases (same ▸ held.found).symm.trans found
      exact spent_of_unleased notBehind rfl rfl
  | superseded same pendingFound pending returned =>
    rcases requestInstanceDeletion_ok returned with ⟨none, -⟩ | ⟨-, owner, ownerFound, -, viewed⟩
    · cases none
    · cases pendingFound.symm.trans found
      rw [viewed] at stored ⊢
      obtain ⟨_, kept, rfl⟩ := Option.map_eq_some_iff.mp stored
      simp only [State.setDeferred_work, State.acceptDeletion_work] at kept
      cases found.symm.trans kept
      obtain ⟨later, laterFound, deleting⟩ := State.deleting_acceptDeletion ownerFound
      refine .inr (.inr ⟨notBehind.2 pending, ?_, later, same ▸ laterFound, deleting⟩)
      have owned := instanceId_of_work wf keyed found
      simp [deletionRewrite_state, pending, owned, same]
  | recreated same returned fresh =>
    rcases createInstance_ok returned with ⟨replayed, -⟩ | ⟨-, -, absent, -⟩
    · cases fresh.symm.trans replayed
    · obtain ⟨owner, ownerFound, -⟩ := wf.owned found
      rw [instanceId_of_work wf keyed found, ← same] at ownerFound
      cases absent.symm.trans ownerFound

/-! ### Rejection -/

structure Rejected (db : Database) (stamp : Stamp) : Prop where
  renew : ∀ session request result after, request.materializationId = stamp.id →
    request.owner = stamp.owner → request.attempt = stamp.attempt →
    request.instanceGeneration = stamp.generation → request.expectedState = stamp.state →
    renewMaterializationReconciliationLease session request db = .ok (result, after) →
    result = false ∧ after = db
  beginEffect : ∀ session request result after, request.materializationId = stamp.id →
    request.owner = stamp.owner → request.attempt = stamp.attempt →
    request.instanceGeneration = stamp.generation → request.expectedState = stamp.state →
    beginMaterializationEffect session request db = .ok (result, after) →
    result = false ∧ after = db
  recordFailure : ∀ session request result after, request.materializationId = stamp.id →
    request.owner = stamp.owner → request.attempt = stamp.attempt →
    request.generation = stamp.generation → request.expectedState = stamp.state →
    Store.recordFailure session request db = .ok (result, after) → result = false ∧ after = db
  completeWake : ∀ session request result, request.materializationId = stamp.id →
    request.leaseOwner = stamp.owner → request.attempt = stamp.attempt →
    request.complete.expectedWakingGeneration = stamp.generation →
    completeWakeReconciliation session request db ≠ .ok result
  finalizeSleep : ∀ session request result, request.materializationId = stamp.id →
    request.leaseOwner = stamp.owner → request.attempt = stamp.attempt →
    request.finalize.expectedDrainingGeneration = stamp.generation + 1 →
    finalizeSleepReconciliation session request db ≠ .ok result
  deleteMaterialization : ∀ session request result, request.materializationId = stamp.id →
    request.leaseOwner = stamp.owner → request.attempt = stamp.attempt →
    request.instanceGeneration = stamp.generation → request.expectedState = stamp.state →
    deleteMaterializationReconciliation session request db ≠ .ok result

section rejection

variable {stamp : Stamp} {instanceId : InstanceId} {target : MaterializationTarget}
  {db : Database} {session : Session} {row : MaterializationRow}

/-- A spent stamp only matches a live lease on work whose deletion was accepted. -/
theorem moved_of_leased
    (since : RowsSince stamp instanceId (view db) (Spent stamp instanceId (view db)))
    {id : MaterializationId} {owner : String} {attempt : Nat} {generation : Nat}
    (held : LeasedRow session (view db) id owner attempt row)
    (stamped : row.instanceGeneration = generation) (sameId : id = stamp.id)
    (sameAttempt : attempt = stamp.attempt) (sameGeneration : generation = stamp.generation) :
    stamp.state = .pending ∧ row.state ≠ .pending ∧
      ∃ owner, (view db).instances instanceId = some owner ∧ owner.state = .deleting := by
  subst sameId
  have attempted := held.attempt_eq
  rcases since.2 row held.found with newer | ⟨-, older | ⟨-, unleased⟩ | moved⟩
  · omega
  · omega
  · exact absurd unleased held.lease_ne_none
  · exact moved

theorem rejected_of_spent (wf : WellFormed (view db))
    (keyed : stamp.id = materializationId instanceId target)
    (since : RowsSince stamp instanceId (view db) (Spent stamp instanceId (view db))) :
    Rejected db stamp where
  renew := by
    intro session request result after sameId sameOwner sameAttempt sameGeneration sameState renewed
    rcases renewLease_ok renewed with unchanged | ⟨-, row, _, held, stamped, -, expected, -⟩
    · exact unchanged
    · obtain ⟨pending, moved, -⟩ :=
        moved_of_leased since held stamped sameId sameAttempt sameGeneration
      exact absurd (expected.trans (sameState.trans pending)) moved
  beginEffect := by
    intro session request result after sameId sameOwner sameAttempt sameGeneration sameState begun
    have impossible : ∀ row, LeasedRow session (view db) request.materializationId request.owner
        request.attempt row → row.instanceGeneration = request.instanceGeneration →
        row.state ≠ request.expectedState := by
      intro row held stamped expected
      obtain ⟨pending, moved, -⟩ :=
        moved_of_leased since held stamped sameId sameAttempt sameGeneration
      exact moved (expected.trans (sameState.trans pending))
    rcases beginEffect_ok begun with ⟨same, answered⟩ | ⟨-, row, held, stamped, expected, -⟩
    · refine ⟨?_, same⟩
      by_contra success
      obtain ⟨-, row, held, stamped, expected⟩ := answered (Bool.eq_true_of_not_eq_false success)
      exact impossible row held stamped expected
    · exact absurd expected (impossible row held.toLeasedRow stamped)
  recordFailure := by
    intro session request result after sameId sameOwner sameAttempt sameGeneration sameState recorded
    rcases recordFailure_ok recorded with unchanged | ⟨-, row, _, held, stamped, expected, -⟩
    · exact unchanged
    · obtain ⟨pending, moved, -⟩ :=
        moved_of_leased since held stamped sameId sameAttempt sameGeneration
      exact absurd (expected.trans (sameState.trans pending)) moved
  completeWake := by
    rintro session request ⟨result, after⟩ sameId sameOwner sameAttempt sameGeneration completed
    obtain ⟨_, row, completable, -⟩ := completeWake_ok wf.keyed completed
    obtain ⟨-, moved, -⟩ := moved_of_leased since completable.toLeasedRow completable.stamped sameId
      sameAttempt sameGeneration
    exact moved completable.pending
  finalizeSleep := by
    rintro session request ⟨result, after⟩ sameId sameOwner sameAttempt sameGeneration finalized
    obtain ⟨current, row, finalizable, -⟩ := finalizeSleep_ok wf.keyed finalized
    have stamped := finalizable.stamped
    obtain ⟨-, -, owner, ownerFound, deleting⟩ := moved_of_leased since finalizable.toLeasedRow rfl
      sameId sameAttempt (by omega)
    -- The deleting instance is the one the request takes for draining.
    have owned := instanceId_of_work wf keyed (sameId ▸ finalizable.found)
    have instanceFound := finalizable.instanceFound
    rw [← finalizable.owned, owned] at instanceFound
    cases ownerFound.symm.trans instanceFound
    rw [finalizable.draining] at deleting
    cases deleting
  deleteMaterialization := by
    rintro session request ⟨result, after⟩ sameId sameOwner sameAttempt sameGeneration sameState
      deleted
    obtain ⟨row, held, expected, -, -, stamped, -⟩ := deleteMaterialization_ok deleted
    obtain ⟨pending, moved, -⟩ :=
      moved_of_leased since held.toLeasedRow stamped sameId sameAttempt sameGeneration
    exact moved (expected.trans (sameState.trans pending))

end rejection

/-! ### Whole histories -/

theorem path_preserves {allowed : Session × Op → Prop} {holds : State → Prop}
    (kept : ∀ {session op state next}, WellFormed state → Step session op state next →
      holds state → holds next)
    {db later : Database} (path : storeSystem.Path allowed db later) (wf : WellFormed (view db))
    (held : holds (view db)) : WellFormed (view later) ∧ holds (view later) := by
  induction path with
  | refl => exact ⟨wf, held⟩
  | tail _ last ih =>
    obtain ⟨label, -, committed⟩ := last
    have step := commit_refines ih.1.keyed committed
    exact ⟨step.wellFormed ih.1, kept ih.1 step ih.2⟩

theorem notBehind_of_claim {session : Session} {request : ClaimRequest}
    {record : MaterializationRow} {db claimed : Database} (wf : WellFormed (view db))
    (returned : claimMaterializationReconciliation session request db =
      .ok (some record, claimed)) :
    request.materializationId = materializationId record.instanceId record.target ∧
      WellFormed (view claimed) ∧
      RowsSince (stampOf request record) record.instanceId (view claimed)
        (NotBehind (stampOf request record)) := by
  rcases claim_ok returned with ⟨none, -⟩ | ⟨row, ttlMillis, found, claimable, resolved, recordEq,
    viewed⟩
  · cases none
  · cases recordEq
    have keyed := wf.keyed _ _ found
    have claimedWf : WellFormed (view claimed) := by
      rw [viewed]
      exact (Step.claimed found claimable resolved).wellFormed wf
    refine ⟨keyed, claimedWf, ?_, ?_⟩
    · obtain ⟨owner, ownerFound, reached⟩ := wf.owned found
      obtain ⟨watermark, watermarkFound, last⟩ := wf.watermarked ownerFound
      refine ⟨watermark, ?_, last ▸ reached⟩
      rw [viewed]
      exact watermarkFound
    · intro other stored
      rw [viewed] at stored
      cases row_of_setWork stored rfl
      exact .inr ⟨rfl, Nat.le_refl _, fun pending => pending⟩

/-- Once the lease of a claim has ended, no operation that carries its stamp succeeds or changes
any row, in any later state. -/
theorem ended_lease_is_fenced {session : Session} {request : ClaimRequest}
    {record : MaterializationRow} {db claimed before ended later : Database}
    (reachable : storeSystem.Reachable production db)
    (returned : claimMaterializationReconciliation session request db =
      .ok (some record, claimed))
    (held : storeSystem.Path production claimed before)
    (ends : LeaseEnded (stampOf request record) record.instanceId before ended)
    (path : storeSystem.Path production ended later) :
    Rejected later (stampOf request record) := by
  have wf := wellFormed_of_reachable reachable
  obtain ⟨keyed, claimedWf, since⟩ := notBehind_of_claim wf returned
  obtain ⟨beforeWf, beforeSince⟩ := path_preserves
    (fun wf step since => notBehind_step since wf keyed step) held claimedWf since
  have endedSince := ends.spent beforeWf keyed beforeSince
  obtain ⟨label, -, committed⟩ := ends.next
  have endedWf := (commit_refines beforeWf.keyed committed).wellFormed beforeWf
  obtain ⟨laterWf, laterSince⟩ := path_preserves
    (fun wf step since => spent_step since wf keyed step) path endedWf endedSince
  exact rejected_of_spent laterWf keyed laterSince

def sampleReleases : Bool :=
  match runOps Sample.waking .empty with
  | .error _ => false
  | .ok db =>
    match claimMaterializationReconciliation (Sample.session 2) Sample.claimWork db with
    | .ok (some _, claimed) =>
      match releaseMaterializationReconciliationLease (Sample.session 3)
          { instanceGeneration := 1, materializationId := Sample.work,
            owner := Sample.controller, attempt := 1 } claimed with
      | .ok (true, _) => true
      | _ => false
    | _ => false

theorem sample_ended_lease_is_fenced :
    ∃ later record, Rejected later (stampOf Sample.claimWork record) := by
  have releases : sampleReleases = true := by decide
  unfold sampleReleases at releases
  split at releases
  · cases releases
  next db ran =>
    split at releases
    next record claimed returned =>
      split at releases
      next released ended =>
        have reachable : storeSystem.Reachable production db :=
          ⟨.empty, rfl, runOps_path (by decide) ran⟩
        exact ⟨released, record,
          ended_lease_is_fenced reachable returned .refl (.released rfl ended) .refl⟩
      · cases releases
    · cases releases

end Sleepypods.Lifecycle
