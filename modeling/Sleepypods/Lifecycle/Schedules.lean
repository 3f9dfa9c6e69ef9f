import Sleepypods.Lifecycle.LeaseFencing

/-! What a transaction does to the schedule of a row: when its state was entered, until when its
drain must wait, and which failure is recorded. -/

set_option autoImplicit false

namespace Sleepypods.Lifecycle

open Library Store State

/-- An assignment that keeps the state, or retries failed work, without touching the deadlines or
recording a failure. -/
structure Rescheduled (old assigned : MaterializationRow) : Prop where
  state : assigned.state = old.state ∨ old.state = .failed
  generation : assigned.instanceGeneration = old.instanceGeneration
  lease : assigned.lease = none ∨ assigned.lease = old.lease
  entered : assigned.schedule.stateEnteredAt = old.schedule.stateEnteredAt
  drain : assigned.schedule.drainNotBefore = old.schedule.drainNotBefore
  failure : assigned.schedule.failureKind = old.schedule.failureKind ∨
    assigned.schedule.failureKind = none

/-! ### The triggers -/

section triggers

variable (session : Session) (old assigned : MaterializationRow)

theorem beforeUpdate_stateEnteredAt :
    (beforeUpdate session old assigned).schedule.stateEnteredAt =
      if assigned.state = old.state then assigned.schedule.stateEnteredAt else session.now := by
  unfold beforeUpdate trackMaterializationStateAge resetMaterializationSchedule
  by_cases same : assigned.state = old.state
  · simp only [same, ne_eq, not_true_eq_false, if_false, if_true, false_and, false_or]
    split <;> rfl
  · simp only [same, ne_eq, not_false_eq_true, if_true, if_false]

theorem resetMaterializationSchedule_state :
    (resetMaterializationSchedule session old assigned).state = assigned.state := rfl

theorem beforeUpdate_drainNotBefore :
    (beforeUpdate session old assigned).schedule.drainNotBefore =
      if assigned.state = old.state ∨ assigned.state = .deleting then
        assigned.schedule.drainNotBefore
      else 0 := by
  have reset : (resetMaterializationSchedule session old assigned).schedule.drainNotBefore =
      assigned.schedule.drainNotBefore := by
    unfold resetMaterializationSchedule
    dsimp only
    split <;> rfl
  unfold beforeUpdate trackMaterializationStateAge
  simp only [resetMaterializationSchedule_state]
  by_cases same : assigned.state = old.state
  · simp only [same, ne_eq, not_true_eq_false, if_false, true_or, if_true, reset]
  · simp only [same, ne_eq, not_false_eq_true, if_true, false_or, reset, ite_not]

end triggers

inductive RowChange (session : Session) (op : Op) (state : State) (id : MaterializationId) :
    MaterializationRow → Prop where
  | kept {row : MaterializationRow} (found : state.work id = some row) :
      RowChange session op state id row
  | inserted {request : RecordMaterializationRequest} (absent : state.work id = none)
      (above : AboveWatermark state (newMaterializationRow session request)) :
      RowChange session op state id (newMaterializationRow session request)
  | overwritten {old : MaterializationRow} {request : RecordMaterializationRequest}
      (found : state.work id = some old) (settled : old.state ≠ .deleting)
      (above : AboveWatermark state (beforeUpdate session old (overwrittenRow old request))) :
      RowChange session op state id (beforeUpdate session old (overwrittenRow old request))
  | drained {request : BeginSleepRequest} {old : MaterializationRow} {owner : InstanceRow}
      (begun : op = .beginSleep request) (found : state.work id = some old)
      (owned : state.instances old.instanceId = some owner)
      (stamped : old.instanceGeneration = owner.generation) :
      RowChange session op state id
        (beforeUpdate session old
          (drainingRow session (Duration.asMillis request.drainGraceTimeout) old))
  | marked {old : MaterializationRow} (found : state.work id = some old)
      (live : old.state ≠ .deleted) (undrained : old.state ≠ .deleting) :
      RowChange session op state id (beforeUpdate session old { old with state := .deleting })
  | claimed {request : ClaimRequest} {old : MaterializationRow} {ttlMillis : Nat}
      (requested : op = .claim request) (named : request.materializationId = id)
      (found : state.work id = some old) (claimable : old.claimable session.now = true) :
      RowChange session op state id
        (beforeUpdate session old (claimedRow session request.owner ttlMillis old))
  | renewed {old : MaterializationRow} {lease : ReconcileLease} (found : state.work id = some old)
      (held : old.lease ≠ none) :
      RowChange session op state id (beforeUpdate session old { old with lease := some lease })
  | rescheduled {old assigned : MaterializationRow} (found : state.work id = some old)
      (only : Rescheduled old assigned) :
      RowChange session op state id (beforeUpdate session old assigned)
  | failed {old : MaterializationRow} {count : Nat} {kind : FailureKind} {message : String}
      (found : state.work id = some old)
      (uncertain : kind = .uncertain → state.effects id ≠ none) :
      RowChange session op state id
        (beforeUpdate session old (failedRow session count kind message false old))
  | cleanedUp {old : MaterializationRow} {count : Nat} {kind : FailureKind} {message : String}
      (found : state.work id = some old) (pending : old.state = .pending)
      (certain : kind ≠ .uncertain) :
      RowChange session op state id
        (beforeUpdate session (cleanupRow session old)
          (failedRow session count kind message true (cleanupRow session old)))
  | deleted {old : MaterializationRow} {generation : Nat} (found : state.work id = some old)
      (held : old.lease ≠ none ∨ op.isForce = true) :
      RowChange session op state id
        (beforeUpdate session old { deletedRow old with instanceGeneration := generation })
  | restarted {old : MaterializationRow} {generation : Nat} {request : RecordMaterializationRequest}
      (found : state.work id = some old) (held : old.lease ≠ none)
      (draining : old.state = .deleting) (pending : request.state = .pending)
      (above : AboveWatermark state (beforeUpdate session
        (beforeUpdate session old { deletedRow old with instanceGeneration := generation })
        (overwrittenRow
          (beforeUpdate session old { deletedRow old with instanceGeneration := generation })
          request))) :
      RowChange session op state id
        (beforeUpdate session
          (beforeUpdate session old { deletedRow old with instanceGeneration := generation })
          (overwrittenRow
            (beforeUpdate session old { deletedRow old with instanceGeneration := generation })
            request))

/-! ### Transactions -/

variable {old : MaterializationRow}

section transactions

variable {session : Session} {op : Op} {state next : State} {id : MaterializationId}
  {row : MaterializationRow}

/-- A rewrite of one row changes every row when it changes the one it rewrites. -/
theorem rowChange_setWork {base : State} {other : MaterializationId} {new : MaterializationRow}
    (sameWork : base.work = state.work) (stored : (base.setWork other new).work id = some row)
    (change : RowChange session op state other new) : RowChange session op state id row := by
  rcases work_setWork_eq_some.mp stored with ⟨rfl, rfl⟩ | ⟨_, kept⟩
  · exact change
  · exact .kept (sameWork ▸ kept)

def reschedules : Op → Bool
  | .releaseLease _ | .recordFailure _ | .enqueue _ | .forceReleaseKey _ => true
  | _ => false

theorem rowChange_record {base : State} {request : RecordMaterializationRequest}
    (sameWork : base.work = state.work)
    (settled : ∀ old, state.work (materializationId request.instanceId request.target) = some old →
      old.state ≠ .deleting)
    (above : AboveWatermark state (base.recordedRow session request))
    (stored : (base.record session request).work id = some row) :
    RowChange session op state id row := by
  refine rowChange_setWork sameWork stored ?_
  unfold recordedRow at above ⊢
  rw [sameWork] at above ⊢
  cases found : state.work (materializationId request.instanceId request.target) with
  | none =>
    rw [found] at above
    exact .inserted found above
  | some old =>
    rw [found] at above
    exact .overwritten found (settled old found) above

/-- A deferred wake takes the place of a drained incarnation, in the same row or in another. -/
theorem rowChange_activate {request : FinalizeSleepReconciliationRequest} {current : InstanceRow}
    {intent : DeferredWakeIntent} (wf : WellFormed state)
    (finalizable : SleepFinalizable session state request current old)
    (following : intent.instanceGeneration = request.finalize.expectedDrainingGeneration + 2)
    (recordable : (state.drain session request current old).Recordable (activatedRequest
      request.finalize.instanceId intent))
    (stored : ((state.drain session request current old).activate session
      request.finalize.instanceId current intent).work id = some row) :
    RowChange session op state id row := by
  have held : old.lease ≠ none := finalizable.lease_ne_none
  rcases work_setWork_eq_some.mp stored with ⟨rfl, rfl⟩ | ⟨_, kept⟩
  · have above : AboveWatermark state ((state.drain session request current old).recordedRow session
        (activatedRequest request.finalize.instanceId intent)) := by
      apply wf.aboveWatermark finalizable.instanceFound
      · exact recordedRow_instanceId session recordable
      · rw [recordedRow_instanceGeneration, activatedRequest, following, finalizable.expected]
        exact Nat.lt_add_of_pos_right (by decide)
    show RowChange session op state _ ((state.drain session request current old).recordedRow session
      (activatedRequest request.finalize.instanceId intent))
    unfold recordedRow at above ⊢
    cases found : (state.drain session request current old).work
        (materializationId (activatedRequest request.finalize.instanceId intent).instanceId
          (activatedRequest request.finalize.instanceId intent).target) with
    | none =>
      rw [found] at above
      refine .inserted ?_ above
      by_contra present
      rw [drain, setWork_work, Function.update_apply] at found
      split at found
      · cases found
      · exact present found
    | some other =>
      rw [found] at above
      obtain ⟨owned, _⟩ := recordable other found
      rcases work_setWork_eq_some.mp found with ⟨same, rfl⟩ | ⟨different, there⟩
      · rw [same]
        exact .restarted finalizable.found held finalizable.deleting rfl above
      · have there : state.work _ = some other := there
        refine .overwritten there (fun deleting => different ?_) above
        exact wf.liveUnique there finalizable.found (owned.trans finalizable.owned.symm)
          (by rw [deleting]; decide) (by rw [finalizable.deleting]; decide)
  · exact rowChange_setWork rfl kept (.deleted finalizable.found (.inl held))

theorem Step.rowChange (step : Step session op state next) (wf : WellFormed state)
    (determined : reschedules op = false) (stored : next.work id = some row) :
    RowChange session op state id row := by
  cases step with
  | unchanged | created | wakeDeferred | sleepBegunWithoutWork | effectBegun
  | effectAcknowledged => exact .kept stored
  | removed => exact .kept (Option.filter_eq_some_iff.mp stored).1
  | wakeStarted found settled _ idle prepared _ recordable =>
    refine rowChange_record rfl (fun old there => ?_) ?_ stored
    · rw [idle _ old there (recordable old there).1]
      decide
    · apply wf.aboveWatermark found
      · exact recordedRow_instanceId session recordable
      · simpa using prepared.generation_lt
  | sleepBegun found _ expected foundRow owned _ _ stamped =>
    refine rowChange_setWork rfl stored ?_
    exact .drained rfl foundRow (owned ▸ found) (stamped.trans expected.symm)
  | deletionAccepted =>
    obtain ⟨before, kept, rfl⟩ := Option.map_eq_some_iff.mp stored
    simp only [setDeferred_work, acceptDeletion_work] at kept
    dsimp only
    unfold deletionRewrite
    split
    next live => exact .marked kept live.2.1 live.2.2
    · exact .kept kept
  | claimed found claimable =>
    refine rowChange_setWork rfl stored ?_
    exact .claimed rfl rfl found claimable
  | renewed held =>
    refine rowChange_setWork rfl stored ?_
    exact .renewed held.found held.lease_ne_none
  | wakeCompleted completable =>
    refine rowChange_setWork rfl stored ?_
    refine .overwritten completable.found (by rw [completable.pending]; decide) ?_
    refine wf.aboveWatermark completable.instanceFound completable.owned ?_
    exact Nat.lt_succ_of_le (Nat.le_of_eq completable.expected)
  | sleepFinalized finalizable =>
    refine rowChange_setWork rfl stored ?_
    exact .deleted finalizable.found (.inl finalizable.lease_ne_none)
  | deferredWakeActivated finalizable _ following recordable =>
    exact rowChange_activate wf finalizable following recordable stored
  | workDeleted held =>
    refine rowChange_setWork rfl stored ?_
    exact .deleted held.found (.inl held.lease_ne_none)
  | forceDeleted found =>
    refine rowChange_setWork rfl stored ?_
    exact .deleted found (.inr rfl)
  | released | failureRecorded | wakeFailed | enqueued | keyForceReleased => cases determined

theorem commit_rowChange {db after : Database} (wf : WellFormed (view db))
    (committed : commit session op db = .ok after) (stored : (view after).work id = some row) :
    RowChange session op (view db) id row := by
  cases determined : reschedules op with
  | false => exact (commit_refines wf.keyed committed).rowChange wf determined stored
  | true =>
    cases op with
    | releaseLease =>
      obtain ⟨_, released⟩ := Fallible.map_snd_eq_ok.mp committed
      rcases releaseLease_ok released with ⟨_, rfl⟩ | ⟨_, old, held, _, _, viewed⟩
      · exact .kept stored
      · rw [viewed] at stored
        refine rowChange_setWork rfl stored ?_
        exact .rescheduled held.found ⟨.inl rfl, rfl, .inl rfl, rfl, rfl, .inl rfl⟩
    | recordFailure =>
      obtain ⟨_, recorded⟩ := Fallible.map_snd_eq_ok.mp committed
      rcases recordFailure_ok recorded with ⟨_, rfl⟩ | ⟨_, old, owner, held, _, _, _,
        ⟨kind, count, message, uncertain, viewed⟩ |
          ⟨_, pending, kind, count, message, certain, viewed⟩⟩
      · exact .kept stored
      · rw [viewed] at stored
        refine rowChange_setWork rfl stored ?_
        exact .failed held.found uncertain
      · rw [viewed] at stored
        refine rowChange_setWork (failWake_work ..) stored ?_
        exact .cleanedUp held.found pending certain
    | enqueue =>
      obtain ⟨_, enqueued⟩ := Fallible.map_snd_eq_ok.mp committed
      rcases enqueue_ok enqueued with ⟨_, rfl⟩ | ⟨_, old, found, _, _, _, viewed⟩
      · exact .kept stored
      · rw [viewed] at stored
        refine rowChange_setWork rfl stored ?_
        refine .rescheduled found ⟨?_, rfl, .inr rfl, rfl, rfl, .inr rfl⟩
        by_cases failed : old.state = .failed
        · exact .inr failed
        · exact .inl (if_neg failed)
    | forceReleaseKey =>
      obtain ⟨_, forced⟩ := Fallible.map_snd_eq_ok.mp committed
      obtain ⟨rewrite, keysOnly, viewed⟩ := forceReleaseKey_ok forced
      rw [viewed] at stored
      obtain ⟨old, found, rfl⟩ := Option.map_eq_some_iff.mp stored
      rcases keysOnly id old with same | ⟨keys, rewritten⟩
      · rw [same]
        exact .kept found
      · rw [rewritten]
        exact .rescheduled found ⟨.inl rfl, rfl, .inr rfl, rfl, rfl, .inl rfl⟩
    | _ => cases determined

end transactions

section entered

variable {session : Session} {op : Op} {state : State} {id : MaterializationId}
  {row : MaterializationRow}

/-- A row either kept its state and the time it was entered, or entered it just now. -/
def EnteredBy (session : Session) (state : State) (id : MaterializationId)
    (row : MaterializationRow) : Prop :=
  (∃ old, state.work id = some old ∧ old.state = row.state ∧
      row.schedule.stateEnteredAt = old.schedule.stateEnteredAt) ∨
    (row.schedule.stateEnteredAt = session.now ∧
      ∀ old, state.work id = some old → old.state ≠ row.state)

theorem enteredBy_of_update {assigned : MaterializationRow} (found : state.work id = some old)
    (kept : assigned.schedule.stateEnteredAt = old.schedule.stateEnteredAt) :
    EnteredBy session state id (beforeUpdate session old assigned) := by
  unfold EnteredBy
  rw [beforeUpdate_stateEnteredAt, beforeUpdate_state]
  by_cases same : assigned.state = old.state
  · rw [if_pos same]
    exact .inl ⟨old, found, same.symm, kept⟩
  · rw [if_neg same]
    refine .inr ⟨rfl, fun other otherFound => ?_⟩
    cases found.symm.trans otherFound
    exact Ne.symm same

theorem RowChange.entered (change : RowChange session op state id row) :
    EnteredBy session state id row := by
  cases change with
  | kept found => exact .inl ⟨row, found, rfl, rfl⟩
  | inserted absent =>
    refine .inr ⟨rfl, fun old found => ?_⟩
    cases absent.symm.trans found
  | overwritten found | drained _ found | marked found | claimed _ _ found | renewed found
  | failed found | deleted found => exact enteredBy_of_update found rfl
  | rescheduled found only => exact enteredBy_of_update found only.entered
  | cleanedUp found pending =>
    refine .inr ⟨?_, fun old oldFound => ?_⟩
    · refine ((beforeUpdate_stateEnteredAt ..).trans (if_pos rfl)).trans ?_
      refine (beforeUpdate_stateEnteredAt ..).trans (if_neg ?_)
      rw [pending]
      exact nofun
    · cases found.symm.trans oldFound
      rw [pending]
      exact nofun
  | restarted found _ draining pending =>
    refine .inr ⟨?_, fun old oldFound => ?_⟩
    · refine (beforeUpdate_stateEnteredAt ..).trans (if_neg ?_)
      rw [beforeUpdate_state]
      exact fun same => by cases pending.symm.trans same
    · cases found.symm.trans oldFound
      rw [draining, beforeUpdate_state]
      exact fun same => by cases pending.symm.trans same.symm

end entered

end Sleepypods.Lifecycle
