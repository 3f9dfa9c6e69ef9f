import Sleepypods.Lifecycle.Evolution

/-! Agreement between instances and their work: the state of an instance determines what live
work it has and at which generations. -/

set_option autoImplicit false

namespace Sleepypods.Lifecycle

open Library Store State

def Fits (owner : InstanceRow) (row : MaterializationRow) : Prop :=
  match owner.state with
  | .waking =>
    row.state = .pending ∧ row.instanceGeneration = owner.generation ∧
      row.projectionGeneration = owner.generation + 1
  | .running =>
    row.state = .ready ∧ row.instanceGeneration = owner.generation ∧
      row.projectionGeneration = owner.generation ∧ row.backend ≠ none
  | .draining => row.state = .deleting ∧ row.instanceGeneration + 1 = owner.generation
  | .failed | .deleting => row.state = .deleting ∧ row.instanceGeneration < owner.generation
  | .cold | .deleted => False

variable {owner : InstanceRow} {row : MaterializationRow}

section

variable (fits : Fits owner row)

include fits

theorem Fits.waking_of_pending (pending : row.state = .pending) :
    owner.state = .waking ∧ row.instanceGeneration = owner.generation := by
  cases state : owner.state <;> simp_all [Fits]

theorem Fits.state_ne_failed : row.state ≠ .failed := by
  cases state : owner.state <;> simp_all [Fits]

theorem Fits.lt_of_deleting (deleting : row.state = .deleting) :
    row.instanceGeneration < owner.generation := by
  cases state : owner.state <;> simp_all [Fits]
  omega

def needsWork : InstanceState → Bool
  | .waking | .running | .draining => true
  | .cold | .failed | .deleting | .deleted => false

theorem Fits.draining_of_deleting (deleting : row.state = .deleting)
    (needed : needsWork owner.state = true) :
    owner.state = .draining ∧ row.instanceGeneration + 1 = owner.generation := by
  cases state : owner.state <;> simp_all [Fits, needsWork]

end

structure AgreesAt (id : InstanceId) (state : State) : Prop where
  fits : ∀ {work : MaterializationId} {row : MaterializationRow} {owner : InstanceRow},
    state.work work = some row → row.instanceId = id → row.state ≠ .deleted →
    state.instances id = some owner → Fits owner row
  present : ∀ {owner : InstanceRow}, state.instances id = some owner →
    needsWork owner.state = true →
    ∃ work row, state.work work = some row ∧ row.instanceId = id ∧ row.state ≠ .deleted
  deferred : ∀ {intent : DeferredWakeIntent}, state.deferred id = some intent →
    ∃ owner, state.instances id = some owner ∧ owner.state = .draining ∧
      intent.instanceGeneration = owner.generation + 2 ∧
      intent.projectionGeneration = owner.generation + 3

def Agrees (state : State) : Prop := ∀ id, AgreesAt id state

theorem agrees_empty : Agrees (view .empty) := fun _ =>
  { fits := fun found => by cases found
    present := fun found => by cases found
    deferred := fun found => by cases found }

/-! ### Steps that touch one instance -/

/-- Everything about other instances is as before. -/
structure Elsewhere (id : InstanceId) (state next : State) : Prop where
  instances : ∀ other, other ≠ id → next.instances other = state.instances other
  work : ∀ key row, row.instanceId ≠ id → (next.work key = some row ↔ state.work key = some row)
  deferred : ∀ other, other ≠ id → next.deferred other = state.deferred other

variable {id : InstanceId}

theorem Elsewhere.trans {first second third : State} (former : Elsewhere id first second)
    (latter : Elsewhere id second third) :
    Elsewhere id first third where
  instances other different :=
    (latter.instances other different).trans (former.instances other different)
  work key row different := (latter.work key row different).trans (former.work key row different)
  deferred other different :=
    (latter.deferred other different).trans (former.deferred other different)

variable {key : MaterializationId} {new old : MaterializationRow} {session : Session} {base : State}

section elsewhere

variable (state : State) (id : InstanceId)

theorem elsewhere_setInstance (row : InstanceRow) :
    Elsewhere id state (state.setInstance id row) where
  instances _ different := Function.update_of_ne different ..
  work _ _ _ := Iff.rfl
  deferred _ _ := rfl

theorem elsewhere_setDeferred (intent : Option DeferredWakeIntent) :
    Elsewhere id state (state.setDeferred id intent) where
  instances _ _ := rfl
  work _ _ _ := Iff.rfl
  deferred _ different := Function.update_of_ne different ..

variable {state id}

theorem elsewhere_setWork (overwrites : ∀ old, state.work key = some old → old.instanceId = id)
    (writes : new.instanceId = id) : Elsewhere id state (state.setWork key new) where
  instances _ _ := rfl
  work other row different := by
    rw [work_setWork_eq_some]
    constructor
    · rintro (⟨-, rfl⟩ | ⟨-, kept⟩)
      · exact absurd writes different
      · exact kept
    · intro kept
      refine .inr ⟨?_, kept⟩
      rintro rfl
      exact different (overwrites row kept)
  deferred _ _ := rfl

theorem elsewhere_rewrite (found : state.work key = some old) (owned : old.instanceId = id)
    (same : new.instanceId = old.instanceId) : Elsewhere id state (state.setWork key new) := by
  refine elsewhere_setWork (fun other stored => ?_) (same.trans owned)
  cases found.symm.trans stored
  exact owned

variable {request : RecordMaterializationRequest}

theorem Elsewhere.record (elsewhere : Elsewhere request.instanceId state base)
    (recordable : base.Recordable request) :
    Elsewhere request.instanceId state (base.record session request) :=
  elsewhere.trans (elsewhere_setWork (fun old stored => (recordable old stored).1)
    (recordedRow_instanceId session recordable))

theorem elsewhere_deletionRewrite :
    Elsewhere id state (state.mapWork fun _ => deletionRewrite session id) where
  instances _ _ := rfl
  work key row different := by
    have kept : ∀ {old : MaterializationRow}, old.instanceId ≠ id →
        deletionRewrite session id old = old := by
      intro old other
      rw [deletionRewrite, if_neg fun selected => other selected.1]
    constructor
    · intro stored
      obtain ⟨old, found, rewritten⟩ := Option.map_eq_some_iff.mp stored
      have other : old.instanceId ≠ id := by
        rwa [← rewritten, deletionRewrite_instanceId] at different
      exact ((kept other).symm.trans rewritten) ▸ found
    · intro found
      exact Option.map_eq_some_iff.mpr ⟨row, found, kept different⟩
  deferred _ _ := rfl

theorem elsewhere_acceptDeletion {row : InstanceRow} :
    Elsewhere id state (((state.acceptDeletion id row).setDeferred id none).mapWork
      fun _ => deletionRewrite session id) := by
  refine Elsewhere.trans ?_ elsewhere_deletionRewrite
  refine Elsewhere.trans ?_ (elsewhere_setDeferred _ id none)
  unfold acceptDeletion
  split
  · exact ⟨fun _ _ => rfl, fun _ _ _ => Iff.rfl, fun _ _ => rfl⟩
  · exact elsewhere_setInstance state id _

end elsewhere

variable {state next : State}

variable {current : InstanceRow}

section drained

variable {state : State} {request : FinalizeSleepReconciliationRequest}
  (finalizable : SleepFinalizable session state request current row)

include finalizable

theorem elsewhere_drain :
    Elsewhere request.finalize.instanceId state (state.drain session request current row) := by
  refine (elsewhere_setInstance state _ _).trans (elsewhere_rewrite ?_ finalizable.owned rfl)
  exact finalizable.found

theorem elsewhere_restart {waking : InstanceRow} :
    Elsewhere request.finalize.instanceId state
      (((state.drain session request current row).setDeferred request.finalize.instanceId
        none).setInstance request.finalize.instanceId waking) :=
  ((elsewhere_drain finalizable).trans (elsewhere_setDeferred _ _ _)).trans
    (elsewhere_setInstance _ _ _)

end drained

/-! ### What a step does to one instance -/

def LiveRow (state : State) (id : InstanceId) (key : MaterializationId)
    (row : MaterializationRow) : Prop :=
  state.work key = some row ∧ row.instanceId = id ∧ row.state ≠ .deleted

/-- A row whose instance stays where it is: what its fit depends on is as before, or it is not the
pending work of a waking instance and gets deleted. -/
inductive Stays (state : State) (before row : MaterializationRow) : Prop where
  | touched (state : row.state = before.state)
      (generation : row.instanceGeneration = before.instanceGeneration)
      (projection : row.projectionGeneration = before.projectionGeneration)
      (backend : row.backend = before.backend)
  | stopped (was : before.state = .failed ∨ before.state = .pending ∧
        ∀ {owner}, state.instances before.instanceId = some owner → owner.state = .waking →
          owner.generation ≠ before.instanceGeneration)
      (generation : row.instanceGeneration = before.instanceGeneration)
      (deleting : row.state = .deleting)

/-- The row is deleted by a reconciler or by an operator. -/
def Ends (session : Session) (op : Op) (state : State) (key : MaterializationId)
    (row : MaterializationRow) : Prop :=
  (∃ request, op = .deleteMaterialization request ∧ request.materializationId = key ∧
      row.state = request.expectedState ∧ row.instanceGeneration = request.instanceGeneration ∧
      LeasedRow session state key request.leaseOwner request.attempt row) ∨
    ∃ request, op = .forceDelete request ∧ request.materializationId = key

/-- The ways in which a step can move an instance and its live work. -/
inductive Turn (session : Session) (op : Op) (state next : State) (id : InstanceId) : Prop where
  | rests (instances : next.instances id = state.instances id)
      (rows : ∀ {key row}, LiveRow next id key row →
        ∃ before, LiveRow state id key before ∧ Stays state before row)
      (kept : ∀ {key row}, LiveRow state id key row →
        (∃ after, LiveRow next id key after) ∨ Ends session op state key row)
  | idles (was : ∀ {owner}, state.instances id = some owner → owner.state = .deleting ∨
        owner.state = .draining ∧ ∃ key row, LiveRow state id key row)
      (now : ∀ {owner}, next.instances id = some owner → owner.state = .cold)
      (undeferred : ∀ {owner}, state.instances id = some owner → next.deferred id = none)
      (idle : ∀ {key row}, ¬ LiveRow next id key row)
  | wakes {current owner : InstanceRow} {intent : DeferredWakeIntent}
      (found : state.instances id = some current)
      (was : (current.state = .cold ∨ current.state = .failed) ∧
          intent.projectionGeneration = intent.instanceGeneration + 1 ∨
        current.state = .draining ∧ (∃ key row, LiveRow state id key row) ∧
          state.deferred id = some intent ∧
          intent.instanceGeneration = current.generation + 2 ∧ next.deferred id = none)
      (stored : next.instances id = some owner) (waking : owner.state = .waking)
      (generation : owner.generation = intent.instanceGeneration)
      (rows : ∀ {key row}, LiveRow next id key row → Records id intent row)
      (now : ∃ key row, LiveRow next id key row)
  | moves {current owner : InstanceRow} {key : MaterializationId}
      {before row : MaterializationRow} (found : state.instances id = some current)
      (awake : current.state ≠ .draining) (was : LiveRow state id key before)
      (stored : next.instances id = some owner) (now : LiveRow next id key row)
      (only : ∀ {other otherRow}, LiveRow next id other otherRow → otherRow = row)
      (unpending : row.state ≠ .pending) (ready : owner.state = .running → row.state = .ready)
      (fits : Fits current before → Fits owner row)
  | sleeps {request : BeginSleepRequest} {current owner : InstanceRow}
      (called : op = .beginSleep request) (unaged : request.minimumReadyAge = none)
      (found : state.instances id = some current) (running : current.state = .running)
      (stored : next.instances id = some owner) (draining : owner.state = .draining)
      (same : next.work = state.work)
  | deletes {request : RequestInstanceDeletion} {current owner : InstanceRow}
      (called : op = .requestInstanceDeletion request) (named : request.instanceId = id)
      (found : state.instances id = some current) (stored : next.instances id = some owner)
      (deleting : owner.state = .deleting) (undeferred : next.deferred id = none)
      (moved : current.state = .deleting ∧ owner = current ∨
        owner.generation = current.generation + 1)
      (rows : ∀ {key row}, LiveRow next id key row → row.state = .deleting ∧
        ∃ before, LiveRow state id key before ∧
          row.instanceGeneration = before.instanceGeneration)

section turn

variable {state next base : State} {op : Op} {other : InstanceId} {work : MaterializationId}

theorem turn_of_elsewhere (elsewhere : Elsewhere other state next)
    (here : Turn session op state next other) : Turn session op state next id := by
  by_cases same : id = other
  · exact same ▸ here
  · refine .rests (elsewhere.instances id same) ?_ ?_
    · rintro key row ⟨stored, owned, live⟩
      exact ⟨row, ⟨(elsewhere.work key row (owned ▸ same)).mp stored, owned, live⟩,
        .touched rfl rfl rfl rfl⟩
    · rintro key row ⟨stored, owned, live⟩
      exact .inl ⟨row, (elsewhere.work key row (owned ▸ same)).mpr stored, owned, live⟩

theorem turn_of_same (instances : next.instances = state.instances)
    (sameWork : next.work = state.work) : Turn session op state next id := by
  refine .rests (congrFun instances id) (fun {key row} live => ?_) fun {key row} live => ?_
  · exact ⟨row, ⟨sameWork ▸ live.1, live.2⟩, .touched rfl rfl rfl rfl⟩
  · exact .inl ⟨row, sameWork.symm ▸ live.1, live.2⟩

theorem turn_setWork (instances : base.instances = state.instances)
    (sameWork : base.work = state.work) (found : state.work key = some old)
    (sameInstance : new.instanceId = old.instanceId)
    (stays : new.state ≠ .deleted → old.state ≠ .deleted ∧ Stays state old new)
    (kept : old.state ≠ .deleted → new.state ≠ .deleted ∨ Ends session op state key old) :
    Turn session op state (base.setWork key new) id := by
  refine .rests (congrFun instances id) ?_ ?_
  · rintro other row ⟨stored, owned, live⟩
    rcases work_setWork_eq_some.mp stored with ⟨rfl, rfl⟩ | ⟨-, kept⟩
    · exact ⟨old, ⟨found, sameInstance ▸ owned, (stays live).1⟩, (stays live).2⟩
    · exact ⟨row, ⟨sameWork ▸ kept, owned, live⟩, .touched rfl rfl rfl rfl⟩
  · rintro other row ⟨stored, owned, live⟩
    by_cases same : other = key
    · subst same
      cases found.symm.trans stored
      exact (kept live).imp_left fun left =>
        ⟨new, work_setWork_eq_some.mpr (.inl ⟨rfl, rfl⟩), sameInstance.trans owned, left⟩
    · exact .inl ⟨row, work_setWork_eq_some.mpr (.inr ⟨same, sameWork ▸ stored⟩), owned, live⟩

theorem turn_touched (found : state.work key = some old)
    (sameInstance : new.instanceId = old.instanceId) (sameState : new.state = old.state)
    (generation : new.instanceGeneration = old.instanceGeneration)
    (projection : new.projectionGeneration = old.projectionGeneration)
    (backend : new.backend = old.backend) : Turn session op state (state.setWork key new) id := by
  refine turn_setWork rfl rfl found sameInstance ?_ ?_
  · exact fun live => ⟨sameState ▸ live, .touched sameState generation projection backend⟩
  · exact fun live => .inl (sameState ▸ live)

/-- After the only live row of an instance is rewritten, a live row of the instance is that row. -/
theorem WellFormed.live_setWork (wf : WellFormed state) (sameWork : base.work = state.work)
    (was : LiveRow state id key old) (live : LiveRow (base.setWork key new) id work row) :
    row = new := by
  rcases work_setWork_eq_some.mp live.1 with ⟨-, rfl⟩ | ⟨different, kept⟩
  · rfl
  · rw [sameWork] at kept
    have owned := live.2.1.trans was.2.1.symm
    exact absurd (wf.liveUnique kept was.1 owned live.2.2 was.2.2) different

theorem WellFormed.turn_moved (wf : WellFormed state) {moved : InstanceState}
    (found : state.instances id = some current) (awake : current.state ≠ .draining)
    (was : LiveRow state id key old) (sameInstance : new.instanceId = old.instanceId)
    (live : new.state ≠ .deleted) (unpending : new.state ≠ .pending)
    (ready : moved = .running → new.state = .ready)
    (fits : Fits current old → Fits { current with
      state := moved, generation := current.generation + 1 } new) :
    Turn session op state ((state.advance id current moved).setWork key new) other := by
  refine turn_of_elsewhere ((elsewhere_setInstance state _ _).trans
    (elsewhere_rewrite was.1 was.2.1 sameInstance)) ?_
  exact .moves found awake was (instances_advance_self rfl)
    ⟨work_setWork_eq_some.mpr (.inl ⟨rfl, rfl⟩), sameInstance.trans was.2.1, live⟩
    (wf.live_setWork rfl was) unpending ready fits

theorem turn_recorded {request : RecordMaterializationRequest} {intent : DeferredWakeIntent}
    (elsewhere : Elsewhere request.instanceId state base)
    (found : state.instances request.instanceId = some current)
    (was : (current.state = .cold ∨ current.state = .failed) ∧
        intent.projectionGeneration = intent.instanceGeneration + 1 ∨
      current.state = .draining ∧ (∃ key row, LiveRow state request.instanceId key row) ∧
        state.deferred request.instanceId = some intent ∧
        intent.instanceGeneration = current.generation + 2 ∧
        base.deferred request.instanceId = none)
    (stored : base.instances request.instanceId = some owner) (waking : owner.state = .waking)
    (generation : owner.generation = intent.instanceGeneration)
    (idle : ∀ work row, base.work work = some row → row.instanceId = request.instanceId →
      row.state = .deleted) (recordable : base.Recordable request)
    (records : Records request.instanceId intent (base.recordedRow session request)) :
    Turn session op state (base.record session request) id := by
  have live : (base.recordedRow session request).state ≠ .deleted := by
    rw [records.state]
    decide
  refine turn_of_elsewhere (elsewhere.record recordable)
    (.wakes found was stored waking generation (fun {key row} left => ?_) ⟨_, _,
      work_setWork_eq_some.mpr (.inl ⟨rfl, rfl⟩), records.instanceId, live⟩)
  rcases work_setWork_eq_some.mp left.1 with ⟨-, rfl⟩ | ⟨-, kept⟩
  · exact records
  · exact absurd (idle key row kept left.2.1) left.2.2

theorem Step.turn (step : Step session op state next) (wf : WellFormed state) (id : InstanceId) :
    Turn session op state next id := by
  cases step with
  | unchanged | wakeDeferred | effectBegun | effectAcknowledged => exact turn_of_same rfl rfl
  | created absent cold =>
    refine turn_of_elsewhere (elsewhere_setInstance state _ _) (.idles ?_ ?_ ?_ ?_)
    · intro owner found
      cases absent.symm.trans found
    · intro owner found
      cases (Function.update_self ..).symm.trans found
      exact cold
    · intro owner found
      cases absent.symm.trans found
    · rintro key row ⟨stored, owned, -⟩
      obtain ⟨_, found, -⟩ := wf.owned stored
      cases absent.symm.trans (owned ▸ found)
  | removed deleting cleaned unreferenced =>
    rename_i ids
    by_cases gone : id ∈ ids
    · refine .idles ?_ ?_ ?_ ?_
      · intro owner found
        obtain ⟨_, there, isDeleting⟩ := deleting id gone
        cases found.symm.trans there
        exact .inl isDeleting
      · intro owner found
        rw [remove_instances, if_pos gone] at found
        cases found
      · exact fun _ => by rw [remove_deferred, if_pos gone]
      · rintro key row ⟨stored, owned, live⟩
        exact live (cleaned key row (Option.filter_eq_some_iff.mp stored).1 (owned ▸ gone))
    · refine .rests (by rw [remove_instances, if_neg gone]) ?_ ?_
      · rintro key row ⟨stored, live⟩
        exact ⟨row, ⟨(Option.filter_eq_some_iff.mp stored).1, live⟩, .touched rfl rfl rfl rfl⟩
      · rintro key row ⟨stored, owned, live⟩
        exact .inl ⟨row, Option.filter_eq_some_iff.mpr ⟨stored, by simpa [owned] using gone⟩, owned,
          live⟩
  | wakeStarted found settled expected idle prepared backend recordable =>
    obtain ⟨waking, projected⟩ := prepared.of_settled settled
    exact turn_recorded (elsewhere_setInstance state _ _) found
      (.inl ⟨settled, projected.trans (congrArg (· + 1) waking.symm)⟩) (instances_advance_self rfl)
      rfl waking.symm idle recordable (records_recordedRow recordable prepared.state_eq)
  | sleepBegun found running _ foundRow owned _ live =>
    refine wf.turn_moved found (by rw [running]; decide) ⟨foundRow, owned, live⟩ rfl nofun nofun nofun
      fun fits => ?_
    simp only [Fits, running] at fits
    exact ⟨rfl, congrArg (· + 1) fits.2.1⟩
  | sleepBegunWithoutWork found running _ unaged =>
    exact turn_of_elsewhere (elsewhere_setInstance state _ _)
      (.sleeps rfl unaged found running (instances_advance_self rfl) rfl rfl)
  | deletionAccepted found expected =>
    rename_i request current
    obtain ⟨later, laterFound, deleting⟩ := deleting_acceptDeletion found
    refine turn_of_elsewhere elsewhere_acceptDeletion
      (.deletes rfl rfl found laterFound deleting (Function.update_self ..) ?_ ?_)
    · unfold acceptDeletion at laterFound
      split at laterFound
      next already =>
        cases found.symm.trans laterFound
        exact .inl ⟨already, rfl⟩
      · cases (instances_advance_self rfl).symm.trans laterFound
        exact .inr rfl
    · rintro key row ⟨stored, owned, live⟩
      obtain ⟨before, there, rfl⟩ := Option.map_eq_some_iff.mp stored
      simp only [setDeferred_work, acceptDeletion_work] at there
      simp only [deletionRewrite_instanceId] at owned
      simp only [deletionRewrite_state, owned, true_and] at live ⊢
      have wasLive : before.state ≠ .deleted := by
        intro deleted
        simp [deleted] at live
      obtain ⟨_, _, rewritten⟩ := deletionRewrite_eq session request.instanceId before
      have generation := congrArg MaterializationRow.instanceGeneration rewritten
      exact ⟨by simp [wasLive], before, ⟨there, owned, wasLive⟩, generation⟩
  | claimed found => exact turn_touched found rfl rfl rfl rfl rfl
  | renewed held | released held | failureRecorded held =>
    exact turn_touched held.found rfl rfl rfl rfl rfl
  | wakeCompleted completable =>
    refine wf.turn_moved completable.instanceFound (by rw [completable.waking]; decide)
      ⟨completable.found, completable.owned, by rw [completable.pending]; decide⟩ rfl nofun nofun
      (fun _ => rfl) fun fits => ?_
    simp only [Fits, completable.waking] at fits
    exact ⟨rfl, congrArg (· + 1) completable.expected.symm, fits.2.2, nofun⟩
  | sleepFinalized finalizable undeferred =>
    refine turn_of_elsewhere (elsewhere_drain finalizable) (.idles ?_ ?_ (fun _ => undeferred) ?_)
    · intro owner found
      cases finalizable.instanceFound.symm.trans found
      exact .inr ⟨finalizable.draining, _, _, finalizable.found, finalizable.owned, by
        rw [finalizable.deleting]; decide⟩
    · intro owner found
      cases (instances_advance_self rfl).symm.trans found
      rfl
    · rintro key row ⟨stored, owned, live⟩
      exact live (wf.idle_drain finalizable stored owned)
  | deferredWakeActivated finalizable deferred following recordable =>
    refine turn_recorded (elsewhere_restart finalizable) finalizable.instanceFound
      (.inr ⟨finalizable.draining, ?_, deferred, ?_, Function.update_self ..⟩)
      (Function.update_self ..) rfl rfl (fun _ _ => wf.idle_drain finalizable) recordable
      (records_recordedRow recordable rfl)
    · exact ⟨_, _, finalizable.found, finalizable.owned, by rw [finalizable.deleting]; decide⟩
    · rw [following, finalizable.expected]
  | workDeleted held expected _ _ stamped =>
    exact turn_setWork rfl rfl held.found rfl (fun live => absurd rfl live) fun _ =>
      .inr (.inl ⟨_, rfl, rfl, expected, stamped, held.toLeasedRow⟩)
  | wakeFailed held stamped expected pending found =>
    rename_i request row current kind count message
    have live : row.state ≠ .deleted := by
      rw [pending]
      decide
    unfold failWake
    split
    next failing =>
      refine wf.turn_moved found (by rw [failing.2]; decide) ⟨held.found, rfl, live⟩ rfl nofun nofun
        nofun fun fits => ?_
      exact ⟨rfl, Nat.lt_succ_of_le (Nat.le_of_eq (fits.waking_of_pending pending).2)⟩
    next other =>
      refine turn_setWork rfl rfl held.found rfl (fun _ => ⟨live, .stopped (.inr ⟨pending, ?_⟩) rfl
        rfl⟩) fun _ => .inl nofun
      intro owner ownerFound waking generation
      cases found.symm.trans ownerFound
      exact other ⟨generation.trans stamped, waking⟩
  | enqueued found schedulable unleased resolved =>
    rename_i key row schedule
    by_cases failed : row.state = .failed
    · refine turn_setWork rfl rfl found rfl (fun _ => ⟨by rw [failed]; decide, .stopped (.inl failed)
        rfl (if_pos failed)⟩) fun _ => .inl ?_
      exact (if_pos failed).trans_ne nofun
    · exact turn_touched found rfl (if_neg failed) rfl rfl rfl
  | forceDeleted found =>
    exact turn_setWork rfl rfl found rfl (fun live => absurd rfl live) fun _ =>
      .inr (.inr ⟨_, rfl, rfl⟩)
  | keyForceReleased keysOnly =>
    refine .rests rfl ?_ ?_
    · rintro key row ⟨stored, owned, live⟩
      obtain ⟨before, there, rfl⟩ := Option.map_eq_some_iff.mp stored
      obtain ⟨keys, schedule, rewritten⟩ := keysOnly key before
      rw [rewritten] at owned live ⊢
      exact ⟨before, ⟨there, owned, live⟩, .touched rfl rfl rfl rfl⟩
    · rintro key row ⟨stored, live⟩
      obtain ⟨keys, schedule, rewritten⟩ := keysOnly key row
      refine .inl ⟨_, Option.map_eq_some_iff.mpr ⟨row, stored, rfl⟩, ?_⟩
      rw [rewritten]
      exact live

/-- An instance with a deferred wake stays draining. -/
theorem Turn.deferring (turn : Turn session op state next id) {intent : DeferredWakeIntent}
    (deferred : next.deferred id = some intent) (found : state.instances id = some current)
    (draining : current.state = .draining) : next.instances id = some current := by
  cases turn with
  | rests instances => exact instances.trans found
  | idles _ _ undeferred => cases (undeferred found).symm.trans deferred
  | wakes there was =>
    cases found.symm.trans there
    rcases was with ⟨settled, -⟩ | ⟨-, -, -, -, cleared⟩
    · exact absurd draining (ne_of_settled settled (by decide))
    · cases cleared.symm.trans deferred
  | moves there awake =>
    cases found.symm.trans there
    exact absurd draining awake
  | sleeps _ _ there running =>
    cases found.symm.trans there
    cases running.symm.trans draining
  | deletes _ _ _ _ _ undeferred => cases undeferred.symm.trans deferred

/-- The agreement is kept as long as automatic sleep asks for a ready age and no work of an instance
that needs it is deleted, by a reconciler or by an operator. -/
theorem Step.agrees (step : Step session op state next) (wf : WellFormed state)
    (agrees : Agrees state)
    (automatic : ∀ request, op = .beginSleep request → request.minimumReadyAge ≠ none)
    (needless : ∀ {key row owner}, Ends session op state key row →
      LiveRow state row.instanceId key row → state.instances row.instanceId = some owner →
      needsWork owner.state = false) : Agrees next := by
  intro id
  have there := agrees id
  have turn := step.turn wf id
  have deferred : ∀ {intent : DeferredWakeIntent}, next.deferred id = some intent →
      ∃ owner, next.instances id = some owner ∧ owner.state = .draining ∧
        intent.instanceGeneration = owner.generation + 2 ∧
        intent.projectionGeneration = owner.generation + 3 := by
    intro intent stored
    rcases step.intent stored with kept | ⟨_, current, _, -, -, found, draining, prepared, -, rfl⟩
    · obtain ⟨owner, found, draining, numbered⟩ := there.deferred kept
      exact ⟨owner, turn.deferring stored found draining, draining, numbered⟩
    · exact ⟨current, turn.deferring stored found draining, draining, prepared.of_draining draining⟩
  cases turn with
  | rests instances rows kept =>
    refine ⟨?_, ?_, deferred⟩
    · intro key row owner stored owned live found
      obtain ⟨before, was, stays⟩ := rows ⟨stored, owned, live⟩
      rw [instances] at found
      have fits := there.fits was.1 was.2.1 was.2.2 found
      cases stays with
      | touched sameState generation projection backend =>
        unfold Fits at fits ⊢
        rw [sameState, generation, projection, backend]
        exact fits
      | stopped stopped =>
        rcases stopped with failed | ⟨pending, elsewhere⟩
        · exact absurd failed fits.state_ne_failed
        · obtain ⟨waking, generation⟩ := fits.waking_of_pending pending
          exact absurd generation.symm (elsewhere (was.2.1.symm ▸ found) waking)
    · intro owner found needs
      rw [instances] at found
      obtain ⟨key, row, stored, rfl, live⟩ := there.present found needs
      rcases kept ⟨stored, rfl, live⟩ with left | ended
      · exact ⟨key, left⟩
      · cases (needless ended ⟨stored, rfl, live⟩ found).symm.trans needs
  | idles _ now _ idle =>
    refine ⟨fun stored owned live _ => absurd ⟨stored, owned, live⟩ idle, ?_, deferred⟩
    intro owner found needs
    rw [now found] at needs
    cases needs
  | wakes found was stored waking generation rows now =>
    refine ⟨?_, fun _ _ => now, deferred⟩
    intro key row owner rowStored owned live ownerFound
    cases stored.symm.trans ownerFound
    have records := rows ⟨rowStored, owned, live⟩
    simp only [Fits, waking, generation, records.state, records.generation, records.projection,
      true_and]
    rcases was with ⟨-, projected⟩ | ⟨-, -, kept, following, -⟩
    · exact projected
    · obtain ⟨_, same, -, -, projected⟩ := there.deferred kept
      cases found.symm.trans same
      omega
  | moves found _ was stored now only _ _ fits =>
    refine ⟨?_, fun _ _ => ⟨_, _, now⟩, deferred⟩
    intro key row owner rowStored owned live ownerFound
    cases stored.symm.trans ownerFound
    rw [only ⟨rowStored, owned, live⟩]
    exact fits (there.fits was.1 was.2.1 was.2.2 found)
  | sleeps called unaged => exact absurd unaged (automatic _ called)
  | deletes _ _ found stored deleting _ moved rows =>
    refine ⟨?_, ?_, deferred⟩
    · intro key row owner rowStored owned live ownerFound
      cases stored.symm.trans ownerFound
      obtain ⟨isDeleting, before, was, generation⟩ := rows ⟨rowStored, owned, live⟩
      simp only [Fits, deleting, isDeleting, generation, true_and]
      rcases moved with ⟨already, rfl⟩ | moved
      · have fits := there.fits was.1 was.2.1 was.2.2 found
        simp only [Fits, already] at fits
        exact fits.2
      · obtain ⟨_, same, reached⟩ := wf.owned was.1
        cases found.symm.trans (was.2.1 ▸ same)
        omega
    · intro owner ownerFound needs
      cases stored.symm.trans ownerFound
      rw [deleting] at needs
      cases needs

end turn

/-! ### What no operation breaks -/

def RunsReady (state : State) : Prop :=
  ∀ (work : MaterializationId) (row : MaterializationRow) (owner : InstanceRow),
    state.work work = some row → state.instances row.instanceId = some owner →
    owner.state = .running → row.instanceGeneration = owner.generation →
    row.state = .ready ∨ row.state = .deleted

theorem Step.runsReady {op : Op} (step : Step session op state next) (wf : WellFormed state)
    (ready : RunsReady state) :
    RunsReady next := by
  intro work row owner stored found running stamped
  by_cases deleted : row.state = .deleted
  · exact .inr deleted
  have live : LiveRow next row.instanceId work row := ⟨stored, rfl, deleted⟩
  cases step.turn wf row.instanceId with
  | rests instances rows =>
    obtain ⟨before, was, stays⟩ := rows live
    rw [instances, ← was.2.1] at found
    have settled := ready work before owner was.1 found running
    cases stays with
    | touched sameState generation => exact sameState ▸ settled (generation.symm.trans stamped)
    | stopped stopped generation =>
      have before := settled (generation.symm.trans stamped)
      rcases stopped with failed | ⟨pending, -⟩
      · rcases before with other | other <;> cases failed.symm.trans other
      · rcases before with other | other <;> cases pending.symm.trans other
  | idles _ _ _ idle => exact absurd live idle
  | wakes _ _ there waking =>
    cases found.symm.trans there
    cases running.symm.trans waking
  | moves _ _ _ there _ only _ isReady =>
    cases found.symm.trans there
    rw [only live]
    exact .inl (isReady running)
  | sleeps _ _ _ _ there draining =>
    cases found.symm.trans there
    cases running.symm.trans draining
  | deletes _ _ _ there deleting =>
    cases found.symm.trans there
    cases running.symm.trans deleting

end Sleepypods.Lifecycle
