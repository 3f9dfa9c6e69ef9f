import Sleepypods.Lifecycle.Agreement
import Sleepypods.Lifecycle.LeaseFencing

/-! Convergence of wake acceptance: a wake that was accepted, pending or deferred, is what every
later wake of its incarnation finds. -/

set_option autoImplicit false

namespace Sleepypods.Lifecycle

open Library Library.Fallible Store State

/-! ### Accepted wakes fit their instances -/

/-- Pending work belongs to a waking instance, and a deferred wake to a draining one that it
outranks. Unlike the agreement of instances and work this needs no discipline of the callers. -/
structure WakesFitAt (id : InstanceId) (state : State) : Prop where
  pending : ∀ {work : MaterializationId} {row : MaterializationRow}, state.work work = some row →
    row.instanceId = id → row.state = .pending →
    ∃ owner, state.instances id = some owner ∧ owner.state = .waking ∧
      owner.generation = row.instanceGeneration
  deferred : ∀ {intent : DeferredWakeIntent}, state.deferred id = some intent →
    ∃ owner, state.instances id = some owner ∧ owner.state = .draining ∧
      intent.instanceGeneration = owner.generation + 2
  above : ∀ {intent : DeferredWakeIntent} {work : MaterializationId} {row : MaterializationRow},
    state.deferred id = some intent → state.work work = some row → row.instanceId = id →
    row.target = intent.target → row.backendGeneration < intent.backendGeneration

def WakesFit (state : State) : Prop := ∀ id, WakesFitAt id state

theorem wakesFit_empty : WakesFit (view .empty) := fun _ =>
  { pending := fun found => by cases found
    deferred := fun found => by cases found
    above := fun found => by cases found }

variable {current row : InstanceRow}

theorem WakesFit.undeferred {state : State} {id : InstanceId} (fit : WakesFit state)
    (found : state.instances id = some current) (awake : current.state ≠ .draining) :
    state.deferred id = none := by
  cases intent : state.deferred id with
  | none => rfl
  | some =>
    obtain ⟨owner, ownerFound, draining, -⟩ := (fit id).deferred intent
    cases found.symm.trans ownerFound
    exact absurd draining awake

theorem Step.wakesFit {session : Session} {op : Op} {state next : State}
    (step : Step session op state next) (wf : WellFormed state) (fit : WakesFit state) :
    WakesFit next := by
  intro id
  have there := fit id
  have turn := step.turn wf id
  have pending : ∀ {work : MaterializationId} {row : MaterializationRow},
      next.work work = some row → row.instanceId = id → row.state = .pending →
      ∃ owner, next.instances id = some owner ∧ owner.state = .waking ∧
        owner.generation = row.instanceGeneration := by
    intro work row stored owned pending
    have live : LiveRow next id work row := ⟨stored, owned, by rw [pending]; decide⟩
    cases turn with
    | rests instances rows =>
      obtain ⟨before, was, stays⟩ := rows live
      cases stays with
      | touched sameState generation =>
        rw [instances, generation]
        exact there.pending was.1 was.2.1 (sameState ▸ pending)
      | stopped _ _ deleting => cases deleting.symm.trans pending
    | idles _ _ _ idle => exact absurd live idle
    | wakes _ _ stored waking generation rows =>
      exact ⟨_, stored, waking, generation.trans (rows live).generation.symm⟩
    | moves _ _ _ _ _ only unpending => exact absurd (only live ▸ pending) unpending
    | sleeps _ _ found running _ _ same =>
      obtain ⟨_, same, waking, -⟩ := there.pending (same ▸ stored) owned pending
      cases found.symm.trans same
      cases running.symm.trans waking
    | deletes _ _ _ _ _ _ _ rows => cases (rows live).1.symm.trans pending
  have origin : ∀ {intent : DeferredWakeIntent}, next.deferred id = some intent →
      ∃ current, state.instances id = some current ∧ current.state = .draining ∧
        intent.instanceGeneration = current.generation + 2 ∧
        ∀ work row, state.work work = some row → row.instanceId = id →
          row.target = intent.target → row.backendGeneration < intent.backendGeneration := by
    intro intent stored
    rcases step.intent stored with kept | ⟨_, current, _, -, rfl, found, draining, prepared, backend,
      rfl⟩
    · obtain ⟨owner, found, draining, numbered⟩ := there.deferred kept
      exact ⟨owner, found, draining, numbered, fun _ _ => there.above kept⟩
    · exact ⟨current, found, draining, (prepared.of_draining draining).1, backend.above⟩
  refine ⟨pending, ?_, ?_⟩
  · intro intent stored
    obtain ⟨current, found, draining, numbered, -⟩ := origin stored
    exact ⟨current, turn.deferring stored found draining, draining, numbered⟩
  · intro intent work row deferred stored owned targeted
    obtain ⟨current, found, draining, -, below⟩ := origin deferred
    cases step.workOrigin stored with
    | kept there => exact below work row there owned targeted
    | evolved there instanceId target _ _ backend =>
      rw [backend]
      exact below work _ there (instanceId ▸ owned) (target ▸ targeted)
    | finalized _ finalizable written =>
      subst written
      have earlier := below _ _ finalizable.found owned targeted
      exact earlier
    | completed _ _ completable written =>
      subst written
      cases found.symm.trans (owned ▸ completable.owned ▸ completable.instanceFound)
      cases draining.symm.trans completable.waking
    | started _ _ _ _ _ _ records | activated _ _ _ _ _ records =>
      -- The wake of a draining instance is deferred and has no row yet.
      obtain ⟨_, there, waking, -⟩ := pending stored owned records.state
      cases (turn.deferring deferred found draining).symm.trans there
      cases waking.symm.trans draining

variable {db : Database} {allowed : Session × Op → Prop}

/-- No further wake can be accepted at a generation: the instance is beyond it, or it is draining
with this wake deferred. -/
def Settled (id : InstanceId) (generation : Nat) (intent : Option DeferredWakeIntent)
    (state : State) : Prop :=
  (∃ watermark, state.watermarks id = some watermark ∧ generation < watermark.lastGeneration) ∨
    ∃ owner, state.instances id = some owner ∧ owner.state = .draining ∧
      owner.generation = generation ∧ intent ≠ none ∧ state.deferred id = intent

variable {owner : InstanceRow}

section settled

variable {session : Session} {op : Op} {state next : State} {id : InstanceId} {generation : Nat}
  {intent : Option DeferredWakeIntent}

theorem Settled.beyond (wf : WellFormed state) (found : state.instances id = some owner)
    (above : generation < owner.generation) :
    Settled id generation intent state := by
  obtain ⟨watermark, watermarkFound, last⟩ := wf.watermarked found
  exact .inl ⟨watermark, watermarkFound, last.symm ▸ above⟩

theorem Step.settled (step : Step session op state next) (wf : WellFormed state)
    (settled : Settled id generation intent state) : Settled id generation intent next := by
  rcases settled with ⟨watermark, found, above⟩ | ⟨owner, found, draining, same, held, deferred⟩
  · obtain ⟨later, laterFound, grown⟩ := step.grows id watermark found
    exact .inl ⟨later, laterFound, above.trans_le grown⟩
  · cases step.moves id with
    | kept instances _ keeps =>
      exact .inr ⟨owner, instances.trans found, draining, same, held,
        (keeps owner found draining).trans deferred⟩
    | deferred _ _ absent => exact absurd (deferred.symm.trans absent) held
    | created absent => cases absent.symm.trans found
    | removed there deleting =>
      cases there.symm.trans found
      cases deleting.symm.trans draining
    | advanced there _ _ stored =>
      cases there.symm.trans found
      exact .beyond (step.wellFormed wf) stored (same ▸ Nat.lt_succ_self _)
    | activated there _ stored =>
      cases there.symm.trans found
      exact .beyond (step.wellFormed wf) stored (same ▸ Nat.lt_add_of_pos_right Nat.two_pos)

theorem Settled.refuses {after : Database} (wf : WellFormed (view db))
    (settled : Settled id generation intent (view db)) {request : AcceptWakeRequest}
    (instance_eq : request.pending.instanceId = id)
    (expected_eq : request.expectedGeneration = generation)
    (accepted : acceptWake session request db = .ok (row, after)) : after = db := by
  rcases acceptWake_ok wf.keyed accepted with same | ⟨current, backend, found, expected, -, -, fresh⟩
  · exact same
  · rw [instance_eq] at found fresh
    rcases settled with ⟨watermark, watermarkFound, above⟩ | ⟨owner, ownerFound, draining, -, held,
      deferred⟩
    · obtain ⟨_, sameFound, last⟩ := wf.watermarked found
      cases watermarkFound.symm.trans sameFound
      omega
    · cases found.symm.trans ownerFound
      rcases fresh with ⟨-, absent, -⟩ | ⟨cold | failed, -⟩
      · exact absurd (deferred.symm.trans absent) held
      · cases cold.symm.trans draining
      · cases failed.symm.trans draining

end settled

/-! ### Replays -/

/-- A wake of the same incarnation as another, which may render something else and ask for another
target. Its backend generation is the same or can be stored. -/
structure Replays (request again : AcceptWakeRequest) : Prop where
  instance_eq : again.pending.instanceId = request.pending.instanceId
  expected_eq : again.expectedGeneration = request.expectedGeneration
  state_eq : again.pending.state = request.pending.state
  generation_eq : again.pending.instanceGeneration = request.pending.instanceGeneration
  projection_eq : again.pending.projectionGeneration = request.pending.projectionGeneration
  backend_eq : again.pending.backend = request.pending.backend
  storable : again.pending.backendGeneration = request.pending.backendGeneration ∨
    again.pending.backendGeneration < bigintBound

inductive WakeHeld (request : AcceptWakeRequest) (db : Database) : Prop where
  | pending (work : MaterializationId) (row : MaterializationRow)
      (stored : db.materializations.find? work = some row)
      (owned : row.instanceId = request.pending.instanceId)
      (targeted : row.target = request.pending.target) (pending : row.state = .pending)
      (generation : row.instanceGeneration = request.pending.instanceGeneration)
  | deferred (intent : DeferredWakeIntent)
      (stored : db.deferredWakes.find? request.pending.instanceId = some intent)
      (generation : intent.instanceGeneration = request.pending.instanceGeneration)

variable {intent : DeferredWakeIntent}

section replays

variable {session : Session} {db : Database} {request again : AcceptWakeRequest}
  {row : MaterializationRow}

theorem acceptWake_waking (found : db.instances.find? again.pending.instanceId = some owner)
    (waking : owner.state = .waking)
    (generation : owner.generation = again.pending.instanceGeneration) :
    acceptWake session again db = replayWake again.pending owner db := by
  simp only [acceptWake, found, orError, bind, Except.bind]
  rw [if_pos ⟨waking, generation⟩]

variable {pending : RecordMaterializationRequest}

theorem replayWake_eq_ok {replayed : InstanceRow} {after : Database} :
    replayWake pending current db = .ok (replayed, after) ↔
      (∃ work row, db.materializations.find? work = some row ∧
        row.instanceId = pending.instanceId ∧ row.target = pending.target ∧ row.state = .pending) ∧
      current = replayed ∧ db = after := by
  simp only [replayWake, bind_eq_ok, require_eq_ok, pure_eq_ok, exists_const, Prod.mk.injEq,
    Table.any_eq_true, Bool.and_eq_true, decide_eq_true_eq, and_assoc]

/-- The backend generation of a replay can be stored when those of its target are below one that
can. -/
theorem acceptedBackendGeneration_eq_ok (pending : RecordMaterializationRequest) {bound : Nat}
    (below : ∀ work row, db.materializations.find? work = some row →
      row.instanceId = pending.instanceId → row.target = pending.target →
      row.backendGeneration < bound)
    (bounded : bound < bigintBound) (storable : pending.backendGeneration < bigintBound) :
    ∃ backend, acceptedBackendGeneration db pending = .ok backend ∧ backend < bigintBound := by
  unfold acceptedBackendGeneration
  split
  · exact ⟨_, rfl, storable⟩
  next previous largest =>
    obtain ⟨attained, -⟩ := List.max?_eq_some_iff.mp largest
    obtain ⟨⟨work, row⟩, selected, rfl⟩ := List.mem_map.mp attained
    obtain ⟨listed, matching⟩ := List.mem_filter.mp selected
    simp only [Bool.and_eq_true, decide_eq_true_eq] at matching
    have previous := below work row (Table.find?_eq_some.mpr listed) matching.1 matching.2
    refine ⟨max pending.backendGeneration (row.backendGeneration + 1), ?_, by omega⟩
    simp only [require, bind, Except.bind]
    rw [if_pos (by omega)]
    rfl

/-- A wake of a draining instance, once its own conditions are met, is up to the deferred one. -/
theorem acceptWake_draining {backend : Nat}
    (found : db.instances.find? again.pending.instanceId = some owner)
    (draining : owner.state = .draining) (expected : owner.generation = again.expectedGeneration)
    (prepared : Prepared owner again.pending)
    (computed : acceptedBackendGeneration db again.pending = .ok backend) :
    acceptWake session again db =
      deferWake { again.pending with backendGeneration := backend } owner db := by
  have asleep : ¬(owner.state = .waking ∧ owner.generation = again.pending.instanceGeneration) := by
    rw [draining]
    exact fun waking => by cases waking.1
  have ready : again.pending.state = .pending ∧
      again.pending.instanceGeneration = expectedWaking owner ∧
      again.pending.projectionGeneration = expectedWaking owner + 1 ∧
      again.pending.backend = none :=
    ⟨prepared.state_eq, prepared.generation_eq, prepared.projection_eq, prepared.backend_eq⟩
  simp only [acceptWake, found, orError, bind, Except.bind, require]
  rw [if_neg asleep, if_pos expected, if_pos (.inr (.inr draining)), if_pos (.inl draining),
    if_pos ready, computed]
  exact if_pos draining

structure Intended (request : AcceptWakeRequest) (held : DeferredWakeIntent) : Prop where
  target_eq : held.target = request.pending.target
  state_eq : request.pending.state = .pending
  generation_eq : request.pending.instanceGeneration = request.expectedGeneration + 2
  projection_eq : request.pending.projectionGeneration = request.expectedGeneration + 3
  backend_eq : request.pending.backend = none
  requested_le : request.pending.backendGeneration ≤ held.backendGeneration
  projection_lt : request.pending.projectionGeneration < bigintBound
  backend_lt : held.backendGeneration < bigintBound

/-- What the acceptance of a wake left behind for the replays of its request. -/
structure Promised (request : AcceptWakeRequest) (intent : Option DeferredWakeIntent) : Prop where
  ahead : request.pending.instanceGeneration ≤ request.expectedGeneration + 2
  intended : ∀ held, intent = some held → Intended request held

variable {intent : Option DeferredWakeIntent}

variable (promised : Promised request intent) (wf : WellFormed (view db)) (fit : WakesFit (view db))
  (settled : Settled request.pending.instanceId request.expectedGeneration intent (view db))

include promised wf fit settled

theorem Promised.deferred {stored : DeferredWakeIntent}
    (found : db.deferredWakes.find? request.pending.instanceId = some stored)
    (generation : stored.instanceGeneration = request.pending.instanceGeneration) :
    ∃ owner, db.instances.find? request.pending.instanceId = some owner ∧
      owner.state = .draining ∧ owner.generation = request.expectedGeneration ∧
      intent = some stored := by
  obtain ⟨owner, ownerFound, draining, above⟩ := (fit request.pending.instanceId).deferred found
  rcases settled with ⟨watermark, watermarkFound, beyond⟩ | ⟨other, otherFound, -, same, -, deferred⟩
  · obtain ⟨_, sameFound, last⟩ := wf.watermarked ownerFound
    cases watermarkFound.symm.trans sameFound
    have := promised.ahead
    omega
  · cases ownerFound.symm.trans otherFound
    exact ⟨owner, ownerFound, draining, same, deferred.symm.trans found⟩

theorem Promised.replay (held : WakeHeld request db) (replays : Replays request again)
    (targeted : again.pending.target = request.pending.target) :
    ∃ owner, acceptWake session again db = .ok (owner, db) := by
  cases held with
  | pending _ _ stored owned onTarget pending generation =>
    obtain ⟨owner, ownerFound, waking, same⟩ :=
      (fit request.pending.instanceId).pending stored owned pending
    refine ⟨owner, ?_⟩
    rw [acceptWake_waking (replays.instance_eq ▸ ownerFound) waking
      (by rw [same, generation, replays.generation_eq])]
    exact replayWake_eq_ok.mpr ⟨⟨_, _, stored, owned.trans replays.instance_eq.symm,
      onTarget.trans targeted.symm, pending⟩, rfl, rfl⟩
  | deferred stored found generation =>
    obtain ⟨owner, ownerFound, draining, expected, rfl⟩ :=
      promised.deferred wf fit settled found generation
    have intended := promised.intended stored rfl
    have prepared : Prepared owner again.pending := by
      refine ⟨replays.state_eq.trans intended.state_eq, ?_, ?_,
        replays.backend_eq.trans intended.backend_eq⟩
      · rw [replays.generation_eq, intended.generation_eq, expectedWaking, if_pos draining, expected]
      · rw [replays.projection_eq, intended.projection_eq, expectedWaking, if_pos draining, expected]
    have storable : again.pending.backendGeneration < bigintBound := by
      rcases replays.storable with same | fits
      · rw [same]
        exact intended.requested_le.trans_lt intended.backend_lt
      · exact fits
    obtain ⟨backend, computed, fits⟩ := acceptedBackendGeneration_eq_ok again.pending
      (fun work row stored owned targets => (fit request.pending.instanceId).above found stored
        (owned.trans replays.instance_eq)
        (targets.trans (targeted.trans intended.target_eq.symm))) intended.backend_lt storable
    refine ⟨owner, ?_⟩
    rw [acceptWake_draining (replays.instance_eq ▸ ownerFound) draining
      (expected.trans replays.expected_eq.symm) prepared computed]
    have projected : again.pending.projectionGeneration < bigintBound := by
      rw [replays.projection_eq]
      exact intended.projection_lt
    have generated : again.pending.instanceGeneration < bigintBound := by
      have := intended.projection_lt
      rw [replays.generation_eq, intended.generation_eq]
      rw [intended.projection_eq] at this
      omega
    have kept := replays.instance_eq ▸ found
    simp [deferWake, generationToI64, backendGenerationToI64, require, generated, projected, fits,
      kept, intended.target_eq.trans targeted.symm]

theorem Promised.refusal (held : WakeHeld request db) (replays : Replays request again)
    (elsewhere : again.pending.target ≠ request.pending.target) :
    ∃ error, acceptWake session again db = .error error := by
  cases again_eq : acceptWake session again db with
  | error error => exact ⟨error, rfl⟩
  | ok result =>
    exfalso
    cases held with
    | pending work _ stored owned onTarget pending generation =>
      obtain ⟨owner, ownerFound, waking, same⟩ :=
        (fit request.pending.instanceId).pending stored owned pending
      rw [acceptWake_waking (replays.instance_eq ▸ ownerFound) waking
        (by rw [same, generation, replays.generation_eq])] at again_eq
      obtain ⟨⟨other, otherRow, otherStored, otherOwned, sameTarget, otherPending⟩, -⟩ :=
        replayWake_eq_ok.mp again_eq
      -- The pending work of the instance is its only live work.
      have unique := wf.liveUnique otherStored stored
        (otherOwned.trans (replays.instance_eq.trans owned.symm)) (by rw [otherPending]; decide)
        (by rw [pending]; decide)
      subst unique
      cases stored.symm.trans otherStored
      exact elsewhere (sameTarget.symm.trans onTarget)
    | deferred stored found generation =>
      obtain ⟨owner, ownerFound, draining, expected, rfl⟩ :=
        promised.deferred wf fit settled found generation
      have sameTarget := (promised.intended stored rfl).target_eq
      simp only [acceptWake, bind_eq_ok, orError_eq_ok] at again_eq
      obtain ⟨current, currentFound, rest⟩ := again_eq
      rw [replays.instance_eq] at currentFound
      cases ownerFound.symm.trans currentFound
      rw [if_neg (by rw [draining]; exact fun waking => by cases waking.1)] at rest
      simp only [bind_eq_ok, draining, if_true] at rest
      obtain ⟨_, -, _, -, _, -, _, -, backend, -, deferred⟩ := rest
      simp only [deferWake, bind_eq_ok] at deferred
      obtain ⟨_, -, _, -, _, -, deferred⟩ := deferred
      rw [replays.instance_eq, found] at deferred
      simp only [bind_eq_ok, require_eq_ok] at deferred
      obtain ⟨_, same, -⟩ := deferred
      exact elsewhere (same.symm.trans sameTarget)

end replays

section acceptance

variable {session : Session} {db after : Database} {request : AcceptWakeRequest} {row : InstanceRow}

/-- A wake that changed the store is held, and settles its expected generation. -/
theorem acceptWake_fresh (wf : WellFormed (view db))
    (accepted : acceptWake session request db = .ok (row, after)) (changed : after ≠ db) :
    ∃ intent, Settled request.pending.instanceId request.expectedGeneration intent (view after) ∧
      Promised request intent ∧ WakeHeld request after := by
  have step : Step session (.acceptWake request) (view db) (view after) :=
    commit_refines wf.keyed (by
      rw [commit, accepted]
      rfl)
  have afterWf := step.wellFormed wf
  rcases acceptWake_ok wf.keyed accepted with same | ⟨current, backend, found, expected, prepared,
    backendAccepted, fresh⟩
  · exact absurd same changed
  · rcases fresh with ⟨draining, absent, ⟨generated, projected, stored⟩, viewed⟩ |
      ⟨settled, idle, recordable, viewed⟩
    · obtain ⟨generation, projection⟩ := prepared.of_draining draining
      rw [expected] at generation projection
      have instances := congrArg instances viewed
      have deferred := (congrFun (congrArg deferred viewed) request.pending.instanceId).trans
        (Function.update_self ..)
      refine ⟨some (deferredIntent request.pending backend), .inr ⟨current,
        (congrFun instances _).trans found, draining, expected, by simp, deferred⟩, ⟨generation.le, ?_⟩,
        .deferred _ deferred rfl⟩
      intro held same
      cases same
      exact ⟨rfl, prepared.state_eq, generation, projection, prepared.backend_eq,
        backendAccepted.requested_le, projected, stored⟩
    · have generation := (prepared.of_settled settled).1
      have started : (view after).instances request.pending.instanceId =
          some { current with state := .waking, generation := current.generation + 1 } := by
        rw [viewed]
        exact instances_advance_self rfl
      have recorded := (congrFun (congrArg State.work viewed) _).trans
        (work_record_self _ session { request.pending with backendGeneration := backend })
      refine ⟨none, .beyond afterWf started (expected ▸ Nat.lt_succ_self _), ⟨by omega, by simp⟩,
        .pending _ _ recorded ?_ ?_ ?_ ?_⟩
      · exact recordedRow_instanceId _ recordable
      · exact recordedRow_target _ recordable
      · rw [recordedRow_state]
        exact prepared.state_eq
      · rw [recordedRow_instanceGeneration]

end acceptance

/-! ### The fate of a deferred wake -/

def WakingAt (id : InstanceId) (generation : Nat) (state : State) : Prop :=
  ∃ row, state.instances id = some row ∧ row.state = .waking ∧ row.generation = generation

/-- A deferred wake that now is the pending work of its instance, as it was accepted. -/
structure Activated (id : InstanceId) (intent : DeferredWakeIntent) (state : State) : Prop where
  undeferred : state.deferred id = none
  waking : WakingAt id intent.instanceGeneration state
  recorded : ∃ row, state.work (materializationId id intent.target) = some row ∧
    row.instanceId = id ∧ row.target = intent.target ∧ row.state = .pending ∧
    row.instanceGeneration = intent.instanceGeneration ∧
    row.projectionGeneration = intent.projectionGeneration ∧
    row.backendGeneration = intent.backendGeneration ∧
    row.renderedObjects = intent.renderedObjects ∧ row.exclusivityKeys = intent.exclusivityKeys

structure Cancelled (id : InstanceId) (intent : DeferredWakeIntent) (state : State) : Prop where
  undeferred : state.deferred id = none
  deleting : ∃ row, state.instances id = some row ∧ row.state = .deleting ∧
    row.generation + 1 = intent.instanceGeneration

section fate

variable {session : Session} {op : Op} {state next : State} {id : InstanceId}
  {intent : DeferredWakeIntent}

theorem activated_drain {drained : State}
    (recordable : drained.Recordable (activatedRequest id intent)) :
    Activated id intent (drained.activate session id current intent) := by
  refine ⟨Function.update_self .., ⟨_, Function.update_self .., rfl, rfl⟩, _,
    work_record_self .., ?_⟩
  exact ⟨recordedRow_instanceId _ recordable, recordedRow_target _ recordable,
    by simp [activatedRequest], by simp [activatedRequest], by simp [activatedRequest],
    by simp [activatedRequest], by simp [activatedRequest], by simp [activatedRequest]⟩

/-- A deferred wake waits with its instance, until the transaction that finalizes the drain
activates it or one that accepts the deletion of the instance cancels it. -/
theorem Step.deferredOutcome (step : Step session op state next) (fit : WakesFit state)
    (deferred : state.deferred id = some intent) :
    (next.deferred id = some intent ∧ next.instances id = state.instances id) ∨
      (∃ request, op = .finalizeSleep request ∧ request.finalize.instanceId = id ∧
        Activated id intent next) ∨
      ∃ request, op = .requestInstanceDeletion request ∧ request.instanceId = id ∧
        Cancelled id intent next := by
  obtain ⟨owner, ownerFound, draining, ahead⟩ := (fit id).deferred deferred
  have elsewhere {other : InstanceId} {row : InstanceRow} (found : state.instances other = some row)
      (awake : row.state ≠ .draining) : id ≠ other := by
    rintro rfl
    cases found.symm.trans ownerFound
    exact awake draining
  have apart {α : Type} {table : InstanceId → Option α} {other : InstanceId} {value : α}
      (absent : table other = none) (found : table id = some value) : id ≠ other := by
    rintro rfl
    cases absent.symm.trans found
  cases step with
  | unchanged | claimed | renewed | released | effectBegun | effectAcknowledged | workDeleted
  | failureRecorded | enqueued | forceDeleted | keyForceReleased => exact .inl ⟨deferred, rfl⟩
  | created absent =>
    exact .inl ⟨deferred, Function.update_of_ne (apart absent ownerFound) ..⟩
  | removed deleting cleaned unreferenced =>
    rename_i ids
    have kept : id ∉ ids := by
      intro member
      obtain ⟨row, found, isDeleting⟩ := deleting id member
      exact elsewhere found (isDeleting.symm ▸ (by decide)) rfl
    exact .inl ⟨(if_neg kept).trans deferred, if_neg kept⟩
  | wakeStarted found settled =>
    have different := elsewhere found (ne_of_settled settled (by decide))
    exact .inl ⟨deferred, Function.update_of_ne different ..⟩
  | wakeDeferred _ _ _ _ _ absent =>
    exact .inl ⟨(Function.update_of_ne (apart absent deferred) ..).trans deferred, rfl⟩
  | sleepBegun found running | sleepBegunWithoutWork found running =>
    have different := elsewhere found (running.symm ▸ (by decide))
    exact .inl ⟨deferred, Function.update_of_ne different ..⟩
  | wakeCompleted completable =>
    have different := elsewhere completable.instanceFound (completable.waking.symm ▸ (by decide))
    exact .inl ⟨deferred, Function.update_of_ne different ..⟩
  | sleepFinalized _ undeferred =>
    exact .inl ⟨deferred, Function.update_of_ne (apart undeferred deferred) ..⟩
  | wakeFailed held stamped expected pending found =>
    rename_i request row owner' kind count message
    refine .inl ⟨by simpa using deferred, ?_⟩
    rw [setWork_instances, failWake]
    split
    next waking =>
      exact Function.update_of_ne (elsewhere found (waking.2.symm ▸ (by decide))) ..
    · rfl
  | deferredWakeActivated finalizable stored later recordable =>
    rename_i request current row intent'
    by_cases same : id = request.finalize.instanceId
    · subst same
      cases stored.symm.trans deferred
      exact .inr (.inl ⟨request, rfl, rfl, activated_drain recordable⟩)
    · exact .inl ⟨(Function.update_of_ne same ..).trans deferred,
        (Function.update_of_ne same ..).trans (Function.update_of_ne same ..)⟩
  | deletionAccepted found expected =>
    rename_i request row
    by_cases same : id = request.instanceId
    · subst same
      cases found.symm.trans ownerFound
      have accepted : state.acceptDeletion request.instanceId owner =
          state.advance request.instanceId owner .deleting :=
        if_neg (draining.symm ▸ (by decide))
      refine .inr (.inr ⟨request, rfl, rfl, Function.update_self .., ?_⟩)
      rw [accepted]
      exact ⟨_, instances_advance_self rfl, rfl, ahead.symm⟩
    · refine .inl ⟨?_, ?_⟩
      · refine (Function.update_of_ne same ..).trans (Eq.trans ?_ deferred)
        rw [acceptDeletion]
        split <;> rfl
      · rw [mapWork_instances, setDeferred_instances, acceptDeletion]
        split
        · rfl
        · exact Function.update_of_ne same ..

/-- The id has reached a generation, or stopped right before it to be deleted. -/
def Passed (id : InstanceId) (generation : Nat) (state : State) : Prop :=
  ∃ watermark, state.watermarks id = some watermark ∧
    (generation ≤ watermark.lastGeneration ∨
      (watermark.lastGeneration + 1 = generation ∧
        ∀ row, state.instances id = some row → row.state = .deleting))

theorem Activated.passed (activated : Activated id intent state) (wf : WellFormed state) :
    Passed id intent.instanceGeneration state := by
  obtain ⟨row, found, -, same⟩ := activated.waking
  obtain ⟨watermark, watermarkFound, last⟩ := wf.watermarked found
  exact ⟨watermark, watermarkFound, .inl (by omega)⟩

theorem Cancelled.passed (cancelled : Cancelled id intent state) (wf : WellFormed state) :
    Passed id intent.instanceGeneration state := by
  obtain ⟨row, found, deleting, before⟩ := cancelled.deleting
  obtain ⟨watermark, watermarkFound, last⟩ := wf.watermarked found
  refine ⟨watermark, watermarkFound, .inr ⟨by omega, fun other otherFound => ?_⟩⟩
  cases found.symm.trans otherFound
  exact deleting

variable {generation : Nat}

theorem Step.passed (step : Step session op state next) (wf : WellFormed state)
    (passed : Passed id generation state) :
    Passed id generation next ∧ (WakingAt id generation next → WakingAt id generation state) := by
  obtain ⟨watermark, found, reached | ⟨before, deleting⟩⟩ := passed
  · obtain ⟨later, laterFound, grown⟩ := step.grows id watermark found
    refine ⟨⟨later, laterFound, .inl (reached.trans grown)⟩, ?_⟩
    rintro ⟨row, stored, waking, same⟩
    rcases step.instanceEvolves wf stored with ⟨old, oldFound, sameState, sameGeneration⟩ | above
    · exact ⟨old, oldFound, sameState.symm.trans waking, sameGeneration.symm.trans same⟩
    · have := above watermark found
      omega
  · cases step.moves id with
    | kept instances watermarks =>
      refine ⟨⟨watermark, watermarks.trans found, .inr ⟨before, ?_⟩⟩, ?_⟩
      · exact fun row stored => deleting row (instances ▸ stored)
      · rintro ⟨row, stored, rest⟩
        exact ⟨row, instances ▸ stored, rest⟩
    | deferred there draining | activated there draining =>
      cases (deleting _ there).symm.trans draining
    | created _ cold fresh stored =>
      obtain ⟨later, laterFound, last⟩ := (step.wellFormed wf).watermarked stored
      rw [found] at fresh
      have afresh : generation ≤ later.lastGeneration := by
        rw [last, fresh, ← before]
        exact Nat.le_max_right ..
      refine ⟨⟨later, laterFound, .inl afresh⟩, ?_⟩
      rintro ⟨row, rowStored, waking, -⟩
      cases stored.symm.trans rowStored
      cases cold.symm.trans waking
    | removed _ _ gone watermarks =>
      refine ⟨⟨watermark, watermarks.trans found, .inr ⟨before, ?_⟩⟩, ?_⟩
      · intro row stored
        cases gone.symm.trans stored
      · rintro ⟨row, stored, -⟩
        cases gone.symm.trans stored
    | advanced there live => exact absurd (deleting _ there) live

end fate

inductive Fate where
  | waiting
  | activated
  | cancelled
  deriving DecidableEq

/-- The histories of a deferred wake: it waits while nothing happens to its instance, ends in one
transaction, and its generation does not start to wake again. -/
inductive Course (id : InstanceId) (intent : DeferredWakeIntent) (start : Database) :
    Fate → Database → Prop where
  | accepted : Course id intent start .waiting start
  | waits {label : Session × Op} {db next : Database}
      (course : Course id intent start .waiting db)
      (step : storeSystem.step label db next)
      (deferred : next.deferredWakes.find? id = some intent)
      (instances : next.instances.find? id = db.instances.find? id) :
      Course id intent start .waiting next
  | activates {session : Session} {request : FinalizeSleepReconciliationRequest}
      {db next : Database} (course : Course id intent start .waiting db)
      (step : storeSystem.step (session, .finalizeSleep request) db next)
      (drained : request.finalize.instanceId = id)
      (asleep : ¬WakingAt id intent.instanceGeneration (view db))
      (activated : Activated id intent (view next)) : Course id intent start .activated next
  | cancels {session : Session} {request : RequestInstanceDeletion} {db next : Database}
      (course : Course id intent start .waiting db)
      (step : storeSystem.step (session, .requestInstanceDeletion request) db next)
      (deleted : request.instanceId = id)
      (cancelled : Cancelled id intent (view next)) : Course id intent start .cancelled next
  | continues {label : Session × Op} {fate : Fate} {db next : Database}
      (course : Course id intent start fate db) (ended : fate ≠ .waiting)
      (step : storeSystem.step label db next)
      (once : WakingAt id intent.instanceGeneration (view next) →
        WakingAt id intent.instanceGeneration (view db)) :
      Course id intent start fate next

variable {id : InstanceId} {start : Database}

structure OnCourse (id : InstanceId) (intent : DeferredWakeIntent) (start : Database) (fate : Fate)
    (db : Database) : Prop where
  course : Course id intent start fate db
  wellFormed : WellFormed (view db)
  fit : WakesFit (view db)
  waiting : fate = .waiting → (view db).deferred id = some intent
  ended : fate ≠ .waiting → Passed id intent.instanceGeneration (view db)

theorem OnCourse.step {next : Database} {fate : Fate} (on : OnCourse id intent start fate db)
    {label : Session × Op} (committed : storeSystem.step label db next) :
    ∃ later, OnCourse id intent start later next := by
  obtain ⟨session, op⟩ := label
  have step : Step session op (view db) (view next) := commit_refines on.wellFormed.keyed committed
  have wf := step.wellFormed on.wellFormed
  have fit := step.wakesFit on.wellFormed on.fit
  by_cases waiting : fate = .waiting
  · subst waiting
    have deferred := on.waiting rfl
    rcases step.deferredOutcome on.fit deferred with ⟨stays, instances⟩ |
      ⟨request, rfl, drained, activated⟩ | ⟨request, rfl, deleted, cancelled⟩
    · exact ⟨.waiting, .waits on.course committed stays instances, wf, fit, fun _ => stays,
        fun ended => absurd rfl ended⟩
    · have asleep : ¬WakingAt id intent.instanceGeneration (view db) := by
        rintro ⟨row, found, waking, -⟩
        cases deferred.symm.trans (on.fit.undeferred found (waking.symm ▸ (by decide)))
      exact ⟨.activated, .activates on.course committed drained asleep activated, wf, fit, nofun,
        fun _ => activated.passed wf⟩
    · exact ⟨.cancelled, .cancels on.course committed deleted cancelled, wf, fit, nofun,
        fun _ => cancelled.passed wf⟩
  · obtain ⟨passed, once⟩ := step.passed on.wellFormed (on.ended waiting)
    exact ⟨fate, .continues on.course waiting committed once, wf, fit,
      fun same => absurd same waiting, fun _ => passed⟩

namespace Sample

open Store.Sample

def completeWork : CompleteWakeReconciliationRequest where
  materializationId := work
  leaseOwner := controller
  complete :=
    { instanceId := web
      expectedWakingGeneration := 1
      target := target
      backend := { uri := ⟨"http://web.apps", by decide⟩, address := none }
      backendGeneration := 1
      renderedObjects := [pod]
      exclusivityKeys := [] }
  attempt := 1

def sleep : BeginSleepRequest where
  instanceId := web
  expectedRunningGeneration := 2
  target := target
  drainGraceTimeout := 0
  minimumReadyAge := none

def draining : List (Session × Op) :=
  waking ++ [(session 2, .claim claimWork), (session 3, .completeWake completeWork),
    (session 4, .beginSleep sleep)]

end Sample

end Sleepypods.Lifecycle
