import Sleepypods.Lifecycle.Refinement

/-! The structural invariant of the store: which rows may stand next to each other. It holds in
every state that any sequence of committed operations reaches, operator overrides included. -/

set_option autoImplicit false

namespace Sleepypods.Lifecycle

open Library Store State

namespace State

variable (state : State) (session : Session) (request : RecordMaterializationRequest)

@[simp]
theorem recordedRow_instanceGeneration :
    (state.recordedRow session request).instanceGeneration = request.instanceGeneration := by
  unfold recordedRow
  split <;> rfl

@[simp]
theorem recordedRow_projectionGeneration :
    (state.recordedRow session request).projectionGeneration = request.projectionGeneration := by
  unfold recordedRow
  split <;> rfl

@[simp]
theorem recordedRow_state : (state.recordedRow session request).state = request.state := by
  unfold recordedRow
  split <;> rfl

@[simp]
theorem recordedRow_backendGeneration :
    (state.recordedRow session request).backendGeneration = request.backendGeneration := by
  unfold recordedRow
  split <;> rfl

@[simp]
theorem recordedRow_renderedObjects :
    (state.recordedRow session request).renderedObjects = request.renderedObjects := by
  unfold recordedRow
  split <;> rfl

@[simp]
theorem recordedRow_exclusivityKeys :
    (state.recordedRow session request).exclusivityKeys = request.exclusivityKeys := by
  unfold recordedRow
  split <;> rfl

@[simp]
theorem recordedRow_lease : (state.recordedRow session request).lease = none := by
  unfold recordedRow
  split <;> rfl

variable {state request}

theorem recordedRow_instanceId (recordable : state.Recordable request) :
    (state.recordedRow session request).instanceId = request.instanceId := by
  unfold recordedRow
  split
  · rfl
  next old found => exact (recordable old found).1

theorem recordedRow_target (recordable : state.Recordable request) :
    (state.recordedRow session request).target = request.target := by
  unfold recordedRow
  split
  · rfl
  next old found => exact (recordable old found).2.1

end State

/-! ### Well-formed states -/

structure WellFormed (state : State) : Prop where
  keyed : state.Keyed
  /-- Work belongs to an instance, at a generation the instance has reached. -/
  owned : ∀ {id : MaterializationId} {row : MaterializationRow}, state.work id = some row →
    ∃ owner, state.instances row.instanceId = some owner ∧
      row.instanceGeneration ≤ owner.generation
  watermarked : ∀ {id : InstanceId} {row : InstanceRow}, state.instances id = some row →
    ∃ watermark, state.watermarks id = some watermark ∧
      watermark.lastGeneration = row.generation
  liveUnique : ∀ {first second : MaterializationId} {firstRow secondRow : MaterializationRow},
    state.work first = some firstRow → state.work second = some secondRow →
    firstRow.instanceId = secondRow.instanceId → firstRow.state ≠ .deleted →
    secondRow.state ≠ .deleted → first = second
  /-- Only work is leased. -/
  leased : ∀ {id : MaterializationId} {row : MaterializationRow}, state.work id = some row →
    row.lease ≠ none → row.state.isWork = true
  /-- An effect marker stands on work, under the attempt and generation it was begun with. -/
  barred : ∀ {id : MaterializationId} {marker : EffectRow}, state.effects id = some marker →
    ∃ row, state.work id = some row ∧ row.state.isWork = true ∧
      row.reconcileAttempt = marker.leaseAttempt ∧
      row.instanceGeneration = marker.instanceGeneration

theorem isWork_ne_deleted {state : MaterializationState} (work : state.isWork = true) :
    state ≠ .deleted := by
  rintro rfl
  cases work

theorem wellFormed_empty : WellFormed (view .empty) where
  keyed := fun _ _ found => by cases found
  owned := fun found => by cases found
  watermarked := fun found => by cases found
  liveUnique := fun found => by cases found
  leased := fun found => by cases found
  barred := fun found => by cases found

variable {row : MaterializationRow} {session : Session}

namespace WellFormed

variable {state : State}

variable {id : InstanceId}

theorem setInstance (wf : WellFormed state) {row : InstanceRow}
    (above : ∀ watermark, state.watermarks id = some watermark →
      watermark.lastGeneration ≤ row.generation) :
    WellFormed (state.setInstance id row) where
  keyed := wf.keyed
  owned := by
    intro work workRow found
    obtain ⟨owner, ownerFound, stamped⟩ := wf.owned found
    by_cases same : workRow.instanceId = id
    · obtain ⟨watermark, watermarkFound, last⟩ := wf.watermarked ownerFound
      have grown := above watermark (same ▸ watermarkFound)
      exact ⟨row, instances_setInstance_eq_some.mpr (.inl ⟨same, rfl⟩), by omega⟩
    · exact ⟨owner, instances_setInstance_eq_some.mpr (.inr ⟨same, ownerFound⟩), stamped⟩
  watermarked := by
    intro other otherRow found
    rcases instances_setInstance_eq_some.mp found with ⟨rfl, rfl⟩ | ⟨different, kept⟩
    · refine ⟨_, Function.update_self .., ?_⟩
      cases watermark : state.watermarks other with
      | none => rfl
      | some watermark' => exact Nat.max_eq_right (above watermark' watermark)
    · obtain ⟨watermark, watermarkFound, last⟩ := wf.watermarked kept
      exact ⟨watermark, (Function.update_of_ne different ..).trans watermarkFound, last⟩
  liveUnique := wf.liveUnique
  leased := wf.leased
  barred := wf.barred

theorem advance (wf : WellFormed state) {row : InstanceRow} (found : state.instances id = some row)
    (next : InstanceState) :
    WellFormed (state.advance id row next) := by
  refine wf.setInstance fun watermark watermarkFound => ?_
  obtain ⟨_, sameFound, last⟩ := wf.watermarked found
  cases watermarkFound.symm.trans sameFound
  exact Nat.le_succ_of_le (Nat.le_of_eq last)

variable {owner : InstanceRow}

section

variable (wf : WellFormed state)

include wf

theorem setWork {id : MaterializationId} {old new : MaterializationRow}
    (found : state.work id = some old) (sameInstance : new.instanceId = old.instanceId)
    (sameTarget : new.target = old.target)
    (ownerFound : state.instances old.instanceId = some owner)
    (stamped : new.instanceGeneration ≤ owner.generation)
    (live : new.state ≠ .deleted → old.state ≠ .deleted)
    (leased : new.lease ≠ none → new.state.isWork = true)
    (barred : ∀ marker, state.effects id = some marker →
      new.state.isWork = true ∧ new.reconcileAttempt = old.reconcileAttempt ∧
      new.instanceGeneration = old.instanceGeneration) :
    WellFormed (state.setWork id new) where
  keyed := by
    refine wf.keyed.setWork ?_
    rw [sameInstance, sameTarget]
    exact wf.keyed id old found
  owned := by
    intro work workRow stored
    rcases work_setWork_eq_some.mp stored with ⟨rfl, rfl⟩ | ⟨-, kept⟩
    · rw [sameInstance]
      exact ⟨owner, ownerFound, stamped⟩
    · exact wf.owned kept
  watermarked := wf.watermarked
  liveUnique := by
    -- A live row after the rewrite was live, in the same instance, before it.
    have before : ∀ {work : MaterializationId} {workRow : MaterializationRow},
        (state.setWork id new).work work = some workRow → workRow.state ≠ .deleted →
        ∃ previous, state.work work = some previous ∧
          previous.instanceId = workRow.instanceId ∧ previous.state ≠ .deleted := by
      intro work workRow stored alive
      rcases work_setWork_eq_some.mp stored with ⟨rfl, rfl⟩ | ⟨-, kept⟩
      · exact ⟨old, found, sameInstance.symm, live alive⟩
      · exact ⟨workRow, kept, rfl, alive⟩
    intro first second firstRow secondRow firstStored secondStored same firstLive secondLive
    obtain ⟨_, firstFound, firstSame, firstWas⟩ := before firstStored firstLive
    obtain ⟨_, secondFound, secondSame, secondWas⟩ := before secondStored secondLive
    exact wf.liveUnique firstFound secondFound (by rw [firstSame, secondSame, same]) firstWas
      secondWas
  leased := by
    intro work workRow stored
    rcases work_setWork_eq_some.mp stored with ⟨rfl, rfl⟩ | ⟨-, kept⟩
    · exact leased
    · exact wf.leased kept
  barred := by
    intro work marker marked
    obtain ⟨row, stored, worked, attempted, generation⟩ := wf.barred marked
    by_cases same : work = id
    · subst same
      cases found.symm.trans stored
      obtain ⟨stillWork, sameAttempt, sameGeneration⟩ := barred marker marked
      exact ⟨new, work_setWork_eq_some.mpr (.inl ⟨rfl, rfl⟩), stillWork,
        sameAttempt.trans attempted, sameGeneration.trans generation⟩
    · exact ⟨row, work_setWork_eq_some.mpr (.inr ⟨same, stored⟩), worked, attempted,
        generation⟩

/-- Rewriting a row without moving its projection: its state, instance and generation stay. -/
theorem reschedule {id : MaterializationId} {old new : MaterializationRow}
    (found : state.work id = some old) (sameInstance : new.instanceId = old.instanceId)
    (sameTarget : new.target = old.target)
    (sameGeneration : new.instanceGeneration = old.instanceGeneration)
    (sameState : new.state = old.state) (leased : new.lease ≠ none → new.state.isWork = true)
    (sameAttempt : state.effects id = none ∨ new.reconcileAttempt = old.reconcileAttempt) :
    WellFormed (state.setWork id new) := by
  obtain ⟨owner, ownerFound, stamped⟩ := wf.owned found
  refine wf.setWork found sameInstance sameTarget ownerFound (sameGeneration ▸ stamped)
    (fun alive => sameState ▸ alive) leased ?_
  intro marker marked
  obtain ⟨row, stored, worked, -, -⟩ := wf.barred marked
  cases found.symm.trans stored
  refine ⟨sameState ▸ worked, ?_, sameGeneration⟩
  rcases sameAttempt with none | same
  · cases none.symm.trans marked
  · exact same

theorem record {request : RecordMaterializationRequest}
    (ownerFound : state.instances request.instanceId = some owner)
    (stamped : request.instanceGeneration ≤ owner.generation)
    (idle : ∀ work row, state.work work = some row → row.instanceId = request.instanceId →
      row.state = .deleted) (recordable : state.Recordable request) :
    WellFormed (state.record session request) where
  keyed := by
    refine wf.keyed.setWork ?_
    rw [recordedRow_instanceId session recordable,
      recordedRow_target session recordable]
  owned := by
    intro work row stored
    rcases work_setWork_eq_some.mp stored with ⟨rfl, rfl⟩ | ⟨-, kept⟩
    · rw [recordedRow_instanceId session recordable, recordedRow_instanceGeneration]
      exact ⟨owner, ownerFound, stamped⟩
    · exact wf.owned kept
  watermarked := wf.watermarked
  liveUnique := by
    -- Live work of the request's instance can only be the recorded row.
    intro first second firstRow secondRow firstStored secondStored same firstLive secondLive
    rcases work_setWork_eq_some.mp firstStored with ⟨rfl, rfl⟩ | ⟨-, firstKept⟩ <;>
      rcases work_setWork_eq_some.mp secondStored with ⟨rfl, rfl⟩ | ⟨-, secondKept⟩
    · rfl
    · rw [recordedRow_instanceId session recordable] at same
      exact absurd (idle _ _ secondKept same.symm) secondLive
    · rw [recordedRow_instanceId session recordable] at same
      exact absurd (idle _ _ firstKept same) firstLive
    · exact wf.liveUnique firstKept secondKept same firstLive secondLive
  leased := by
    intro work row stored
    rcases work_setWork_eq_some.mp stored with ⟨rfl, rfl⟩ | ⟨-, kept⟩
    · exact fun held => absurd (recordedRow_lease ..) held
    · exact wf.leased kept
  barred := by
    intro work marker marked
    obtain ⟨row, stored, worked, attempted, generation⟩ := wf.barred marked
    refine ⟨row, work_setWork_eq_some.mpr (.inr ⟨?_, stored⟩), worked, attempted, generation⟩
    rintro rfl
    exact isWork_ne_deleted worked (idle _ _ stored (recordable row stored).1)

theorem mapWork {rewrite : MaterializationId → MaterializationRow → MaterializationRow}
    (sameInstance : ∀ id row, (rewrite id row).instanceId = row.instanceId)
    (sameTarget : ∀ id row, (rewrite id row).target = row.target)
    (sameGeneration : ∀ id row, (rewrite id row).instanceGeneration = row.instanceGeneration)
    (sameAttempt : ∀ id row, (rewrite id row).reconcileAttempt = row.reconcileAttempt)
    (deleted : ∀ id row, row.state = .deleted → (rewrite id row).state = .deleted)
    (sameLease : ∀ id row, (rewrite id row).lease = row.lease)
    (worked : ∀ id row, row.state.isWork = true → (rewrite id row).state.isWork = true) :
    WellFormed (state.mapWork rewrite) where
  keyed := by
    intro id row stored
    obtain ⟨old, found, rfl⟩ := Option.map_eq_some_iff.mp stored
    rw [sameInstance, sameTarget]
    exact wf.keyed id old found
  owned := by
    intro id row stored
    obtain ⟨old, found, rfl⟩ := Option.map_eq_some_iff.mp stored
    rw [sameInstance, sameGeneration]
    exact wf.owned found
  watermarked := wf.watermarked
  liveUnique := by
    intro first second firstRow secondRow firstStored secondStored same firstLive secondLive
    obtain ⟨_, firstFound, rfl⟩ := Option.map_eq_some_iff.mp firstStored
    obtain ⟨_, secondFound, rfl⟩ := Option.map_eq_some_iff.mp secondStored
    rw [sameInstance, sameInstance] at same
    exact wf.liveUnique firstFound secondFound same (fun was => firstLive (deleted _ _ was))
      (fun was => secondLive (deleted _ _ was))
  leased := by
    intro id row stored held
    obtain ⟨old, found, rfl⟩ := Option.map_eq_some_iff.mp stored
    rw [sameLease] at held
    exact worked id old (wf.leased found held)
  barred := by
    intro id marker marked
    obtain ⟨row, stored, isWork, attempted, generation⟩ := wf.barred marked
    exact ⟨rewrite id row, Option.map_eq_some_iff.mpr ⟨row, stored, rfl⟩, worked id row isWork,
      (sameAttempt id row).trans attempted, (sameGeneration id row).trans generation⟩

theorem remove {ids : List InstanceId}
    (unreferenced : ∀ work row, state.work work = some row → row.instanceId ∈ ids →
      state.effects work = none) : WellFormed (state.remove ids) where
  keyed := fun id row stored => wf.keyed id row (Option.filter_eq_some_iff.mp stored).1
  owned := by
    intro id row stored
    obtain ⟨found, kept⟩ := Option.filter_eq_some_iff.mp stored
    obtain ⟨owner, ownerFound, stamped⟩ := wf.owned found
    refine ⟨owner, ?_, stamped⟩
    rw [remove_instances, if_neg (of_decide_eq_true kept)]
    exact ownerFound
  watermarked := by
    intro id row found
    rw [remove_instances] at found
    split at found
    · cases found
    · exact wf.watermarked found
  liveUnique := fun firstStored secondStored =>
    wf.liveUnique (Option.filter_eq_some_iff.mp firstStored).1
      (Option.filter_eq_some_iff.mp secondStored).1
  leased := fun stored => wf.leased (Option.filter_eq_some_iff.mp stored).1
  barred := by
    intro id marker marked
    obtain ⟨row, stored, rest⟩ := wf.barred marked
    refine ⟨row, Option.filter_eq_some_iff.mpr ⟨stored, decide_eq_true fun removed => ?_⟩, rest⟩
    cases (unreferenced id row stored removed).symm.trans marked

theorem setDeferred (id : InstanceId) (intent : Option DeferredWakeIntent) :
    WellFormed (state.setDeferred id intent) :=
  ⟨wf.keyed, wf.owned, wf.watermarked, wf.liveUnique, wf.leased, wf.barred⟩

theorem beginEffect {id : MaterializationId} {marker : EffectRow} (found : state.work id = some row)
    (worked : row.state.isWork = true) (attempted : row.reconcileAttempt = marker.leaseAttempt)
    (stamped : row.instanceGeneration = marker.instanceGeneration) :
    WellFormed (state.setEffect id (some marker)) where
  keyed := wf.keyed
  owned := wf.owned
  watermarked := wf.watermarked
  liveUnique := wf.liveUnique
  leased := wf.leased
  barred := by
    intro other otherMarker marked
    by_cases same : other = id
    · subst same
      cases (Function.update_self ..).symm.trans marked
      exact ⟨row, found, worked, attempted, stamped⟩
    · exact wf.barred ((Function.update_of_ne same ..).symm.trans marked)

theorem clearEffect (id : MaterializationId) :
    WellFormed (state.setEffect id none) where
  keyed := wf.keyed
  owned := wf.owned
  watermarked := wf.watermarked
  liveUnique := wf.liveUnique
  leased := wf.leased
  barred := by
    intro other marker marked
    by_cases same : other = id
    · subst same
      cases (Function.update_self ..).symm.trans marked
    · exact wf.barred ((Function.update_of_ne same ..).symm.trans marked)

theorem acceptDeletion {row : InstanceRow} (found : state.instances id = some row) :
    WellFormed (state.acceptDeletion id row) := by
  unfold State.acceptDeletion
  split
  · exact wf
  · exact wf.advance found _

theorem mapWork_deletionRewrite :
    WellFormed (state.mapWork fun _ => deletionRewrite session id) := by
  refine wf.mapWork ?_ ?_ ?_ ?_ ?_ ?_ ?_ <;> intro _ row <;>
    obtain ⟨_, _, rewritten⟩ := deletionRewrite_eq session id row
  · rw [rewritten]
  · rw [rewritten]
  · rw [rewritten]
  · rw [rewritten]
  · intro deleted
    simp [deletionRewrite_state, deleted]
  · simp [rewritten]
  · intro worked
    rw [deletionRewrite_state]
    split
    · rfl
    · exact worked

theorem failWake {generation : Nat} (found : state.instances id = some owner) :
    WellFormed (state.failWake generation id owner) := by
  unfold State.failWake
  split
  · exact wf.advance found _
  · exact wf

end

variable {request : FinalizeSleepReconciliationRequest} {current : InstanceRow}

variable (wf : WellFormed state) (finalizable : SleepFinalizable session state request current row)

include wf finalizable

theorem drain : WellFormed (state.drain session request current row) := by
  refine (wf.advance finalizable.instanceFound _).setWork finalizable.found rfl rfl
    (instances_advance_self finalizable.owned) ?_ (fun live => absurd rfl live)
    (fun held => absurd rfl held) ?_
  · exact Nat.le_of_eq (congrArg (· + 1) finalizable.expected.symm)
  · intro marker marked
    cases finalizable.resolved.symm.trans marked

theorem idle_drain {work : MaterializationId} {other : MaterializationRow}
    (stored : (state.drain session request current row).work work = some other)
    (owned : other.instanceId = request.finalize.instanceId) : other.state = .deleted := by
  rcases work_setWork_eq_some.mp stored with ⟨rfl, rfl⟩ | ⟨different, kept⟩
  · rfl
  · by_contra live
    exact different (wf.liveUnique kept finalizable.found (owned.trans finalizable.owned.symm) live
      (by rw [finalizable.deleting]; decide))

theorem activate {intent : DeferredWakeIntent}
    (next : intent.instanceGeneration = request.finalize.expectedDrainingGeneration + 2)
    (recordable : (state.drain session request current row).Recordable (activatedRequest
      request.finalize.instanceId intent)) :
    WellFormed ((state.drain session request current row).activate session
      request.finalize.instanceId current intent) := by
  have drained := wf.drain finalizable
  have waking : WellFormed (((state.drain session request current row).setDeferred
      request.finalize.instanceId none).setInstance request.finalize.instanceId
        { current with state := .waking, generation := intent.instanceGeneration }) := by
    refine (drained.setDeferred _ _).setInstance fun watermark found => ?_
    obtain ⟨_, sameFound, last⟩ := drained.watermarked (instances_advance_self rfl)
    cases found.symm.trans sameFound
    have := finalizable.expected
    simp only at last ⊢
    omega
  exact waking.record (Function.update_self ..) (Nat.le_refl _)
    (fun work other stored owned => wf.idle_drain finalizable stored owned) recordable

end WellFormed

theorem LeasedRow.lease_ne_none {state : State} {id : MaterializationId} {owner : String}
    {attempt : Nat} (held : LeasedRow session state id owner attempt row) : row.lease ≠ none := by
  intro unleased
  have leased := held.leased
  rw [MaterializationRow.leasedBy, unleased] at leased
  cases leased

/-! ### Every rule keeps states well formed -/

theorem Step.wellFormed {op : Op} {state next : State} (step : Step session op state next)
    (wf : WellFormed state) : WellFormed next := by
  have unmarked : ∀ {id : MaterializationId} {conclusion : EffectRow → Prop},
      state.effects id = none → ∀ marker, state.effects id = some marker → conclusion marker := by
    intro id conclusion none marker some
    cases none.symm.trans some
  cases step with
  | unchanged => exact wf
  | created _ _ fresh =>
    refine wf.setInstance fun watermark found => ?_
    rw [fresh, found]
    exact Nat.le_succ_of_le (Nat.le_refl _) |>.trans (Nat.le_max_right ..)
  | removed _ _ unreferenced => exact wf.remove unreferenced
  | wakeStarted found settled _ idle prepared _ recordable =>
    exact (wf.advance found _).record (Function.update_self ..) (prepared.of_settled settled).1.le
      idle recordable
  | wakeDeferred => exact wf.setDeferred _ _
  | sleepBegun found _ expected foundRow owned _ live stamped =>
    refine (wf.advance found _).setWork foundRow rfl rfl
      (instances_advance_self owned) ?_ (fun _ => live) (fun _ => rfl)
      (fun _ _ => ⟨rfl, rfl, rfl⟩)
    exact Nat.le_succ_of_le (Nat.le_of_eq (stamped.trans expected.symm))
  | sleepBegunWithoutWork found => exact wf.advance found _
  | deletionAccepted found =>
    exact ((wf.acceptDeletion found).setDeferred _ _).mapWork_deletionRewrite
  | claimed found claimable resolved =>
    simp only [MaterializationRow.claimable, Bool.and_eq_true] at claimable
    exact wf.reschedule found rfl rfl rfl rfl (fun _ => claimable.1.1.1.1) (.inl resolved)
  | renewed held _ worked | released held _ worked =>
    exact wf.reschedule held.found rfl rfl rfl rfl (fun _ => worked) (.inr rfl)
  | effectBegun held stamped =>
    exact wf.beginEffect held.found (wf.leased held.found held.lease_ne_none) held.attempt_eq stamped
  | effectAcknowledged => exact wf.clearEffect _
  | wakeCompleted completable =>
    refine (wf.advance completable.instanceFound _).setWork completable.found rfl rfl
      (instances_advance_self completable.owned) ?_ ?_ (fun held => absurd rfl held)
      (unmarked completable.resolved)
    · exact Nat.le_of_eq (congrArg (· + 1) completable.expected.symm)
    · intro _
      rw [completable.pending]
      decide
  | sleepFinalized finalizable => exact wf.drain finalizable
  | deferredWakeActivated finalizable _ next recordable =>
    exact wf.activate finalizable next recordable
  | workDeleted held =>
    obtain ⟨owner, ownerFound, reached⟩ := wf.owned held.found
    exact wf.setWork held.found rfl rfl ownerFound reached (fun live => absurd rfl live)
      (fun held => absurd rfl held) (unmarked held.resolved)
  | failureRecorded held =>
    exact wf.reschedule held.found rfl rfl rfl rfl (fun held => absurd rfl held) (.inr rfl)
  | wakeFailed held stamped expected pending found =>
    rename_i request row owner kind count message
    have failed : WellFormed (state.failWake request.generation row.instanceId owner) :=
      wf.failWake found
    have stored : (state.failWake request.generation row.instanceId owner).work
        request.materializationId = some row := by
      rw [failWake_work]
      exact held.found
    obtain ⟨_, ownerFound, reached⟩ := failed.owned stored
    refine failed.setWork stored rfl rfl ownerFound reached (fun _ => ?_)
      (fun held => absurd rfl held) ?_
    · rw [pending]
      decide
    · rw [failWake_effects]
      exact unmarked held.resolved
  | enqueued found schedulable _ resolved =>
    obtain ⟨owner, ownerFound, reached⟩ := wf.owned found
    refine wf.setWork found rfl rfl ownerFound reached (fun _ => ?_) (fun held => ?_)
      (unmarked resolved)
    · rcases schedulable with worked | failed
      · exact isWork_ne_deleted worked
      · rw [failed]
        decide
    · have worked := wf.leased found held
      rw [beforeUpdate_state]
      split
      · rfl
      · exact worked
  | forceDeleted found =>
    obtain ⟨owner, ownerFound, reached⟩ := wf.owned found
    refine (wf.clearEffect _).setWork found rfl rfl ownerFound reached
      (fun live => absurd rfl live) (fun held => absurd rfl held) ?_
    intro marker marked
    cases (Function.update_self ..).symm.trans marked
  | keyForceReleased keysOnly =>
    refine wf.mapWork ?_ ?_ ?_ ?_ ?_ ?_ ?_
    all_goals
      intro id row
      obtain ⟨keys, schedule, rewritten⟩ := keysOnly id row
      rw [rewritten]
    · exact fun deleted => deleted
    · exact fun worked => worked

theorem wellFormed_of_reachable {allowed : Session × Op → Prop} {db : Database}
    (reachable : storeSystem.Reachable allowed db) : WellFormed (view db) := by
  have initially : ∀ db, storeSystem.initial db → WellFormed (view db) := by
    rintro _ rfl
    exact wellFormed_empty
  have preserved : ∀ label db after, allowed label → WellFormed (view db) →
      storeSystem.step label db after → WellFormed (view after) := by
    intro label db after _ wf stepped
    exact (commit_refines wf.keyed stepped).wellFormed wf
  exact reachable.invariant initially preserved

/-! ### Runs -/

/-- The lifecycle rules as a system of their own. -/
def lifecycleSystem : TransitionSystem State (Session × Op) where
  initial state := state = view .empty
  step label := Step label.1 label.2

variable {allowed : Session × Op → Prop} {db later : Database}

/-- Every run of the store is, through the view, a run of the lifecycle rules by the same
operations. -/
theorem store_runs_refine_lifecycle (reachable : storeSystem.Reachable allowed db)
    (path : storeSystem.Path allowed db later) :
    lifecycleSystem.Path allowed (view db) (view later) := by
  have wf := wellFormed_of_reachable reachable
  suffices both : WellFormed (view later) ∧ lifecycleSystem.Path allowed (view db) (view later) from
    both.2
  induction path with
  | refl => exact ⟨wf, .refl⟩
  | tail _ last ih =>
    obtain ⟨label, allows, committed⟩ := last
    have step := commit_refines ih.1.keyed committed
    exact ⟨step.wellFormed ih.1, ih.2.tail ⟨label, allows, step⟩⟩

theorem first_wake_refines_lifecycle :
    ∃ db, lifecycleSystem.Path production (view .empty) (view db) ∧
      (db.materializations.find? Sample.work).isSome = true := by
  obtain ⟨db, ⟨_, rfl, path⟩, recorded⟩ := @exists_reachable_of_runOps production Sample.waking
    (fun db => (db.materializations.find? Sample.work).isSome) (by decide) (by decide)
  exact ⟨db, store_runs_refine_lifecycle (.init rfl) path, recorded⟩

end Sleepypods.Lifecycle
