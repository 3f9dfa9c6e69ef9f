import Sleepypods.Lifecycle.Step

/-! The operations of the store refine the lifecycle rules. For each operation one lemma says
what it returned, what it had checked, and what it did to the lifecycle state. -/

set_option autoImplicit false

namespace Sleepypods.Lifecycle

open Library Library.Fallible Store State

/-! ### Lookups and projections -/

variable {db : Database} {instanceId : InstanceId} {target : MaterializationTarget}
  {id : MaterializationId} {row : MaterializationRow}

theorem work_of_findByTarget (found : findByTarget db instanceId target = some (id, row)) :
    (view db).work id = some row ∧ row.instanceId = instanceId ∧ row.target = target := by
  obtain ⟨stored, selected⟩ := Table.select?_eq_some found
  simp only [Bool.and_eq_true, decide_eq_true_eq] at selected
  exact ⟨stored, selected.1, selected.2⟩

theorem not_work_of_findByTarget (absent : findByTarget db instanceId target = none)
    (stored : (view db).work id = some row) (owned : row.instanceId = instanceId) :
    row.target ≠ target := by
  have unselected := Table.select?_eq_none.mp absent id row stored
  simp only [owned, decide_true, Bool.true_and, decide_eq_false_iff_not] at unselected
  exact unselected

/-- In a keyed state the row of an instance and target is the one under their id. -/
theorem findByTarget_of_work (keyed : (view db).Keyed) (stored : (view db).work id = some row) :
    findByTarget db row.instanceId row.target = some (id, row) := by
  cases found : findByTarget db row.instanceId row.target with
  | none => exact absurd rfl (not_work_of_findByTarget found stored rfl)
  | some entry =>
    obtain ⟨other, otherRow⟩ := entry
    obtain ⟨otherStored, sameInstance, sameTarget⟩ := work_of_findByTarget found
    have same : other = id := by
      rw [keyed other otherRow otherStored, sameInstance, sameTarget, ← keyed id row stored]
    subst same
    rw [stored] at otherStored
    cases otherStored
    rfl

theorem hasLiveMaterialization_eq_false {id : InstanceId}
    (idle : hasLiveMaterialization db id = false) {work : MaterializationId}
    (stored : (view db).work work = some row) (owned : row.instanceId = id) :
    row.state = .deleted := by
  have none := Table.any_eq_false.mp idle work row stored
  simpa [owned] using none

variable {session : Session} {after : Database}

theorem State.Keyed.of_work {state next : State} (keyed : state.Keyed)
    (same : next.work = state.work) : next.Keyed := by
  rw [Keyed, same]
  exact keyed

theorem view_upsertMaterialization {request : RecordMaterializationRequest}
    (keyed : (view db).Keyed)
    (recorded : upsertMaterialization session request db = .ok (row, after)) :
    (view db).Recordable request ∧ row = (view db).recordedRow session request ∧
      view after = (view db).record session request := by
  simp only [upsertMaterialization, generationToI64, backendGenerationToI64, bind_eq_ok,
    require_eq_ok, exists_const] at recorded
  obtain ⟨-, -, -, stored⟩ := recorded
  split at stored
  · simp only [bind_eq_ok, pure_eq_ok, Prod.mk.injEq] at stored
    obtain ⟨inserted, insertion, rfl, rfl⟩ := stored
    obtain ⟨absent, -, viewed⟩ := view_insertMaterialization insertion
    refine ⟨fun old found => ?_, ?_, ?_⟩
    · rw [absent] at found
      cases found
    · simp [recordedRow, absent]
    · rw [viewed]
      simp [record, recordedRow, absent]
  next id old found =>
    simp only [bind_eq_ok, require_eq_ok, pure_eq_ok, exists_const, Prod.mk.injEq] at stored
    obtain ⟨accepted, updated, update, rfl, rfl⟩ := stored
    obtain ⟨oldStored, sameInstance, sameTarget⟩ := work_of_findByTarget found
    have atId : materializationId request.instanceId request.target = id := by
      rw [keyed id old oldStored, sameInstance, sameTarget]
    refine ⟨fun other otherFound => ?_, ?_, ?_⟩
    · rw [atId, oldStored] at otherFound
      cases otherFound
      exact ⟨sameInstance, sameTarget, accepted⟩
    · simp [recordedRow, atId, oldStored]
    · rw [view_updateMaterialization update]
      simp [record, recordedRow, atId, oldStored]

variable {pending : RecordMaterializationRequest}

theorem acceptedBackendGeneration_ok {accepted : Nat}
    (computed : acceptedBackendGeneration db pending = .ok accepted) :
    BackendAccepted (view db) pending accepted := by
  have member : ∀ work old, (view db).work work = some old →
      old.instanceId = pending.instanceId → old.target = pending.target →
      old.backendGeneration ∈ ((db.materializations.entries.filter fun entry =>
        decide (entry.2.instanceId = pending.instanceId) &&
          decide (entry.2.target = pending.target)).map fun entry => entry.2.backendGeneration) := by
    intro work old stored owned targeted
    refine List.mem_map.mpr ⟨(work, old), List.mem_filter.mpr ?_, rfl⟩
    exact ⟨Table.find?_eq_some.mp stored, by simp [owned, targeted]⟩
  unfold acceptedBackendGeneration at computed
  split at computed
  next none =>
    cases computed
    refine ⟨Nat.le_refl _, fun work old stored owned targeted => ?_, .inl rfl⟩
    have listed := member work old stored owned targeted
    rw [List.max?_eq_none_iff.mp none] at listed
    cases listed
  next previous largest =>
    simp only [bind_eq_ok, require_eq_ok, pure_eq_ok, exists_const] at computed
    obtain ⟨-, rfl⟩ := computed
    obtain ⟨attained, bounds⟩ := List.max?_eq_some_iff.mp largest
    refine ⟨Nat.le_max_left .., fun work old stored owned targeted => ?_, ?_⟩
    · have bounded := bounds _ (member work old stored owned targeted)
      exact Nat.lt_of_lt_of_le (Nat.lt_succ_of_le bounded) (Nat.le_max_right ..)
    · rcases Nat.le_total (previous + 1) pending.backendGeneration with le | le
      · exact .inl (Nat.max_eq_left le)
      · obtain ⟨⟨work, old⟩, selected, rfl⟩ := List.mem_map.mp attained
        obtain ⟨stored, matching⟩ := List.mem_filter.mp selected
        simp only [Bool.and_eq_true, decide_eq_true_eq] at matching
        exact .inr ⟨work, old, Table.find?_eq_some.mpr stored, matching.1, matching.2,
          Nat.max_eq_right le⟩

/-! ### Wakes -/

variable {current : InstanceRow}

theorem deferWake_ok {row : InstanceRow}
    (deferred : deferWake pending current db = .ok (row, after)) :
    row = current ∧
      (after = db ∨
        ((view db).deferred pending.instanceId = none ∧
          (pending.instanceGeneration < bigintBound ∧ pending.projectionGeneration < bigintBound ∧
            pending.backendGeneration < bigintBound) ∧
          view after = (view db).setDeferred pending.instanceId
            (some (deferredIntent pending pending.backendGeneration)))) := by
  simp only [deferWake, generationToI64, backendGenerationToI64, bind_eq_ok, require_eq_ok,
    exists_const] at deferred
  obtain ⟨generation, projection, backend, kept⟩ := deferred
  split at kept
  · simp only [bind_eq_ok, require_eq_ok, pure_eq_ok, exists_const, Prod.mk.injEq] at kept
    obtain ⟨-, rfl, rfl⟩ := kept
    exact ⟨rfl, .inl rfl⟩
  next absent =>
    obtain ⟨rfl, rfl⟩ := pure_pair_eq_ok.mp kept
    refine ⟨rfl, .inr ⟨absent, ⟨generation, projection, backend⟩, ?_⟩⟩
    simp [view, setDeferred, deferredIntent]

theorem startWake_ok {row : InstanceRow} (keyed : (view db).Keyed)
    (started : startWake session pending current db = .ok (row, after))
    (next : pending.instanceGeneration = current.generation + 1) :
    row = { current with state := .waking, generation := current.generation + 1 } ∧
      (view db).Recordable pending ∧
      view after =
        ((view db).advance pending.instanceId current .waking).record session pending := by
  simp only [startWake, generationToI64, bind_eq_ok, require_eq_ok, pure_eq_ok, exists_const,
    Prod.exists, Prod.mk.injEq] at started
  obtain ⟨-, waking, moved, _, final, recorded, rfl, rfl⟩ := started
  have movedView := view_updateInstance moved
  have movedKeyed : (view waking).Keyed := keyed.of_work (by rw [movedView]; rfl)
  obtain ⟨recordable, -, finalView⟩ := view_upsertMaterialization movedKeyed recorded
  rw [movedView] at recordable finalView
  rw [next] at finalView
  exact ⟨by rw [next], recordable, finalView⟩

theorem acceptWake_ok {request : AcceptWakeRequest} {row : InstanceRow} (keyed : (view db).Keyed)
    (accepted : acceptWake session request db = .ok (row, after)) :
    after = db ∨
      ∃ current backendGeneration,
        (view db).instances request.pending.instanceId = some current ∧
        current.generation = request.expectedGeneration ∧
        Prepared current request.pending ∧
        BackendAccepted (view db) request.pending backendGeneration ∧
        ((current.state = .draining ∧ (view db).deferred request.pending.instanceId = none ∧
            (request.pending.instanceGeneration < bigintBound ∧
              request.pending.projectionGeneration < bigintBound ∧
              backendGeneration < bigintBound) ∧
            view after = (view db).setDeferred request.pending.instanceId
              (some (deferredIntent request.pending backendGeneration))) ∨
          ((current.state = .cold ∨ current.state = .failed) ∧
            (∀ work row, (view db).work work = some row →
              row.instanceId = request.pending.instanceId → row.state = .deleted) ∧
            (view db).Recordable { request.pending with backendGeneration := backendGeneration } ∧
            view after = ((view db).advance request.pending.instanceId current .waking).record
              session { request.pending with backendGeneration := backendGeneration })) := by
  simp only [acceptWake, bind_eq_ok, orError_eq_ok] at accepted
  obtain ⟨current, found, rest⟩ := accepted
  split at rest
  · simp only [replayWake, bind_eq_ok, require_eq_ok, pure_eq_ok, exists_const,
      Prod.mk.injEq] at rest
    obtain ⟨-, -, rfl⟩ := rest
    exact .inl rfl
  · simp only [bind_eq_ok, require_eq_ok, exists_const] at rest
    obtain ⟨expected, wakeable, idle, ⟨pending, generation, projection, backend⟩,
      backendGeneration, computed, rest⟩ := rest
    have prepared : Prepared current request.pending := ⟨pending, generation, projection, backend⟩
    have backendAccepted := acceptedBackendGeneration_ok computed
    split at rest
    next draining =>
      rcases (deferWake_ok rest).2 with rfl | ⟨absent, storable, viewed⟩
      · exact .inl rfl
      · exact .inr ⟨current, backendGeneration, found, expected, prepared, backendAccepted,
          .inl ⟨draining, absent, storable, viewed⟩⟩
    next awake =>
      have settled : current.state = .cold ∨ current.state = .failed := by
        rcases wakeable with cold | failed | draining
        · exact .inl cold
        · exact .inr failed
        · exact absurd draining awake
      have next : request.pending.instanceGeneration = current.generation + 1 := by
        rw [generation, expectedWaking, if_neg awake]
      obtain ⟨-, recordable, viewed⟩ := startWake_ok keyed rest next
      refine .inr ⟨current, backendGeneration, found, expected, prepared, backendAccepted,
        .inr ⟨settled, ?_, recordable, viewed⟩⟩
      intro work row stored owned
      exact hasLiveMaterialization_eq_false (idle.resolve_left awake) stored owned

/-! ### Sleep and deletion -/

/-- The state that a transition of this reason starts from. -/
theorem source_of_transition {current next : InstanceState} {reason : StateTransitionReason}
    {value : Unit} (valid : validateInstanceStateTransition current next reason = .ok value) :
    (reason = .idleReported → current = .running) ∧
      (reason = .materializationReady → current = .waking) ∧
      (reason = .drainCompleted → current = .draining) := by
  simp only [validateInstanceStateTransition, require_eq_ok] at valid
  refine ⟨?_, ?_, ?_⟩ <;> rintro rfl <;> cases current <;> first | rfl | (cases next <;> cases valid)

theorem readyMaterialization_eq_some {generation : Nat}
    (found : readyMaterialization db instanceId generation target = some row) :
    ∃ id, (view db).work id = some row ∧ row.instanceId = instanceId ∧
      row.instanceGeneration = generation ∧ row.target = target ∧ row.state = .ready := by
  obtain ⟨⟨id, _⟩, entry, rfl⟩ := Option.map_eq_some_iff.mp found
  obtain ⟨stored, selected⟩ := Table.select?_eq_some entry
  simp only [Bool.and_eq_true, decide_eq_true_eq] at selected
  exact ⟨id, stored, selected.1.1.1, selected.1.1.2, selected.1.2, selected.2⟩

variable {request : BeginSleepRequest}

theorem checkReadyAge_ok {value : Unit} (checked : checkReadyAge session request db = .ok value)
    {age : Duration} (automatic : request.minimumReadyAge = some age) :
    ∃ id row, (view db).work id = some row ∧ row.instanceId = request.instanceId ∧
      row.target = request.target ∧ row.state = .ready ∧
      row.schedule.stateEnteredAt + Duration.asMillis age ≤ session.now := by
  unfold checkReadyAge at checked
  simp only [automatic, generationToI64, bind_eq_ok, require_eq_ok, orError_eq_ok, exists_const]
    at checked
  obtain ⟨-, -, row, found, -, aged⟩ := checked
  obtain ⟨id, stored, owned, -, targeted, ready⟩ := readyMaterialization_eq_some found
  exact ⟨id, row, stored, owned, targeted, ready, aged⟩

theorem markDeletingForSleep_ok {result : Option MaterializationRow}
    (marked : markDeletingForSleep session request db = .ok (result, after)) :
    (result = none ∧ after = db ∧
        ∀ id row, findByTarget db request.instanceId request.target = some (id, row) →
          row.state = .deleted) ∨
      ∃ id row, findByTarget db request.instanceId request.target = some (id, row) ∧
        row.state ≠ .deleted ∧ row.instanceGeneration = request.expectedRunningGeneration ∧
        view after = (view db).setWork id
          (beforeUpdate session row
            (drainingRow session (Duration.asMillis request.drainGraceTimeout) row)) := by
  simp only [markDeletingForSleep, generationToI64, bind_eq_ok, require_eq_ok, exists_const]
    at marked
  obtain ⟨-, -, rest⟩ := marked
  split at rest
  next absent =>
    obtain ⟨rfl, rfl⟩ := pure_pair_eq_ok.mp rest
    refine .inl ⟨rfl, rfl, fun id row found => ?_⟩
    simpa [found, Option.filter] using absent
  next id row selected =>
    simp only [bind_eq_ok, require_eq_ok, pure_eq_ok, exists_const, Prod.mk.injEq] at rest
    obtain ⟨stamped, updated, update, -, rfl⟩ := rest
    obtain ⟨found, live⟩ := Option.filter_eq_some_iff.mp selected
    exact .inr ⟨id, row, found, of_decide_eq_true live, stamped, view_updateMaterialization update⟩

theorem beginSleep_ok {result : InstanceRow × Option MaterializationRow} (keyed : (view db).Keyed)
    (slept : beginSleep session request db = .ok (result, after)) :
    ∃ current, (view db).instances request.instanceId = some current ∧
      current.state = .running ∧ current.generation = request.expectedRunningGeneration ∧
      ((request.minimumReadyAge = none ∧ result.2 = none ∧
          view after = (view db).advance request.instanceId current .draining) ∨
        ∃ work row, (view db).work work = some row ∧ row.instanceId = request.instanceId ∧
          row.target = request.target ∧ row.state ≠ .deleted ∧
          row.instanceGeneration = request.expectedRunningGeneration ∧
          (∀ age, request.minimumReadyAge = some age → row.state = .ready ∧
            row.schedule.stateEnteredAt + Duration.asMillis age ≤ session.now) ∧
          view after = ((view db).advance request.instanceId current .draining).setWork work
            (beforeUpdate session row
              (drainingRow session (Duration.asMillis request.drainGraceTimeout) row))) := by
  simp only [beginSleep, generationToI64, bind_eq_ok, require_eq_ok, orError_eq_ok, pure_eq_ok,
    exists_const, Prod.exists, Prod.mk.injEq] at slept
  obtain ⟨current, found, expected, valid, validated, _, checked, -, draining, moved,
    marked, final, marking, rfl, rfl⟩ := slept
  have movedView := view_updateInstance moved
  rw [← expected] at movedView
  have sameWork : (view draining).work = (view db).work := by rw [movedView]; rfl
  have movedKeyed := keyed.of_work sameWork
  -- Automatic sleep has seen a ready row, which is then the row that the target selects.
  have readyRow : ∀ age, request.minimumReadyAge = some age → ∃ id row,
      findByTarget draining request.instanceId request.target = some (id, row) ∧
        row.state = .ready ∧
        row.schedule.stateEnteredAt + Duration.asMillis age ≤ session.now := by
    intro age automatic
    obtain ⟨id, row, stored, owned, targeted, ready⟩ := checkReadyAge_ok checked automatic
    rw [← sameWork] at stored
    refine ⟨id, row, ?_, ready⟩
    rw [← owned, ← targeted]
    exact findByTarget_of_work movedKeyed stored
  refine ⟨current, found, (source_of_transition validated).1 rfl,
    expected, ?_⟩
  rcases markDeletingForSleep_ok marking with
    ⟨unmarked, rfl, deleted⟩ | ⟨id, row, selected, live, stamped, viewed⟩
  · refine .inl ⟨?_, unmarked, movedView⟩
    cases automatic : request.minimumReadyAge with
    | none => rfl
    | some age =>
      obtain ⟨id, row, selected, ready, -⟩ := readyRow age automatic
      rw [deleted id row selected] at ready
      cases ready
  · obtain ⟨stored, owned, targeted⟩ := work_of_findByTarget selected
    rw [sameWork] at stored
    refine .inr ⟨id, row, stored, owned, targeted, live, stamped, fun age automatic => ?_, ?_⟩
    · obtain ⟨_, _, readySelected, ready⟩ := readyRow age automatic
      rw [selected] at readySelected
      cases readySelected
      exact ready
    · rw [viewed, movedView]
      rfl

theorem view_markDeleting {session : Session} {id : InstanceId} {db after : Database}
    (marked : updateMaterializations session
      (fun _ work => decide (work.instanceId = id) &&
        !(decide (work.state = .deleted) || decide (work.state = .deleting)))
      (fun work => { work with state := .deleting })
      { db with deferredWakes := db.deferredWakes.erase id } = .ok after) :
    view after = ((view db).setDeferred id none).mapWork fun _ => deletionRewrite session id := by
  have erased : view { db with deferredWakes := db.deferredWakes.erase id } =
      (view db).setDeferred id none := by
    simp [view, setDeferred]
  rw [view_updateMaterializations marked, erased]
  congr 1
  funext _ work
  simp [deletionRewrite]

variable {result : Bool}

theorem requestInstanceDeletion_ok {request : RequestInstanceDeletion}
    (requested : requestInstanceDeletion session request db = .ok (result, after)) :
    (result = false ∧ after = db) ∨
      (result = true ∧ ∃ row, (view db).instances request.instanceId = some row ∧
        (row.generation = request.expectedGeneration ∨
          (row.state = .deleting ∧ row.generation = request.expectedGeneration + 1)) ∧
        view after = (((view db).acceptDeletion request.instanceId row).setDeferred
          request.instanceId none).mapWork fun _ => deletionRewrite session request.instanceId) := by
  simp only [requestInstanceDeletion, generationToI64, bind_eq_ok, require_eq_ok, exists_const]
    at requested
  obtain ⟨-, rest⟩ := requested
  split at rest
  · exact .inl (pure_pair_eq_ok.mp rest)
  next row found =>
    simp only [bind_eq_ok, require_eq_ok, exists_const] at rest
    obtain ⟨expected, rest⟩ := rest
    split at rest
    next already =>
      simp only [bind_eq_ok, pure_eq_ok, exists_eq_left', Prod.mk.injEq] at rest
      obtain ⟨_, marked, rfl, rfl⟩ := rest
      refine .inr ⟨rfl, row, found, expected, ?_⟩
      rw [view_markDeleting marked, acceptDeletion, if_pos already]
    next active =>
      simp only [bind_eq_ok, require_eq_ok, pure_eq_ok, exists_const, Prod.mk.injEq] at rest
      obtain ⟨-, deleting, moved, _, marked, rfl, rfl⟩ := rest
      refine .inr ⟨rfl, row, found, expected, ?_⟩
      rw [view_markDeleting marked, acceptDeletion, if_neg active, view_updateInstance moved]
      rfl

/-! ### Instances and bindings -/

theorem view_insertRouteBindings :
    ∀ {position : Nat} {specs : List RouteBindingSpec} {records : List RouteBindingRecord}
      {db after : Database},
      insertRouteBindings session instanceId position specs db = .ok (records, after) →
        view after = view db := by
  intro position specs
  induction specs generalizing position with
  | nil =>
    intro records db after inserted
    cases inserted
    rfl
  | cons _ _ ih =>
    intro records db after inserted
    simp only [insertRouteBindings, bind_eq_ok, pure_eq_ok, Prod.exists, Prod.mk.injEq] at inserted
    obtain ⟨_, -, first, insertion, _, -, _, final, others, -, rfl⟩ := inserted
    rw [ih others, view_insertRouteBinding insertion]

theorem createInstance_ok {request : CreateInstanceRequest}
    {validated : StoreResult (List (String × String))} {result : CreateInstanceResult}
    (created : createInstance session request validated db = .ok (result, after)) :
    (result.idempotencyReplayed = true ∧ view after = view db) ∨
      (result.idempotencyReplayed = false ∧ result.instanceId = request.instanceId ∧
        (view db).instances request.instanceId = none ∧ result.row.state = .cold ∧
        result.row.generation = insertedGeneration 0 ((view db).watermarks request.instanceId) ∧
        view after = (view db).setInstance request.instanceId result.row) := by
  simp only [createInstance, bind_eq_ok] at created
  obtain ⟨values, -, fingerprint, -, rest⟩ := created
  split at rest
  · simp only [bind_eq_ok, pure_eq_ok, Prod.exists, Prod.mk.injEq] at rest
    obtain ⟨_, -, _, _, -, _, -, rfl, rfl⟩ := rest
    exact .inl ⟨rfl, rfl⟩
  · simp only [bind_eq_ok, pure_eq_ok, insertIdempotencyRecord, require_eq_ok, exists_const,
      Prod.exists, Prod.mk.injEq] at rest
    obtain ⟨_, ⟨-, rfl⟩, row, inserted, insertion, _, final, bindings, rfl, rfl⟩ := rest
    obtain ⟨absent, rowEq, viewed⟩ := view_insertInstance insertion
    refine .inr ⟨rfl, rfl, absent, by rw [rowEq], by rw [rowEq]; rfl, ?_⟩
    rw [view_insertRouteBindings bindings, viewed]
    rfl

theorem deleteInstance_ok {id : InstanceId}
    (deleted : deleteInstance session id db = .ok (result, after)) :
    after = db ∨ Step session (.deleteInstance id) (view db) (view after) := by
  unfold deleteInstance at deleted
  split at deleted
  · cases deleted
    exact .inl rfl
  next row found =>
    simp only [bind_eq_ok, require_eq_ok, pure_eq_ok, exists_const, Prod.mk.injEq] at deleted
    obtain ⟨deleting, idle, removed, removal, -, rfl⟩ := deleted
    obtain ⟨unreferenced, viewed⟩ := view_deleteInstances removal
    right
    rw [viewed]
    refine .removed (fun other member => ?_) (fun work row stored member => ?_) unreferenced
    · cases List.mem_singleton.mp member
      exact ⟨row, found, deleting⟩
    · exact hasLiveMaterialization_eq_false idle stored (List.mem_singleton.mp member)

theorem finalizeInstanceDeletions_ok {limit : Nat} {locked : InstanceId → Bool} {count : Nat}
    (finalized : finalizeInstanceDeletions session limit locked db = .ok (count, after)) :
    Step session (.finalizeInstanceDeletions limit locked) (view db) (view after) := by
  simp only [finalizeInstanceDeletions, bind_eq_ok, require_eq_ok, pure_eq_ok, exists_const,
    Prod.mk.injEq] at finalized
  obtain ⟨-, removed, removal, -, rfl⟩ := finalized
  obtain ⟨unreferenced, viewed⟩ := view_deleteInstances removal
  have chosen : ∀ id ∈ (deletableInstances db locked).take limit, ∃ row,
      (view db).instances id = some row ∧ row.state = .deleting ∧
        hasLiveMaterialization db id = false := by
    intro id member
    have listed := List.mem_of_mem_take member
    simp only [deletableInstances, List.mem_insertionSort, List.mem_map, List.mem_filter,
      Bool.and_eq_true, decide_eq_true_eq, Bool.not_eq_true', Prod.exists] at listed
    obtain ⟨_, row, ⟨stored, ⟨deleting, idle⟩, -⟩, rfl⟩ := listed
    exact ⟨row, Table.find?_eq_some.mpr stored, deleting, idle⟩
  rw [viewed]
  refine .removed (fun id member => ?_) (fun work row stored member => ?_) unreferenced
  · obtain ⟨row, found, deleting, -⟩ := chosen id member
    exact ⟨row, found, deleting⟩
  · obtain ⟨_, -, -, idle⟩ := chosen row.instanceId member
    exact hasLiveMaterialization_eq_false idle stored rfl

theorem view_createRouteBinding {request : CreateRouteBindingRequest} {record : RouteBindingRecord}
    (created : createRouteBinding session request db = .ok (record, after)) :
    view after = view db := by
  simp only [createRouteBinding, bind_eq_ok] at created
  obtain ⟨_, -, rest⟩ := created
  split at rest
  · simp only [bind_eq_ok, pure_eq_ok, Prod.exists, Prod.mk.injEq] at rest
    obtain ⟨_, -, _, _, -, _, -, -, rfl⟩ := rest
    rfl
  · simp only [bind_eq_ok, pure_eq_ok, insertIdempotencyRecord, require_eq_ok, exists_const,
      Prod.mk.injEq] at rest
    obtain ⟨_, ⟨-, rfl⟩, inserted, insertion, _, -, -, rfl⟩ := rest
    rw [view_insertRouteBinding insertion]
    rfl

theorem claim_ok {request : ClaimRequest} {result : Option MaterializationRow}
    (claimed : claimMaterializationReconciliation session request db = .ok (result, after)) :
    (result = none ∧ after = db) ∨
      ∃ row ttlMillis, (view db).work request.materializationId = some row ∧
        row.claimable session.now = true ∧ (view db).effects request.materializationId = none ∧
        result =
          some (beforeUpdate session row (claimedRow session request.owner ttlMillis row)) ∧
        view after = (view db).setWork request.materializationId
          (beforeUpdate session row (claimedRow session request.owner ttlMillis row)) := by
  simp only [claimMaterializationReconciliation, validateLeaseOwner, bind_eq_ok, require_eq_ok,
    exists_const] at claimed
  obtain ⟨-, ttlMillis, -, rest⟩ := claimed
  split at rest
  · exact .inl (pure_pair_eq_ok.mp rest)
  next row selected =>
    simp only [bind_eq_ok, pure_eq_ok, Prod.mk.injEq] at rest
    obtain ⟨_, update, rfl, rfl⟩ := rest
    obtain ⟨found, condition⟩ := Option.filter_eq_some_iff.mp selected
    simp only [Bool.and_eq_true, Option.isNone_iff_eq_none] at condition
    exact .inr ⟨row, ttlMillis, found, condition.1, condition.2, rfl,
      view_updateMaterialization update⟩

theorem renewLease_ok {request : RenewLeaseRequest}
    (renewed : renewMaterializationReconciliationLease session request db = .ok (result, after)) :
    (result = false ∧ after = db) ∨
      (result = true ∧ ∃ row lease,
        LeasedRow session (view db) request.materializationId request.owner request.attempt row ∧
        row.instanceGeneration = request.instanceGeneration ∧ row.state.isWork = true ∧
        row.state = request.expectedState ∧ lease.owner = request.owner ∧
        view after = (view db).setWork request.materializationId
          (beforeUpdate session row { row with lease := some lease })) := by
  simp only [renewMaterializationReconciliationLease, validateLeaseOwner, leaseAttempt,
    generationToI64, bind_eq_ok, require_eq_ok, exists_const] at renewed
  obtain ⟨-, ttlMillis, -, -, -, rest⟩ := renewed
  split at rest
  · exact .inl (pure_pair_eq_ok.mp rest)
  next row selected =>
    simp only [bind_eq_ok, pure_eq_ok, Prod.mk.injEq] at rest
    obtain ⟨_, update, rfl, rfl⟩ := rest
    obtain ⟨found, condition⟩ := Option.filter_eq_some_iff.mp selected
    simp only [Bool.and_eq_true, decide_eq_true_eq] at condition
    obtain ⟨⟨⟨⟨leased, attempt⟩, stamped⟩, worked⟩, expected⟩ := condition
    exact .inr ⟨rfl, row, _, ⟨found, leased, attempt⟩, stamped, worked, expected, rfl,
      view_updateMaterialization update⟩

theorem releaseLease_ok {request : ReleaseLeaseRequest}
    (released : releaseMaterializationReconciliationLease session request db =
      .ok (result, after)) :
    (result = false ∧ after = db) ∨
      (result = true ∧ ∃ row,
        CompletableRow session (view db) request.materializationId request.owner request.attempt
          row ∧
        row.instanceGeneration = request.instanceGeneration ∧ row.state.isWork = true ∧
        view after = (view db).setWork request.materializationId
          (beforeUpdate session row
            { row with
              lease := none
              schedule := { row.schedule with nextAttemptAt := session.now } })) := by
  simp only [releaseMaterializationReconciliationLease, validateLeaseOwner, leaseAttempt,
    generationToI64, bind_eq_ok, require_eq_ok, exists_const] at released
  obtain ⟨-, -, -, rest⟩ := released
  split at rest
  · exact .inl (pure_pair_eq_ok.mp rest)
  next row selected =>
    simp only [bind_eq_ok, pure_eq_ok, Prod.mk.injEq] at rest
    obtain ⟨_, update, rfl, rfl⟩ := rest
    obtain ⟨found, condition⟩ := Option.filter_eq_some_iff.mp selected
    simp only [Bool.and_eq_true, decide_eq_true_eq, Option.isNone_iff_eq_none] at condition
    obtain ⟨⟨⟨⟨resolved, leased⟩, attempt⟩, stamped⟩, worked⟩ := condition
    exact .inr ⟨rfl, row, ⟨⟨found, leased, attempt⟩, resolved⟩, stamped, worked,
      view_updateMaterialization update⟩

theorem beginEffect_ok {request : EffectRequest}
    (begun : beginMaterializationEffect session request db = .ok (result, after)) :
    (after = db ∧
        (result = true → (view db).effects request.materializationId = some request.marker ∧
          ∃ row, LeasedRow session (view db) request.materializationId request.owner
            request.attempt row ∧
            row.instanceGeneration = request.instanceGeneration ∧
            row.state = request.expectedState)) ∨
      (result = true ∧ ∃ row,
        CompletableRow session (view db) request.materializationId request.owner request.attempt
          row ∧
        row.instanceGeneration = request.instanceGeneration ∧ row.state = request.expectedState ∧
        view after = (view db).setEffect request.materializationId (some request.marker)) := by
  simp only [beginMaterializationEffect, validateLeaseOwner, leaseAttempt, generationToI64,
    bind_eq_ok, require_eq_ok, exists_const] at begun
  obtain ⟨-, -, -, -, rest⟩ := begun
  split at rest
  · obtain ⟨rfl, rfl⟩ := pure_pair_eq_ok.mp rest
    exact .inl ⟨rfl, fun success => by cases success⟩
  next row selected =>
    obtain ⟨found, condition⟩ := Option.filter_eq_some_iff.mp selected
    simp only [Bool.and_eq_true, decide_eq_true_eq] at condition
    obtain ⟨⟨⟨leased, attempt⟩, stamped⟩, expected⟩ := condition
    split at rest
    next marker markerFound =>
      obtain ⟨rfl, rfl⟩ := pure_pair_eq_ok.mp rest
      refine .inl ⟨rfl, fun same => ⟨?_, row, ⟨found, leased, attempt⟩, stamped, expected⟩⟩
      rw [← of_decide_eq_true same]
      exact markerFound
    next absent =>
      obtain ⟨rfl, rfl⟩ := pure_pair_eq_ok.mp rest
      refine .inr ⟨rfl, row, ⟨⟨found, leased, attempt⟩, absent⟩, stamped, expected, ?_⟩
      simp [view, setEffect]

theorem acknowledgeEffect_ok {request : AcknowledgeEffectRequest}
    (acknowledged : acknowledgeMaterializationEffect request db = .ok (result, after)) :
    (result = false ∧ after = db) ∨
      (result = true ∧ ∃ marker, (view db).effects request.materializationId = some marker ∧
        request.names marker = true ∧
        view after = (view db).setEffect request.materializationId none) := by
  simp only [acknowledgeMaterializationEffect, leaseAttempt, generationToI64, bind_eq_ok,
    require_eq_ok, exists_const] at acknowledged
  obtain ⟨-, -, -, rest⟩ := acknowledged
  split at rest
  · exact .inl (pure_pair_eq_ok.mp rest)
  next marker selected =>
    obtain ⟨rfl, rfl⟩ := pure_pair_eq_ok.mp rest
    obtain ⟨found, named⟩ := Option.filter_eq_some_iff.mp selected
    refine .inr ⟨rfl, marker, found, named, ?_⟩
    simp [view, setEffect]

/-! ### Completions -/

theorem ensureReconciliationLease_ok {owner : String} {attempt : Nat}
    {expectedState : MaterializationState} {instanceGeneration : Nat}
    (ensured : ensureReconciliationLease session id owner attempt expectedState instanceId
      instanceGeneration target db = .ok row) :
    CompletableRow session (view db) id owner attempt row ∧ row.state = expectedState ∧
      row.instanceId = instanceId ∧ row.instanceGeneration = instanceGeneration ∧
      row.target = target := by
  simp only [ensureReconciliationLease, generationToI64, leaseAttempt, bind_eq_ok, require_eq_ok,
    orError_eq_ok, pure_eq_ok, exists_const, Option.filter_eq_some_iff, Bool.and_eq_true,
    decide_eq_true_eq] at ensured
  obtain ⟨-, _, ⟨found, ⟨⟨state, owned⟩, stamped⟩, targeted⟩, -, -, attempted, leased, resolved,
    rfl⟩ := ensured
  exact ⟨⟨⟨found, leased, attempted⟩, resolved⟩, state, owned, stamped, targeted⟩

theorem completeWake_ok {request : CompleteWakeReconciliationRequest}
    {result : InstanceRow × MaterializationRow} (keyed : (view db).Keyed)
    (completed : completeWakeReconciliation session request db = .ok (result, after)) :
    ∃ current row, WakeCompletable session (view db) request current row ∧
      view after =
        ((view db).advance request.complete.instanceId current .running).setWork
          request.materializationId
          (beforeUpdate session row
            (overwrittenRow row (completedRequest request.complete row.projectionGeneration))) := by
  simp only [completeWakeReconciliation, completeWakeInTransaction, validateLeaseOwner,
    generationToI64, bind_eq_ok, require_eq_ok, orError_eq_ok, pure_eq_ok, exists_const,
    Prod.exists, Prod.mk.injEq] at completed
  obtain ⟨-, row, ensured, current, found, expected, _, validated, -, moved, movement, _, final,
    recorded, -, rfl⟩ := completed
  obtain ⟨held, pending, owned, stamped, targeted⟩ := ensureReconciliationLease_ok ensured
  have movedView := view_updateInstance movement
  rw [← expected] at movedView
  have sameWork : (view moved).work = (view db).work := by rw [movedView]; rfl
  have movedKeyed := keyed.of_work sameWork
  have stored : (view moved).work request.materializationId = some row := by
    rw [sameWork]
    exact held.found
  have selected : findByTarget moved request.complete.instanceId request.complete.target =
      some (request.materializationId, row) := by
    rw [← owned, ← targeted]
    exact findByTarget_of_work movedKeyed stored
  have atId : materializationId request.complete.instanceId request.complete.target =
      request.materializationId := by
    rw [← owned, ← targeted]
    exact (keyed _ _ held.found).symm
  have projected : ((Option.filter (fun entry : MaterializationId × MaterializationRow =>
      decide (entry.2.state ≠ .deleted)) (some (request.materializationId, row))).map fun entry =>
        entry.2.projectionGeneration).getD (request.complete.expectedWakingGeneration + 1) =
      row.projectionGeneration := by
    simp [Option.filter, pending]
  rw [selected, projected] at recorded
  obtain ⟨recordable, -, viewed⟩ := view_upsertMaterialization movedKeyed recorded
  refine ⟨current, row, ⟨held, pending, owned, targeted, stamped, found,
    (source_of_transition validated).2.1 rfl, expected, ?_⟩, ?_⟩
  · refine (recordable row ?_).2.2
    rw [atId]
    exact stored
  · rw [viewed, record, recordedRow, atId, stored, movedView]
    simp only [completedRequest]
    rfl

theorem activateDeferredWake_ok {id : InstanceId} {result : Option InstanceRow}
    (keyed : (view db).Keyed) (cold : (view db).instances id = some current)
    (activated : activateDeferredWake session id db = .ok (result, after)) :
    ((view db).deferred id = none ∧ result = none ∧ after = db) ∨
      ∃ intent, (view db).deferred id = some intent ∧
        intent.instanceGeneration = current.generation + 1 ∧
        (view db).Recordable (activatedRequest id intent) ∧
        view after = (view db).activate session id current intent := by
  unfold activateDeferredWake at activated
  split at activated
  next absent =>
    cases activated
    exact .inl ⟨absent, rfl, rfl⟩
  next intent found =>
    simp only [bind_eq_ok, orError_eq_ok, pure_eq_ok, Prod.exists, Prod.mk.injEq,
      Option.filter_eq_some_iff, Bool.and_eq_true, decide_eq_true_eq] at activated
    obtain ⟨row, ⟨stored, -, next⟩, waking, movement, _, final, recorded, -, rfl⟩ := activated
    obtain rfl : row = current := Option.some.inj (stored.symm.trans cold)
    have movedView := view_updateInstance movement
    have erased : view { db with deferredWakes := db.deferredWakes.erase id } =
        (view db).setDeferred id none := by
      simp [view, setDeferred]
    rw [erased] at movedView
    have movedKeyed : (view waking).Keyed := keyed.of_work (by rw [movedView]; rfl)
    obtain ⟨recordable, -, viewed⟩ := view_upsertMaterialization movedKeyed recorded
    rw [movedView] at recordable viewed
    exact .inr ⟨intent, found, next.symm, recordable, viewed⟩

theorem finalizeSleep_ok {request : FinalizeSleepReconciliationRequest}
    {result : InstanceRow × Option MaterializationRow} (keyed : (view db).Keyed)
    (finalized : finalizeSleepReconciliation session request db = .ok (result, after)) :
    ∃ current row, SleepFinalizable session (view db) request current row ∧
      result.2 = some (beforeUpdate session row
        { deletedRow row with
          instanceGeneration := request.finalize.expectedDrainingGeneration + 1 }) ∧
      (((view db).deferred request.finalize.instanceId = none ∧
          view after = (view db).drain session request current row) ∨
        ∃ intent, (view db).deferred request.finalize.instanceId = some intent ∧
          intent.instanceGeneration = request.finalize.expectedDrainingGeneration + 2 ∧
          ((view db).drain session request current row).Recordable
            (activatedRequest request.finalize.instanceId intent) ∧
          view after = ((view db).drain session request current row).activate session
            request.finalize.instanceId current intent) := by
  simp only [finalizeSleepReconciliation, finalizeSleepInTransaction, validateLeaseOwner,
    generationToI64, bind_eq_ok, require_eq_ok, orError_eq_ok, exists_const] at finalized
  obtain ⟨-, positive, row, ensured, current, found, expected, _, validated, -, drained, movement,
    rest⟩ := finalized
  obtain ⟨held, deleting, owned, stamped, targeted⟩ := ensureReconciliationLease_ok ensured
  have finalizable : SleepFinalizable session (view db) request current row :=
    ⟨held, deleting, owned, targeted, by omega, found,
      (source_of_transition validated).2.2 rfl, expected⟩
  have movedView := view_updateInstance movement
  rw [← expected] at movedView
  have sameWork : (view drained).work = (view db).work := by rw [movedView]; rfl
  have movedKeyed := keyed.of_work sameWork
  have selected : findByTarget drained request.finalize.instanceId request.finalize.target =
      some (request.materializationId, row) := by
    rw [← owned, ← targeted]
    refine findByTarget_of_work movedKeyed ?_
    rw [sameWork]
    exact held.found
  rw [selected] at rest
  simp only [Option.filter, deleting, ne_eq, reduceCtorEq, not_false_eq_true, decide_true, ite_true,
    bind_eq_ok, pure_eq_ok, Prod.exists, Prod.mk.injEq] at rest
  obtain ⟨deleted, update, _, _, ⟨rfl, rfl⟩, _, _, activated, rfl, rfl⟩ := rest
  have drainedView : view deleted = (view db).drain session request current row := by
    rw [view_updateMaterialization update, movedView]
    rfl
  have drainedKeyed : (view deleted).Keyed := by
    have atId := keyed _ _ held.found
    rw [drainedView]
    exact State.Keyed.setWork keyed atId
  have cold : (view deleted).instances request.finalize.instanceId =
      some { current with state := .cold, generation := current.generation + 1 } := by
    rw [drainedView]
    exact Function.update_self ..
  refine ⟨current, row, finalizable, rfl, ?_⟩
  rcases activateDeferredWake_ok drainedKeyed cold activated with
    ⟨absent, -, rfl⟩ | ⟨intent, deferred, next, recordable, viewed⟩
  · rw [drainedView] at absent
    exact .inl ⟨absent, drainedView⟩
  · rw [drainedView] at deferred recordable viewed
    exact .inr ⟨intent, deferred, by rw [next, ← expected], recordable, viewed⟩

theorem deleteMaterialization_ok {request : DeleteMaterializationReconciliationRequest}
    {result : Option MaterializationRow}
    (deleted : deleteMaterializationReconciliation session request db = .ok (result, after)) :
    ∃ row, CompletableRow session (view db) request.materializationId request.leaseOwner
        request.attempt row ∧
      row.state = request.expectedState ∧ row.instanceId = request.instanceId ∧
      row.target = request.target ∧ row.instanceGeneration = request.instanceGeneration ∧
      view after = (view db).setWork request.materializationId
        (beforeUpdate session row (deletedRow row)) := by
  simp only [deleteMaterializationReconciliation, validateLeaseOwner, bind_eq_ok, require_eq_ok,
    pure_eq_ok, exists_const, Prod.mk.injEq] at deleted
  obtain ⟨-, row, ensured, _, update, -, rfl⟩ := deleted
  obtain ⟨held, expected, owned, stamped, targeted⟩ := ensureReconciliationLease_ok ensured
  exact ⟨row, held, expected, owned, targeted, stamped, view_updateMaterialization update⟩

/-! ### Failures and scheduling -/

theorem view_beginFailureCleanup {generation : Nat} {owner : InstanceRow}
    (cleaned : beginFailureCleanup session id generation row owner db = .ok after) :
    view after =
      ((view db).failWake generation row.instanceId owner).setWork id (cleanupRow session row) := by
  simp only [beginFailureCleanup, bind_eq_ok] at cleaned
  obtain ⟨deleting, update, rest⟩ := cleaned
  split at rest
  next waking =>
    rw [view_updateInstance rest, view_updateMaterialization update, failWake, if_pos waking]
    rfl
  next other =>
    simp only [pure_eq_ok] at rest
    rw [← rest, view_updateMaterialization update, failWake, if_neg other]
    rfl

theorem effects_of_uncertain {marker : Option EffectRow} {expired permanent : Bool}
    (uncertain : failureKindOf marker.isSome expired permanent = .uncertain) : marker ≠ none := by
  rintro rfl
  cases expired <;> cases permanent <;> cases uncertain

def recordedKind (session : Session) (request : RecordFailureRequest) (state : State)
    (row : MaterializationRow) : FailureKind :=
  failureKindOf (state.effects request.materializationId).isSome
    (decide (row.schedule.operationDeadline ≤ session.now)) request.permanent

def EndsWake (session : Session) (request : RecordFailureRequest) (state : State)
    (row : MaterializationRow) : Prop :=
  state.effects request.materializationId = none ∧
    (request.permanent = true ∨ row.schedule.operationDeadline ≤ session.now) ∧
    row.state = .pending

theorem recordFailure_exact {request : RecordFailureRequest}
    (recorded : recordFailure session request db = .ok (result, after)) :
    (result = false ∧ after = db ∧ ∀ row owner, (view db).instances row.instanceId = some owner →
        LeasedRow session (view db) request.materializationId request.owner request.attempt row →
        row.instanceGeneration = request.generation → row.state ≠ request.expectedState) ∨
      (result = true ∧ ∃ row owner,
        LeasedRow session (view db) request.materializationId request.owner request.attempt row ∧
        row.instanceGeneration = request.generation ∧ row.state = request.expectedState ∧
        (view db).instances row.instanceId = some owner ∧
        ((¬ EndsWake session request (view db) row ∧
            view after = (view db).setWork request.materializationId
              (beforeUpdate session row
                (failedRow session (nextFailureCount row.schedule.failureCount)
                  (recordedKind session request (view db) row) (boundedMessage request.message) false
                  row))) ∨
          (EndsWake session request (view db) row ∧ view after =
            ((view db).failWake request.generation row.instanceId owner).setWork
              request.materializationId
              (beforeUpdate session (cleanupRow session row)
                (failedRow session (nextFailureCount row.schedule.failureCount)
                  (recordedKind session request (view db) row) (boundedMessage request.message) true
                  (cleanupRow session row)))))) := by
  simp only [recordFailure, generationToI64, bind_eq_ok, require_eq_ok, exists_const] at recorded
  obtain ⟨-, -, rest⟩ := recorded
  split at rest
  next missing =>
    obtain ⟨rfl, rfl⟩ := pure_pair_eq_ok.mp rest
    refine .inl ⟨rfl, rfl, fun row owner ownerFound held => ?_⟩
    have found : after.materializations.find? request.materializationId = some row := held.found
    have present : after.instances.find? row.instanceId = some owner := ownerFound
    simp [found, present] at missing
  next joined =>
    obtain ⟨row, found, paired⟩ := Option.bind_eq_some_iff.mp joined
    obtain ⟨owner, ownerFound, rowEq⟩ := Option.map_eq_some_iff.mp paired
    obtain ⟨rfl, rfl⟩ := Prod.mk.inj rowEq
    have ends : (!(db.effects.find? request.materializationId).isSome &&
        (request.permanent || decide (row.schedule.operationDeadline ≤ session.now)) &&
        decide (row.state = .pending)) = true ↔ EndsWake session request (view db) row := by
      simp [EndsWake, view, and_assoc]
    split at rest
    next held =>
      obtain ⟨leased, attempted, stamped, expected⟩ := held
      refine .inr ?_
      split at rest
      next cleanup =>
        simp only [bind_eq_ok, orError_eq_ok, pure_eq_ok, Prod.mk.injEq] at rest
        obtain ⟨started, cleaned, current, currentFound, _, update, rfl, rfl⟩ := rest
        have startedView := view_beginFailureCleanup cleaned
        have currentEq : current = cleanupRow session row := by
          have stored : (view started).work request.materializationId = some current := currentFound
          rw [startedView, setWork_work, Function.update_self] at stored
          exact (Option.some.inj stored).symm
        subst currentEq
        rw [cleanup] at update
        have viewed := view_updateMaterialization update
        rw [startedView, setWork_setWork] at viewed
        exact ⟨rfl, row, owner, ⟨found, leased, attempted⟩, stamped, expected, ownerFound,
          .inr ⟨ends.mp cleanup, viewed⟩⟩
      next kept =>
        simp only [bind_eq_ok, orError_eq_ok, pure_eq_ok, exists_eq_left', Prod.mk.injEq] at rest
        obtain ⟨current, currentFound, _, update, rfl, rfl⟩ := rest
        obtain rfl : row = current := Option.some.inj (found.symm.trans currentFound)
        rw [Bool.eq_false_iff.mpr kept] at update
        exact ⟨rfl, row, owner, ⟨found, leased, attempted⟩, stamped, expected, ownerFound,
          .inl ⟨mt ends.mpr kept, view_updateMaterialization update⟩⟩
    next unheld =>
      obtain ⟨rfl, rfl⟩ := pure_pair_eq_ok.mp rest
      refine .inl ⟨rfl, rfl, fun other _ _ held stamped expected => unheld ?_⟩
      obtain rfl : row = other := Option.some.inj (found.symm.trans held.found)
      exact ⟨held.leased, held.attempt_eq, stamped, expected⟩

theorem recordFailure_ok {request : RecordFailureRequest}
    (recorded : recordFailure session request db = .ok (result, after)) :
    (result = false ∧ after = db) ∨
      (result = true ∧ ∃ row owner,
        LeasedRow session (view db) request.materializationId request.owner request.attempt row ∧
        row.instanceGeneration = request.generation ∧ row.state = request.expectedState ∧
        (view db).instances row.instanceId = some owner ∧
        ((∃ kind count message,
            (kind = .uncertain → (view db).effects request.materializationId ≠ none) ∧
            view after = (view db).setWork request.materializationId
              (beforeUpdate session row (failedRow session count kind message false row))) ∨
          ((view db).effects request.materializationId = none ∧ row.state = .pending ∧
            ∃ kind count message, kind ≠ .uncertain ∧ view after =
              ((view db).failWake request.generation row.instanceId owner).setWork
                request.materializationId
                (beforeUpdate session (cleanupRow session row)
                  (failedRow session count kind message true (cleanupRow session row)))))) := by
  rcases recordFailure_exact recorded with ⟨refused, same, -⟩ | ⟨accepted, row, owner, held, stamped,
    expected, ownerFound, ⟨-, viewed⟩ | ⟨ends, viewed⟩⟩
  · exact .inl ⟨refused, same⟩
  · exact .inr ⟨accepted, row, owner, held, stamped, expected, ownerFound,
      .inl ⟨_, _, _, effects_of_uncertain, viewed⟩⟩
  · exact .inr ⟨accepted, row, owner, held, stamped, expected, ownerFound,
      .inr ⟨ends.1, ends.2.2, _, _, _, fun uncertain => effects_of_uncertain uncertain ends.1,
        viewed⟩⟩

theorem enqueue_ok (enqueued : enqueueMaterialization session id db = .ok (result, after)) :
    (result = false ∧ after = db) ∨
      (result = true ∧ ∃ row, (view db).work id = some row ∧
        (row.state.isWork = true ∨ row.state = .failed) ∧ row.unleased session.now = true ∧
        (view db).effects id = none ∧
        view after = (view db).setWork id
          (beforeUpdate session row
            { row with
              state := if row.state = .failed then .deleting else row.state
              schedule :=
                { row.schedule with
                  failureKind := none
                  failureMessage := ""
                  failureCount := 0
                  operationDeadline := max row.schedule.drainNotBefore session.now +
                    session.operationTimeoutMillis
                  nextAttemptAt := max row.schedule.drainNotBefore session.now } })) := by
  unfold enqueueMaterialization at enqueued
  split at enqueued
  · cases enqueued
    exact .inl ⟨rfl, rfl⟩
  next row selected =>
    simp only [bind_eq_ok, pure_eq_ok, Prod.mk.injEq] at enqueued
    obtain ⟨_, update, rfl, rfl⟩ := enqueued
    obtain ⟨found, condition⟩ := Option.filter_eq_some_iff.mp selected
    simp only [Bool.and_eq_true, Bool.or_eq_true, decide_eq_true_eq,
      Option.isNone_iff_eq_none] at condition
    exact .inr ⟨rfl, row, found, condition.1.1, condition.1.2, condition.2,
      view_updateMaterialization update⟩

theorem forceDelete_ok {request : ForceDeleteRequest} {result : Option MaterializationRow}
    (forced : forceDeleteMaterialization session request db = .ok (result, after)) :
    ((view db).work request.materializationId = none ∧ after = db) ∨
      ∃ row, (view db).work request.materializationId = some row ∧
        view after = ((view db).setEffect request.materializationId none).setWork
          request.materializationId (beforeUpdate session row (deletedRow row)) := by
  simp only [forceDeleteMaterialization, validateOperatorAudit, bind_eq_ok, require_eq_ok,
    exists_const] at forced
  obtain ⟨-, rest⟩ := forced
  split at rest
  next absent =>
    exact .inl ⟨absent, (pure_pair_eq_ok.mp rest).2⟩
  next row found =>
    simp only [bind_eq_ok, pure_eq_ok, Prod.mk.injEq] at rest
    obtain ⟨_, update, -, rfl⟩ := rest
    refine .inr ⟨row, found, ?_⟩
    rw [view_updateMaterialization update]
    simp [view, setEffect]

theorem forceReleaseKey_ok {request : ForceReleaseKeyRequest} {result : List MaterializationRow}
    (forced : forceReleaseExclusivityKey session request db = .ok (result, after)) :
    ∃ rewrite : MaterializationId → MaterializationRow → MaterializationRow,
      (∀ id row, rewrite id row = row ∨
        ∃ keys, rewrite id row = beforeUpdate session row { row with exclusivityKeys := keys }) ∧
      view after = (view db).mapWork rewrite := by
  simp only [forceReleaseExclusivityKey, validateOperatorAudit, bind_eq_ok, require_eq_ok,
    pure_eq_ok, exists_const, Prod.mk.injEq] at forced
  obtain ⟨-, -, _, update, -, rfl⟩ := forced
  refine ⟨_, fun id row => ?_, view_updateMaterializations update⟩
  split
  · exact .inr ⟨_, rfl⟩
  · exact .inl rfl

/-! ### The refinement -/

theorem commit_refines {op : Op} (keyed : (view db).Keyed)
    (committed : commit session op db = .ok after) :
    Step session op (view db) (view after) := by
  cases op
  case expireRecords =>
    simp only [commit, Store.expireRecords, bind_eq_ok, require_eq_ok, pure_eq_ok,
      exists_const] at committed
    obtain ⟨-, rfl⟩ := committed
    exact .unchanged _ _
  case pruneOutbox =>
    cases committed
    exact .unchanged _ _
  all_goals obtain ⟨_, run⟩ := map_snd_eq_ok.mp committed
  case createInstance =>
    rcases createInstance_ok run with ⟨-, viewed⟩ | ⟨-, -, absent, cold, fresh, viewed⟩ <;>
      rw [viewed]
    · exact .unchanged _ _
    · exact .created absent cold fresh
  case deleteInstance =>
    rcases deleteInstance_ok run with rfl | step
    · exact .unchanged _ _
    · exact step
  case createRouteBinding =>
    rw [view_createRouteBinding run]
    exact .unchanged _ _
  case deleteRouteBinding =>
    simp only [deleteRouteBinding, bind_eq_ok, pure_eq_ok, Prod.mk.injEq] at run
    obtain ⟨_, deletion, -, rfl⟩ := run
    obtain ⟨_, rfl⟩ := deleteRouteBindings_ok deletion
    exact .unchanged _ _
  case acceptWake =>
    rcases acceptWake_ok keyed run with viewed | ⟨current, accepted, found, expected, prepared,
      backend, ⟨draining, absent, -, viewed⟩ | ⟨settled, idle, recordable, viewed⟩⟩ <;> rw [viewed]
    · exact .unchanged _ _
    · exact .wakeDeferred found draining expected prepared backend absent
    · exact .wakeStarted found settled expected idle prepared backend recordable
  case beginSleep =>
    obtain ⟨current, found, running, expected, ⟨unaged, -, viewed⟩ | ⟨work, row, foundRow, owned,
      targeted, live, stamped, ready, viewed⟩⟩ := beginSleep_ok keyed run <;> rw [viewed]
    · exact .sleepBegunWithoutWork found running expected unaged
    · refine .sleepBegun found running expected foundRow owned targeted live stamped ?_
      intro automatic
      obtain ⟨age, aged⟩ := Option.ne_none_iff_exists'.mp automatic
      exact (ready age aged).1
  case requestInstanceDeletion =>
    rcases requestInstanceDeletion_ok run with ⟨-, rfl⟩ | ⟨-, row, found, expected, viewed⟩
    · exact .unchanged _ _
    · rw [viewed]
      exact .deletionAccepted found expected
  case finalizeInstanceDeletions =>
    exact finalizeInstanceDeletions_ok run
  case claim =>
    rcases claim_ok run with ⟨-, rfl⟩ | ⟨row, ttl, found, claimable, resolved, -, viewed⟩
    · exact .unchanged _ _
    · rw [viewed]
      exact .claimed found claimable resolved
  case renewLease =>
    rcases renewLease_ok run with
      ⟨-, rfl⟩ | ⟨-, row, lease, held, stamped, worked, expected, sameOwner, viewed⟩
    · exact .unchanged _ _
    · rw [viewed]
      exact .renewed held stamped worked expected sameOwner
  case releaseLease =>
    rcases releaseLease_ok run with ⟨-, rfl⟩ | ⟨-, row, held, stamped, worked, viewed⟩
    · exact .unchanged _ _
    · rw [viewed]
      exact .released held stamped worked
  case beginEffect =>
    rcases beginEffect_ok run with ⟨rfl, -⟩ | ⟨-, row, held, stamped, expected, viewed⟩
    · exact .unchanged _ _
    · rw [viewed]
      exact .effectBegun held stamped expected
  case acknowledgeEffect =>
    rcases acknowledgeEffect_ok run with ⟨-, rfl⟩ | ⟨-, marker, found, named, viewed⟩
    · exact .unchanged _ _
    · rw [viewed]
      exact .effectAcknowledged found named
  case completeWake =>
    obtain ⟨current, row, completable, viewed⟩ := completeWake_ok keyed run
    rw [viewed]
    exact .wakeCompleted completable
  case finalizeSleep =>
    obtain ⟨current, row, finalizable, -, ⟨undeferred, viewed⟩ | ⟨intent, deferred, next,
      recordable, viewed⟩⟩ := finalizeSleep_ok keyed run <;> rw [viewed]
    · exact .sleepFinalized finalizable undeferred
    · exact .deferredWakeActivated finalizable deferred next recordable
  case deleteMaterialization =>
    obtain ⟨row, held, expected, owned, targeted, stamped, viewed⟩ := deleteMaterialization_ok run
    rw [viewed]
    exact .workDeleted held expected owned targeted stamped
  case recordFailure =>
    rcases recordFailure_ok run with ⟨-, rfl⟩ | ⟨-, row, owner, held, stamped, expected, found,
      ⟨kind, count, message, -, viewed⟩ | ⟨resolved, pending, kind, count, message, -, viewed⟩⟩
    · exact .unchanged _ _
    · rw [viewed]
      exact .failureRecorded held stamped expected
    · rw [viewed]
      exact .wakeFailed ⟨held, resolved⟩ stamped expected pending found
  case enqueue =>
    rcases enqueue_ok run with
      ⟨-, rfl⟩ | ⟨-, row, found, schedulable, unleased, resolved, viewed⟩
    · exact .unchanged _ _
    · rw [viewed]
      exact .enqueued found schedulable unleased resolved
  case forceDelete =>
    rcases forceDelete_ok run with ⟨-, rfl⟩ | ⟨row, found, viewed⟩
    · exact .unchanged _ _
    · rw [viewed]
      exact .forceDeleted found
  case forceReleaseKey =>
    obtain ⟨rewrite, keysOnly, viewed⟩ := forceReleaseKey_ok run
    rw [viewed]
    refine .keyForceReleased fun id row => ?_
    rcases keysOnly id row with same | ⟨keys, rewritten⟩
    · exact ⟨row.exclusivityKeys, row.schedule, same⟩
    · exact ⟨keys, _, rewritten⟩

end Sleepypods.Lifecycle
