import Sleepypods.Lifecycle.Evolution

/-! The generations that a wake hands out: projections, which number the incarnations of an
instance, and backend generations, which number its backends. -/

set_option autoImplicit false

namespace Sleepypods.Lifecycle

open Library Store

/-! ### Projections of accepted wakes -/

/-- How far above its generation an instance may have handed out a projection. A drain that has a
deferred wake skips a generation, and a deletion forgets the deferred wake. -/
def reserved (deferred : Option DeferredWakeIntent) : InstanceState → Nat
  | .deleting => 2
  | .draining => if deferred.isSome then 3 else 1
  | _ => 1

theorem one_le_reserved (deferred : Option DeferredWakeIntent) (state : InstanceState) :
    1 ≤ reserved deferred state := by
  unfold reserved
  split
  · decide
  · split <;> decide
  · decide

theorem reserved_le_three (deferred : Option DeferredWakeIntent) (state : InstanceState) :
    reserved deferred state ≤ 3 := by
  unfold reserved
  split
  · decide
  · split <;> decide
  · decide

theorem reserved_eq_one {deferred : Option DeferredWakeIntent} {state : InstanceState}
    (live : state ≠ .deleting) (undeferred : state = .draining → deferred = none) :
    reserved deferred state = 1 := by
  cases state with
  | draining => rw [undeferred rfl]; rfl
  | deleting => exact absurd rfl live
  | cold | waking | running | failed | deleted => rfl

theorem reserved_congr {first second : Option DeferredWakeIntent} {state : InstanceState}
    (same : state = .draining → first = second) : reserved first state = reserved second state := by
  cases state with
  | draining => rw [same rfl]
  | cold | waking | running | failed | deleting | deleted => rfl

structure ProjectionBound (state : State) (id : InstanceId) (projection : Nat) : Prop where
  present : ∀ row, state.instances id = some row →
    projection ≤ row.generation + reserved (state.deferred id) row.state
  absent : state.instances id = none →
    ∃ watermark, state.watermarks id = some watermark ∧ projection ≤ watermark.lastGeneration + 2

variable {state : State} {id : InstanceId} {projection : Nat}

theorem ProjectionBound.of_some {row : InstanceRow} (stored : state.instances id = some row)
    (bound : projection ≤ row.generation + reserved (state.deferred id) row.state) :
    ProjectionBound state id projection where
  present := by
    intro other otherStored
    cases stored.symm.trans otherStored
    exact bound
  absent := fun none => by cases none.symm.trans stored

variable {session : Session} {op : Op} {next : State}

theorem Step.projectionBound (step : Step session op state next) (wf : WellFormed state)
    (bound : ProjectionBound state id projection) :
    ProjectionBound next id projection := by
  cases step.moves id with
  | kept instances watermarks deferred =>
    refine ⟨fun row stored => ?_, fun none => ?_⟩
    · rw [instances] at stored
      rw [reserved_congr (deferred row stored)]
      exact bound.present row stored
    · rw [watermarks]
      exact bound.absent (instances ▸ none)
  | deferred found draining absent stored instances =>
    have before := bound.present _ found
    rw [draining, absent] at before
    refine .of_some (instances.trans found) ?_
    rw [draining, stored]
    exact before.trans (Nat.add_le_add_left (Nat.le_of_ble_eq_true rfl) _)
  | created absent cold fresh stored =>
    obtain ⟨watermark, found, before⟩ := bound.absent absent
    rw [found] at fresh
    refine .of_some stored ?_
    rw [cold, fresh]
    have above : watermark.lastGeneration + 1 ≤ insertedGeneration 0 (some watermark) :=
      Nat.le_max_right ..
    exact before.trans (Nat.succ_le_succ above)
  | removed found deleting gone watermarks =>
    have before := bound.present _ found
    obtain ⟨watermark, watermarkFound, last⟩ := wf.watermarked found
    rw [deleting, ← last] at before
    refine ⟨fun row stored => ?_, fun _ => ⟨watermark, watermarks.trans watermarkFound, before⟩⟩
    cases gone.symm.trans stored
  | advanced found live undeferred stored =>
    rename_i row later
    have before := bound.present _ found
    refine .of_some stored ?_
    by_cases deleting : later = .deleting
    · have atMost := reserved_le_three (state.deferred id) row.state
      subst deleting
      simp only [reserved]
      omega
    · rw [reserved_eq_one live (undeferred deleting)] at before
      have atLeast := one_le_reserved (next.deferred id) later
      simp only
      omega
  | activated found draining stored =>
    rename_i row
    have before := bound.present _ found
    have atMost := reserved_le_three (state.deferred id) row.state
    refine .of_some stored ?_
    simp only [reserved]
    omega

/-- A step that accepted a wake, and the projection and backend generation it handed out. -/
inductive WakeAccepted (request : AcceptWakeRequest) (state next : State) : Nat → Nat → Prop where
  | started {owner later : InstanceRow} {row : MaterializationRow}
      (found : state.instances request.pending.instanceId = some owner)
      (asleep : owner.state ≠ .waking)
      (stored : next.instances request.pending.instanceId = some later)
      (waking : later.state = .waking)
      (recorded : next.work
        (materializationId request.pending.instanceId request.pending.target) = some row) :
      WakeAccepted request state next row.projectionGeneration row.backendGeneration
  | deferred {intent : DeferredWakeIntent}
      (absent : state.deferred request.pending.instanceId = none)
      (stored : next.deferred request.pending.instanceId = some intent) :
      WakeAccepted request state next intent.projectionGeneration intent.backendGeneration

structure AcceptedOn (request : AcceptWakeRequest) (state next : State)
    (projection backend : Nat) (current : InstanceRow) : Prop where
  found : state.instances request.pending.instanceId = some current
  live : current.state ≠ .deleting
  undeferred : current.state = .draining → state.deferred request.pending.instanceId = none
  generation_eq : request.pending.instanceGeneration = expectedWaking current
  projection_eq : projection = expectedWaking current + 1
  backend : BackendAccepted state request.pending backend
  bound : ProjectionBound next request.pending.instanceId projection

theorem Step.acceptedOn {request : AcceptWakeRequest}
    (step : Step session (.acceptWake request) state next) {backend : Nat}
    (accepted : WakeAccepted request state next projection backend) :
    ∃ current, AcceptedOn request state next projection backend current := by
  cases accepted with
  | started found asleep stored waking recorded =>
    cases step with
    | unchanged | wakeDeferred =>
      cases found.symm.trans stored
      exact absurd waking asleep
    | removed =>
      rw [State.remove_instances] at stored
      split at stored
      · cases stored
      · cases found.symm.trans stored
        exact absurd waking asleep
    | wakeStarted present settled expected idle prepared backend recordable =>
      rename_i current accepted
      cases (State.work_record_self _ session
        { request.pending with backendGeneration := accepted }).symm.trans recorded
      refine ⟨current, present, ne_of_settled settled (by decide),
        fun draining => absurd draining (ne_of_settled settled (by decide)),
        prepared.generation_eq, ?_, ?_, ?_⟩
      · rw [State.recordedRow_projectionGeneration]
        exact prepared.projection_eq
      · rw [State.recordedRow_backendGeneration]
        exact backend
      · refine .of_some (State.instances_advance_self rfl) ?_
        rw [State.recordedRow_projectionGeneration]
        exact (prepared.of_settled settled).2.le
  | deferred absent stored =>
    cases step with
    | unchanged | wakeStarted => cases absent.symm.trans stored
    | removed =>
      rw [State.remove_deferred, absent, ite_self] at stored
      cases stored
    | wakeDeferred found draining expected prepared backend =>
      rename_i current accepted none
      cases (Function.update_self ..).symm.trans stored
      refine ⟨current, found, draining.symm ▸ (by decide), fun _ => absent,
        prepared.generation_eq, prepared.projection_eq, backend, ?_⟩
      refine .of_some found ?_
      rw [draining, stored]
      exact (prepared.of_draining draining).2.le

variable {row : MaterializationRow}

theorem Step.projectionKept (step : Step session op state next) (wf : WellFormed state)
    {work : MaterializationId} {after : MaterializationRow} (stored : state.work work = some row)
    (live : row.state ≠ .deleted) (later : next.work work = some after) :
    after.projectionGeneration = row.projectionGeneration ∨
      ∃ request, op = .finalizeSleep request ∧ request.materializationId = work := by
  cases step.workOrigin later with
  | kept found =>
    cases stored.symm.trans found
    exact .inl rfl
  | evolved found _ _ _ projection =>
    cases stored.symm.trans found
    exact .inl projection
  | completed _ named completable written =>
    subst named written
    cases stored.symm.trans completable.found
    exact .inl rfl
  | finalized named finalizable written =>
    subst named written
    cases stored.symm.trans finalizable.found
    exact .inl rfl
  | started _ _ _ idle => exact absurd (idle row stored) live
  | activated called finalizable _ _ named =>
    -- The drained row was the one live row of its instance.
    subst named
    have owned := materializationId_instance (wf.keyed _ _ stored)
    refine .inr ⟨_, called, wf.liveUnique finalizable.found stored (finalizable.owned.trans owned)
      ?_ live⟩
    rw [finalizable.deleting]
    decide

/-! ### Backend generations -/

/-- A backend is numbered with the generation its wake started at. -/
def BackendFollows (row : MaterializationRow) : Prop :=
  match row.state with
  | .pending => row.backendGeneration = row.instanceGeneration
  | .ready => row.backendGeneration + 1 = row.instanceGeneration
  | _ => row.backendGeneration ≤ row.instanceGeneration

theorem BackendFollows.le (follows : BackendFollows row) :
    row.backendGeneration ≤ row.instanceGeneration := by
  unfold BackendFollows at follows
  split at follows <;> omega

theorem backendFollows_of_le (ending : row.state = .deleting ∨ row.state = .deleted)
    (bounded : row.backendGeneration ≤ row.instanceGeneration) : BackendFollows row := by
  unfold BackendFollows
  rcases ending with deleting | deleted
  · rwa [deleting]
  · rwa [deleted]

theorem BackendFollows.congr {new : MaterializationRow} (follows : BackendFollows row)
    (sameState : new.state = row.state)
    (sameGeneration : new.instanceGeneration = row.instanceGeneration)
    (sameBackend : new.backendGeneration = row.backendGeneration) : BackendFollows new := by
  unfold BackendFollows at follows ⊢
  rwa [sameState, sameGeneration, sameBackend]

structure BackendsFollow (state : State) : Prop where
  rows : ∀ {id : MaterializationId} {row : MaterializationRow}, state.work id = some row →
    BackendFollows row
  intents : ∀ {id : InstanceId} {intent : DeferredWakeIntent}, state.deferred id = some intent →
    intent.backendGeneration = intent.instanceGeneration

theorem backendsFollow_empty : BackendsFollow (view .empty) where
  rows := fun found => by cases found
  intents := fun found => by cases found

namespace BackendsFollow

variable {state : State}

/-- A wake that asks for its own generation gets it: no earlier backend of the target is that
high. -/
theorem accepted_eq (follow : BackendsFollow state) (wf : WellFormed state)
    {pending : RecordMaterializationRequest} {current : InstanceRow} {accepted : Nat}
    (found : state.instances pending.instanceId = some current)
    (above : current.generation < pending.instanceGeneration)
    (own : pending.backendGeneration = pending.instanceGeneration)
    (backend : BackendAccepted state pending accepted) : accepted = pending.instanceGeneration := by
  rcases backend.least with requested | ⟨work, old, stored, owned, -, next⟩
  · exact requested.trans own
  · obtain ⟨owner, ownerFound, reached⟩ := wf.owned stored
    rw [owned] at ownerFound
    cases found.symm.trans ownerFound
    have bounded := (follow.rows stored).le
    have requested := backend.requested_le
    omega

end BackendsFollow

theorem Step.backendsFollow (step : Step session op state next) (wf : WellFormed state)
    (follow : BackendsFollow state)
    (wakes : ∀ request, op = .acceptWake request →
      request.pending.backendGeneration = request.pending.instanceGeneration)
    (completes : ∀ request, op = .completeWake request →
      request.complete.backendGeneration = request.complete.expectedWakingGeneration) :
    BackendsFollow next := by
  have everywhere := step.everywhere ⟨follow.rows, follow.intents⟩
    { touched := fun follows sameState sameGeneration _ sameBackend =>
        follows.congr sameState sameGeneration sameBackend
      ended := fun follows ending grown same =>
        backendFollows_of_le ending (same ▸ follows.le.trans grown)
      accepted := fun {request} _ _ accepts found prepared backend =>
        follow.accepted_eq wf found prepared.generation_lt (wakes request accepts) backend
      recorded := by
        intro intent row same pending generation _ backend
        unfold BackendFollows
        rw [pending, generation, backend]
        exact same
      completed := fun {request} _ _ completed _ _ => congrArg Nat.succ (completes request completed) }
  exact ⟨everywhere.rows, everywhere.intents⟩

end Sleepypods.Lifecycle
