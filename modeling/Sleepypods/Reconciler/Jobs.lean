import Sleepypods.Lifecycle.Agreement

/-! The reconciler's jobs. A job holds the record its claim returned, reads the instance at some
later time, decides on what it read, and acts at some later time still; everything else may
happen in between. -/

set_option autoImplicit false

namespace Sleepypods.Reconciler

open Library Store Lifecycle

inductive Decision where
  | completeWake
  | markDeleted
  | finalizeSleep (draining : Nat)
  | nothing
  deriving DecidableEq

/-- `reconcile_pending`, after its read of the instance. -/
def reconcilePending (record : MaterializationRow) : Option InstanceRow → Decision
  | none => .markDeleted
  | some found =>
    if found.generation ≠ record.instanceGeneration ∨
        (found.state = .deleting ∨ found.state = .deleted) then .markDeleted
    else if found.state ≠ .waking then .nothing
    else .completeWake

/-- `reconcile_deleting`, after its read of the instance. -/
def reconcileDeleting (record : MaterializationRow) : Option InstanceRow → Decision
  | none => .markDeleted
  | some found =>
    if found.state ≠ .draining ∨ found.generation ≠ record.instanceGeneration + 1 then
      .markDeleted
    else .finalizeSleep found.generation

def reconcile (record : MaterializationRow) (found : Option InstanceRow) : Decision :=
  match record.state with
  | .pending => reconcilePending record found
  | .deleting => reconcileDeleting record found
  | _ => .nothing

structure Job where
  id : MaterializationId
  owner : String
  record : MaterializationRow
  /-- What the job read of its instance, once it has read it. -/
  snapshot : Option (Option InstanceRow)

namespace Job

def completeWakeRequest (job : Job) (backend : BackendEndpoint) :
    CompleteWakeReconciliationRequest where
  materializationId := job.id
  leaseOwner := job.owner
  attempt := job.record.reconcileAttempt
  complete :=
    { instanceId := job.record.instanceId
      expectedWakingGeneration := job.record.instanceGeneration
      target := job.record.target
      backend := backend
      backendGeneration := job.record.backendGeneration
      renderedObjects := job.record.renderedObjects
      exclusivityKeys := job.record.exclusivityKeys }

def finalizeSleepRequest (job : Job) (draining : Nat) : FinalizeSleepReconciliationRequest where
  materializationId := job.id
  leaseOwner := job.owner
  attempt := job.record.reconcileAttempt
  finalize :=
    { instanceId := job.record.instanceId
      expectedDrainingGeneration := draining
      target := job.record.target }

def markDeletedRequest (job : Job) : DeleteMaterializationReconciliationRequest where
  materializationId := job.id
  leaseOwner := job.owner
  expectedState := job.record.state
  instanceId := job.record.instanceId
  instanceGeneration := job.record.instanceGeneration
  target := job.record.target
  attempt := job.record.reconcileAttempt

def act (job : Job) (found : Option InstanceRow) (backend : BackendEndpoint) : Option Op :=
  match reconcile job.record found with
  | .completeWake => some (.completeWake (job.completeWakeRequest backend))
  | .finalizeSleep draining => some (.finalizeSleep (job.finalizeSleepRequest draining))
  | .markDeleted => some (.deleteMaterialization job.markDeletedRequest)
  | .nothing => none

end Job

/-! ### The system -/

structure Jobs where
  db : Database
  jobs : List Job

def Jobs.fresh : Jobs := { db := .empty, jobs := [] }

def isJobOp : Op → Bool
  | .completeWake _ => true
  | .finalizeSleep _ => true
  | .deleteMaterialization _ => true
  | _ => false

/-- Automatic sleep always passes a minimum ready age. -/
def isManualSleep : Op → Bool
  | .beginSleep request => request.minimumReadyAge.isNone
  | _ => false

/-- A step is labelled with the operation it commits, when it commits one. -/
inductive JobStep : Option (Session × Op) → Jobs → Jobs → Prop where
  | stored {system : Jobs} {session : Session} {op : Op} {after : Database}
      (unforced : op.isForce = false) (other : isJobOp op = false)
      (automatic : isManualSleep op = false)
      (committed : commit session op system.db = .ok after) :
      JobStep (some (session, op)) system { system with db := after }
  | claimed {system : Jobs} {session : Session} {request : ClaimRequest}
      {record : MaterializationRow} {after : Database}
      (returned : claimMaterializationReconciliation session request system.db =
        .ok (some record, after)) :
      JobStep (some (session, .claim request)) system
        { db := after
          jobs :=
            { id := request.materializationId, owner := request.owner, record := record,
              snapshot := none } :: system.jobs }
  | read {system : Jobs} {job : Job} (member : job ∈ system.jobs) :
      JobStep none system
        { system with
          jobs :=
            { job with snapshot := some (system.db.instances.find? job.record.instanceId) } ::
              system.jobs }
  | acted {system : Jobs} {session : Session} {job : Job} {found : Option InstanceRow}
      {backend : BackendEndpoint} {op : Op} {after : Database}
      (member : job ∈ system.jobs) (seen : job.snapshot = some found)
      (decided : job.act found backend = some op)
      (committed : commit session op system.db = .ok after) :
      JobStep (some (session, op)) system { system with db := after }

def jobSystem : TransitionSystem Jobs (Option (Session × Op)) where
  initial system := system = .fresh
  step := JobStep

variable {job : Job} {found : Option InstanceRow}

section

variable {backend : BackendEndpoint}

theorem Job.act_eq {op : Op} (decided : job.act found backend = some op) :
    (reconcile job.record found = .completeWake ∧
        op = .completeWake (job.completeWakeRequest backend)) ∨
      (∃ draining, reconcile job.record found = .finalizeSleep draining ∧
        op = .finalizeSleep (job.finalizeSleepRequest draining)) ∨
      (reconcile job.record found = .markDeleted ∧
        op = .deleteMaterialization job.markDeletedRequest) := by
  unfold Job.act at decided
  split at decided
  next decision => exact .inl ⟨decision, (Option.some.inj decided).symm⟩
  next draining decision =>
    exact .inr (.inl ⟨draining, decision, (Option.some.inj decided).symm⟩)
  next decision => exact .inr (.inr ⟨decision, (Option.some.inj decided).symm⟩)
  · cases decided

end

theorem pending_of_completeWake {record : MaterializationRow}
    (decided : reconcile record found = .completeWake) : record.state = .pending := by
  unfold reconcile at decided
  split at decided
  next pending => exact pending
  · unfold reconcileDeleting at decided
    split at decided
    · cases decided
    · split at decided <;> cases decided
  · cases decided

/-! ### What a job may still rely on -/

/-- The generation its instance has at least reached when a record was claimed. -/
def Job.floor (job : Job) : Nat :=
  if job.record.state = .deleting then job.record.instanceGeneration + 1
  else job.record.instanceGeneration

/-- A job's record and snapshot against the present state. The snapshot may be outdated, but
generations never recur: an instance that still has the generation the job saw is still in the
state the job saw. -/
structure Job.Sound (job : Job) (state : State) : Prop where
  keyed : job.id = materializationId job.record.instanceId job.record.target
  reached : ∃ watermark, state.watermarks job.record.instanceId = some watermark ∧
    job.floor ≤ watermark.lastGeneration
  absent : job.snapshot = some none → ∀ owner,
    state.instances job.record.instanceId = some owner → job.floor < owner.generation
  atLeast : ∀ seen, job.snapshot = some (some seen) → job.floor ≤ seen.generation
  seen : ∀ seen, job.snapshot = some (some seen) →
    ∃ watermark, state.watermarks job.record.instanceId = some watermark ∧
      seen.generation ≤ watermark.lastGeneration
  current : ∀ seen owner, job.snapshot = some (some seen) →
    state.instances job.record.instanceId = some owner → owner.generation = seen.generation →
    owner.state = seen.state

variable {state : State}

theorem Job.Sound.step {session : Session} {op : Op} {next : State} (sound : job.Sound state)
    (wf : WellFormed state) (step : Step session op state next) : job.Sound next where
  keyed := sound.keyed
  reached := by
    obtain ⟨watermark, found, reached⟩ := sound.reached
    obtain ⟨later, laterFound, grown⟩ := step.grows _ _ found
    exact ⟨later, laterFound, reached.trans grown⟩
  absent := by
    intro none owner found
    rcases step.instanceEvolves wf found with ⟨before, beforeFound, -, same⟩ | above
    · exact same ▸ sound.absent none before beforeFound
    · obtain ⟨watermark, watermarkFound, reached⟩ := sound.reached
      exact Nat.lt_of_le_of_lt reached (above watermark watermarkFound)
  atLeast := sound.atLeast
  seen := by
    intro seen snapshot
    obtain ⟨watermark, found, reached⟩ := sound.seen seen snapshot
    obtain ⟨later, laterFound, grown⟩ := step.grows _ _ found
    exact ⟨later, laterFound, reached.trans grown⟩
  current := by
    intro seen owner snapshot found same
    rcases step.instanceEvolves wf found with ⟨before, beforeFound, sameState, kept⟩ | above
    · exact sameState.trans (sound.current seen before snapshot beforeFound (kept.symm.trans same))
    · obtain ⟨watermark, watermarkFound, reached⟩ := sound.seen seen snapshot
      have later := above watermark watermarkFound
      omega

theorem Job.Sound.read (sound : job.Sound state) (wf : WellFormed state) :
    ({ job with snapshot := some (state.instances job.record.instanceId) } : Job).Sound state where
  keyed := sound.keyed
  reached := sound.reached
  absent := by
    intro none owner found
    cases (Option.some.inj none).symm.trans found
  atLeast := by
    intro seen snapshot
    obtain ⟨watermark, watermarkFound, reached⟩ := sound.reached
    obtain ⟨_, sameFound, last⟩ := wf.watermarked (Option.some.inj snapshot)
    cases watermarkFound.symm.trans sameFound
    exact last ▸ reached
  seen := by
    intro seen snapshot
    obtain ⟨watermark, watermarkFound, last⟩ := wf.watermarked (Option.some.inj snapshot)
    exact ⟨watermark, watermarkFound, last.ge⟩
  current := by
    intro seen owner snapshot found _
    cases (Option.some.inj snapshot).symm.trans found
    rfl

variable {after db : Database}

theorem sound_of_claimed {session : Session} {request : ClaimRequest} {record : MaterializationRow}
    (wf : WellFormed (view db)) (agrees : Agrees (view db))
    (returned : claimMaterializationReconciliation session request db = .ok (some record, after)) :
    ({ id := request.materializationId, owner := request.owner, record := record,
       snapshot := none } : Job).Sound (view after) := by
  rcases claim_ok returned with ⟨none, -⟩ | ⟨row, ttlMillis, found, claimable, -, same, viewed⟩
  · cases none
  · cases Option.some.inj same
    have stepped : Grows (view db) (view after) := viewed ▸ grows_of_eq rfl
    obtain ⟨owner, ownerFound, reached⟩ := wf.owned found
    obtain ⟨watermark, watermarkFound, last⟩ := wf.watermarked ownerFound
    have floor : ∀ job : Job,
        job.record = beforeUpdate session row (claimedRow session request.owner ttlMillis row) →
        job.floor ≤ watermark.lastGeneration := by
      rintro job same
      have sameState : job.record.state = row.state := same ▸ rfl
      have sameGeneration : job.record.instanceGeneration = row.instanceGeneration := same ▸ rfl
      rw [Job.floor, sameState, sameGeneration, last]
      split
      next deleting =>
        have fits := (agrees row.instanceId).fits found rfl (by rw [deleting]; decide) ownerFound
        exact fits.lt_of_deleting deleting
      · exact reached
    exact
      { keyed := wf.keyed request.materializationId row found
        reached := by
          obtain ⟨later, laterFound, grown⟩ := stepped _ _ watermarkFound
          exact ⟨later, laterFound, (floor _ rfl).trans grown⟩
        absent := nofun
        atLeast := nofun
        seen := nofun
        current := nofun }

variable {owner : InstanceRow}

theorem Job.Sound.seen_of_floor (sound : job.Sound state) (wf : WellFormed state)
    (snapshot : job.snapshot = some found)
    (ownerFound : state.instances job.record.instanceId = some owner)
    (atFloor : owner.generation = job.floor) :
    ∃ seen, found = some seen ∧ seen.generation = owner.generation ∧ seen.state = owner.state := by
  cases found with
  | none => exact absurd (sound.absent snapshot owner ownerFound) (by omega)
  | some seen =>
    obtain ⟨watermark, watermarkFound, last⟩ := wf.watermarked ownerFound
    obtain ⟨_, sameFound, bounded⟩ := sound.seen seen snapshot
    cases watermarkFound.symm.trans sameFound
    have atLeast := sound.atLeast seen snapshot
    have same : owner.generation = seen.generation := by omega
    exact ⟨seen, rfl, same.symm, (sound.current seen owner snapshot ownerFound same).symm⟩

/-- A job that decided to drop its row does not drop work its instance still needs. -/
theorem Job.Sound.deletable (sound : job.Sound state) (wf : WellFormed state)
    (agrees : Agrees state) (snapshot : job.snapshot = some found)
    (decided : reconcile job.record found = .markDeleted) {row : MaterializationRow}
    (stored : state.work job.id = some row) (sameState : row.state = job.record.state)
    (sameGeneration : row.instanceGeneration = job.record.instanceGeneration)
    (ownerFound : state.instances row.instanceId = some owner) : needsWork owner.state = false := by
  by_contra needed
  rw [Bool.not_eq_false] at needed
  have owned : row.instanceId = job.record.instanceId :=
    materializationId_instance ((wf.keyed _ _ stored).symm.trans sound.keyed)
  rw [owned] at ownerFound
  have fits (live : row.state ≠ .deleted) : Fits owner row :=
    (agrees job.record.instanceId).fits stored owned live ownerFound
  -- In either direction a live row is at the generation the job claimed, so the job saw its
  -- instance as it is, and would not have decided to drop the row.
  cases recorded : job.record.state with
  | pending =>
    rw [recorded] at sameState
    obtain ⟨waking, generation⟩ := (fits (by rw [sameState]; decide)).waking_of_pending sameState
    have atFloor : owner.generation = job.floor := by
      rw [Job.floor, recorded, if_neg (by decide)]
      omega
    obtain ⟨seen, rfl, seenGeneration, seenState⟩ :=
      sound.seen_of_floor wf snapshot ownerFound atFloor
    have same : seen.generation = job.record.instanceGeneration := by omega
    simp [reconcile, recorded, reconcilePending, same, seenState, waking] at decided
  | deleting =>
    rw [recorded] at sameState
    obtain ⟨draining, generation⟩ :=
      (fits (by rw [sameState]; decide)).draining_of_deleting sameState needed
    have atFloor : owner.generation = job.floor := by
      rw [Job.floor, recorded, if_pos rfl]
      omega
    obtain ⟨seen, rfl, seenGeneration, seenState⟩ :=
      sound.seen_of_floor wf snapshot ownerFound atFloor
    have same : seen.generation = job.record.instanceGeneration + 1 := by omega
    simp [reconcile, recorded, reconcileDeleting, same, seenState, draining] at decided
  | ready | deleted | failed => simp [reconcile, recorded] at decided

/-! ### Runs -/

structure JobsSound (system : Jobs) : Prop where
  wellFormed : WellFormed (view system.db)
  agrees : Agrees (view system.db)
  jobs : ∀ job ∈ system.jobs, job.Sound (view system.db)

theorem commit_claim {session : Session} {request : ClaimRequest}
    {result : Option MaterializationRow}
    (returned : claimMaterializationReconciliation session request db = .ok (result, after)) :
    commit session (.claim request) db = .ok after := by
  simp only [commit, returned]
  rfl

variable {next system : Jobs} {label : Option (Session × Op)}

theorem JobStep.committed (step : JobStep label system next) : next.db = system.db ∨
      ∃ session op, label = some (session, op) ∧ commit session op system.db = .ok next.db := by
  cases step with
  | stored _ _ _ committed | acted _ _ _ committed => exact .inr ⟨_, _, rfl, committed⟩
  | claimed returned => exact .inr ⟨_, _, rfl, commit_claim returned⟩
  | read => exact .inl rfl

theorem JobStep.refines (step : JobStep label system next) (wf : WellFormed (view system.db)) :
    view next.db = view system.db ∨
      ∃ session op, label = some (session, op) ∧
        Step session op (view system.db) (view next.db) := by
  rcases step.committed with same | ⟨session, op, labelled, committed⟩
  · exact .inl (congrArg view same)
  · exact .inr ⟨session, op, labelled, commit_refines wf.keyed committed⟩

theorem isManualSleep_eq_false {request : BeginSleepRequest}
    (automatic : isManualSleep (.beginSleep request) = false) : request.minimumReadyAge ≠ none := by
  intro unaged
  simp [isManualSleep, unaged] at automatic

theorem JobStep.agrees (step : JobStep label system next) (sound : JobsSound system) : Agrees (view next.db) := by
  have wf := sound.wellFormed
  cases step with
  | stored unforced other automatic committed =>
    refine (commit_refines wf.keyed committed).agrees wf sound.agrees ?_ ?_
    · rintro request rfl
      exact isManualSleep_eq_false automatic
    · rintro key row owner (⟨_, rfl, -⟩ | ⟨_, rfl, -⟩)
      · cases other
      · cases unforced
  | claimed returned =>
    refine (commit_refines wf.keyed (commit_claim returned)).agrees wf sound.agrees ?_ ?_
    · intro request other
      cases other
    · rintro key row owner (⟨_, other, -⟩ | ⟨_, other, -⟩) <;> cases other
  | read => exact sound.agrees
  | acted member seen decided committed =>
    rename_i session job found backend op after
    refine (commit_refines wf.keyed committed).agrees wf sound.agrees ?_ ?_
    · rintro request rfl
      rcases Job.act_eq decided with ⟨-, other⟩ | ⟨_, -, other⟩ | ⟨-, other⟩ <;> cases other
    · rintro key row owner (⟨request, rfl, rfl, sameState, sameGeneration, -⟩ | ⟨_, rfl, -⟩) live found
      · rcases Job.act_eq decided with ⟨-, ⟨⟩⟩ | ⟨_, -, ⟨⟩⟩ | ⟨decision, ⟨⟩⟩
        exact (sound.jobs job member).deletable wf sound.agrees seen decision live.1 sameState
          sameGeneration found
      · rcases Job.act_eq decided with ⟨-, other⟩ | ⟨_, -, other⟩ | ⟨-, other⟩ <;> cases other

theorem JobStep.sound (step : JobStep label system next) (sound : JobsSound system) : JobsSound next := by
  have wf := sound.wellFormed
  have agrees := step.agrees sound
  have kept : ∀ job ∈ system.jobs, job.Sound (view next.db) := by
    intro job member
    rcases step.refines wf with same | ⟨session, op, -, refined⟩
    · exact same ▸ sound.jobs job member
    · exact (sound.jobs job member).step wf refined
  have wellFormed : WellFormed (view next.db) := by
    rcases step.refines wf with same | ⟨session, op, -, refined⟩
    · exact same ▸ wf
    · exact refined.wellFormed wf
  refine ⟨wellFormed, agrees, ?_⟩
  cases step with
  | stored | acted => exact kept
  | claimed returned =>
    intro job member
    rcases List.mem_cons.mp member with rfl | earlier
    · exact sound_of_claimed wf sound.agrees returned
    · exact kept job earlier
  | read running =>
    intro job member
    rcases List.mem_cons.mp member with rfl | earlier
    · exact (sound.jobs _ running).read wf
    · exact kept job earlier

theorem jobsSound_fresh : JobsSound .fresh :=
  ⟨wellFormed_empty, agrees_empty, fun _ member => absurd member List.not_mem_nil⟩

variable {allowed : Option (Session × Op) → Prop}

theorem JobsSound.path {first second : Jobs} (sound : JobsSound first)
    (path : jobSystem.Path allowed first second) : JobsSound second := by
  have preserved : ∀ label system next, allowed label → JobsSound system →
      jobSystem.step label system next → JobsSound next := by
    intro label system next _ sound stepped
    exact JobStep.sound stepped sound
  exact path.preserves preserved sound

theorem jobsSound_of_reachable (reachable : jobSystem.Reachable allowed system) : JobsSound system := by
  obtain ⟨_, rfl, path⟩ := reachable
  exact jobsSound_fresh.path path

/-! ### Executing runs -/

/-- One thing that may happen next; jobs are named by their place in the list. -/
inductive JobEvent where
  | store (session : Session) (op : Op)
  | claim (session : Session) (request : ClaimRequest)
  | read (job : Nat)
  | act (session : Session) (job : Nat) (backend : BackendEndpoint)

def Jobs.perform (system : Jobs) : JobEvent → Option (Option (Session × Op) × Jobs)
  | .store session op =>
    if op.isForce = false ∧ isJobOp op = false ∧ isManualSleep op = false then
      match commit session op system.db with
      | .ok after => some (some (session, op), { system with db := after })
      | .error _ => none
    else none
  | .claim session request =>
    match claimMaterializationReconciliation session request system.db with
    | .ok (some record, after) =>
      some (some (session, .claim request),
        { db := after
          jobs :=
            { id := request.materializationId, owner := request.owner, record := record,
              snapshot := none } :: system.jobs })
    | _ => none
  | .read index =>
    (system.jobs[index]?).map fun job =>
      (none,
        { system with
          jobs :=
            { job with snapshot := some (system.db.instances.find? job.record.instanceId) } ::
              system.jobs })
  | .act session index backend =>
    match system.jobs[index]? with
    | some job =>
      match job.snapshot with
      | some found =>
        match job.act found backend with
        | some op =>
          match commit session op system.db with
          | .ok after => some (some (session, op), { system with db := after })
          | .error _ => none
        | none => none
      | none => none
    | none => none

theorem Jobs.perform_step {event : JobEvent} (performed : system.perform event = some (label, next)) :
    JobStep label system next := by
  cases event with
  | store =>
    simp only [Jobs.perform] at performed
    split at performed
    next guards =>
      split at performed
      next after committed =>
        cases performed
        exact .stored guards.1 guards.2.1 guards.2.2 committed
      · cases performed
    · cases performed
  | claim =>
    simp only [Jobs.perform] at performed
    split at performed
    next record after returned =>
      cases performed
      exact .claimed returned
    · cases performed
  | read =>
    obtain ⟨job, found, same⟩ := Option.map_eq_some_iff.mp performed
    cases same
    exact .read (List.mem_of_getElem? found)
  | act =>
    simp only [Jobs.perform] at performed
    split at performed
    next job found =>
      split at performed
      next seen snapshot =>
        split at performed
        next op decided =>
          split at performed
          next after committed =>
            cases performed
            exact .acted (List.mem_of_getElem? found) snapshot decided committed
          · cases performed
        · cases performed
      · cases performed
    · cases performed

/-- Perform events one after the other, as long as their labels are allowed. -/
def runJobs (allowed : Option (Session × Op) → Bool) : List JobEvent → Jobs → Option Jobs
  | [], system => some system
  | event :: rest, system =>
    match system.perform event with
    | some (label, next) => if allowed label then runJobs allowed rest next else none
    | none => none

theorem runJobs_path {allowed : Option (Session × Op) → Bool} {events : List JobEvent}
    {system final : Jobs} (ran : runJobs allowed events system = some final) :
    jobSystem.Path (fun label => allowed label = true) system final := by
  induction events generalizing system with
  | nil =>
    cases ran
    exact .refl
  | cons _ _ ih =>
    simp only [runJobs] at ran
    split at ran
    next label next performed =>
      split at ran
      next allows =>
        have first : jobSystem.Next (fun label => allowed label = true) system next :=
          ⟨label, allows, Jobs.perform_step performed⟩
        exact (Relation.ReflTransGen.single first).trans (ih ran)
      · cases ran
    · cases ran

namespace Sample

open Store.Sample

def backend : BackendEndpoint := ⟨⟨"http://10.0.0.7:8080", by decide⟩, none⟩

def sleepFrom (generation : Nat) : Op :=
  .beginSleep
    { instanceId := web
      expectedRunningGeneration := generation
      target := target
      drainGraceTimeout := 0
      minimumReadyAge := some 0 }

/-- The instance is created, woken and completed, goes to sleep, and is woken while it drains. -/
def draining : List JobEvent :=
  [.store (session 0) createWeb, .store (session 1) (wakeFrom 0 1),
    .claim (session 2) claimWork, .read 0, .act (session 3) 0 backend,
    .store (session 4) (sleepFrom 2), .store (session 5) (wakeFrom 3 5)]

end Sample

/-! ### Agreement -/

def Live (db : Database) (id : InstanceId) (work : MaterializationId) (row : MaterializationRow) :
    Prop :=
  db.materializations.find? work = some row ∧ row.instanceId = id ∧ row.state ≠ .deleted

def OnlyLive (db : Database) (id : InstanceId) (work : MaterializationId)
    (row : MaterializationRow) : Prop :=
  Live db id work row ∧ ∀ other otherRow, Live db id other otherRow → other = work

def Agreement (db : Database) (id : InstanceId) (owner : InstanceRow) : Prop :=
  match owner.state with
  | .waking => ∃ work row, OnlyLive db id work row ∧ row.state = .pending ∧
      row.instanceGeneration = owner.generation ∧
      row.projectionGeneration = owner.generation + 1
  | .running => ∃ work row, OnlyLive db id work row ∧ row.state = .ready ∧
      row.instanceGeneration = owner.generation ∧ row.projectionGeneration = owner.generation ∧
      row.backend ≠ none
  | .draining => ∃ work row, OnlyLive db id work row ∧ row.state = .deleting ∧
      row.instanceGeneration + 1 = owner.generation
  | .cold | .deleted => ∀ work row, ¬Live db id work row
  | .failed => ∀ work row, Live db id work row → OnlyLive db id work row ∧ row.state = .deleting
  | .deleting => ∀ work row, Live db id work row → row.state = .deleting

theorem JobsSound.onlyLive (sound : JobsSound system) {id : InstanceId} {work : MaterializationId}
    {row : MaterializationRow} (live : Live system.db id work row) :
    OnlyLive system.db id work row := by
  refine ⟨live, ?_⟩
  intro other otherRow otherLive
  exact sound.wellFormed.liveUnique otherLive.1 live.1 (otherLive.2.1.trans live.2.1.symm)
    otherLive.2.2 live.2.2

theorem JobsSound.agreement (sound : JobsSound system) {id : InstanceId}
    (found : system.db.instances.find? id = some owner) : Agreement system.db id owner := by
  have there := sound.agrees id
  have fits {work : MaterializationId} {row : MaterializationRow}
      (live : Live system.db id work row) : Fits owner row :=
    there.fits live.1 live.2.1 live.2.2 found
  have present (needed : needsWork owner.state = true) :
      ∃ work row, OnlyLive system.db id work row ∧ Fits owner row := by
    obtain ⟨work, row, live⟩ := there.present found needed
    exact ⟨work, row, sound.onlyLive live, fits live⟩
  unfold Agreement
  unfold Fits at fits present
  split
  next state =>
    simp only [state] at present
    exact present rfl
  next state =>
    simp only [state] at present
    exact present rfl
  next state =>
    simp only [state] at present
    exact present rfl
  next state =>
    simp only [state] at fits
    exact fun work row => fits
  next state =>
    simp only [state] at fits
    exact fun work row => fits
  next state =>
    simp only [state] at fits
    exact fun work row live => ⟨sound.onlyLive live, (fits live).1⟩
  next state =>
    simp only [state] at fits
    exact fun work row live => (fits live).1

/-- In every run, whatever happens between a job's read and its act, an instance and its
materializations agree, and only a draining instance has a deferred wake. -/
theorem instances_agree_with_their_work {system : Jobs}
    (reachable : jobSystem.Reachable (fun _ => True) system) (id : InstanceId) :
    (∀ owner, system.db.instances.find? id = some owner → Agreement system.db id owner) ∧
      ∀ intent, system.db.deferredWakes.find? id = some intent →
        ∃ owner, system.db.instances.find? id = some owner ∧ owner.state = .draining ∧
          intent.instanceGeneration = owner.generation + 2 ∧
          intent.projectionGeneration = owner.generation + 3 := by
  have sound := jobsSound_of_reachable reachable
  exact ⟨fun _ found => sound.agreement found, fun _ found => (sound.agrees id).deferred found⟩

theorem sample_instances_agree_with_their_work :
    ∃ system owner intent, jobSystem.Reachable (fun _ => True) system ∧
      system.db.deferredWakes.find? Store.Sample.web = some intent ∧
      system.db.instances.find? Store.Sample.web = some owner ∧
      intent.instanceGeneration = owner.generation + 2 ∧
      Agreement system.db Store.Sample.web owner := by
  have deferred : (runJobs (fun _ => true) Sample.draining Jobs.fresh).any (fun system =>
      (system.db.deferredWakes.find? Store.Sample.web).isSome) = true := by decide
  obtain ⟨system, ran, stored⟩ := (Option.any_eq_true _ _).mp deferred
  obtain ⟨intent, intentFound⟩ := Option.isSome_iff_exists.mp stored
  have reachable : jobSystem.Reachable (fun _ => True) system :=
    ⟨Jobs.fresh, rfl, (runJobs_path ran).mono fun _ _ => trivial⟩
  obtain ⟨agree, intents⟩ := instances_agree_with_their_work reachable Store.Sample.web
  obtain ⟨owner, found, -, generation, -⟩ := intents intent intentFound
  exact ⟨system, owner, intent, reachable, intentFound, found, generation, agree owner found⟩

end Sleepypods.Reconciler
