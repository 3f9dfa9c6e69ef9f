import Sleepypods.Frontline.Cache
import Sleepypods.Lifecycle.Projections
import Sleepypods.Reconciler.Jobs
import Sleepypods.Store.Wake

/-! Generations over the lifetime of an instance id: across any number of deletions and
re-creations, everything that is numbered is numbered upwards. -/

set_option autoImplicit false

namespace Sleepypods.Reconciler

open Library Store Lifecycle
open Frontline (staleRouteEntry staleRouteEntry_eq_none)

variable {allowed : Option (Session × Op) → Prop} {first second : Jobs}

/-- What every lifecycle step keeps on well-formed states, every path of the system keeps. -/
theorem path_keeps {holds : State → Prop}
    (keeps : ∀ {session : Session} {op : Op} {state next : State}, Step session op state next →
      WellFormed state → holds state → holds next) (path : jobSystem.Path allowed first second)
    (sound : JobsSound first) (held : holds (view first.db)) : holds (view second.db) := by
  have stepped : ∀ label system next, allowed label →
      JobsSound system ∧ holds (view system.db) → jobSystem.step label system next →
      JobsSound next ∧ holds (view next.db) := by
    rintro label system next - ⟨sound, held⟩ step
    refine ⟨JobStep.sound step sound, ?_⟩
    rcases JobStep.refines step sound.wellFormed with same | ⟨session, op, -, refined⟩
    · exact same ▸ held
    · exact keeps refined sound.wellFormed held
  exact (path.preserves stepped ⟨sound, held⟩).2

/-- The id has had a generation; a row it has now is the given one or is above it. -/
structure Passed (id : InstanceId) (generation : Nat) (current : InstanceRow → Prop)
    (state : State) : Prop where
  reached : ∃ watermark, state.watermarks id = some watermark ∧
    generation ≤ watermark.lastGeneration
  rows : ∀ row, state.instances id = some row → current row ∨ generation < row.generation

theorem Passed.step {session : Session} {op : Op} {state next : State} {id : InstanceId}
    {generation : Nat} {current : InstanceRow → Prop}
    (stable : ∀ before after : InstanceRow, after.state = before.state →
      after.generation = before.generation → current before → current after)
    (step : Step session op state next) (wf : WellFormed state)
    (passed : Passed id generation current state) : Passed id generation current next := by
  obtain ⟨watermark, found, reached⟩ := passed.reached
  refine ⟨?_, fun row stored => ?_⟩
  · obtain ⟨later, laterFound, grown⟩ := step.grows _ _ found
    exact ⟨later, laterFound, reached.trans grown⟩
  · rcases step.instanceEvolves wf stored with ⟨before, beforeFound, sameState, same⟩ | above
    · rcases passed.rows before beforeFound with now | past
      · exact .inl (stable before row sameState same now)
      · exact .inr (same ▸ past)
    · exact .inr (Nat.lt_of_le_of_lt reached (above watermark found))

/-- Every wake this label accepts was prepared by a wake call that carried no backend generation.
The call may have read its instance at any earlier time. -/
def withoutBackendGeneration (label : Option (Session × Op)) : Prop :=
  ∀ session request, label = some (session, .acceptWake request) →
    ∃ call found ready active rendered, call.backendGeneration = none ∧
      wakeInstance call found ready active rendered = .ok (.accept request)

theorem backendGeneration_of_allowed {session : Session} {op : Op}
    (allowed : withoutBackendGeneration (some (session, op))) :
    ∀ request, op = .acceptWake request →
      request.pending.backendGeneration = request.pending.instanceGeneration := by
  rintro request rfl
  obtain ⟨call, found, ready, active, rendered, unsupplied, accepted⟩ := allowed _ _ rfl
  obtain ⟨row, objects, rfl⟩ := wakeInstance_accept accepted
  simp only [acceptWakeRequest, unsupplied]
  rfl

/-- The backend generations of the store and of the records that jobs hold. -/
structure JobsFollow (system : Jobs) : Prop where
  sound : JobsSound system
  stored : BackendsFollow (view system.db)
  jobs : ∀ job ∈ system.jobs, BackendFollows job.record

theorem JobStep.follow {label : Option (Session × Op)} {system next : Jobs}
    (step : JobStep label system next) (allowed : withoutBackendGeneration label)
    (follow : JobsFollow system) : JobsFollow next := by
  have wf := follow.sound.wellFormed
  have sound := step.sound follow.sound
  cases step with
  | stored _ other _ committed =>
    refine ⟨sound, ?_, follow.jobs⟩
    refine (commit_refines wf.keyed committed).backendsFollow wf follow.stored
      (backendGeneration_of_allowed allowed) ?_
    rintro request rfl
    cases other
  | claimed returned =>
    refine ⟨sound, ?_, fun job member => ?_⟩
    · refine (commit_refines wf.keyed (commit_claim returned)).backendsFollow wf follow.stored
        (backendGeneration_of_allowed allowed) ?_
      intro request other
      cases other
    · rcases List.mem_cons.mp member with rfl | earlier
      · rcases claim_ok returned with ⟨none, -⟩ | ⟨row, ttlMillis, found, -, -, same, -⟩
        · cases none
        · cases same
          exact (follow.stored.rows found).congr rfl rfl rfl
      · exact follow.jobs job earlier
  | read running =>
    rename_i reader
    refine ⟨sound, follow.stored, fun job member => ?_⟩
    rcases List.mem_cons.mp member with rfl | earlier
    · exact follow.jobs reader running
    · exact follow.jobs job earlier
  | acted member _ decided committed =>
    refine ⟨sound, ?_, follow.jobs⟩
    refine (commit_refines wf.keyed committed).backendsFollow wf follow.stored
      (backendGeneration_of_allowed allowed) ?_
    rintro request rfl
    rcases Job.act_eq decided with ⟨decision, ⟨⟩⟩ | ⟨_, -, ⟨⟩⟩ | ⟨-, ⟨⟩⟩
    have pending := pending_of_completeWake decision
    have follows := follow.jobs _ member
    unfold BackendFollows at follows
    rwa [pending] at follows

theorem jobsFollow_of_reachable {system : Jobs}
    (reachable : jobSystem.Reachable withoutBackendGeneration system) : JobsFollow system := by
  have initially : ∀ system, jobSystem.initial system → JobsFollow system := by
    rintro _ rfl
    exact ⟨jobsSound_fresh, backendsFollow_empty, fun _ member => absurd member List.not_mem_nil⟩
  have preserved : ∀ label system next, withoutBackendGeneration label → JobsFollow system →
      jobSystem.step label system next → JobsFollow next := by
    intro label system next allowed follow stepped
    exact JobStep.follow stepped allowed follow
  exact reachable.invariant initially preserved

/-- A step of the system that accepted a wake with this projection and backend generation. -/
def Accepts (allowed : Option (Session × Op) → Prop) (request : AcceptWakeRequest)
    (before after : Jobs) (projection backend : Nat) : Prop :=
  ∃ session, allowed (some (session, .acceptWake request)) ∧
    jobSystem.step (some (session, .acceptWake request)) before after ∧
    WakeAccepted request (view before.db) (view after.db) projection backend

variable {before after : Jobs} {backend : Nat} {request : AcceptWakeRequest}

theorem Accepts.acceptedOn {projection : Nat} (sound : JobsSound before)
    (accepts : Accepts allowed request before after projection backend) :
    ∃ current,
      AcceptedOn request (view before.db) (view after.db) projection backend current := by
  obtain ⟨session, -, step, accepted⟩ := accepts
  rcases JobStep.refines step sound.wellFormed with same | ⟨_, _, labelled, refined⟩
  · rw [same] at accepted ⊢
    have stands : Step session (.acceptWake request) (view before.db) (view before.db) :=
      .unchanged ..
    exact stands.acceptedOn accepted
  · cases labelled
    exact refined.acceptedOn accepted

theorem Accepts.projection_lt {accepted middle last : Jobs} {former latter : AcceptWakeRequest}
    {formerProjection formerBackend latterProjection latterBackend : Nat} (sound : JobsSound first)
    (firstAccepts : Accepts allowed former first accepted formerProjection formerBackend)
    (path : jobSystem.Path allowed accepted middle)
    (lastAccepts : Accepts allowed latter middle last latterProjection latterBackend)
    (same : former.pending.instanceId = latter.pending.instanceId) :
    formerProjection < latterProjection := by
  obtain ⟨current, before⟩ := firstAccepts.acceptedOn sound
  obtain ⟨session, allows, step, -⟩ := firstAccepts
  have acceptedSound : JobsSound accepted := JobStep.sound step sound
  have middleSound := acceptedSound.path path
  have bound : ProjectionBound (view middle.db) former.pending.instanceId formerProjection :=
    path_keeps (fun step wf bound => step.projectionBound wf bound) path acceptedSound before.bound
  obtain ⟨now, after⟩ := lastAccepts.acceptedOn middleSound
  rw [same] at bound
  have atMost := bound.present now after.found
  rw [reserved_eq_one after.live after.undeferred] at atMost
  have above := expectedWaking_gt now
  have projection := after.projection_eq
  omega

/-- In runs whose wakes carry no backend generation of the caller, a wake's backend generation is
the generation right below its projection. -/
theorem Accepts.backend_eq {projection : Nat} (follow : JobsFollow before)
    (accepts : Accepts withoutBackendGeneration request before after projection backend) :
    backend + 1 = projection := by
  obtain ⟨current, accepted⟩ := accepts.acceptedOn follow.sound
  obtain ⟨session, allows, -, -⟩ := accepts
  have above : current.generation < request.pending.instanceGeneration :=
    accepted.generation_eq ▸ expectedWaking_gt current
  have same := follow.stored.accepted_eq follow.sound.wellFormed accepted.found above
    (backendGeneration_of_allowed allows request rfl) accepted.backend
  rw [same, accepted.projection_eq, accepted.generation_eq]

/-! ### The theorem -/

structure GenerationsIncrease : Prop where
  /-- Every change of state raises the generation, and nothing lowers it. -/
  instances : ∀ {first second : Jobs} {id : InstanceId} {earlier later : InstanceRow},
    jobSystem.Reachable (fun _ => True) first → jobSystem.Path (fun _ => True) first second →
    first.db.instances.find? id = some earlier → second.db.instances.find? id = some later →
    earlier.generation ≤ later.generation ∧
      (earlier.state ≠ later.state → earlier.generation < later.generation)
  /-- A new incarnation of the id is above every generation of the old one. -/
  incarnations : ∀ {first middle second : Jobs} {id : InstanceId} {earlier later : InstanceRow},
    jobSystem.Reachable (fun _ => True) first → jobSystem.Path (fun _ => True) first middle →
    jobSystem.Path (fun _ => True) middle second →
    first.db.instances.find? id = some earlier → middle.db.instances.find? id = none →
    second.db.instances.find? id = some later → earlier.generation < later.generation
  projections : ∀ {first accepted middle last : Jobs} {former latter : AcceptWakeRequest}
    {formerProjection formerBackend latterProjection latterBackend : Nat},
    jobSystem.Reachable (fun _ => True) first →
    Accepts (fun _ => True) former first accepted formerProjection formerBackend →
    jobSystem.Path (fun _ => True) accepted middle →
    Accepts (fun _ => True) latter middle last latterProjection latterBackend →
    former.pending.instanceId = latter.pending.instanceId →
    formerProjection < latterProjection
  /-- A materialization keeps its projection until a transaction deletes it: one that then also
  starts the deferred wake has returned the deleted record. -/
  rows : ∀ {label : Option (Session × Op)} {before after : Jobs} {work : MaterializationId}
    {row later : MaterializationRow},
    jobSystem.Reachable (fun _ => True) before → jobSystem.step label before after →
    before.db.materializations.find? work = some row → row.state ≠ .deleted →
    after.db.materializations.find? work = some later →
    later.projectionGeneration = row.projectionGeneration ∨
      ∃ session request found record, label = some (session, .finalizeSleep request) ∧
        request.materializationId = work ∧
        finalizeSleepReconciliation session request before.db =
          .ok ((found, some record), after.db) ∧
        record.state = .deleted ∧ record.projectionGeneration = row.projectionGeneration
  backends : ∀ {first accepted middle last : Jobs} {former latter : AcceptWakeRequest}
    {formerProjection formerBackend latterProjection latterBackend : Nat},
    jobSystem.Reachable withoutBackendGeneration first →
    Accepts withoutBackendGeneration former first accepted formerProjection formerBackend →
    jobSystem.Path withoutBackendGeneration accepted middle →
    Accepts withoutBackendGeneration latter middle last latterProjection latterBackend →
    former.pending.instanceId = latter.pending.instanceId →
    former.pending.target = latter.pending.target →
    formerBackend < latterBackend
  answers : ∀ {first second : Jobs} {former latter : ResolveRouteRequest}
    {earlierIdentity laterIdentity : RouteIdentity} {earlier later : RouteEntry},
    jobSystem.Reachable withoutBackendGeneration first →
    jobSystem.Path withoutBackendGeneration first second →
    resolveRoute first.db former = .ok (.resolved earlierIdentity earlier) →
    resolveRoute second.db latter = .ok (.resolved laterIdentity later) →
    staleRouteEntry earlier later = none

theorem generation_le_of_path {id : InstanceId} {earlier later : InstanceRow}
    (sound : JobsSound first) (path : jobSystem.Path allowed first second)
    (found : first.db.instances.find? id = some earlier)
    (laterFound : second.db.instances.find? id = some later) :
    (later.generation = earlier.generation ∧ later.state = earlier.state) ∨
      earlier.generation < later.generation := by
  obtain ⟨watermark, watermarkFound, last⟩ := sound.wellFormed.watermarked found
  have now : Passed id earlier.generation
      (fun row => row.generation = earlier.generation ∧ row.state = earlier.state)
      (view first.db) := by
    refine ⟨⟨watermark, watermarkFound, last.ge⟩, fun row stored => .inl ?_⟩
    cases found.symm.trans stored
    exact ⟨rfl, rfl⟩
  have stable : ∀ before after : InstanceRow, after.state = before.state →
      after.generation = before.generation →
      (before.generation = earlier.generation ∧ before.state = earlier.state) →
      (after.generation = earlier.generation ∧ after.state = earlier.state) :=
    fun _ _ sameState same current => ⟨same.trans current.1, sameState.trans current.2⟩
  exact (path_keeps (Passed.step stable) path sound now).rows later laterFound

theorem generation_lt_of_recreated {middle : Jobs} {instanceId : InstanceId}
    {earlier later : InstanceRow} (sound : JobsSound first)
    (toMiddle : jobSystem.Path allowed first middle)
    (toSecond : jobSystem.Path allowed middle second)
    (found : first.db.instances.find? instanceId = some earlier)
    (gone : middle.db.instances.find? instanceId = none)
    (laterFound : second.db.instances.find? instanceId = some later) :
    earlier.generation < later.generation := by
  obtain ⟨watermark, watermarkFound, last⟩ := sound.wellFormed.watermarked found
  have reached : ∃ later, (view middle.db).watermarks instanceId = some later ∧
      earlier.generation ≤ later.lastGeneration := by
    have seen : Passed instanceId earlier.generation (fun _ => True) (view first.db) :=
      ⟨⟨watermark, watermarkFound, last.ge⟩, fun _ _ => .inl trivial⟩
    exact (path_keeps (Passed.step fun _ _ _ _ => id) toMiddle sound seen).reached
  have absent : Passed instanceId earlier.generation (fun _ => False) (view middle.db) := by
    refine ⟨reached, fun row stored => ?_⟩
    cases gone.symm.trans stored
  have passed := path_keeps (Passed.step fun _ _ _ _ => id) toSecond (sound.path toMiddle) absent
  exact (passed.rows later laterFound).resolve_left id

theorem projectionGeneration_of_step {label : Option (Session × Op)} {work : MaterializationId}
    {row later : MaterializationRow} (sound : JobsSound before) (step : JobStep label before after)
    (found : before.db.materializations.find? work = some row) (live : row.state ≠ .deleted)
    (stored : after.db.materializations.find? work = some later) :
    later.projectionGeneration = row.projectionGeneration ∨
      ∃ session request found record, label = some (session, .finalizeSleep request) ∧
        request.materializationId = work ∧
        finalizeSleepReconciliation session request before.db =
          .ok ((found, some record), after.db) ∧
        record.state = .deleted ∧ record.projectionGeneration = row.projectionGeneration := by
  have wf := sound.wellFormed
  rcases step.committed with same | ⟨session, op, labelled, committed⟩
  · rw [same] at stored
    cases found.symm.trans stored
    exact .inl rfl
  rcases (commit_refines wf.keyed committed).projectionKept wf found live stored with
    kept | ⟨request, rfl, rfl⟩
  · exact .inl kept
  · obtain ⟨⟨cold, record⟩, finalized⟩ := Fallible.map_snd_eq_ok.mp committed
    obtain ⟨current, old, finalizable, returned, -⟩ := finalizeSleep_ok wf.keyed finalized
    cases finalizable.found.symm.trans found
    simp only at returned
    subst returned
    exact .inr ⟨session, request, cold, _, labelled, rfl, finalized, rfl, rfl⟩

/-- A backend that an answer names is numbered right below the generation it names. -/
theorem backendGeneration_of_answer {db : Database} (follow : BackendsFollow (view db))
    {request : ResolveRouteRequest} {identity : RouteIdentity} {entry : RouteEntry}
    (resolved : resolveRoute db request = .ok (.resolved identity entry))
    (backed : entry.backendGeneration = some backend) :
    backend + 1 = entry.instanceGeneration := by
  obtain ⟨_, binding, _, found, -, -, -, -, rfl⟩ := resolveRoute_resolved resolved
  obtain ⟨row, ready, rfl⟩ := Option.map_eq_some_iff.mp backed
  obtain ⟨work, stored, -, generation, -, isReady⟩ := readyMaterialization_eq_some ready
  have follows := follow.rows stored
  unfold BackendFollows at follows
  rw [isReady] at follows
  exact follows.trans generation

theorem staleRouteEntry_of_path {former latter : ResolveRouteRequest}
    {earlierIdentity laterIdentity : RouteIdentity} {earlier later : RouteEntry}
    (firstFollow : JobsFollow first) (secondFollow : JobsFollow second)
    (path : jobSystem.Path withoutBackendGeneration first second)
    (resolved : resolveRoute first.db former = .ok (.resolved earlierIdentity earlier))
    (resolvedLater : resolveRoute second.db latter = .ok (.resolved laterIdentity later)) :
    staleRouteEntry earlier later = none := by
  have generations : earlier.instanceId = later.instanceId →
      earlier.instanceGeneration ≤ later.instanceGeneration := by
    obtain ⟨_, _, _, found, -, present, -, -, rfl⟩ := resolveRoute_resolved resolved
    obtain ⟨_, _, _, foundLater, -, presentLater, -, -, rfl⟩ := resolveRoute_resolved resolvedLater
    intro same
    simp only at same
    rw [← same] at presentLater
    rcases generation_le_of_path firstFollow.sound path present presentLater with ⟨equal, -⟩ | above
    · exact equal.ge
    · exact above.le
  refine staleRouteEntry_eq_none generations ?_
  intro same first second firstBacked secondBacked
  have ordered := generations same
  have former := backendGeneration_of_answer firstFollow.stored resolved firstBacked
  have latter := backendGeneration_of_answer secondFollow.stored resolvedLater secondBacked
  omega

theorem generations_increase : GenerationsIncrease where
  instances := by
    intro first second id earlier later reachable path found laterFound
    have sound := jobsSound_of_reachable reachable
    rcases generation_le_of_path sound path found laterFound with ⟨same, sameState⟩ | above
    · exact ⟨same.ge, fun changed => absurd sameState.symm changed⟩
    · exact ⟨above.le, fun _ => above⟩
  incarnations := by
    intro first middle second id earlier later reachable toMiddle toSecond found gone laterFound
    exact generation_lt_of_recreated (jobsSound_of_reachable reachable) toMiddle toSecond found gone
      laterFound
  projections := by
    intro first accepted middle last former latter _ _ _ _ reachable firstAccepts path lastAccepts
      same
    exact firstAccepts.projection_lt (jobsSound_of_reachable reachable) path lastAccepts same
  rows := by
    intro label before after work row later reachable step found live stored
    exact projectionGeneration_of_step (jobsSound_of_reachable reachable) step found live stored
  backends := by
    intro first accepted middle last former latter _ _ _ _ reachable firstAccepts path lastAccepts
      same _
    have acceptedReachable : jobSystem.Reachable withoutBackendGeneration accepted := by
      obtain ⟨session, allows, step, -⟩ := firstAccepts
      exact reachable.step allows step
    have ordered := firstAccepts.projection_lt (jobsSound_of_reachable reachable) path lastAccepts
      same
    have former := firstAccepts.backend_eq (jobsFollow_of_reachable reachable)
    have latter := lastAccepts.backend_eq (jobsFollow_of_reachable (acceptedReachable.path path))
    omega
  answers := by
    intro first second former latter _ _ earlier later reachable path resolved resolvedLater
    exact staleRouteEntry_of_path (jobsFollow_of_reachable reachable)
      (jobsFollow_of_reachable (reachable.path path)) path resolved resolvedLater

/-- The sample instance is woken, sleeps, and is woken again while it drains. -/
def sampleWakes : Bool :=
  match runJobs (fun _ => true) (Sample.draining.take 1) .fresh with
  | none => false
  | some first =>
    match commit (Store.Sample.session 1) (Store.Sample.wakeFrom 0 1) first.db with
    | .error _ => false
    | .ok started =>
      match runJobs (fun _ => true) ((Sample.draining.drop 2).take 4)
          { first with db := started } with
      | none => false
      | some middle =>
        match commit (Store.Sample.session 5) (Store.Sample.wakeFrom 3 5) middle.db with
        | .error _ => false
        | .ok deferred =>
          (first.db.instances.find? Store.Sample.web).any (fun row =>
            decide (row.state ≠ .waking)) &&
          (started.instances.find? Store.Sample.web).any (fun row =>
            decide (row.state = .waking)) &&
          (started.materializations.find? Store.Sample.work).isSome &&
          (middle.db.deferredWakes.find? Store.Sample.web).isNone &&
          (deferred.deferredWakes.find? Store.Sample.web).isSome

theorem sample_generations_increase :
    ∃ first accepted middle last formerProjection formerBackend latterProjection latterBackend,
      jobSystem.Reachable (fun _ => True) first ∧
      Accepts (fun _ => True) (Store.Sample.wakeRequest 0 1) first accepted formerProjection
        formerBackend ∧
      jobSystem.Path (fun _ => True) accepted middle ∧
      Accepts (fun _ => True) (Store.Sample.wakeRequest 3 5) middle last latterProjection
        latterBackend ∧
      formerProjection < latterProjection := by
  have wakes : sampleWakes = true := by decide
  unfold sampleWakes at wakes
  split at wakes
  · cases wakes
  next first ranFirst =>
    split at wakes
    · cases wakes
    next started committed =>
      split at wakes
      · cases wakes
      next middle ranMiddle =>
        split at wakes
        · cases wakes
        next deferred committedLater =>
          simp only [Bool.and_eq_true, Option.any_eq_true, decide_eq_true_eq,
            Option.isSome_iff_exists, Option.isNone_iff_eq_none] at wakes
          obtain ⟨⟨⟨⟨⟨owner, found, asleep⟩, later, stored, waking⟩, row, recorded⟩, absent⟩,
            intent, intended⟩ := wakes
          have reachable : jobSystem.Reachable (fun _ => True) first :=
            ⟨.fresh, rfl, (runJobs_path ranFirst).mono fun _ _ => trivial⟩
          have path : jobSystem.Path (fun _ => True) { first with db := started } middle :=
            (runJobs_path ranMiddle).mono fun _ _ => trivial
          have former : Accepts (fun _ => True) (Store.Sample.wakeRequest 0 1) first
              { first with db := started } row.projectionGeneration row.backendGeneration :=
            ⟨_, trivial, .stored rfl rfl rfl committed, .started found asleep stored waking recorded⟩
          have latter : Accepts (fun _ => True) (Store.Sample.wakeRequest 3 5) middle
              { middle with db := deferred } intent.projectionGeneration intent.backendGeneration :=
            ⟨_, trivial, .stored rfl rfl rfl committedLater, .deferred absent intended⟩
          exact ⟨_, _, _, _, _, _, _, _, reachable, former, path, latter,
            generations_increase.projections reachable former path latter rfl⟩

end Sleepypods.Reconciler
