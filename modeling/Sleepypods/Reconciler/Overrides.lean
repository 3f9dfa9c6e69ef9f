import Sleepypods.Reconciler.Jobs

/-! Operators beside the controllers. Force deletion settles a materialization and leaves its
instance as it is, so an instance whose work it takes can be moved by nobody but a deletion. -/

set_option autoImplicit false

namespace Sleepypods.Reconciler

open Library Library.Fallible Store Lifecycle

inductive OverrideStep : Option (Session × Op) → Jobs → Jobs → Prop where
  | job {label : Option (Session × Op)} {system next : Jobs} (step : JobStep label system next) :
      OverrideStep label system next
  | forced {system : Jobs} {session : Session} {op : Op} {after : Database}
      (force : op.isForce = true) (committed : commit session op system.db = .ok after) :
      OverrideStep (some (session, op)) system { system with db := after }

def overrideSystem : TransitionSystem Jobs (Option (Session × Op)) where
  initial system := system = .fresh
  step := OverrideStep

/-- A live materialization of an instance that is waking, running or draining. -/
def isNeeded (db : Database) (id : MaterializationId) : Bool :=
  (db.materializations.find? id).any fun row =>
    decide (row.state ≠ .deleted) &&
      (db.instances.find? row.instanceId).any fun owner => needsWork owner.state

def takesNeeded (db : Database) : Op → Bool
  | .forceDelete request => isNeeded db request.materializationId
  | _ => false

/-- Force deletion is asked only for materializations that no instance needs. -/
def sparesNeeded (label : Option (Session × Op)) (system : Jobs) : Prop :=
  (label.map Prod.snd).any (takesNeeded system.db) = false

instance (label : Option (Session × Op)) (system : Jobs) : Decidable (sparesNeeded label system) :=
  inferInstanceAs (Decidable (_ = false))

variable {row : MaterializationRow}

variable {system : Jobs}

theorem JobsSound.forced (sound : JobsSound system) {session : Session} {op : Op} {after : Database}
    (force : op.isForce = true) (spares : sparesNeeded (some (session, op)) system)
    (committed : commit session op system.db = .ok after) :
    JobsSound { system with db := after } := by
  have wf := sound.wellFormed
  have step := commit_refines wf.keyed committed
  refine ⟨step.wellFormed wf, step.agrees wf sound.agrees ?_ ?_, fun job member =>
    (sound.jobs job member).step wf step⟩
  · rintro request rfl
    cases force
  · rintro key row owner (⟨_, rfl, -⟩ | ⟨request, rfl, rfl⟩) live found
    · cases force
    · have work : system.db.materializations.find? _ = some row := live.1
      have instances : system.db.instances.find? row.instanceId = some owner := found
      simpa [sparesNeeded, takesNeeded, isNeeded, work, instances, live.2.2] using spares

variable {label : Option (Session × Op)}

theorem OverrideStep.sound {next : Jobs} (step : OverrideStep label system next)
    (spares : sparesNeeded label system) (sound : JobsSound system) : JobsSound next := by
  cases step with
  | job step => exact step.sound sound
  | forced force committed => exact sound.forced force spares committed

theorem jobsSound_of_reachableUnder (reached : overrideSystem.ReachableUnder sparesNeeded system) : JobsSound system := by
  apply reached.invariant
  · rintro _ rfl
    exact jobsSound_fresh
  · intro label before next spares sound step
    exact OverrideStep.sound step spares sound

/-! ### Stranded instances -/

structure Stranded (id : InstanceId) (owner : InstanceRow) (state : State) : Prop where
  found : state.instances id = some owner
  needed : needsWork owner.state = true
  idle : ∀ work row, state.work work = some row → row.instanceId = id → row.state = .deleted

/-- Neither a wake, nor an automatic sleep, nor the reconciler moves a stranded instance. -/
theorem Stranded.step {id : InstanceId} {owner : InstanceRow} {state next : State}
    {session : Session} {op : Op} (stranded : Stranded id owner state) (wf : WellFormed state)
    (step : Step session op state next) (automatic : isManualSleep op = false)
    (undeleted : ∀ request, op = .requestInstanceDeletion request → id ≠ request.instanceId) :
    Stranded id owner next := by
  have idle : ∀ {key row}, ¬ LiveRow state id key row := fun live =>
    live.2.2 (stranded.idle _ _ live.1 live.2.1)
  cases step.turn wf id with
  | rests instances rows =>
    refine ⟨instances.trans stranded.found, stranded.needed, ?_⟩
    intro work row stored owned
    by_contra live
    obtain ⟨before, was, -⟩ := rows ⟨stored, owned, live⟩
    exact idle was
  | idles was =>
    rcases was stranded.found with deleting | ⟨-, _, _, live⟩
    · cases (congrArg needsWork deleting).symm.trans stranded.needed
    · exact absurd live idle
  | wakes found was =>
    cases stranded.found.symm.trans found
    rcases was with ⟨cold | failed, -⟩ | ⟨-, ⟨_, _, live⟩, -⟩
    · cases (congrArg needsWork cold).symm.trans stranded.needed
    · cases (congrArg needsWork failed).symm.trans stranded.needed
    · exact absurd live idle
  | moves _ _ was => exact absurd was idle
  | sleeps called unaged =>
    subst called
    exact absurd unaged (isManualSleep_eq_false automatic)
  | deletes called named => exact absurd named.symm (undeleted _ called)

def keepsInstance (id : InstanceId) (label : Option (Session × Op)) : Prop :=
  ∀ request, label.map Prod.snd = some (.requestInstanceDeletion request) → id ≠ request.instanceId

theorem JobStep.automatic {next : Jobs} (step : JobStep label system next) {session : Session}
    {op : Op} (labelled : label = some (session, op)) : isManualSleep op = false := by
  cases step with
  | stored _ _ automatic =>
    cases labelled
    exact automatic
  | claimed =>
    cases labelled
    rfl
  | read => cases labelled
  | acted _ _ decided =>
    cases labelled
    rcases Job.act_eq decided with ⟨-, rfl⟩ | ⟨_, -, rfl⟩ | ⟨-, rfl⟩ <;> rfl

theorem Stranded.path {id : InstanceId} {owner : InstanceRow} {later : Jobs}
    (stranded : Stranded id owner (view system.db)) (wf : WellFormed (view system.db))
    (path : jobSystem.Path (keepsInstance id) system later) :
    Stranded id owner (view later.db) := by
  have both : WellFormed (view later.db) ∧ Stranded id owner (view later.db) := by
    induction path with
    | refl => exact ⟨wf, stranded⟩
    | tail _ last ih =>
      obtain ⟨label, keeps, step⟩ := last
      rcases JobStep.refines step ih.1 with same | ⟨session, op, labelled, refined⟩
      · rw [same]
        exact ih
      · refine ⟨refined.wellFormed ih.1, ih.2.step ih.1 refined (step.automatic labelled) ?_⟩
        rintro request rfl
        exact keeps request (by rw [labelled]; rfl)
  exact both.2

theorem stranded_of_forceDelete (sound : JobsSound system) {session : Session}
    {request : ForceDeleteRequest} {after : Database}
    (committed : commit session (.forceDelete request) system.db = .ok after) {owner : InstanceRow}
    (found : system.db.materializations.find? request.materializationId = some row)
    (live : row.state ≠ .deleted) (owned : system.db.instances.find? row.instanceId = some owner)
    (needed : needsWork owner.state = true) : Stranded row.instanceId owner (view after) := by
  obtain ⟨_, forced⟩ := map_snd_eq_ok.mp committed
  rcases forceDelete_ok forced with ⟨absent, -⟩ | ⟨same, sameFound, viewed⟩
  · cases absent.symm.trans found
  · have rowEq : same = row := Option.some.inj (sameFound.symm.trans found)
    subst rowEq
    rw [viewed]
    refine ⟨owned, needed, ?_⟩
    intro work other stored otherOwned
    by_contra otherLive
    have deleted := sound.wellFormed.live_setWork rfl ⟨found, rfl, live⟩
      ⟨stored, otherOwned, otherLive⟩
    exact otherLive (deleted ▸ rfl)

/-- As long as force deletion spares what instances need, every instance that is waking, running
or draining has its one live materialization, in the state and generation that the reconciler or
a sleep acts on. A force deletion that does not spare it leaves the instance where it is for good,
unless it is deleted. -/
theorem needed_work_outlives_overrides {system : Jobs}
    (reached : overrideSystem.ReachableUnder sparesNeeded system) :
    (∀ id owner, system.db.instances.find? id = some owner → needsWork owner.state = true →
      ∃ work row, OnlyLive system.db id work row ∧ Fits owner row) ∧
    ∀ session request after row owner,
      commit session (.forceDelete request) system.db = .ok after →
      system.db.materializations.find? request.materializationId = some row →
      row.state ≠ .deleted → system.db.instances.find? row.instanceId = some owner →
      needsWork owner.state = true →
      ∀ later, jobSystem.Path (keepsInstance row.instanceId) { system with db := after } later →
        later.db.instances.find? row.instanceId = some owner ∧
          ∀ work other, ¬Live later.db row.instanceId work other := by
  have sound := jobsSound_of_reachableUnder reached
  constructor
  · intro id owner found needed
    obtain ⟨work, row, live⟩ := (sound.agrees id).present found needed
    exact ⟨work, row, sound.onlyLive live, (sound.agrees id).fits live.1 live.2.1 live.2.2 found⟩
  · intro session request after row owner committed found live owned needed later path
    have wf := (commit_refines sound.wellFormed.keyed committed).wellFormed sound.wellFormed
    have stranded := (stranded_of_forceDelete sound committed found live owned needed).path wf path
    refine ⟨stranded.found, ?_⟩
    intro work other otherLive
    exact otherLive.2.2 (stranded.idle work other otherLive.1 otherLive.2.1)

/-! ### Executing runs -/

def performOverride (label : Option (Session × Op)) (system : Jobs) : Option Jobs :=
  match label with
  | none => none
  | some (session, op) =>
    if op.isForce = true ∨ (isJobOp op = false ∧ isManualSleep op = false) then
      match commit session op system.db with
      | .ok after => some { system with db := after }
      | .error _ => none
    else none

theorem performOverride_step (label : Option (Session × Op)) (system next : Jobs)
    (performed : performOverride label system = some next) :
    overrideSystem.step label system next := by
  unfold performOverride at performed
  split at performed
  · cases performed
  next session op =>
    split at performed
    next allowed =>
      split at performed
      next after committed =>
        cases performed
        cases force : op.isForce with
        | true => exact .forced force committed
        | false =>
          obtain ⟨other, automatic⟩ := allowed.resolve_left (by rw [force]; decide)
          exact .job (.stored force other automatic committed)
      · cases performed
    · cases performed

namespace Sample

open Store.Sample

def forceDelete : Op := .forceDelete ⟨work, "operator", "cleanup inspected"⟩

def recreateWeb : Op :=
  .createInstance
    { idempotencyKey := ⟨⟨"recreate-web", by decide⟩⟩
      instanceId := web
      workloadClass := { classId := "service", version := 1 }
      values := []
      routeBindings := [] } (.ok [])

def deletion (generation : Nat) : Op := .requestInstanceDeletion ⟨web, generation⟩

def accepted : List JobEvent :=
  [.store (session 0) createWeb, .store (session 1) (wakeFrom 0 1)]

def forceable (system : Jobs) : Bool :=
  ((system.db.instances.find? web).any fun owner => decide (owner.state = .waking)) &&
    ((system.db.materializations.find? work).any fun row =>
      decide (row.state ≠ .deleted) && decide (row.instanceId = web)) &&
    (commit (session 2) forceDelete system.db).toOption.isSome

/-- The work is force deleted while the instance is deleted; then it is created and woken again. -/
def deletingForced : List (Option (Session × Op)) :=
  [some (session 0, createWeb), some (session 1, wakeFrom 0 1), some (session 2, deletion 1),
    some (session 3, forceDelete), some (session 4, .finalizeInstanceDeletions 10 fun _ => false),
    some (session 5, recreateWeb), some (session 6, wakeFrom 3 4)]

def isWaking (system : Jobs) : Bool :=
  (system.db.instances.find? web).any fun owner => decide (owner.state = .waking)

end Sample

theorem forced_deletion_strands_a_waking_instance :
    ∃ system owner after, jobSystem.Reachable (fun _ => True) system ∧
      commit (Store.Sample.session 2) Sample.forceDelete system.db = .ok after ∧
      owner.state = .waking ∧
      ∀ later, jobSystem.Path (keepsInstance Store.Sample.web) { system with db := after } later →
        later.db.instances.find? Store.Sample.web = some owner ∧
          ∀ work row, ¬Live later.db Store.Sample.web work row := by
  have forced : (runJobs (fun _ => true) Sample.accepted Jobs.fresh).any Sample.forceable = true := by
    decide
  obtain ⟨system, ran, forceable⟩ := (Option.any_eq_true _ _).mp forced
  have reachable : jobSystem.Reachable (fun _ => True) system :=
    ⟨Jobs.fresh, rfl, (runJobs_path ran).mono fun _ _ => trivial⟩
  have sound := jobsSound_of_reachable reachable
  simp only [Sample.forceable, Bool.and_eq_true, Option.any_eq_true, decide_eq_true_eq] at forceable
  obtain ⟨⟨⟨owner, found, waking⟩, row, stored, live, owned⟩, commits⟩ := forceable
  obtain ⟨after, returned⟩ := Option.isSome_iff_exists.mp commits
  have committed := toOption_eq_some.mp returned
  rw [← owned] at found ⊢
  have stranded := stranded_of_forceDelete sound committed stored live found (by rw [waking]; rfl)
  have wf := (commit_refines sound.wellFormed.keyed committed).wellFormed sound.wellFormed
  refine ⟨system, owner, after, reachable, committed, waking, fun later path => ?_⟩
  have still := stranded.path wf path
  exact ⟨still.found, fun work other otherLive =>
    otherLive.2.2 (still.idle work other otherLive.1 otherLive.2.1)⟩

theorem sample_needed_work_outlives_overrides :
    ∃ system owner work row, overrideSystem.ReachableUnder sparesNeeded system ∧
      owner.state = .waking ∧ OnlyLive system.db Store.Sample.web work row ∧ Fits owner row := by
  have run : ∃ system, overrideSystem.ReachableUnder sparesNeeded system ∧
      Sample.isWaking system = true :=
    TransitionSystem.exists_reachableUnder_of_run performOverride_step rfl Sample.deletingForced _
      (by decide)
  obtain ⟨system, reached, waking⟩ := run
  simp only [Sample.isWaking, Option.any_eq_true, decide_eq_true_eq] at waking
  obtain ⟨owner, found, state⟩ := waking
  obtain ⟨work, row, only, fits⟩ := (needed_work_outlives_overrides reached).1 Store.Sample.web owner
    found (by rw [state]; rfl)
  exact ⟨system, owner, work, row, reached, state, only, fits⟩

end Sleepypods.Reconciler
