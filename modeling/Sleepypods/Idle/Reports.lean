import Sleepypods.Idle.SleepPolicy
import Sleepypods.Lifecycle.Schedules
import Sleepypods.Lifecycle.Stamps

/-! Idle reports of sidecars. A report reads the instance, checks the reporting member against the
store and Kubernetes, and only then asks the store to begin the sleep; each of these is an await,
between which everything else may happen, and a report may be delivered any number of times. -/

set_option autoImplicit false

namespace Sleepypods.Idle

open Library Library.Fallible Store Lifecycle

structure ReportIdleRequest where
  instanceId : InstanceId
  expectedGeneration : Nat
  activeCount : Nat
  podUid : String

inductive UnavailableReason where
  | cold
  | waking
  | draining
  | failed
  | deleting
  | deleted

inductive ReportIdleResult where
  | accepted (current : InstanceRow)
  | alreadyDraining (current : InstanceRow)
  | unavailable (current : InstanceRow) (reason : UnavailableReason)

/-- Why a class does not validate: the texts of its template and key contracts are not modelled. -/
inductive ClassError where
  | contract (message : String)
  | sleepPolicy (error : SleepPolicyError)

inductive UnsupportedSleep where
  | message (text : String)
  | invalidClass (error : ClassError)

inductive ReportIdleError where
  | activeRequestsPresent (activeCount : Nat)
  | notFound
  | workloadClassNotFound
  | sleepPolicy (error : SleepPolicyError)
  | unsupportedSleep (problem : UnsupportedSleep)
  | generationConflict (expected actual : Nat)
  | store (error : StoreError)

abbrev Outcome := Except ReportIdleError ReportIdleResult

/-- What a report reads of a class: whether its contracts hold, and its sleep policy. -/
structure WorkloadClassVersion where
  templateContract : Except String Unit
  sleepPolicy : WorkloadSleepPolicy
  keyContract : Except String Unit

def WorkloadClassVersion.validate (version : WorkloadClassVersion) : Except ClassError Unit := do
  version.templateContract.mapError .contract
  version.sleepPolicy.validate.mapError .sleepPolicy
  version.keyContract.mapError .contract

/-- The class versions that exist; a version never changes. -/
abbrev Classes := WorkloadClassVersionRef → Option WorkloadClassVersion

def unavailableReasonForState : (state : InstanceState) → state ≠ .running → UnavailableReason
  | .cold, _ => .cold
  | .waking, _ => .waking
  | .running, awake => absurd rfl awake
  | .draining, _ => .draining
  | .failed, _ => .failed
  | .deleting, _ => .deleting
  | .deleted, _ => .deleted

/-- `u64::checked_add`. -/
def checkedAdd (value amount : Nat) : Option Nat :=
  if value + amount < 2 ^ 64 then some (value + amount) else none

def generationMismatchResult (request : ReportIdleRequest) (current : InstanceRow) : Outcome :=
  if checkedAdd request.expectedGeneration 1 = some current.generation ∧
      current.state = .draining then .ok (.alreadyDraining current)
  else if checkedAdd request.expectedGeneration 2 = some current.generation ∧
      current.state = .cold then .ok (.accepted current)
  else .error (.generationConflict request.expectedGeneration current.generation)

/-- `INITIAL_ACTIVATION_TIMEOUT`, in milliseconds. -/
def initialActivationTimeoutMs : Nat := 190000

def Duration.fromMillis (millis : Nat) : Duration := millis * 1000000

def ResolvedSleepPolicy.minimumReadyAge (policy : ResolvedSleepPolicy) : Duration :=
  max (Duration.fromMillis policy.idleTimeoutMs) (Duration.fromMillis initialActivationTimeoutMs)

/-! ### One report -/

inductive IdlePhase where
  /-- `load_instance`. -/
  | loading
  /-- `verify_idle_member`: the class. -/
  | verifying (current : InstanceRow)
  /-- `verify_idle_member`: the active materialization. -/
  | checking (current : InstanceRow) (version : WorkloadClassVersion)
  /-- `verify_idle_member`: the work status. -/
  | aging (current : InstanceRow) (id : MaterializationId) (policy : ResolvedSleepPolicy)
  /-- `verify_idle_member`: the member in Kubernetes. -/
  | inspecting (current : InstanceRow)
  /-- `begin_running_sleep`: the class, again. -/
  | resolving (current : InstanceRow)
  /-- `begin_running_sleep`: the store's `begin_sleep`. -/
  | sleeping (current : InstanceRow) (policy : ResolvedSleepPolicy)
  /-- `begin_running_sleep`: the instance, after a conflict with the next generation. -/
  | reloading (expected actual : Nat)
  | done (outcome : Outcome)

structure Report where
  target : MaterializationTarget
  request : ReportIdleRequest
  phase : IdlePhase

namespace Report

def start (target : MaterializationTarget) (request : ReportIdleRequest) : Report where
  target := target
  request := request
  phase :=
    if request.activeCount > 0 then .done (.error (.activeRequestsPresent request.activeCount))
    else .loading

variable (report : Report)

def unsupported (text : String) : IdlePhase := .done (.error (.unsupportedSleep (.message text)))

def loaded : Option InstanceRow → IdlePhase
  | none => .done (.error .notFound)
  | some current =>
    if awake : current.state = .running then
      if isBlank report.request.podUid then
        unsupported "pod_uid is required; legacy sidecars cannot authorize automatic sleep"
      else .verifying current
    else if current.generation ≠ report.request.expectedGeneration then
      .done (generationMismatchResult report.request current)
    else .done (.ok (.unavailable current (unavailableReasonForState current.state awake)))

def classLoaded (current : InstanceRow) : Option WorkloadClassVersion → IdlePhase
  | none => .done (.error .workloadClassNotFound)
  | some version =>
    match version.validate with
    | .error error => .done (.error (.unsupportedSleep (.invalidClass error)))
    | .ok () => .checking current version

def materializationLoaded (current : InstanceRow) (version : WorkloadClassVersion) :
    Option (MaterializationId × MaterializationRow) → IdlePhase
  | none => unsupported "automatic sleep requires an active Ready materialization"
  | some (id, row) =>
    if row.state ≠ .ready ∨ row.instanceGeneration ≠ current.generation then
      unsupported "active materialization does not match the running generation"
    else if row.projectionGeneration ≠ report.request.expectedGeneration then
      .done (.error (.generationConflict report.request.expectedGeneration
        row.projectionGeneration))
    else
      match version.sleepPolicy.resolve current.values with
      | .error error => .done (.error (.sleepPolicy error))
      | .ok policy => .aging current id policy

/-- The age of a ready row by the database clock, in milliseconds. -/
def readyAge (session : Session) (row : MaterializationRow) : Option Nat :=
  if row.state = .ready then some (session.now - row.schedule.stateEnteredAt).toNat else none

def statusLoaded (current : InstanceRow) (policy : ResolvedSleepPolicy) : Option Nat → IdlePhase
  | none => .inspecting current
  | some age =>
    if Duration.fromMillis age < policy.minimumReadyAge then
      .done (.error (.store (.sleepDeferred
        (Duration.asMillis (policy.minimumReadyAge - Duration.fromMillis age)))))
    else .inspecting current

def memberVerified (current : InstanceRow) : Except String Unit → IdlePhase
  | .error message => unsupported message
  | .ok () => .resolving current

def policyLoaded (current : InstanceRow) : Option WorkloadClassVersion → IdlePhase
  | none => .done (.error .workloadClassNotFound)
  | some version =>
    match version.sleepPolicy.resolve current.values with
    | .error error => .done (.error (.sleepPolicy error))
    | .ok policy => .sleeping current policy

def sleepRequest (current : InstanceRow) (policy : ResolvedSleepPolicy) : BeginSleepRequest where
  instanceId := report.request.instanceId
  expectedRunningGeneration := current.generation
  target := report.target
  drainGraceTimeout := Duration.fromMillis policy.drainGraceTimeoutMs
  minimumReadyAge := some policy.minimumReadyAge

def sleepFailed : StoreError → IdlePhase
  | .notFound _ => .done (.error .notFound)
  | .generationConflict expected actual =>
    if actual = expected + 1 then .reloading expected actual
    else .done (.error (.generationConflict expected actual))
  | error => .done (.error (.store error))

def reloaded (expected actual : Nat) : Option InstanceRow → IdlePhase
  | none => .done (.error .notFound)
  | some current =>
    if current.generation = actual then .done (generationMismatchResult report.request current)
    else .done (.error (.generationConflict expected actual))

def activeMaterialization (db : Database) (id : InstanceId) (target : MaterializationTarget) :
    Option (MaterializationId × MaterializationRow) :=
  (findByTarget db id target).filter fun entry => decide (entry.2.state ≠ .deleted)

def call (classes : Classes) (session : Session) (db : Database) : IdlePhase × Database :=
  match report.phase with
  | .loading => (report.loaded (db.instances.find? report.request.instanceId), db)
  | .verifying current => (classLoaded current (classes current.workloadClass), db)
  | .checking current version =>
    (report.materializationLoaded current version
      (activeMaterialization db report.request.instanceId report.target), db)
  | .aging current id policy =>
    (statusLoaded current policy ((db.materializations.find? id).bind (readyAge session)), db)
  | .resolving current => (policyLoaded current (classes current.workloadClass), db)
  | .sleeping current policy =>
    match beginSleep session (report.sleepRequest current policy) db with
    | .ok ((drained, _), after) => (.done (.ok (.accepted drained)), after)
    | .error error => (sleepFailed error, db)
  | .reloading expected actual =>
    (report.reloaded expected actual (db.instances.find? report.request.instanceId), db)
  | .inspecting current => (.inspecting current, db)
  | .done outcome => (.done outcome, db)

/-- The call a report awaits fails before it reaches the store, or its answer is an error. -/
def fail (error : StoreError) : IdlePhase :=
  match report.phase with
  | .sleeping _ _ => sleepFailed error
  | .inspecting current => .inspecting current
  | .done outcome => .done outcome
  | _ => .done (.error (.store error))

end Report

structure Reports where
  db : Database
  /-- When the state of each row was entered, as an observer of all transactions saw it. -/
  entered : MaterializationId → Option Int
  reports : Nat → Option Report

namespace Reports

def fresh : Reports where
  db := .empty
  entered := fun _ => none
  reports := fun _ => none

def stateOf (db : Database) (id : MaterializationId) : Option MaterializationState :=
  (db.materializations.find? id).map MaterializationRow.state

/-- A transaction commits; the rows whose state it changed entered it now. -/
def committed (system : Reports) (session : Session) (after : Database) : Reports :=
  { system with
    db := after
    entered := fun id =>
      if stateOf after id = stateOf system.db id then system.entered id else some session.now }

def setReport (system : Reports) (index : Nat) (report : Report) : Reports :=
  { system with reports := Function.update system.reports index (some report) }

end Reports

/-- Steps of a report are labelled with the report and the session that executes its call. -/
inductive IdleStep (classes : Classes) : Option (Nat × Session) → Reports → Reports → Prop where
  /-- Any transaction of anybody else. -/
  | stored {system : Reports} {session : Session} {op : Op} {after : Database}
      (committed : commit session op system.db = .ok after) :
      IdleStep classes none system (system.committed session after)
  | received {system : Reports} {index : Nat} {target : MaterializationTarget}
      {request : ReportIdleRequest} (fresh : system.reports index = none) :
      IdleStep classes none system (system.setReport index (.start target request))
  | called {system : Reports} {session : Session} {index : Nat} {report : Report}
      (found : system.reports index = some report) :
      IdleStep classes (some (index, session)) system
        ((system.committed session (report.call classes session system.db).2).setReport index
          { report with phase := (report.call classes session system.db).1 })
  /-- The sleep is committed, and its answer is lost or the call is tried again. -/
  | lost {system : Reports} {session : Session} {index : Nat} {report : Report}
      {current : InstanceRow} {policy : ResolvedSleepPolicy}
      {result : InstanceRow × Option MaterializationRow} {after : Database}
      (found : system.reports index = some report)
      (sleeping : report.phase = .sleeping current policy)
      (begun : beginSleep session (report.sleepRequest current policy) system.db =
        .ok (result, after)) :
      IdleStep classes (some (index, session)) system (system.committed session after)
  | failed {system : Reports} {session : Session} {index : Nat} {report : Report}
      {error : StoreError} (found : system.reports index = some report) :
      IdleStep classes (some (index, session)) system
        (system.setReport index { report with phase := report.fail error })
  | inspected {system : Reports} {session : Session} {index : Nat} {report : Report}
      {current : InstanceRow} {answer : Except String Unit}
      (found : system.reports index = some report)
      (inspecting : report.phase = .inspecting current) :
      IdleStep classes (some (index, session)) system
        (system.setReport index { report with phase := Report.memberVerified current answer })

def idleSystem (classes : Classes) : TransitionSystem Reports (Option (Nat × Session)) where
  initial system := system = .fresh
  step := IdleStep classes

end Sleepypods.Idle
