import Sleepypods.Idle.Reports
import Sleepypods.Lifecycle.WakeAcceptance

/-! Automatic sleep is sound: whatever happens between the checks of a report and its transaction,
the instance that falls asleep runs at the generation the reporting sidecar was stamped with, and
its work has been ready for long enough. -/

set_option autoImplicit false

namespace Sleepypods.Idle

open Library Library.Fallible Store Lifecycle IdlePhase

/-- A record read earlier: an instance that still has its generation is still that record. -/
structure ReadOnce (id : InstanceId) (record : InstanceRow) (state : State) : Prop where
  reached : ∃ watermark, state.watermarks id = some watermark ∧
    record.generation ≤ watermark.lastGeneration
  same : ∀ owner, state.instances id = some owner → owner.generation = record.generation →
    owner = record

variable {id : InstanceId}

theorem readOnce_of_found {record : InstanceRow} {state : State} (wf : WellFormed state)
    (found : state.instances id = some record) : ReadOnce id record state := by
  obtain ⟨watermark, watermarkFound, last⟩ := wf.watermarked found
  refine ⟨⟨watermark, watermarkFound, last.ge⟩, fun owner ownerFound _ => ?_⟩
  exact Option.some.inj (ownerFound.symm.trans found)

variable {op : Op}

theorem ReadOnce.step {record : InstanceRow} {session : Session} {state next : State}
    (once : ReadOnce id record state) (wf : WellFormed state) (step : Step session op state next) :
    ReadOnce id record next := by
  obtain ⟨watermark, found, reached⟩ := once.reached
  constructor
  · obtain ⟨later, laterFound, grown⟩ := step.grows id watermark found
    exact ⟨later, laterFound, reached.trans grown⟩
  · intro owner ownerFound generation
    rcases step.instance_eq_or_above wf ownerFound with kept | above
    · exact once.same owner kept generation
    · have later := above watermark found
      omega

/-! ### What a report knows -/

def IdlePhase.record : IdlePhase → Option InstanceRow
  | .verifying current | .checking current _ | .aging current _ _ | .inspecting current
  | .resolving current | .sleeping current _ => some current
  | .loading | .reloading _ _ | .done _ => none

def IdlePhase.checked : IdlePhase → Option InstanceRow
  | .aging current _ _ | .inspecting current | .resolving current | .sleeping current _ =>
    some current
  | _ => none

theorem IdlePhase.record_of_checked {phase : IdlePhase} {current : InstanceRow}
    (held : phase.checked = some current) : phase.record = some current := by
  cases phase <;> first | exact held | cases held

def resolvedPolicy (classes : Classes) (current : InstanceRow) (policy : ResolvedSleepPolicy) :
    Prop :=
  ∃ version, classes current.workloadClass = some version ∧
    version.sleepPolicy.resolve current.values = .ok policy

structure Report.Sound (report : Report) (classes : Classes) (state : State) : Prop where
  once : ∀ current, report.phase.record = some current →
    ReadOnce report.request.instanceId current state
  stamped : ∀ current, report.phase.checked = some current →
    current.generation = report.request.expectedGeneration
  policy : ∀ current policy, report.phase = .sleeping current policy →
    resolvedPolicy classes current policy

namespace Report.Sound

variable {report : Report} {classes : Classes} {state : State}

theorem step (sound : report.Sound classes state) (wf : WellFormed state) {session : Session}
    {next : State} (step : Step session op state next) : report.Sound classes next :=
  ⟨fun current held => (sound.once current held).step wf step, sound.stamped, sound.policy⟩

theorem of_no_record (none : report.phase.record = none) : report.Sound classes state := by
  refine ⟨fun current held => ?_, fun current held => ?_, fun current policy same => ?_⟩
  · cases none.symm.trans held
  · cases none.symm.trans (record_of_checked held)
  · rw [same] at none
    cases none

variable {current : InstanceRow}

theorem advance (sound : report.Sound classes state) {phase : IdlePhase}
    (before : report.phase.record = some current) (after : phase.record = some current)
    (stamped : phase.checked = some current →
      current.generation = report.request.expectedGeneration)
    (policy : ∀ policy, phase = .sleeping current policy → resolvedPolicy classes current policy) :
    ({ report with phase := phase } : Report).Sound classes state := by
  refine ⟨fun other held => ?_, fun other held => ?_, fun other otherPolicy same => ?_⟩
  · cases after.symm.trans held
    exact sound.once current before
  · cases after.symm.trans (record_of_checked held)
    exact stamped held
  · change phase = .sleeping other otherPolicy at same
    subst same
    cases after
    exact policy otherPolicy rfl

theorem sleepFailed (error : StoreError) :
    ({ report with phase := Report.sleepFailed error } : Report).Sound classes state := by
  apply of_no_record
  unfold Report.sleepFailed
  split
  · rfl
  · split <;> rfl
  · rfl

theorem start (target : MaterializationTarget) (request : ReportIdleRequest) :
    (Report.start target request).Sound classes state := by
  apply of_no_record
  unfold Report.start
  dsimp only
  split <;> rfl

variable {found : Option InstanceRow}

theorem loaded (wf : WellFormed state) (read : state.instances report.request.instanceId = found) :
    ({ report with phase := report.loaded found } : Report).Sound classes state := by
  unfold Report.loaded
  split
  · exact of_no_record rfl
  next current =>
    split
    · split
      · exact of_no_record rfl
      · refine ⟨fun other held => ?_, nofun, nofun⟩
        cases held
        exact readOnce_of_found wf read
    · split
      · exact of_no_record rfl
      · exact of_no_record rfl

theorem classLoaded (sound : report.Sound classes state)
    (verifying : report.phase = .verifying current) (found : Option WorkloadClassVersion) :
    ({ report with phase := Report.classLoaded current found } : Report).Sound classes state := by
  unfold Report.classLoaded
  split
  · exact of_no_record rfl
  · split
    · exact of_no_record rfl
    · exact sound.advance (congrArg record verifying) rfl nofun nofun

/-- The member is checked: a ready row is stamped with the generation its instance runs at. -/
theorem materializationLoaded {db : Database} (sound : report.Sound classes (view db))
    (stamped : AllStamped (view db)) {version : WorkloadClassVersion}
    (checking : report.phase = .checking current version) : ({ report with
        phase := report.materializationLoaded current version
          (Report.activeMaterialization db report.request.instanceId report.target) } :
      Report).Sound classes (view db) := by
  have record : report.phase.record = some current := congrArg record checking
  unfold Report.materializationLoaded
  split
  · exact of_no_record rfl
  next id row active =>
    split
    · exact of_no_record rfl
    next matching =>
      split
      · exact of_no_record rfl
      next projected =>
        split
        · exact of_no_record rfl
        · refine sound.advance record rfl (fun _ => ?_) nofun
          rw [not_or, not_not, not_not] at matching
          obtain ⟨selected, -⟩ := Option.filter_eq_some_iff.mp active
          obtain ⟨found, -, -⟩ := work_of_findByTarget selected
          have own := (stamped.rows found).ready matching.1
          rw [← matching.2, ← own]
          exact not_not.mp projected

section

variable (sound : report.Sound classes state)

include sound

theorem statusLoaded {id : MaterializationId} {policy : ResolvedSleepPolicy}
    (aging : report.phase = .aging current id policy) (age : Option Nat) :
    ({ report with phase := Report.statusLoaded current policy age } : Report).Sound classes
      state := by
  have stamped := sound.stamped current (congrArg checked aging)
  have record : report.phase.record = some current := congrArg record aging
  unfold Report.statusLoaded
  split
  · exact sound.advance record rfl (fun _ => stamped) nofun
  · split
    · exact of_no_record rfl
    · exact sound.advance record rfl (fun _ => stamped) nofun

theorem memberVerified (inspecting : report.phase = .inspecting current)
    (answer : Except String Unit) :
    ({ report with phase := Report.memberVerified current answer } : Report).Sound classes
      state := by
  unfold Report.memberVerified
  split
  · exact of_no_record rfl
  · exact sound.advance (congrArg record inspecting) rfl
      (fun _ => sound.stamped current (congrArg checked inspecting)) nofun

theorem policyLoaded (resolving : report.phase = .resolving current) :
    ({ report with phase := Report.policyLoaded current (classes current.workloadClass) } :
      Report).Sound classes state := by
  unfold Report.policyLoaded
  split
  · exact of_no_record rfl
  next version found =>
    split
    · exact of_no_record rfl
    next policy resolved =>
      refine sound.advance (congrArg record resolving) rfl
        (fun _ => sound.stamped current (congrArg checked resolving)) ?_
      intro other same
      cases same
      exact ⟨version, found, resolved⟩

end

theorem reloaded {expected actual : Nat} :
    ({ report with phase := report.reloaded expected actual found } : Report).Sound classes
      state := by
  apply of_no_record
  unfold Report.reloaded
  split
  · rfl
  · split <;> rfl

theorem call {db : Database} (sound : report.Sound classes (view db)) (wf : WellFormed (view db))
    (stamped : AllStamped (view db)) (session : Session) (later : State)
    (kept : (report.call classes session db).2 = db → later = view db) :
    ({ report with phase := (report.call classes session db).1 } : Report).Sound classes
      later := by
  unfold Report.call at kept ⊢
  cases phase : report.phase
  case sleeping =>
    dsimp only
    split
    · exact of_no_record rfl
    · exact sleepFailed _
  case reloading => exact reloaded
  case done => exact of_no_record rfl
  -- The other calls only read.
  all_goals
    rw [phase] at kept
    rw [kept rfl]
  case loading => exact loaded wf rfl
  case verifying => exact sound.classLoaded phase _
  case checking => exact sound.materializationLoaded stamped phase
  case aging => exact sound.statusLoaded phase _
  case inspecting current =>
    refine sound.advance (congrArg record phase) rfl (fun _ => ?_) nofun
    exact sound.stamped current (congrArg checked phase)
  case resolving => exact sound.policyLoaded phase

theorem fail (sound : report.Sound classes state) (error : StoreError) :
    ({ report with phase := report.fail error } : Report).Sound classes state := by
  unfold Report.fail
  split
  · exact sleepFailed error
  next current inspecting =>
    refine sound.advance (congrArg record inspecting) rfl (fun _ => ?_) nofun
    exact sound.stamped current (congrArg checked inspecting)
  · exact of_no_record rfl
  · exact of_no_record rfl

end Report.Sound

/-! ### Steps and runs -/

structure ReportsSound (classes : Classes) (system : Reports) : Prop where
  wellFormed : WellFormed (view system.db)
  stamped : AllStamped (view system.db)
  entered : ∀ id row, system.db.materializations.find? id = some row →
    system.entered id = some row.schedule.stateEnteredAt
  reports : ∀ index report, system.reports index = some report →
    report.Sound classes (view system.db)

theorem Report.call_db (report : Report) (classes : Classes) (session : Session) (db : Database) :
    (report.call classes session db).2 = db ∨
      ∃ current policy result, report.phase = .sleeping current policy ∧
        beginSleep session (report.sleepRequest current policy) db =
          .ok (result, (report.call classes session db).2) := by
  unfold Report.call
  cases phase : report.phase with
  | sleeping current policy =>
    dsimp only
    split
    next drained marked after begun => exact .inr ⟨current, policy, _, rfl, begun⟩
    · exact .inl rfl
  | loading | verifying | checking | aging | inspecting | resolving | reloading | done =>
    exact .inl rfl

variable {after db : Database} {result : InstanceRow × Option MaterializationRow}

theorem commit_beginSleep {session : Session} {request : BeginSleepRequest}
    (begun : beginSleep session request db = .ok (result, after)) :
    commit session (.beginSleep request) db = .ok after :=
  map_snd_eq_ok.mpr ⟨result, begun⟩

namespace ReportsSound

variable {classes : Classes} {system : Reports}

theorem committed (sound : ReportsSound classes system) {session : Session} {after : Database}
    (committed : commit session op system.db = .ok after) :
    ReportsSound classes (system.committed session after) := by
  have step := commit_refines sound.wellFormed.keyed committed
  refine ⟨step.wellFormed sound.wellFormed, step.allStamped sound.stamped, ?_, ?_⟩
  · intro id row stored
    have now : Reports.stateOf after id = some row.state := congrArg (Option.map _) stored
    change (if Reports.stateOf after id = Reports.stateOf system.db id then system.entered id
      else some session.now) = _
    rw [now]
    rcases (commit_rowChange sound.wellFormed committed stored).entered with
      ⟨old, found, same, kept⟩ | ⟨entered, moved⟩
    · have before : Reports.stateOf system.db id = some old.state := congrArg (Option.map _) found
      rw [before, same, if_pos rfl, kept]
      exact sound.entered id old found
    · rw [if_neg, entered]
      intro unchanged
      obtain ⟨old, found, state⟩ := Option.map_eq_some_iff.mp unchanged.symm
      exact moved old found state
  · intro index report found
    exact (sound.reports index report found).step sound.wellFormed step

theorem setReport (sound : ReportsSound classes system) {index : Nat} {report : Report}
    (reportSound : report.Sound classes (view system.db)) :
    ReportsSound classes (system.setReport index report) := by
  refine ⟨sound.wellFormed, sound.stamped, sound.entered, ?_⟩
  intro other otherReport found
  by_cases same : other = index
  · subst same
    cases (Function.update_self ..).symm.trans found
    exact reportSound
  · exact sound.reports other otherReport ((Function.update_of_ne same ..).symm.trans found)

end ReportsSound

variable {label : Option (Nat × Session)} {next system : Reports}

section

variable {classes : Classes}

theorem IdleStep.sound (step : IdleStep classes label system next)
    (sound : ReportsSound classes system) : ReportsSound classes next := by
  cases step with
  | stored committed => exact sound.committed committed
  | received => exact sound.setReport (Report.Sound.start _ _)
  | called found =>
    rename_i session index report
    have reportSound := sound.reports index report found
    rcases report.call_db classes session system.db with same | ⟨current, policy, _, _, begun⟩
    · have kept : system.committed session (report.call classes session system.db).2 = system := by
        simp [same, Reports.committed]
      rw [kept]
      exact sound.setReport
        (reportSound.call sound.wellFormed sound.stamped session _ fun _ => rfl)
    · refine (sound.committed (commit_beginSleep begun)).setReport ?_
      exact reportSound.call sound.wellFormed sound.stamped session _ fun same =>
        congrArg view same
  | lost _ _ begun => exact sound.committed (commit_beginSleep begun)
  | failed found => exact sound.setReport ((sound.reports _ _ found).fail _)
  | inspected found inspecting =>
    exact sound.setReport ((sound.reports _ _ found).memberVerified inspecting _)

theorem reportsSound_of_reachable
    (reached : (idleSystem classes).Reachable (fun _ => True) system) :
    ReportsSound classes system := by
  apply reached.invariant
  · rintro _ rfl
    refine ⟨wellFormed_empty, allStamped_empty, ?_, ?_⟩
    · intro id row found
      cases found
    · intro index report found
      cases found
  · intro label before next _ sound step
    exact IdleStep.sound step sound

/-- The conditions under which a report may put its instance to sleep, at the commit. -/
structure SoundSleep (classes : Classes) (session : Session) (report : Report) (system : Reports)
    (after : Database) (owner : InstanceRow) (row : MaterializationRow)
    (policy : ResolvedSleepPolicy) : Prop where
  found : system.db.instances.find? report.request.instanceId = some owner
  running : owner.state = .running
  stamped : owner.generation = report.request.expectedGeneration
  materialized : system.db.materializations.find?
    (materializationId report.request.instanceId report.target) = some row
  ready : row.state = .ready
  rowStamped : row.instanceGeneration = report.request.expectedGeneration
  projected : row.projectionGeneration = report.request.expectedGeneration
  resolved : resolvedPolicy classes owner policy
  aged : ∃ entered,
    system.entered (materializationId report.request.instanceId report.target) = some entered ∧
      entered + (max policy.idleTimeoutMs initialActivationTimeoutMs : Nat) ≤ session.now
  drained : after.instances.find? report.request.instanceId =
    some { owner with state := .draining, generation := owner.generation + 1 }

theorem asMillis_minimumReadyAge (policy : ResolvedSleepPolicy) :
    Store.Duration.asMillis policy.minimumReadyAge =
      max policy.idleTimeoutMs initialActivationTimeoutMs := by
  unfold ResolvedSleepPolicy.minimumReadyAge Duration.fromMillis Store.Duration.asMillis
  omega

variable {session : Session} {report : Report} {index : Nat}

theorem soundSleep_of_begun (sound : ReportsSound classes system)
    (found : system.reports index = some report) {current : InstanceRow}
    {policy : ResolvedSleepPolicy} (sleeping : report.phase = .sleeping current policy)
    (begun : beginSleep session (report.sleepRequest current policy) system.db =
      .ok (result, after)) :
    ∃ row, SoundSleep classes session report system after current row policy := by
  have reportSound := sound.reports index report found
  have stamped := reportSound.stamped current (congrArg checked sleeping)
  obtain ⟨owner, ownerFound, running, expected, ⟨manual, -⟩ | ⟨work, row, rowFound, owned, targeted,
    live, rowStamped, ready, viewed⟩⟩ := beginSleep_ok sound.wellFormed.keyed begun
  · cases manual
  have same : owner = current :=
    (reportSound.once current (congrArg record sleeping)).same owner ownerFound expected
  subst same
  obtain ⟨isReady, aged⟩ := ready _ rfl
  have keyed : work = materializationId report.request.instanceId report.target := by
    rw [sound.wellFormed.keyed work row rowFound, owned, targeted]
    rfl
  subst keyed
  rw [asMillis_minimumReadyAge] at aged
  have generation : row.instanceGeneration = report.request.expectedGeneration :=
    rowStamped.trans stamped
  refine ⟨row, ownerFound, running, stamped, rowFound, isReady, generation, ?_,
    reportSound.policy owner policy sleeping, ⟨_, sound.entered _ row rowFound, aged⟩, ?_⟩
  · exact ((sound.stamped.rows rowFound).ready isReady).trans generation
  · have advanced := congrArg (fun state => state.instances report.request.instanceId) viewed
    exact advanced.trans (State.instances_advance_self rfl)

theorem IdleStep.sleeps (step : IdleStep classes (some (index, session)) system next)
    (sound : ReportsSound classes system) (found : system.reports index = some report) :
    next.db = system.db ∨
      ∃ owner row policy, SoundSleep classes session report system next.db owner row policy := by
  cases step with
  | called there =>
    cases found.symm.trans there
    rcases report.call_db classes session system.db with same | ⟨current, policy, _, sleeping, begun⟩
    · exact .inl same
    · obtain ⟨row, sleeps⟩ := soundSleep_of_begun sound found sleeping begun
      exact .inr ⟨current, row, policy, sleeps⟩
  | lost there sleeping begun =>
    cases found.symm.trans there
    obtain ⟨row, sleeps⟩ := soundSleep_of_begun sound found sleeping begun
    exact .inr ⟨_, row, _, sleeps⟩
  | failed | inspected => exact .inl rfl

/-! ### Outdated reports -/

def Outdated (id : InstanceId) (generation : Nat) (state : State) : Prop :=
  ∃ watermark, state.watermarks id = some watermark ∧ generation < watermark.lastGeneration

variable {generation : Nat}

theorem outdated_of_found {owner : InstanceRow} {state : State} (wf : WellFormed state)
    (found : state.instances id = some owner) (newer : generation < owner.generation) : Outdated id generation state := by
  obtain ⟨watermark, watermarkFound, last⟩ := wf.watermarked found
  exact ⟨watermark, watermarkFound, last ▸ newer⟩

theorem Outdated.committed (outdated : Outdated id generation (view db)) (wf : WellFormed (view db))
    (committed : commit session op db = .ok after) : Outdated id generation (view after) := by
  obtain ⟨watermark, found, newer⟩ := outdated
  obtain ⟨later, laterFound, grown⟩ := (commit_refines wf.keyed committed).grows id watermark found
  exact ⟨later, laterFound, Nat.lt_of_lt_of_le newer grown⟩

theorem IdleStep.outdated (step : IdleStep classes label system next)
    (wf : WellFormed (view system.db)) (outdated : Outdated id generation (view system.db)) :
    Outdated id generation (view next.db) := by
  cases step with
  | stored committed => exact outdated.committed wf committed
  | called found =>
    rename_i session index report
    rcases report.call_db classes session system.db with same | ⟨_, _, _, _, begun⟩
    · change Outdated id generation (view (report.call classes session system.db).2)
      rw [same]
      exact outdated
    · exact outdated.committed wf (commit_beginSleep begun)
  | lost _ _ begun => exact outdated.committed wf (commit_beginSleep begun)
  | received | failed | inspected => exact outdated

theorem Outdated.path {later : Reports} (outdated : Outdated id generation (view system.db))
    (sound : ReportsSound classes system)
    (path : (idleSystem classes).Path (fun _ => True) system later) :
    ReportsSound classes later ∧ Outdated id generation (view later.db) := by
  apply path.preserves _ ⟨sound, outdated⟩
  intro label before next _ held step
  exact ⟨IdleStep.sound step held.1, IdleStep.outdated step held.1.wellFormed held.2⟩

theorem IdleStep.unchanged_of_outdated (step : IdleStep classes (some (index, session)) system next)
    (sound : ReportsSound classes system)
    (found : system.reports index = some report)
    (outdated : Outdated report.request.instanceId report.request.expectedGeneration
      (view system.db)) : next.db = system.db := by
  rcases step.sleeps sound found with same | ⟨owner, row, policy, sleeps⟩
  · exact same
  · obtain ⟨watermark, watermarkFound, newer⟩ := outdated
    obtain ⟨_, sameFound, last⟩ := sound.wellFormed.watermarked sleeps.found
    cases watermarkFound.symm.trans sameFound
    have stamped := sleeps.stamped
    omega

/-- In every run of reports and transactions, a step of a report that changes the database is a
sound sleep, after which no report with its stamp changes anything; and a report stamped with an
earlier generation than the instance has changes nothing. -/
theorem automatic_sleep_is_sound {classes : Classes} {system next : Reports} {index : Nat}
    {session : Session} {report : Report}
    (reached : (idleSystem classes).Reachable (fun _ => True) system)
    (found : system.reports index = some report)
    (step : (idleSystem classes).step (some (index, session)) system next) :
    (next.db ≠ system.db →
      (∃ owner row policy, SoundSleep classes session report system next.db owner row policy) ∧
      ∀ later last again laterSession replay,
        (idleSystem classes).Path (fun _ => True) next later →
        later.reports again = some replay →
        replay.request.instanceId = report.request.instanceId →
        replay.request.expectedGeneration = report.request.expectedGeneration →
        (idleSystem classes).step (some (again, laterSession)) later last →
        last.db = later.db) ∧
    ∀ owner, system.db.instances.find? report.request.instanceId = some owner →
      report.request.expectedGeneration < owner.generation → next.db = system.db := by
  have sound := reportsSound_of_reachable reached
  constructor
  · intro changed
    have slept := (IdleStep.sleeps step sound found).resolve_left changed
    refine ⟨slept, ?_⟩
    intro later last again laterSession replay path replayFound sameInstance sameStamp laterStep
    obtain ⟨owner, row, policy, sleeps⟩ := slept
    have nextSound := IdleStep.sound step sound
    have outdated : Outdated report.request.instanceId report.request.expectedGeneration
        (view next.db) := by
      apply outdated_of_found nextSound.wellFormed sleeps.drained
      rw [← sleeps.stamped]
      exact Nat.lt_succ_self _
    obtain ⟨laterSound, laterOutdated⟩ := outdated.path nextSound path
    rw [← sameInstance, ← sameStamp] at laterOutdated
    exact IdleStep.unchanged_of_outdated laterStep laterSound replayFound laterOutdated
  · intro owner ownerFound newer
    exact IdleStep.unchanged_of_outdated step sound found
      (outdated_of_found sound.wellFormed ownerFound newer)

/-! ### Executing runs -/

inductive IdleEvent where
  | store (session : Session) (op : Op)
  | receive (index : Nat) (target : MaterializationTarget) (request : ReportIdleRequest)
  | call (index : Nat) (session : Session)
  | inspect (index : Nat) (session : Session) (answer : Except String Unit)

def Reports.perform (classes : Classes) (system : Reports) : IdleEvent → Option Reports
  | .store session op =>
    match commit session op system.db with
    | .ok after => some (system.committed session after)
    | .error _ => none
  | .receive index target request =>
    match system.reports index with
    | none => some (system.setReport index (.start target request))
    | some _ => none
  | .call index session =>
    match system.reports index with
    | none => none
    | some report =>
      some ((system.committed session (report.call classes session system.db).2).setReport index
        { report with phase := (report.call classes session system.db).1 })
  | .inspect index _ answer =>
    match system.reports index with
    | none => none
    | some report =>
      match report.phase with
      | .inspecting current =>
        some (system.setReport index
          { report with phase := Report.memberVerified current answer })
      | _ => none

theorem Reports.perform_step {event : IdleEvent}
    (performed : system.perform classes event = some next) :
    ∃ label, (idleSystem classes).step label system next := by
  cases event
  all_goals
    simp only [Reports.perform] at performed
    split at performed
  next committed =>
    cases performed
    exact ⟨_, .stored committed⟩
  · cases performed
  next fresh =>
    cases performed
    exact ⟨_, .received fresh⟩
  · cases performed
  · cases performed
  next index session _ _ found =>
    cases performed
    exact ⟨some (index, session), .called found⟩
  · cases performed
  next index session _ _ _ found =>
    split at performed
    next inspecting =>
      cases performed
      exact ⟨some (index, session), .inspected found inspecting⟩
    · cases performed

def runReports (classes : Classes) : List IdleEvent → Reports → Option Reports
  | [], system => some system
  | event :: rest, system => (system.perform classes event).bind (runReports classes rest)

theorem reachable_of_runReports {events : List IdleEvent} {final : Reports}
    (reached : (idleSystem classes).Reachable (fun _ => True) system)
    (ran : runReports classes events system = some final) :
    (idleSystem classes).Reachable (fun _ => True) final := by
  induction events generalizing system with
  | nil =>
    cases ran
    exact reached
  | cons _ _ ih =>
    obtain ⟨next, performed, ran⟩ := Option.bind_eq_some_iff.mp ran
    obtain ⟨label, step⟩ := Reports.perform_step performed
    exact ih (reached.step trivial step) ran

end

namespace Sample

open Store.Sample

def service : WorkloadClassVersion where
  templateContract := .ok ()
  sleepPolicy :=
    { idleTimeoutMs := 60000, idleRetryBackoffMs := 5000, drainGraceTimeoutMs := 30000,
      idleTimeoutOverride := none }
  keyContract := .ok ()

def classes : Classes := fun _ => some service

def report : ReportIdleRequest where
  instanceId := web
  expectedGeneration := 2
  activeCount := 0
  podUid := "pod-1"

/-- The instance runs, and a report of its sidecar is about to put it to sleep. -/
def idle : List IdleEvent :=
  [.store (session 0) createWeb, .store (session 1) (wakeFrom 0 1),
    .store (session 2) (.claim claimWork),
    .store (session 3) (.completeWake Lifecycle.Sample.completeWork), .receive 0 target report,
    .call 0 (session 200000), .call 0 (session 200000), .call 0 (session 200000),
    .call 0 (session 200000), .inspect 0 (session 200000) (.ok ()), .call 0 (session 200000)]

def sleepy (system : Reports) : Bool :=
  match system.reports 0 with
  | none => false
  | some report =>
    decide ((report.call classes (session 200000) system.db).2.instances.find? web ≠
      system.db.instances.find? web)

end Sample

theorem sample_automatic_sleep_is_sound :
    ∃ system next report owner row policy,
      (idleSystem Sample.classes).Reachable (fun _ => True) system ∧
      (idleSystem Sample.classes).step (some (0, Store.Sample.session 200000)) system next ∧
      SoundSleep Sample.classes (Store.Sample.session 200000) report system next.db owner row
        policy := by
  have run : (runReports Sample.classes Sample.idle .fresh).any Sample.sleepy = true := by decide
  obtain ⟨system, ran, sleepy⟩ := (Option.any_eq_true _ _).mp run
  have reached := reachable_of_runReports (TransitionSystem.Reachable.init rfl) ran
  unfold Sample.sleepy at sleepy
  split at sleepy
  · cases sleepy
  next report found =>
    have step : (idleSystem Sample.classes).step (some (0, Store.Sample.session 200000)) system _ :=
      .called found
    have changed : (report.call Sample.classes (Store.Sample.session 200000) system.db).2 ≠
        system.db := by
      intro same
      rw [same] at sleepy
      simp at sleepy
    obtain ⟨owner, row, policy, sleeps⟩ := ((automatic_sleep_is_sound reached found step).1 changed).1
    exact ⟨system, _, report, owner, row, policy, reached, step, sleeps⟩

end Sleepypods.Idle
