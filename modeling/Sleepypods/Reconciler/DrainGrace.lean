import Sleepypods.Lifecycle.Agreement
import Sleepypods.Lifecycle.Schedules
import Sleepypods.Lifecycle.WakeAcceptance
import Sleepypods.Reconciler.FencedClient

/-! The grace of a drain: from the transaction that puts an incarnation to sleep until its row is
deleted, the time before which the row must be left alone does not move. -/

set_option autoImplicit false

namespace Sleepypods.Reconciler

open Library Library.Fallible Store Lifecycle

/-- One incarnation put to sleep, and the time before which its work must be left alone. -/
structure Drain where
  instanceId : InstanceId
  target : MaterializationTarget
  generation : Nat
  floor : Int

namespace Drain

variable (drain : Drain)

def id : MaterializationId := materializationId drain.instanceId drain.target

def Passed (state : State) : Prop :=
  ∃ watermark, state.watermarks drain.instanceId = some watermark ∧
    drain.generation < watermark.lastGeneration

/-- As long as the incarnation has a row, it is deleting behind the floor, or deleted. -/
def Floored (state : State) : Prop :=
  ∀ row, state.work drain.id = some row → row.instanceGeneration = drain.generation →
    (row.state = .deleting ∧ row.schedule.drainNotBefore = drain.floor) ∨ row.state = .deleted

def Waiting (state : State) : Prop :=
  ∃ row, state.work drain.id = some row ∧ row.instanceGeneration = drain.generation ∧
    row.state = .deleting ∧ row.schedule.drainNotBefore = drain.floor ∧ row.lease = none ∧
    state.effects drain.id = none

variable {drain} {session : Session} {op : Op} {state next : State} {row : MaterializationRow}

theorem Passed.step (passed : drain.Passed state) (step : Step session op state next) :
    drain.Passed next := by
  obtain ⟨watermark, found, below⟩ := passed
  obtain ⟨later, laterFound, grown⟩ := step.grows drain.instanceId watermark found
  exact ⟨later, laterFound, Nat.lt_of_lt_of_le below grown⟩

theorem instanceId_of_found (wf : WellFormed state) (found : state.work drain.id = some row) :
    row.instanceId = drain.instanceId :=
  materializationId_instance (wf.keyed _ _ found).symm

theorem Passed.ne_of_above (passed : drain.Passed state) (above : AboveWatermark state row)
    (owned : row.instanceId = drain.instanceId) : row.instanceGeneration ≠ drain.generation := by
  obtain ⟨watermark, found, below⟩ := passed
  have newer := above watermark (owned ▸ found)
  omega

theorem Passed.ne_of_owner (passed : drain.Passed state) (wf : WellFormed state)
    {owner : InstanceRow} (owned : state.instances drain.instanceId = some owner) :
    drain.generation ≠ owner.generation := by
  obtain ⟨watermark, found, below⟩ := passed
  obtain ⟨_, sameFound, last⟩ := wf.watermarked owned
  cases found.symm.trans sameFound
  omega

end Drain

theorem floor_kept (session : Session) {old assigned : MaterializationRow}
    (same : assigned.state = old.state) :
    (beforeUpdate session old assigned).schedule.drainNotBefore =
      assigned.schedule.drainNotBefore := by
  rw [beforeUpdate_drainNotBefore, if_pos (.inl same)]

section rows

variable {drain : Drain} {session : Session} {op : Op} {state : State}
  {old row : MaterializationRow}

variable (change : RowChange session op state drain.id row)

include change

/-- The row of a drain keeps its floor and gets no lease but by a claim, until whoever holds its
lease deletes it. -/
theorem Drain.of_deleting (wf : WellFormed state) (passed : drain.Passed state)
    (found : state.work drain.id = some old)
    (generation : old.instanceGeneration = drain.generation) (deleting : old.state = .deleting) :
    (row.state = .deleting ∧ row.instanceGeneration = old.instanceGeneration ∧
        row.schedule.drainNotBefore = old.schedule.drainNotBefore ∧
        (old.lease = none → row.lease = none ∨ ∃ request, op = .claim request ∧
          request.materializationId = drain.id ∧ old.claimable session.now = true)) ∨
      ((old.lease ≠ none ∨ op.isForce = true) ∧
        (row.state = .deleted ∨ AboveWatermark state row)) := by
  cases change with
  | kept there =>
    cases found.symm.trans there
    exact .inl ⟨deleting, rfl, rfl, .inl⟩
  | inserted absent => cases absent.symm.trans found
  | overwritten there settled =>
    cases found.symm.trans there
    exact absurd deleting settled
  | drained _ there owned stamped =>
    cases found.symm.trans there
    rw [Drain.instanceId_of_found wf found] at owned
    exact absurd (generation.symm.trans stamped) (passed.ne_of_owner wf owned)
  | marked there _ undrained =>
    cases found.symm.trans there
    exact absurd deleting undrained
  | claimed requested named there claimable =>
    cases found.symm.trans there
    exact .inl ⟨deleting, rfl, floor_kept session rfl, fun _ =>
      .inr ⟨_, requested, named, claimable⟩⟩
  | renewed there held =>
    cases found.symm.trans there
    exact .inl ⟨deleting, rfl, floor_kept session rfl, fun none =>
      absurd none held⟩
  | rescheduled there only =>
    cases found.symm.trans there
    have same := only.state.resolve_right (by rw [deleting]; decide)
    refine .inl ⟨same.trans deleting, only.generation, ?_, fun none => .inl ?_⟩
    · rw [floor_kept session same, only.drain]
    · rcases only.lease with cleared | unchanged
      · exact cleared
      · exact unchanged.trans none
  | failed there =>
    cases found.symm.trans there
    exact .inl ⟨deleting, rfl, floor_kept session rfl, fun _ => .inl rfl⟩
  | cleanedUp there pending =>
    cases found.symm.trans there
    cases pending.symm.trans deleting
  | deleted there held =>
    cases found.symm.trans there
    exact .inr ⟨held, .inl rfl⟩
  | restarted there held _ _ above =>
    cases found.symm.trans there
    exact .inr ⟨.inl held, .inr above⟩

theorem Drain.of_deleted (wf : WellFormed state) (passed : drain.Passed state)
    (found : state.work drain.id = some old)
    (generation : old.instanceGeneration = drain.generation) (deleted : old.state = .deleted) :
    row.state = .deleted ∨ AboveWatermark state row := by
  cases change with
  | kept there | renewed there =>
    cases found.symm.trans there
    exact .inl deleted
  | inserted _ above => exact .inr above
  | overwritten _ _ above => exact .inr above
  | drained _ there owned stamped =>
    cases found.symm.trans there
    rw [Drain.instanceId_of_found wf found] at owned
    exact absurd (generation.symm.trans stamped) (passed.ne_of_owner wf owned)
  | marked there live =>
    cases found.symm.trans there
    exact absurd deleted live
  | claimed requested named there | failed there =>
    cases found.symm.trans there
    exact .inl deleted
  | rescheduled there only =>
    cases found.symm.trans there
    have same := only.state.resolve_right (by rw [deleted]; decide)
    exact .inl (same.trans deleted)
  | cleanedUp there pending =>
    cases found.symm.trans there
    cases pending.symm.trans deleted
  | deleted => exact .inl rfl
  | restarted _ _ _ _ above => exact .inr above

end rows

namespace Drain

variable {drain : Drain} {session : Session} {op : Op} {db after : Database}

theorem Floored.commit (floored : drain.Floored (view db)) (wf : WellFormed (view db))
    (passed : drain.Passed (view db)) (committed : Store.commit session op db = .ok after) :
    drain.Floored (view after) := by
  intro row stored generation
  have step := commit_refines wf.keyed committed
  have owned := instanceId_of_found (step.wellFormed wf) stored
  have change := commit_rowChange wf committed stored
  have unrecorded : ¬AboveWatermark (view db) row := fun above =>
    passed.ne_of_above above owned generation
  rcases step.rowEvolves wf stored with ⟨old, found, evolves⟩ | above
  · have same := evolves.generation.symm.trans generation
    rcases floored old found same with ⟨deleting, floor⟩ | deleted
    · rcases of_deleting change wf passed found same deleting with ⟨still, -, kept, -⟩ | ⟨-, ended⟩
      · exact .inl ⟨still, kept.trans floor⟩
      · exact .inr (ended.resolve_right unrecorded)
    · exact .inr ((of_deleted change wf passed found same deleted).resolve_right unrecorded)
  · exact absurd above unrecorded

/-- An operation that is no operator override and claims the drain, if at all, before its floor. -/
def undisturbed (drain : Drain) (label : Session × Op) : Prop :=
  production label ∧ ∀ request, label.2 = .claim request →
    request.materializationId = drain.id → label.1.now < drain.floor

theorem not_claimable {row : MaterializationRow} {now : Int}
    (floor : row.schedule.drainNotBefore = drain.floor) (early : now < drain.floor) :
    row.claimable now = false := by
  have waits : ¬row.schedule.drainNotBefore ≤ now := by omega
  simp [MaterializationRow.claimable, waits]

theorem Waiting.commit (waiting : drain.Waiting (view db)) (wf : WellFormed (view db))
    (passed : drain.Passed (view db)) (allows : drain.undisturbed (session, op))
    (committed : Store.commit session op db = .ok after) : drain.Waiting (view after) := by
  obtain ⟨old, found, generation, deleting, floor, unleased, resolved⟩ := waiting
  have step := commit_refines wf.keyed committed
  have live : old.state ≠ .deleted := by
    rw [deleting]
    decide
  obtain ⟨row, stored⟩ := Option.ne_none_iff_exists'.mp (step.work_ne_none found live)
  have resolvedAfter := step.effects_eq_none (fun other otherFound => by
    cases found.symm.trans otherFound
    exact unleased) resolved
  have change := commit_rowChange wf committed stored
  rcases of_deleting change wf passed found generation deleting with
    ⟨still, same, kept, lease⟩ | ⟨held | forced, -⟩
  · rcases lease unleased with none | ⟨request, claims, named, claimable⟩
    · exact ⟨row, stored, same.trans generation, still, kept.trans floor, none, resolvedAfter⟩
    · rw [not_claimable floor (allows.2 request claims named)] at claimable
      cases claimable
  · exact absurd unleased held
  · cases allows.1.symm.trans forced

structure Slept (drain : Drain) (state : State) : Prop where
  wellFormed : WellFormed state
  passed : drain.Passed state
  floored : drain.Floored state

theorem Slept.commit (slept : drain.Slept (view db))
    (committed : Store.commit session op db = .ok after) : drain.Slept (view after) := by
  have step := commit_refines slept.wellFormed.keyed committed
  exact ⟨step.wellFormed slept.wellFormed, slept.passed.step step,
    slept.floored.commit slept.wellFormed slept.passed committed⟩

theorem Slept.path {allowed : Session × Op → Prop} {later : Database} (slept : drain.Slept (view db))
    (path : storeSystem.Path allowed db later) : drain.Slept (view later) := by
  apply path.preserves _ slept
  intro label before next _ held committed
  exact Slept.commit held committed

theorem Waiting.path {later : Database} (waiting : drain.Waiting (view db))
    (slept : drain.Slept (view db)) (path : storeSystem.Path drain.undisturbed db later) :
    drain.Waiting (view later) := by
  have both : drain.Slept (view later) ∧ drain.Waiting (view later) := by
    apply path.preserves _ ⟨slept, waiting⟩
    intro label before next allows held committed
    exact ⟨Slept.commit held.1 committed,
      held.2.commit held.1.wellFormed held.1.passed allows committed⟩
  exact both.2

end Drain

variable {db : Database}

theorem runsReady_of_reachable {allowed : Session × Op → Prop}
    (reachable : storeSystem.Reachable allowed db) : RunsReady (view db) := by
  obtain ⟨start, rfl, path⟩ := reachable
  exact (path_preserves (fun wf step => step.runsReady wf) path wellFormed_empty
    (fun _ _ _ stored => by cases stored)).2

def drainOf (session : Session) (request : BeginSleepRequest) : Drain where
  instanceId := request.instanceId
  target := request.target
  generation := request.expectedRunningGeneration
  floor := session.now + Duration.asMillis request.drainGraceTimeout

section asleep

variable {allowed : Session × Op → Prop} {session : Session} {request : BeginSleepRequest}
  {asleep : InstanceRow} {drained : MaterializationRow} {db slept : Database}

theorem waiting_of_beginSleep (reached : storeSystem.Reachable allowed db)
    (begun : beginSleep session request db = .ok ((asleep, some drained), slept)) :
    (drainOf session request).Slept (view slept) ∧
      (drainOf session request).Waiting (view slept) := by
  have wf := wellFormed_of_reachable reached
  have sleptWf : WellFormed (view slept) := by
    have committed : commit session (.beginSleep request) db = .ok slept :=
      map_snd_eq_ok.mpr ⟨_, begun⟩
    exact (commit_refines wf.keyed committed).wellFormed wf
  obtain ⟨current, found, running, expected, ⟨-, none, -⟩ | ⟨work, row, foundRow, owned, targeted,
    live, stamped, -, viewed⟩⟩ := beginSleep_ok wf.keyed begun
  · cases none
  have keyed : work = (drainOf session request).id := by
    rw [wf.keyed work row foundRow, owned, targeted]
    rfl
  subst keyed
  have floor : (beforeUpdate session row (drainingRow session
      (Duration.asMillis request.drainGraceTimeout) row)).schedule.drainNotBefore =
      (drainOf session request).floor := by
    rw [beforeUpdate_drainNotBefore, if_pos (.inr rfl)]
    rfl
  have stored : (view slept).work (drainOf session request).id =
      some (beforeUpdate session row (drainingRow session
        (Duration.asMillis request.drainGraceTimeout) row)) := by
    rw [viewed]
    exact State.work_setWork_eq_some.mpr (.inl ⟨rfl, rfl⟩)
  have resolved : (view db).effects (drainOf session request).id = none := by
    cases marked : (view db).effects (drainOf session request).id with
    | none => rfl
    | some =>
      obtain ⟨_, sameRow, worked, -⟩ := wf.barred marked
      cases foundRow.symm.trans sameRow
      have ready := (runsReady_of_reachable reached _ _ _ foundRow (owned ▸ found) running
        (stamped.trans expected.symm)).resolve_right live
      rw [ready] at worked
      cases worked
  refine ⟨⟨sleptWf, ?_, ?_⟩, _, stored, stamped, rfl, floor, rfl, ?_⟩
  · have advanced : (view slept).instances request.instanceId =
        some { current with state := .draining, generation := current.generation + 1 } := by
      rw [viewed]
      exact State.instances_advance_self rfl
    obtain ⟨watermark, watermarkFound, last⟩ := sleptWf.watermarked advanced
    refine ⟨watermark, watermarkFound, ?_⟩
    rw [last, drainOf, ← expected]
    exact Nat.lt_succ_self _
  · intro other otherStored _
    cases stored.symm.trans otherStored
    exact .inl ⟨rfl, floor⟩
  · rw [viewed]
    exact resolved

end asleep

/-! ### Refusals -/

def ClaimsRefused (drain : Drain) (db : Database) : Prop :=
  ∀ claimer request result after, request.materializationId = drain.id →
    claimer.now < drain.floor →
    claimMaterializationReconciliation claimer request db = .ok (result, after) →
    result = none ∧ after = db

structure Undispatched (drain : Drain) (db : Database) : Prop where
  refused : ∀ session request result after, request.materializationId = drain.id →
    beginMaterializationEffect session request db = .ok (result, after) →
    result = false ∧ after = db
  idle : ∀ system run call, fencedSystem.Reachable (fun _ => True) system → system.db = db →
    system.runs run = some call → call.request.materializationId = drain.id →
    call.phase.mayBeInFlight = false

theorem claimsRefused_of_floor {drain : Drain} {row : MaterializationRow}
    (found : (view db).work drain.id = some row)
    (floor : row.schedule.drainNotBefore = drain.floor) :
    ClaimsRefused drain db := by
  intro claimer request result after named early claimed
  rcases claim_ok claimed with refused | ⟨other, _, otherFound, claimable, -⟩
  · exact refused
  · rw [named] at otherFound
    cases found.symm.trans otherFound
    rw [Drain.not_claimable floor early] at claimable
    cases claimable

theorem undispatched_of_waiting {drain : Drain} (waiting : drain.Waiting (view db)) :
    Undispatched drain db := by
  obtain ⟨row, found, -, -, -, unleased, resolved⟩ := waiting
  constructor
  · intro session request result after named begun
    have unheld {other : MaterializationRow} (held : LeasedRow session (view db)
        request.materializationId request.owner request.attempt other) : False := by
      have sameRow := held.found
      rw [named] at sameRow
      cases found.symm.trans sameRow
      exact held.lease_ne_none unleased
    rcases beginEffect_ok begun with ⟨same, leased⟩ | ⟨-, other, held, -⟩
    · refine ⟨?_, same⟩
      cases result with
      | false => rfl
      | true =>
        obtain ⟨-, other, held, -⟩ := leased rfl
        exact (unheld held).elim
    · exact (unheld held.toLeasedRow).elim
  · intro system run call reached same running named
    subst same
    by_contra inFlight
    rw [Bool.not_eq_false] at inFlight
    have marked := (fenced_of_reachable reached).marked running
      (holdsMarker_of_mayBeInFlight inFlight)
    rw [named] at marked
    cases resolved.symm.trans marked

/-- Until the drain is finalized its floor stands, whatever is done, and while nobody claims it at
or after the floor it stays unclaimed and nothing is dispatched for it. -/
theorem drain_grace_is_kept {allowed : Session × Op → Prop} {session : Session}
    {request : BeginSleepRequest} {asleep : InstanceRow} {drained : MaterializationRow}
    {db slept : Database} (reached : storeSystem.Reachable allowed db)
    (begun : beginSleep session request db = .ok ((asleep, some drained), slept)) :
    (∀ later row, storeSystem.Path (fun _ => True) slept later →
      later.materializations.find? (drainOf session request).id = some row →
      row.instanceGeneration = request.expectedRunningGeneration → row.state ≠ .deleted →
      row.state = .deleting ∧
        row.schedule.drainNotBefore =
          session.now + Duration.asMillis request.drainGraceTimeout ∧
        ClaimsRefused (drainOf session request) later) ∧
    ∀ later, storeSystem.Path (drainOf session request).undisturbed slept later →
      (∃ row, later.materializations.find? (drainOf session request).id = some row ∧
        row.instanceGeneration = request.expectedRunningGeneration ∧ row.state = .deleting) ∧
      ClaimsRefused (drainOf session request) later ∧
      Undispatched (drainOf session request) later := by
  obtain ⟨sleptNow, waiting⟩ := waiting_of_beginSleep reached begun
  constructor
  · intro later row path found generation live
    obtain ⟨deleting, floor⟩ :=
      ((sleptNow.path path).floored row found generation).resolve_right live
    exact ⟨deleting, floor, claimsRefused_of_floor found floor⟩
  · intro later path
    have waitingLater := waiting.path sleptNow path
    have undispatched := undispatched_of_waiting waitingLater
    obtain ⟨row, found, generation, deleting, floor, -⟩ := waitingLater
    exact ⟨⟨row, found, generation, deleting⟩, claimsRefused_of_floor found floor, undispatched⟩

namespace Sample

open Store.Sample

def running : List (Session × Op) :=
  waking ++ [(session 2, .claim claimWork),
    (session 3, .completeWake Lifecycle.Sample.completeWork)]

def sleepSlowly : BeginSleepRequest :=
  { Lifecycle.Sample.sleep with drainGraceTimeout := 10000000000 }

def sleeps (db : Database) : Bool :=
  match beginSleep (session 4) sleepSlowly db with
  | .ok ((_, some _), _) => true
  | _ => false

end Sample

theorem sample_drain_grace_is_kept :
    ∃ db slept asleep drained, storeSystem.Reachable production db ∧
      beginSleep (Store.Sample.session 4) Sample.sleepSlowly db =
        .ok ((asleep, some drained), slept) ∧
      ClaimsRefused (drainOf (Store.Sample.session 4) Sample.sleepSlowly) slept := by
  obtain ⟨db, reached, sleeps⟩ := exists_reachable_of_runOps Sample.running Sample.sleeps
    (by decide : ∀ label ∈ Sample.running, production label) (by decide)
  unfold Sample.sleeps at sleeps
  split at sleeps
  next asleep drained slept begun =>
    exact ⟨db, slept, asleep, drained, reached, begun,
      ((drain_grace_is_kept reached begun).2 slept .refl).2.1⟩
  · cases sleeps

end Sleepypods.Reconciler
