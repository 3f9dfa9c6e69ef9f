import Sleepypods.Store.Transactions

/-! Delivery of the route change outbox: what is retained, and what a consumer that polls receives,
whatever commits and prunes happen in between. -/

set_option autoImplicit false

namespace Sleepypods.Store

open Library Library.Fallible
open RetainedLog (Reader)

/-- Changes are appended within the range of a revision, or old ones pruned. -/
inductive OutboxStep (log : RetainedLog RouteChange) : RetainedLog RouteChange → Prop where
  | append (createdAt : Int) (changes : List RouteChange)
      (bounded : log.revision + changes.length < bigintBound) :
      OutboxStep log (log.append createdAt outboxRetention changes)
  | prune (cutoff : Int) (limit : Nat) : OutboxStep log (log.prune cutoff (bigintBound - 1) limit)

abbrev OutboxSteps : RetainedLog RouteChange → RetainedLog RouteChange → Prop :=
  Relation.ReflTransGen OutboxStep

variable {session : Session} {log : RetainedLog RouteChange} {db after : Database}

theorem recordRouteChanges_outbox {changes : List RouteChange}
    (recorded : recordRouteChanges session changes db = .ok after) (same : db.outbox = log) :
    OutboxStep log after.outbox := by
  simp only [recordRouteChanges, bind_eq_ok, require_eq_ok, pure_eq_ok, exists_const] at recorded
  obtain ⟨bounded, rfl⟩ := recorded
  subst same
  exact .append session.now changes bounded

theorem ReservationsOnly.outbox (only : ReservationsOnly db after) :
    after.outbox = db.outbox := by
  obtain ⟨objects, keys, rfl⟩ := only
  rfl

theorem Statement.outbox {bindings : List RouteBindingSpec}
    (statement : Statement session bindings db after) : OutboxSteps db.outbox after.outbox := by
  cases statement with
  | insertInstance _ _ _ inserted =>
    simp only [Store.insertInstance, bind_eq_ok, pure_eq_ok, Prod.mk.injEq] at inserted
    obtain ⟨_, -, _, -, _, -, _, recorded, -, rfl⟩ := inserted
    exact .single (recordRouteChanges_outbox recorded rfl)
  | updateInstance _ _ _ _ _ updated =>
    simp only [Store.updateInstance, bind_eq_ok] at updated
    obtain ⟨_, -, recorded⟩ := updated
    exact .single (recordRouteChanges_outbox recorded rfl)
  | insertRouteBinding _ _ _ _ _ inserted =>
    simp only [Store.insertRouteBinding, bind_eq_ok] at inserted
    obtain ⟨_, -, _, -, _, -, recorded⟩ := inserted
    exact .single (recordRouteChanges_outbox recorded rfl)
  | deleteRouteBindings _ deleted => exact .single (recordRouteChanges_outbox deleted rfl)
  | insertMaterialization _ inserted =>
    simp only [Store.insertMaterialization, bind_eq_ok] at inserted
    obtain ⟨_, -, _, -, _, -, synced, sync, recorded⟩ := inserted
    have same := (syncReservations_only (.refl _) sync).outbox
    exact .single (recordRouteChanges_outbox recorded same)
  | updateMaterialization _ _ _ _ _ _ updated =>
    simp only [Store.updateMaterialization, bind_eq_ok] at updated
    obtain ⟨_, -, synced, sync, recorded⟩ := updated
    have same := (syncReservations_only (.refl _) sync).outbox
    exact .single (recordRouteChanges_outbox recorded same)
  | updateMaterializations _ _ _ _ updated =>
    simp only [Store.updateMaterializations, bind_eq_ok] at updated
    obtain ⟨_, -, synced, sync, recorded⟩ := updated
    have same :=
      (foldlM_preserves (fun _ _ _ => syncReservations_only) _ _ _ (.refl _) sync).outbox
    exact .single (recordRouteChanges_outbox recorded same)
  | deleteInstanceRow _ deleted =>
    simp only [Store.deleteInstanceRow, bind_eq_ok, pure_eq_ok] at deleted
    obtain ⟨unbound, bindings, cleared, work, rfl⟩ := deleted
    have first : OutboxStep db.outbox unbound.outbox := recordRouteChanges_outbox bindings rfl
    simp only [deleteMaterializationsOf, bind_eq_ok] at work
    obtain ⟨_, -, recorded⟩ := work
    have second : OutboxStep unbound.outbox cleared.outbox := recordRouteChanges_outbox recorded rfl
    exact .tail (.single first) second
  | recordRouteChanges _ recorded => exact .single (recordRouteChanges_outbox recorded rfl)
  | pruneOutbox _ pruned =>
    rw [pruned]
    exact .single (.prune _ _)
  | keep _ _ _ kept =>
    rw [kept]

theorem commit_outbox {op : Op} (committed : commit session op db = .ok after) :
    OutboxSteps db.outbox after.outbox :=
  Relation.ReflTransGen.lift' Database.outbox (fun _ _ statement => statement.outbox) _ _
    (Statements.commit committed)

/-! ### Consumers -/

theorem clampedBatch_pos (limit : Nat) : 0 < clampedBatch limit :=
  Nat.lt_min.mpr ⟨Nat.lt_of_lt_of_le Nat.zero_lt_one (Nat.le_max_right _ _), by decide⟩

structure Consumption where
  db : Database
  reader : Reader RouteChange

/-- Transactions commit, and the consumer starts at the revision it reads or polls. -/
inductive ConsumerEvent where
  | commit (session : Session) (op : Op)
  | start
  | poll (limit : Nat)

/-- `changes` from the cursor last returned. -/
def Consumption.poll (consumption : Consumption) (limit : Nat) : StoreResult Consumption := do
  let result ← routeChanges consumption.db consumption.reader.cursor limit
  return { consumption with reader := consumption.reader.receive result }

def Consumption.handle (consumption : Consumption) : ConsumerEvent → StoreResult Consumption
  | .commit session op => do
      let db ← Store.commit session op consumption.db
      return { consumption with db := db }
  | .start => .ok { consumption with reader := Reader.begin consumption.db.outbox }
  | .poll limit => consumption.poll limit

def Consumption.initial : Consumption where
  db := .empty
  reader := Reader.begin Database.empty.outbox

def consumerSystem : TransitionSystem Consumption ConsumerEvent where
  initial consumption := consumption = .initial
  step event consumption next := consumption.handle event = .ok next

/-- What is retained is an interval that ends at the current revision, within the range of a
revision. -/
structure Retained (log : RetainedLog RouteChange) (floor : Nat) : Prop where
  retains : log.RetainsAbove floor
  bounded : log.revision < bigintBound

variable {next : RetainedLog RouteChange}

theorem OutboxStep.retained {floor : Nat} (step : OutboxStep log next)
    (retained : Retained log floor) :
    ∃ raised, Retained next raised := by
  cases step with
  | append createdAt changes bounded =>
    obtain ⟨raised, _, retains⟩ := retained.retains.append createdAt outboxRetention changes
    refine ⟨raised, retains, ?_⟩
    rw [RetainedLog.revision_append]
    exact bounded
  | prune cutoff limit =>
    obtain ⟨raised, _, retains⟩ := retained.retains.prune cutoff (bigintBound - 1) limit
    exact ⟨raised, retains, retained.bounded⟩

theorem OutboxStep.history (step : OutboxStep log next) :
    ∃ more, next.history = log.history ++ more := by
  cases step with
  | append _ changes => exact ⟨changes, RetainedLog.history_append ..⟩
  | prune => exact ⟨[], (List.append_nil _).symm⟩

theorem OutboxSteps.retained (steps : OutboxSteps log next)
    (retained : ∃ floor, Retained log floor) :
    (∃ floor, Retained next floor) ∧ ∃ more, next.history = log.history ++ more := by
  induction steps with
  | refl => exact ⟨retained, [], (List.append_nil _).symm⟩
  | tail _ step ih =>
    obtain ⟨⟨floor, retained⟩, more, history⟩ := ih
    obtain ⟨added, extended⟩ := step.history
    exact ⟨step.retained retained, more ++ added, by rw [extended, history, List.append_assoc]⟩

structure Delivered (consumption : Consumption) : Prop where
  retained : ∃ floor, Retained consumption.db.outbox floor
  upToDate : consumption.reader.UpToDate consumption.db.outbox.history

namespace Delivered

variable {consumption next : Consumption}

variable (delivered : Delivered consumption)

include delivered

theorem outbox (steps : OutboxSteps consumption.db.outbox log) :
    (∃ floor, Retained log floor) ∧ consumption.reader.UpToDate log.history := by
  obtain ⟨retained, more, history⟩ := OutboxSteps.retained steps delivered.retained
  refine ⟨retained, ?_⟩
  rw [history]
  exact delivered.upToDate.append more

theorem routeChanges_eq (limit : Nat) :
    routeChanges consumption.db consumption.reader.cursor limit =
      .ok (consumption.db.outbox.poll consumption.reader.cursor (clampedBatch limit)) := by
  obtain ⟨floor, retained⟩ := delivered.retained
  have read := delivered.upToDate.cursor_le
  rw [retained.retains.length_history] at read
  have inRange : consumption.reader.cursor < bigintBound := Nat.lt_of_le_of_lt read retained.bounded
  rw [routeChanges, require, if_pos inRange]
  rfl

theorem step {event : ConsumerEvent} (handled : consumption.handle event = .ok next) :
    Delivered next := by
  cases event with
  | commit =>
    obtain ⟨db, committed, same⟩ := bind_eq_ok.mp handled
    cases same
    obtain ⟨retained, upToDate⟩ := delivered.outbox (commit_outbox committed)
    exact ⟨retained, upToDate⟩
  | start =>
    cases handled
    obtain ⟨floor, retained⟩ := delivered.retained
    exact ⟨⟨floor, retained⟩, RetainedLog.Reader.begin_upToDate retained.retains⟩
  | poll limit =>
    obtain ⟨result, polled, same⟩ := bind_eq_ok.mp handled
    rw [delivered.routeChanges_eq limit] at polled
    cases polled
    cases same
    obtain ⟨floor, retained⟩ := delivered.retained
    exact ⟨⟨floor, retained⟩, delivered.upToDate.poll retained.retains (clampedBatch_pos limit)⟩

end Delivered

theorem delivered_of_reachable {consumption : Consumption}
    (reachable : consumerSystem.Reachable (fun _ => True) consumption) : Delivered consumption := by
  refine reachable.invariant ?_ fun _ _ _ _ delivered handled => delivered.step handled
  rintro _ rfl
  have retained : RetainedLog.RetainsAbove Database.empty.outbox 0 :=
    RetainedLog.empty_retainsAbove
  exact ⟨⟨0, retained, by decide⟩, RetainedLog.Reader.begin_upToDate retained⟩

/-- A poll from a cursor that was read is reset exactly when the next change is gone, and returns
the changes up to its new cursor otherwise. -/
theorem poll_spec {floor : Nat} (retains : log.RetainsAbove floor) {cursor limit : Nat}
    (read : cursor ≤ log.revision) (positive : 0 < limit) :
    ((log.poll cursor limit).reset = true ↔
        cursor < log.revision ∧ cursor + 1 ∉ log.rows.map LogRow.revision) ∧
      ((log.poll cursor limit).reset = true →
        (log.poll cursor limit).cursor = log.revision ∧ (log.poll cursor limit).events = []) ∧
      ((log.poll cursor limit).reset = false →
        (log.poll cursor limit).cursor ≤ log.revision ∧
        (log.poll cursor limit).events =
          (log.history.take (log.poll cursor limit).cursor).drop cursor) := by
  have bounded := retains.floor_le
  have length := retains.length_history
  have gone : cursor < floor ↔ cursor < log.revision ∧ cursor + 1 ∉ log.rows.map LogRow.revision := by
    rw [retains.numbered.map_revision, List.mem_range'_1, List.length_drop]
    omega
  rw [← gone]
  by_cases lost : cursor < floor
  · rw [retains.poll_reset read limit lost]
    exact ⟨⟨fun _ => lost, fun _ => rfl⟩, fun _ => ⟨rfl, rfl⟩, fun kept => by cases kept⟩
  · rw [retains.poll_events read positive (Nat.le_of_not_lt lost)]
    refine ⟨⟨fun reset => (by cases reset), fun below => absurd below lost⟩,
      fun reset => (by cases reset), fun _ => ⟨?_, ?_⟩⟩
    · simp only [List.length_take, List.length_drop]
      omega
    · rw [List.drop_take, Nat.add_sub_cancel_left, List.length_take, ← List.take_take,
        List.take_length]

/-- What is retained ends at the current revision without a gap, a consumer has received every
change between its start and its cursor, once and in order, and a poll is reset exactly when it
could not go on so. -/
theorem outbox_delivers_every_change {consumption : Consumption}
    (reachable : consumerSystem.Reachable (fun _ => True) consumption) :
    (∃ floor ≤ consumption.db.outbox.revision,
      consumption.db.outbox.rows.map LogRow.revision =
        List.range' (floor + 1) (consumption.db.outbox.revision - floor) ∧
      consumption.db.outbox.rows.map LogRow.payload =
        consumption.db.outbox.history.drop floor) ∧
    consumption.db.outbox.history.length = consumption.db.outbox.revision ∧
    consumption.reader.start ≤ consumption.reader.cursor ∧
    consumption.reader.cursor ≤ consumption.db.outbox.revision ∧
    consumption.reader.received =
      (consumption.db.outbox.history.take consumption.reader.cursor).drop
        consumption.reader.start ∧
    ∀ limit, ∃ result, routeChanges consumption.db consumption.reader.cursor limit = .ok result ∧
      (result.reset = true ↔ consumption.reader.cursor < consumption.db.outbox.revision ∧
        consumption.reader.cursor + 1 ∉ consumption.db.outbox.rows.map LogRow.revision) ∧
      (result.reset = true →
        result.cursor = consumption.db.outbox.revision ∧ result.events = []) ∧
      (result.reset = false → result.cursor ≤ consumption.db.outbox.revision ∧
        result.events = (consumption.db.outbox.history.take result.cursor).drop
          consumption.reader.cursor) := by
  have delivered := delivered_of_reachable reachable
  obtain ⟨floor, retained⟩ := delivered.retained
  have length := retained.retains.length_history
  have read := delivered.upToDate.cursor_le
  rw [length] at read
  refine ⟨⟨floor, retained.retains.floor_le, ?_, retained.retains.numbered.map_payload⟩, length,
    delivered.upToDate.start_le, read, delivered.upToDate.received_eq, fun limit => ?_⟩
  · rw [retained.retains.numbered.map_revision, List.length_drop, length]
  · exact ⟨_, delivered.routeChanges_eq limit,
      poll_spec retained.retains read (clampedBatch_pos limit)⟩

theorem handle_executes (event : ConsumerEvent) (consumption next : Consumption)
    (executed : (consumption.handle event).toOption = some next) :
    consumerSystem.step event consumption next :=
  toOption_eq_some.mp executed

/-- A consumer that polls one change at a time while an instance is woken. -/
theorem sample_outbox_delivers_every_change :
    ∃ consumption : Consumption, consumption.reader.received = [.lifecycle Sample.web] ∧
      consumption.reader.received =
        (consumption.db.outbox.history.take consumption.reader.cursor).drop
          consumption.reader.start := by
  have run : ∃ consumption, consumerSystem.ReachableUnder (fun _ _ => True) consumption ∧
      decide (consumption.reader.received = [.lifecycle Sample.web]) = true :=
    TransitionSystem.exists_reachableUnder_of_run handle_executes rfl
      [.commit (Sample.session 0) Sample.createWeb,
        .commit (Sample.session 1) (Sample.wakeFrom 0 1), .poll 1] _ (by decide)
  obtain ⟨consumption, reached, received⟩ := run
  exact ⟨consumption, of_decide_eq_true received,
    (outbox_delivers_every_change reached.reachable).2.2.2.2.1⟩

end Sleepypods.Store
