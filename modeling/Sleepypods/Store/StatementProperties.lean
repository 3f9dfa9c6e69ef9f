import Sleepypods.Store.Statements

/-! What each statement does to the database when it succeeds: the tables it rewrites, and that
it leaves every other table alone. -/

set_option autoImplicit false

namespace Sleepypods.Store

open Library Library.Fallible

section beforeUpdate

variable (session : Session) (old new : MaterializationRow)

-- The triggers before an update rewrite only the schedule.

@[simp]
theorem beforeUpdate_instanceId : (beforeUpdate session old new).instanceId = new.instanceId := rfl

@[simp]
theorem beforeUpdate_target : (beforeUpdate session old new).target = new.target := rfl

@[simp]
theorem beforeUpdate_state : (beforeUpdate session old new).state = new.state := rfl

end beforeUpdate

variable {session : Session} {db after : Database}

theorem recordRouteChanges_ok {changes : List RouteChange}
    (recorded : recordRouteChanges session changes db = .ok after) :
    after = { db with outbox := db.outbox.append session.now outboxRetention changes } := by
  simp only [recordRouteChanges, bind_eq_ok, pure_eq_ok] at recorded
  obtain ⟨_, -, equal⟩ := recorded
  exact equal.symm

/-- The databases that differ from `db` at most in their reservations. -/
def ReservationsOnly (db after : Database) : Prop :=
  ∃ objects keys, after = { db with objectReservations := objects, keyReservations := keys }

theorem ReservationsOnly.refl (db : Database) : ReservationsOnly db db := ⟨_, _, rfl⟩

variable {id : MaterializationId} {state : Database} {row : MaterializationRow}

theorem reserveObject_only {key : ObjectReservation} (only : ReservationsOnly db state)
    (reserved : reserveObject id row state key = .ok after) : ReservationsOnly db after := by
  obtain ⟨objects, keys, rfl⟩ := only
  unfold reserveObject at reserved
  split at reserved
  · cases reserved
  · cases reserved
    exact ⟨_, _, rfl⟩

theorem reserveKey_only {key : KeyReservation} (only : ReservationsOnly db state)
    (reserved : reserveKey id state key = .ok after) :
    ReservationsOnly db after := by
  obtain ⟨objects, keys, rfl⟩ := only
  unfold reserveKey at reserved
  split at reserved
  · cases reserved
  · cases reserved
    exact ⟨_, _, rfl⟩

theorem syncReservations_only {old : Option MaterializationRow} {new : MaterializationRow}
    (only : ReservationsOnly db state) (synced : syncReservations id old new state = .ok after) :
    ReservationsOnly db after := by
  have released : ReservationsOnly db (releaseReservations id state) := by
    obtain ⟨objects, keys, rfl⟩ := only
    exact ⟨_, _, rfl⟩
  unfold syncReservations at synced
  split at synced
  · cases synced
    exact only
  · split at synced
    · cases synced
      exact released
    · simp only [bind_eq_ok] at synced
      obtain ⟨reserved, objectsReserved, keysReserved⟩ := synced
      have held := foldlM_preserves (fun _ _ _ => reserveObject_only) _ _ _ released objectsReserved
      exact foldlM_preserves (fun _ _ _ => reserveKey_only) _ _ _ held keysReserved

/-! ### Statements -/

theorem insertInstance_ok {id : InstanceId} {row stored : InstanceRow}
    (inserted : insertInstance session id row db = .ok (stored, after)) :
    db.instances.find? id = none ∧
      stored =
        { row with generation := insertedGeneration row.generation (db.watermarks.find? id) } ∧
      after =
        { db with
          instances := db.instances.insert id stored
          watermarks := retainGeneration id stored.generation db.watermarks
          outbox := db.outbox.append session.now outboxRetention [.lifecycle id] } := by
  simp only [insertInstance, bind_eq_ok, require_eq_ok, pure_eq_ok, exists_const] at inserted
  obtain ⟨-, -, absent, recorded, changed, equal⟩ := inserted
  obtain ⟨rfl, rfl⟩ := Prod.mk.inj equal
  exact ⟨absent, rfl, recordRouteChanges_ok changed⟩

theorem updateInstance_ok {id : InstanceId} {old : InstanceRow} {state : InstanceState}
    {generation : Nat} (updated : updateInstance session id old state generation db = .ok after) :
    generation < bigintBound ∧
      after =
        { db with
          instances := db.instances.insert id { old with state := state, generation := generation }
          watermarks := retainGeneration id generation db.watermarks
          outbox := db.outbox.append session.now outboxRetention
            (if (state, generation) ≠ (old.state, old.generation) then [.lifecycle id] else []) } := by
  simp only [updateInstance, bind_eq_ok, require_eq_ok, exists_const] at updated
  obtain ⟨bounded, recorded⟩ := updated
  exact ⟨bounded, recordRouteChanges_ok recorded⟩

theorem insertRouteBinding_ok {id : RouteBindingId} {row : RouteBindingRow}
    (inserted : insertRouteBinding session id row db = .ok after) :
    db.routeBindings.find? id = none ∧
      (∀ other otherRow, db.routeBindings.find? other = some otherRow →
        otherRow.identityKey ≠ row.identityKey) ∧
      (db.instances.find? row.instanceId).isSome ∧
      after =
        { db with
          routeBindings := db.routeBindings.insert id row
          outbox := db.outbox.append session.now outboxRetention [row.change false id] } := by
  simp only [insertRouteBinding, bind_eq_ok, require_eq_ok, exists_const, Table.any_eq_false,
    decide_eq_false_iff_not] at inserted
  obtain ⟨absent, unique, owned, recorded⟩ := inserted
  exact ⟨absent, unique, owned, recordRouteChanges_ok recorded⟩

theorem deleteRouteBindings_ok {selects : RouteBindingId → RouteBindingRow → Bool}
    (deleted : deleteRouteBindings session selects db = .ok after) :
    ∃ records,
      after =
        { db with
          routeBindings := db.routeBindings.filterRows fun id row => !selects id row
          idempotency := records
          outbox := db.outbox.append session.now outboxRetention
            ((db.routeBindings.entries.filter fun entry => selects entry.1 entry.2).map
              fun entry => entry.2.change true entry.1) } :=
  ⟨_, recordRouteChanges_ok deleted⟩

theorem insertMaterialization_ok (inserted : insertMaterialization session id row db = .ok after) :
    db.materializations.find? id = none ∧ (db.instances.find? row.instanceId).isSome ∧
      ∃ objects keys, after =
        { db with
          materializations := db.materializations.insert id row
          objectReservations := objects
          keyReservations := keys
          outbox := db.outbox.append session.now outboxRetention [.lifecycle row.instanceId] } := by
  simp only [insertMaterialization, bind_eq_ok, require_eq_ok, exists_const] at inserted
  obtain ⟨-, absent, owned, synced, sync, recorded⟩ := inserted
  obtain ⟨objects, keys, rfl⟩ := syncReservations_only (.refl _) sync
  exact ⟨absent, owned, objects, keys, recordRouteChanges_ok recorded⟩

theorem updateMaterialization_ok {old assigned : MaterializationRow}
    (updated : updateMaterialization session id old assigned db = .ok after) :
    ∃ objects keys, after =
      { db with
        materializations := db.materializations.insert id (beforeUpdate session old assigned)
        objectReservations := objects
        keyReservations := keys
        outbox := db.outbox.append session.now outboxRetention
          (if routeVisibleChange old (beforeUpdate session old assigned) then
            [.lifecycle old.instanceId] else []) } := by
  simp only [updateMaterialization, bind_eq_ok, require_eq_ok, exists_const] at updated
  obtain ⟨-, synced, sync, recorded⟩ := updated
  obtain ⟨objects, keys, rfl⟩ := syncReservations_only (.refl _) sync
  exact ⟨objects, keys, recordRouteChanges_ok recorded⟩

/-- The changes an update of several materializations records: one per instance whose work
visibly changed. -/
def visibleChanges (session : Session) (selects : MaterializationId → MaterializationRow → Bool)
    (assign : MaterializationRow → MaterializationRow) (db : Database) : List RouteChange :=
  ((((db.materializations.entries.filter fun entry => selects entry.1 entry.2).filter fun entry =>
    routeVisibleChange entry.2 (beforeUpdate session entry.2 (assign entry.2))).map
      fun entry => entry.2.instanceId).dedup.map RouteChange.lifecycle)

theorem updateMaterializations_ok {selects : MaterializationId → MaterializationRow → Bool}
    {assign : MaterializationRow → MaterializationRow}
    (updated : updateMaterializations session selects assign db = .ok after) :
    ∃ objects keys, after =
      { db with
        materializations := db.materializations.mapRows fun id row =>
          if selects id row then beforeUpdate session row (assign row) else row
        objectReservations := objects
        keyReservations := keys
        outbox := db.outbox.append session.now outboxRetention
          (visibleChanges session selects assign db) } := by
  simp only [updateMaterializations, bind_eq_ok, require_eq_ok, exists_const] at updated
  obtain ⟨-, synced, sync, recorded⟩ := updated
  obtain ⟨objects, keys, rfl⟩ :=
    foldlM_preserves (fun _ _ _ => syncReservations_only) _ _ _ (.refl _) sync
  exact ⟨objects, keys, recordRouteChanges_ok recorded⟩

theorem deleteMaterializationsOf_ok {instanceId : InstanceId}
    (deleted : deleteMaterializationsOf session instanceId db = .ok after) :
    (∀ id row, db.materializations.find? id = some row → row.instanceId = instanceId →
        db.effects.find? id = none) ∧
      ∃ objects keys, after =
        { db with
          materializations := db.materializations.filterRows fun _ row =>
            decide (row.instanceId ≠ instanceId)
          objectReservations := objects
          keyReservations := keys
          outbox := db.outbox.append session.now outboxRetention
            (if (db.materializations.entries.filter fun entry =>
              decide (entry.2.instanceId = instanceId)).isEmpty then []
            else [.lifecycle instanceId]) } := by
  simp only [deleteMaterializationsOf, bind_eq_ok, require_eq_ok, exists_const] at deleted
  obtain ⟨unreferenced, recorded⟩ := deleted
  refine ⟨?_, _, _, recordRouteChanges_ok recorded⟩
  intro id row found owned
  refine unreferenced (id, row) (List.mem_filter.mpr ⟨Table.find?_eq_some.mp found, ?_⟩)
  simpa using owned

def removedBindings (db : Database) (id : InstanceId) : List RouteChange :=
  (db.routeBindings.entries.filter fun entry => decide (entry.2.instanceId = id)).map
    fun entry => entry.2.change true entry.1

theorem deleteInstanceRow_ok {id : InstanceId}
    (deleted : deleteInstanceRow session db id = .ok after) :
    (∀ work row, db.materializations.find? work = some row → row.instanceId = id →
        db.effects.find? work = none) ∧
      ∃ records objects keys more, after =
        { db with
          instances := db.instances.erase id
          routeBindings := db.routeBindings.filterRows fun _ row => !decide (row.instanceId = id)
          materializations := db.materializations.filterRows fun _ row =>
            decide (row.instanceId ≠ id)
          deferredWakes := db.deferredWakes.erase id
          idempotency := records
          objectReservations := objects
          keyReservations := keys
          outbox := (db.outbox.append session.now outboxRetention (removedBindings db id)).append
            session.now outboxRetention more } := by
  simp only [deleteInstanceRow, bind_eq_ok, pure_eq_ok] at deleted
  obtain ⟨unbound, bindings, cleared, work, rfl⟩ := deleted
  obtain ⟨records, rfl⟩ := deleteRouteBindings_ok bindings
  obtain ⟨unreferenced, objects, keys, rfl⟩ := deleteMaterializationsOf_ok work
  exact ⟨unreferenced, records, objects, keys, _, rfl⟩

end Sleepypods.Store
