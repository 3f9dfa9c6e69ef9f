import Sleepypods.Store.Transactions

/-! Idempotent creation. A record is written with its resource and tombstoned with it, so while
it is unexpired its key names one incarnation: the one that was created under it. -/

set_option autoImplicit false

namespace Sleepypods.Store

open Library Library.Fallible

/-! ### Records along a run -/

/-- The same record later on: it may have got its tombstone, and never loses it. -/
structure IdempotencyRecord.Follows (later earlier : IdempotencyRecord) : Prop where
  operation : later.operation = earlier.operation
  fingerprint : later.fingerprint = earlier.fingerprint
  resourceId : later.resourceId = earlier.resourceId
  expiresAt : later.expiresAt = earlier.expiresAt
  tombstoned : later.resourceDeletedAt = none → earlier.resourceDeletedAt = none

namespace IdempotencyRecord.Follows

variable {first second third : IdempotencyRecord}

theorem refl (record : IdempotencyRecord) : record.Follows record := ⟨rfl, rfl, rfl, rfl, id⟩

theorem trans (later : third.Follows second) (earlier : second.Follows first) :
    third.Follows first where
  operation := later.operation.trans earlier.operation
  fingerprint := later.fingerprint.trans earlier.fingerprint
  resourceId := later.resourceId.trans earlier.resourceId
  expiresAt := later.expiresAt.trans earlier.expiresAt
  tombstoned none := earlier.tombstoned (later.tombstoned none)

theorem expired (follows : second.Follows first) (session : Session) :
    expired session second = expired session first := by
  rw [Store.expired, Store.expired, follows.expiresAt]

end IdempotencyRecord.Follows

variable {selects : RouteBindingId → RouteBindingRow → Bool} {db after : Database}

section tombstones

variable {session : Session} {operation : IdempotentOperation} {deleted : String → Bool}
  {records : Table IdempotencyKey IdempotencyRecord} {key : IdempotencyKey}
  {record : IdempotencyRecord}

theorem exists_follows_markResourceDeleted (found : records.find? key = some record) :
    ∃ later, (markResourceDeleted session operation deleted records).find? key = some later ∧
      later.Follows record := by
  rw [markResourceDeleted, Table.find?_mapRows, found]
  refine ⟨_, rfl, ?_⟩
  dsimp only
  split
  · exact ⟨rfl, rfl, rfl, rfl, nofun⟩
  · exact .refl record

/-- A record without a tombstone was there before, and its resource was not deleted. -/
theorem found_of_markResourceDeleted
    (found : (markResourceDeleted session operation deleted records).find? key = some record)
    (untouched : record.resourceDeletedAt = none) :
    records.find? key = some record ∧
      (record.operation = operation → deleted record.resourceId = false) := by
  rw [markResourceDeleted, Table.find?_mapRows, Option.map_eq_some_iff] at found
  obtain ⟨earlier, stored, rewritten⟩ := found
  split at rewritten
  · cases rewritten
    cases untouched
  next kept =>
    cases rewritten
    refine ⟨stored, fun same => ?_⟩
    cases gone : deleted record.resourceId with
    | false => rfl
    | true => exact absurd ⟨same, gone, untouched⟩ kept

theorem deleteRouteBindings_idempotency
    (removal : deleteRouteBindings session selects db = .ok after) :
    after.idempotency = markResourceDeleted session .createRouteBinding
      (fun resource => (db.routeBindings.entries.filter fun entry => selects entry.1 entry.2).any
        fun entry => decide (entry.1.value = resource)) db.idempotency := by
  rw [recordRouteChanges_ok removal]

theorem find?_of_not_deleted {bindings : Table RouteBindingId RouteBindingRow} {id : RouteBindingId}
    {row : RouteBindingRow} (found : bindings.find? id = some row)
    (kept : ((bindings.entries.filter fun entry => selects entry.1 entry.2).any fun entry => decide
      (entry.1.value = id.value)) = false) :
    (bindings.filterRows fun id row => !selects id row).find? id = some row := by
  rw [Table.find?_filterRows, found, Option.filter_some]
  cases selected : selects id row with
  | false => rfl
  | true =>
    have gone : ((bindings.entries.filter fun entry => selects entry.1 entry.2).any
        fun entry => decide (entry.1.value = id.value)) = true :=
      List.any_eq_true.mpr ⟨(id, row),
        List.mem_filter.mpr ⟨Table.find?_eq_some.mp found, selected⟩, decide_eq_true rfl⟩
    rw [kept] at gone
    cases gone

end tombstones

/-! ### What one statement does to records -/

/-- Every record without a tombstone has its resource, and every binding can be read. -/
structure RecordsSound (db : Database) : Prop where
  backed : ∀ key record, db.idempotency.find? key = some record →
    record.resourceDeletedAt = none → db.holds record.operation record.resourceId = true
  readable : ∀ id row, db.routeBindings.find? id = some row → ∃ record, row.decode id = .ok record

theorem exists_find?_insert {κ ρ : Type} [DecidableEq κ] {table : Table κ ρ} {key other : κ}
    {row old : ρ} (found : table.find? other = some old) :
    ∃ now, (table.insert key row).find? other = some now := by
  rw [Table.find?_insert, Function.update_apply]
  split
  · exact ⟨row, rfl⟩
  · exact ⟨old, found⟩

section

variable (sound : RecordsSound db)

include sound

theorem RecordsSound.grow (records : after.idempotency = db.idempotency)
    (instances : ∀ id row, db.instances.find? id = some row →
      ∃ now, after.instances.find? id = some now)
    (bindings : ∀ id row, db.routeBindings.find? id = some row →
      ∃ now, after.routeBindings.find? id = some now)
    (readable : ∀ id row, after.routeBindings.find? id = some row →
      ∃ record, row.decode id = .ok record) : RecordsSound after where
  backed key record found untouched := by
    have held := sound.backed key record (records ▸ found) untouched
    generalize record.operation = operation at held ⊢
    cases operation with
    | createInstance =>
      obtain ⟨id, row, found, named⟩ := Database.holds_createInstance.mp held
      obtain ⟨now, stays⟩ := instances id row found
      exact Database.holds_createInstance.mpr ⟨id, now, stays, named⟩
    | createRouteBinding =>
      obtain ⟨id, row, found, named⟩ := Database.holds_createRouteBinding.mp held
      obtain ⟨now, stays⟩ := bindings id row found
      exact Database.holds_createRouteBinding.mpr ⟨id, now, stays, named⟩
  readable := readable

theorem RecordsSound.same (records : after.idempotency = db.idempotency)
    (instances : after.instances = db.instances)
    (bindings : after.routeBindings = db.routeBindings) :
    RecordsSound after := by
  refine sound.grow records ?_ ?_ ?_
  · rw [instances]
    exact fun _ row found => ⟨row, found⟩
  · rw [bindings]
    exact fun _ row found => ⟨row, found⟩
  · rw [bindings]
    exact sound.readable

-- A tombstone is set in the statement that deletes the resource, so a record that has none
-- still has its resource afterwards.

theorem RecordsSound.deleteRouteBindings {session : Session}
    (deleted : deleteRouteBindings session selects db = .ok after) : RecordsSound after := by
  have records := deleteRouteBindings_idempotency deleted
  obtain ⟨_, rfl⟩ := deleteRouteBindings_ok deleted
  refine ⟨?_, ?_⟩
  · intro key record found untouched
    rw [records] at found
    obtain ⟨stored, kept⟩ := found_of_markResourceDeleted found untouched
    have held := sound.backed key record stored untouched
    cases operation : record.operation with
    | createInstance =>
      rw [operation] at held
      exact held
    | createRouteBinding =>
      rw [operation] at held
      obtain ⟨id, row, there, named⟩ := Database.holds_createRouteBinding.mp held
      have stays := kept operation
      rw [← named] at stays
      exact Database.holds_createRouteBinding.mpr
        ⟨id, row, find?_of_not_deleted there stays, named⟩
  · intro id row found
    rw [Table.find?_filterRows] at found
    exact sound.readable id row (Option.filter_eq_some_iff.mp found).1

theorem RecordsSound.eraseInstance (session : Session) (id : InstanceId) :
    RecordsSound { db with
      instances := db.instances.erase id
      idempotency := markResourceDeleted session .createInstance
        (fun resource => decide (id.value = resource)) db.idempotency } := by
  refine ⟨?_, sound.readable⟩
  intro key record found untouched
  obtain ⟨stored, kept⟩ := found_of_markResourceDeleted found untouched
  have held := sound.backed key record stored untouched
  cases operation : record.operation with
  | createRouteBinding =>
    rw [operation] at held
    exact held
  | createInstance =>
    rw [operation] at held
    obtain ⟨other, row, there, named⟩ := Database.holds_createInstance.mp held
    refine Database.holds_createInstance.mpr ⟨other, row, ?_, named⟩
    rw [Table.find?_erase, Function.update_of_ne, there]
    rintro rfl
    exact of_decide_eq_false (kept operation) named

theorem RecordsSound.deleteInstanceRow {session : Session} {id : InstanceId}
    (deleted : deleteInstanceRow session db id = .ok after) : RecordsSound after := by
  simp only [Store.deleteInstanceRow, bind_eq_ok, pure_eq_ok] at deleted
  obtain ⟨unbound, bindings, cleared, work, rfl⟩ := deleted
  obtain ⟨-, objects, keys, rfl⟩ := deleteMaterializationsOf_ok work
  exact ((sound.eraseInstance session id).deleteRouteBindings bindings).same rfl rfl rfl

end

variable {record : IdempotencyRecord}

section statement

variable {session : Session} {bindings : List RouteBindingSpec} {db after : Database}

theorem Statement.follows {key : IdempotencyKey} (statement : Statement session bindings db after)
    (found : db.idempotency.find? key = some record) (live : expired session record = false) :
    ∃ later, after.idempotency.find? key = some later ∧ later.Follows record := by
  cases statement with
  | insertInstance _ _ _ insert =>
    obtain ⟨_, _, rfl⟩ := insertInstance_ok insert
    exact ⟨record, found, .refl record⟩
  | updateInstance _ _ _ _ _ updated =>
    obtain ⟨_, rfl⟩ := updateInstance_ok updated
    exact ⟨record, found, .refl record⟩
  | insertRouteBinding _ _ _ _ _ inserted =>
    obtain ⟨_, _, _, rfl⟩ := insertRouteBinding_ok inserted
    exact ⟨record, found, .refl record⟩
  | deleteRouteBindings _ deleted =>
    rw [deleteRouteBindings_idempotency deleted]
    exact exists_follows_markResourceDeleted found
  | insertMaterialization _ inserted =>
    obtain ⟨_, _, objects, keys, rfl⟩ := insertMaterialization_ok inserted
    exact ⟨record, found, .refl record⟩
  | updateMaterialization _ _ _ _ _ _ updated =>
    obtain ⟨objects, keys, rfl⟩ := updateMaterialization_ok updated
    exact ⟨record, found, .refl record⟩
  | updateMaterializations _ _ _ _ updated =>
    obtain ⟨objects, keys, rfl⟩ := updateMaterializations_ok updated
    exact ⟨record, found, .refl record⟩
  | deleteInstanceRow _ deleted =>
    simp only [Store.deleteInstanceRow, bind_eq_ok, pure_eq_ok] at deleted
    obtain ⟨unbound, removed, cleared, work, rfl⟩ := deleted
    obtain ⟨-, objects, keys, rfl⟩ := deleteMaterializationsOf_ok work
    simp only [deleteRouteBindings_idempotency removed]
    obtain ⟨marked, there, follows⟩ := exists_follows_markResourceDeleted found
    obtain ⟨later, stays, again⟩ := exists_follows_markResourceDeleted there
    exact ⟨later, stays, again.trans follows⟩
  | recordRouteChanges _ recorded =>
    rw [recordRouteChanges_ok recorded]
    exact ⟨record, found, .refl record⟩
  | pruneOutbox _ pruned =>
    rw [pruned]
    exact ⟨record, found, .refl record⟩
  | keep _ _ _ kept remembered =>
    rw [kept]
    exact ⟨record, remembered.kept key record found live, .refl record⟩

theorem Statement.recordsSound (sound : RecordsSound db)
    (statement : Statement session bindings db after) : RecordsSound after := by
  cases statement with
  | insertInstance _ row _ insert =>
    obtain ⟨_, _, rfl⟩ := insertInstance_ok insert
    exact sound.grow rfl (fun _ _ => exists_find?_insert) (fun _ row found => ⟨row, found⟩)
      sound.readable
  | updateInstance _ _ _ _ _ updated =>
    obtain ⟨_, rfl⟩ := updateInstance_ok updated
    exact sound.grow rfl (fun _ _ => exists_find?_insert) (fun _ row found => ⟨row, found⟩)
      sound.readable
  | insertRouteBinding _ _ _ _ _ inserted decoded =>
    obtain ⟨_, _, _, rfl⟩ := insertRouteBinding_ok inserted
    refine sound.grow rfl (fun _ row found => ⟨row, found⟩) (fun _ _ => exists_find?_insert) ?_
    intro other row found
    rw [Table.find?_insert, Function.update_apply] at found
    split at found
    next same =>
      cases found
      rw [same]
      exact decoded
    · exact sound.readable other row found
  | deleteRouteBindings _ deleted => exact sound.deleteRouteBindings deleted
  | insertMaterialization _ inserted =>
    obtain ⟨_, _, objects, keys, rfl⟩ := insertMaterialization_ok inserted
    exact sound.same rfl rfl rfl
  | updateMaterialization _ _ _ _ _ _ updated =>
    obtain ⟨objects, keys, rfl⟩ := updateMaterialization_ok updated
    exact sound.same rfl rfl rfl
  | updateMaterializations _ _ _ _ updated =>
    obtain ⟨objects, keys, rfl⟩ := updateMaterializations_ok updated
    exact sound.same rfl rfl rfl
  | deleteInstanceRow _ deleted => exact sound.deleteInstanceRow deleted
  | recordRouteChanges _ recorded =>
    rw [recordRouteChanges_ok recorded]
    exact sound.same rfl rfl rfl
  | pruneOutbox _ pruned =>
    rw [pruned]
    exact sound.same rfl rfl rfl
  | keep _ _ _ kept remembered =>
    rw [kept]
    refine ⟨fun key record found untouched => ?_, sound.readable⟩
    cases remembered.written key record found with
    | inl there => exact sound.backed key record there untouched
    | inr held => exact held

theorem recordsSound_of_reachable {allowed : Session × Op → Prop}
    (reachable : storeSystem.Reachable allowed db) : RecordsSound db :=
  reachable_of_statements ⟨fun _ _ => nofun, fun _ _ => nofun⟩ (fun _ _ _ _ => Statement.recordsSound) reachable

def HasRecord (key : IdempotencyKey) (record : IdempotencyRecord) (db : Database) : Prop :=
  ∃ later, db.idempotency.find? key = some later ∧ later.Follows record

theorem hasRecord_of_path {key : IdempotencyKey}
    (run : storeSystem.Path (fun label => expired label.1 record = false) db after)
    (has : HasRecord key record db) : HasRecord key record after := by
  refine run.preserves ?_ has
  rintro ⟨now, op⟩ db after live held committed
  have statements : Statements now op.bindings db after := Statements.commit committed
  refine statements.preserves ?_ held
  rintro db after ⟨earlier, found, follows⟩ statement
  have unexpired : expired now earlier = false := (follows.expired now).trans live
  obtain ⟨later, stays, again⟩ := statement.follows found unexpired
  exact ⟨later, stays, again.trans follows⟩

end statement

/-! ### Create requests -/

/-- A create request, an instance's with the outcome of validating its values. -/
inductive Create where
  | newInstance (request : CreateInstanceRequest) (validated : StoreResult (List (String × String)))
  | newRouteBinding (request : CreateRouteBindingRequest)

inductive Created where
  | newInstance (result : CreateInstanceResult)
  | newRouteBinding (record : RouteBindingRecord)

def Created.resource : Created → IdempotentOperation × String
  | .newInstance result => (.createInstance, result.instanceId.value)
  | .newRouteBinding record => (.createRouteBinding, record.id.value)

def Created.ReadFrom (db : Database) : Created → Prop
  | .newInstance result => db.instances.find? result.instanceId = some result.row ∧
      routeBindingsOf db result.instanceId = .ok result.routeBindings
  | .newRouteBinding record =>
    ∃ row, db.routeBindings.find? record.id = some row ∧ row.decode record.id = .ok record

namespace Create

def op : Create → Op
  | .newInstance request validated => .createInstance request validated
  | .newRouteBinding request => .createRouteBinding request

def key : Create → IdempotencyKey
  | .newInstance request _ => request.idempotencyKey
  | .newRouteBinding request => request.idempotencyKey

def operation : Create → IdempotentOperation
  | .newInstance _ _ => .createInstance
  | .newRouteBinding _ => .createRouteBinding

def resourceName : Create → String
  | .newInstance _ _ => "instance"
  | .newRouteBinding _ => "route binding"

def contents : Create → StoreResult RequestFingerprint
  | .newInstance request validated => do
      let values ← validated
      createInstanceFingerprint { request with values := values }
  | .newRouteBinding request => do
      validateRouteProtocol { identity := request.identity, protocol := request.protocol }
      return createRouteBindingFingerprint request

def call (session : Session) (db : Database) : Create → StoreResult (Created × Database)
  | .newInstance request validated => do
      let (result, after) ← createInstance session request validated db
      return (.newInstance result, after)
  | .newRouteBinding request => do
      let (record, after) ← createRouteBinding session request db
      return (.newRouteBinding record, after)

/-- What a request leaves behind: the transaction of a failed one is rolled back. -/
def settle (session : Session) (db : Database) (create : Create) : Database :=
  match create.call session db with
  | .ok (_, after) => after
  | .error _ => db

/-- The error of a request whose contents are not those its key was used for. -/
def refusal (create : Create) : StoreError :=
  match create.contents with
  | .ok _ => .idempotencyConflict
  | .error invalid => invalid

end Create

section requests

variable {session : Session} {create : Create} {db after : Database}

theorem commit_op : commit session create.op db = Prod.snd <$> create.call session db := by
  cases create with
  | newInstance request validated =>
    simp only [commit, Create.op, Create.call]
    cases createInstance session request validated db <;> rfl
  | newRouteBinding request =>
    simp only [commit, Create.op, Create.call]
    cases createRouteBinding session request db <;> rfl

variable {key : IdempotencyKey}

theorem expireKey_eq_self (found : db.idempotency.find? key = some record)
    (live : expired session record = false) : expireKey session key db = db := by
  have kept : (db.idempotency.filterRows fun other record =>
      !(decide (other = key) && expired session record)) = db.idempotency := by
    refine Table.filterRows_eq_self fun other row there => ?_
    by_cases same : other = key
    · subst same
      rw [found] at there
      cases there
      rw [live, Bool.and_false]
      rfl
    · rw [decide_eq_false same]
      rfl
  rw [expireKey, kept]

theorem call_of_invalid {invalid : StoreError} (contents : create.contents = .error invalid) :
    create.call session db = .error invalid := by
  cases create with
  | newInstance =>
    refine bind_eq_error.mpr (.inl (bind_eq_error.mpr ?_))
    cases bind_eq_error.mp contents with
    | inl invalid => exact .inl invalid
    | inr refused =>
      obtain ⟨values, valid, refused⟩ := refused
      exact .inr ⟨values, valid, bind_eq_error.mpr (.inl refused)⟩
  | newRouteBinding =>
    refine bind_eq_error.mpr (.inl (bind_eq_error.mpr ?_))
    cases bind_eq_error.mp contents with
    | inl invalid => exact .inl invalid
    | inr written =>
      obtain ⟨_, -, impossible⟩ := written
      cases impossible

def Create.load (record : IdempotencyRecord) (db : Database) : Create → StoreResult Created
  | .newInstance _ _ => do
      let (id, row) ← orError
        (db.instances.select? fun id _ => decide (id.value = record.resourceId))
        (.notFound "instance")
      let bindings ← routeBindingsOf db id
      return .newInstance { instanceId := id, row := row, routeBindings := bindings,
                            idempotencyReplayed := true }
  | .newRouteBinding _ => do
      let (id, row) ← orError
        (db.routeBindings.select? fun id _ => decide (id.value = record.resourceId))
        (.notFound "route binding")
      return .newRouteBinding (← row.decode id)

variable {fingerprint : RequestFingerprint}

/-- While its key has an unexpired record, a valid request is checked against that record and
then answered from the tables. -/
theorem call_of_record (contents : create.contents = .ok fingerprint)
    (found : db.idempotency.find? create.key = some record)
    (live : expired session record = false) :
    create.call session db = (do
      checkReplay record create.operation fingerprint create.resourceName
      let created ← create.load record db
      return (created, db)) := by
  cases create with
  | newInstance request =>
    obtain ⟨values, rfl, print⟩ := bind_eq_ok.mp contents
    have found : db.idempotency.find? request.idempotencyKey = some record := found
    simp only [Create.call, createInstance, Create.load, Create.operation, Create.resourceName,
      expireKey_eq_self found live, found, bind_assoc, pure_bind, ok_bind, print]
  | newRouteBinding request =>
    obtain ⟨_, valid, print⟩ := bind_eq_ok.mp contents
    cases print
    have found : db.idempotency.find? request.idempotencyKey = some record := found
    simp only [Create.call, createRouteBinding, Create.load, Create.operation,
      Create.resourceName, expireKey_eq_self found live, found, bind_assoc, pure_bind, ok_bind,
      valid]

theorem routeBindingsOf_ok (sound : RecordsSound db) (id : InstanceId) :
    ∃ bindings, routeBindingsOf db id = .ok bindings := by
  refine exists_mapM_eq_ok fun entry member => ?_
  have stored := (List.mem_filter.mp ((List.mem_insertionSort _).mp member)).1
  exact sound.readable entry.1 entry.2 (Table.find?_eq_some.mpr stored)

theorem load_ok (sound : RecordsSound db) (operation : record.operation = create.operation)
    (held : db.holds record.operation record.resourceId = true) :
    ∃ created, create.load record db = .ok created ∧
      created.resource = (record.operation, record.resourceId) ∧ created.ReadFrom db := by
  rw [operation] at held ⊢
  cases create with
  | newInstance =>
    simp only [Create.operation, Database.holds] at held
    obtain ⟨id, row, selected, found, named⟩ := Table.exists_select? held
    obtain ⟨bindings, read⟩ := routeBindingsOf_ok sound id
    refine ⟨.newInstance ⟨id, row, bindings, true⟩, ?_, ?_, found, read⟩
    · simp only [Create.load, selected, orError, ok_bind, read]
      rfl
    · exact congrArg (Prod.mk _) (of_decide_eq_true named)
  | newRouteBinding =>
    simp only [Create.operation, Database.holds] at held
    obtain ⟨id, row, selected, found, named⟩ := Table.exists_select? held
    obtain ⟨binding, decoded⟩ := sound.readable id row found
    obtain ⟨identity, -, rfl⟩ := map_eq_ok.mp decoded
    refine ⟨.newRouteBinding ⟨id, row.instanceId, identity, row.protocol⟩, ?_, ?_, row, found,
      decoded⟩
    · simp only [Create.load, selected, orError, ok_bind, decoded]
      rfl
    · exact congrArg (Prod.mk _) (of_decide_eq_true named)

theorem insertRouteBindings_idempotency {instanceId : InstanceId} {specs : List RouteBindingSpec}
    {position : Nat} {records : List RouteBindingRecord}
    (inserted : insertRouteBindings session instanceId position specs db = .ok (records, after)) :
    after.idempotency = db.idempotency := by
  induction specs generalizing position records db after with
  | nil =>
    cases inserted
    rfl
  | cons _ _ ih =>
    simp only [insertRouteBindings, bind_eq_ok, pure_eq_ok, Prod.exists, Prod.mk.injEq] at inserted
    obtain ⟨_, -, stored, insert, _, -, _, _, later, -, rfl⟩ := inserted
    obtain ⟨-, -, -, stores⟩ := insertRouteBinding_ok insert
    rw [ih later, stores]

theorem insertIdempotencyRecord_ok {operation : IdempotentOperation}
    {resourceId : String}
    (inserted : insertIdempotencyRecord session key operation fingerprint resourceId db =
      .ok after) :
    ∃ record, after = { db with idempotency := db.idempotency.insert key record } ∧
      record.operation = operation ∧ record.fingerprint = fingerprint ∧
      record.resourceId = resourceId ∧ record.resourceDeletedAt = none := by
  simp only [insertIdempotencyRecord, bind_eq_ok, require_eq_ok, pure_eq_ok, exists_const] at inserted
  exact ⟨_, inserted.2.symm, rfl, rfl, rfl, rfl⟩

theorem find?_expireKey_eq_none
    (free : ∀ old, db.idempotency.find? key = some old → expired session old = true) :
    (expireKey session key db).idempotency.find? key = none := by
  rw [expireKey, Table.find?_filterRows, Option.filter_eq_none_iff]
  intro old found
  rw [free old found, decide_eq_true rfl]
  nofun

/-- A create under a free key writes, with its resource, the record of that resource. -/
theorem recorded_of_call {created : Created}
    (free : ∀ old, db.idempotency.find? create.key = some old → expired session old = true)
    (made : create.call session db = .ok (created, after)) :
    ∃ record, after.idempotency.find? create.key = some record ∧
      create.contents = .ok record.fingerprint ∧ record.operation = create.operation ∧
      created.resource = (record.operation, record.resourceId) ∧
      record.resourceDeletedAt = none := by
  cases create with
  | newInstance request =>
    simp only [Create.call, createInstance, bind_eq_ok, pure_eq_ok, Prod.exists,
      Prod.mk.injEq] at made
    obtain ⟨result, _, ⟨values, rfl, fingerprint, print, rest⟩, rfl, rfl⟩ := made
    rw [@find?_expireKey_eq_none _ _ request.idempotencyKey free] at rest
    simp only [bind_eq_ok, pure_eq_ok, Prod.exists, Prod.mk.injEq] at rest
    obtain ⟨_, recorded, row, inserted, insert, _, _, bound, rfl, rfl⟩ := rest
    obtain ⟨record, rfl, operation, rfl, resource, untouched⟩ := insertIdempotencyRecord_ok recorded
    obtain ⟨-, -, stores⟩ := insertInstance_ok insert
    refine ⟨record, ?_, print, operation, ?_, untouched⟩
    · rw [insertRouteBindings_idempotency bound, stores, Table.find?_insert]
      exact Function.update_self ..
    · rw [operation, resource]
      rfl
  | newRouteBinding request =>
    simp only [Create.call, createRouteBinding, bind_eq_ok, pure_eq_ok, Prod.exists,
      Prod.mk.injEq] at made
    obtain ⟨binding, _, ⟨_, valid, rest⟩, rfl, rfl⟩ := made
    rw [@find?_expireKey_eq_none _ _ request.idempotencyKey free] at rest
    simp only [bind_eq_ok, pure_eq_ok, Prod.mk.injEq] at rest
    obtain ⟨_, recorded, inserted, insert, _, decoded, rfl, rfl⟩ := rest
    obtain ⟨record, rfl, operation, print, resource, untouched⟩ :=
      insertIdempotencyRecord_ok recorded
    obtain ⟨-, -, -, rfl⟩ := insertRouteBinding_ok insert
    obtain ⟨identity, -, rfl⟩ := map_eq_ok.mp decoded
    refine ⟨record, ?_, ?_, operation, ?_, untouched⟩
    · rw [Table.find?_insert]
      exact Function.update_self ..
    · rw [print, Create.contents, valid]
      rfl
    · rw [operation, resource]
      rfl

/-! ### Later uses of the key -/

theorem same_operation {other : Create} (contents : create.contents = .ok fingerprint)
    (same : other.contents = .ok fingerprint) :
    create.operation = other.operation := by
  cases create with
  | newInstance request =>
    simp only [Create.contents, createInstanceFingerprint, bind_eq_ok, pure_eq_ok] at contents
    obtain ⟨_, -, _, -, rfl⟩ := contents
    cases other with
    | newInstance => rfl
    | newRouteBinding =>
      obtain ⟨_, -, impossible⟩ := bind_eq_ok.mp same
      cases impossible
  | newRouteBinding request =>
    obtain ⟨_, -, written⟩ := bind_eq_ok.mp contents
    cases written
    cases other with
    | newRouteBinding => rfl
    | newInstance =>
      simp only [Create.contents, createInstanceFingerprint, bind_eq_ok, pure_eq_ok] at same
      obtain ⟨_, -, _, -, impossible⟩ := same
      cases impossible

variable {record : IdempotencyRecord}

theorem unchanged_of_record (found : db.idempotency.find? create.key = some record)
    (live : expired session record = false) {created : Created}
    (served : create.call session db = .ok (created, after)) : after = db := by
  cases contents : create.contents with
  | error =>
    rw [call_of_invalid contents] at served
    cases served
  | ok =>
    rw [call_of_record contents found live] at served
    simp only [bind_eq_ok, pure_eq_ok, Prod.mk.injEq] at served
    obtain ⟨_, -, _, -, -, same⟩ := served
    exact same.symm

theorem call_of_other_contents (found : db.idempotency.find? create.key = some record)
    (live : expired session record = false) (other : create.contents ≠ .ok record.fingerprint) :
    create.call session db = .error create.refusal := by
  cases contents : create.contents with
  | error =>
    rw [call_of_invalid contents, Create.refusal, contents]
  | ok =>
    rw [call_of_record contents found live, Create.refusal, contents, bind_eq_error, checkReplay,
      bind_eq_error, require_eq_error]
    refine .inl (.inl ⟨?_, rfl⟩)
    rintro ⟨-, same⟩
    rw [contents, same] at other
    exact other rfl

/-- A request with the contents of the record is answered with the record's resource, if that
was not deleted. -/
theorem call_of_same_contents (sound : RecordsSound db)
    (found : db.idempotency.find? create.key = some record) (live : expired session record = false)
    (contents : create.contents = .ok record.fingerprint)
    (operation : record.operation = create.operation) :
    (record.resourceDeletedAt ≠ none →
      create.call session db = .error (.idempotencyResourceDeleted create.resourceName)) ∧
    (record.resourceDeletedAt = none → ∃ created, create.call session db = .ok (created, db) ∧
      created.resource = (record.operation, record.resourceId) ∧ created.ReadFrom db) := by
  rw [call_of_record contents found live]
  constructor
  · intro deleted
    simp only [bind_eq_error, checkReplay, require_eq_ok, require_eq_error]
    exact .inl (.inr ⟨(), ⟨operation, trivial⟩, deleted, trivial⟩)
  · intro untouched
    obtain ⟨created, loaded, named, read⟩ :=
      load_ok sound operation (sound.backed create.key record found untouched)
    refine ⟨created, ?_, named, read⟩
    simp only [bind_eq_ok, checkReplay, require_eq_ok, pure_eq_ok]
    exact ⟨(), ⟨(), ⟨operation, trivial⟩, untouched⟩, created, loaded, rfl⟩

end requests

def unexpired (record : IdempotencyRecord) (label : Session × Op) : Prop :=
  expired label.1 record = false

instance (record : IdempotencyRecord) : DecidablePred (unexpired record) := fun label =>
  inferInstanceAs (Decidable (expired label.1 record = false))

/-- A resource whose record has no tombstone later in the run was there all along. -/
theorem held_along_run {created middle later : Database} {key : IdempotencyKey}
    {last : IdempotencyRecord} (reachable : storeSystem.Reachable (fun _ => True) created)
    (recorded : created.idempotency.find? key = some record)
    (toMiddle : storeSystem.Path (unexpired record) created middle)
    (toLater : storeSystem.Path (unexpired record) middle later)
    (found : later.idempotency.find? key = some last) (untouched : last.resourceDeletedAt = none) :
    middle.holds record.operation record.resourceId = true := by
  obtain ⟨between, there, follows⟩ := hasRecord_of_path toMiddle ⟨record, recorded, .refl record⟩
  have onward : storeSystem.Path (unexpired between) middle later :=
    toLater.mono fun label live => (follows.expired label.1).trans live
  obtain ⟨last', found', follows'⟩ := hasRecord_of_path onward ⟨between, there, .refl between⟩
  rw [found] at found'
  cases found'
  have sound := recordsSound_of_reachable (reachable.path (toMiddle.mono fun _ _ => trivial))
  rw [← follows.operation, ← follows.resourceId]
  exact sound.backed key between there (follows'.tombstoned untouched)

/-- Creation is idempotent. Once a request has created a resource under a key, and for as long as
the key's record is unexpired, no request under that key creates or changes anything. One with
the same operation and contents gets the very resource, which has been there ever since, or hears
that it was deleted. One with other contents is refused: as a conflict, if it is valid at all.
Failed requests leave the records as they were, and every record stands for a created resource. -/
theorem creation_is_idempotent {before created later : Database} {session now : Session}
    {first again : Create} {answer : Created} {record : IdempotencyRecord}
    (reachable : storeSystem.Reachable (fun _ => True) before)
    (free : ∀ old, before.idempotency.find? first.key = some old → expired session old = true)
    (made : first.call session before = .ok (answer, created))
    (recorded : created.idempotency.find? first.key = some record)
    (run : storeSystem.Path (unexpired record) created later)
    (live : expired now record = false) (sameKey : again.key = first.key) :
    (∀ next, commit now again.op later = .ok next → next = later) ∧
    (again.contents = first.contents →
      again.call now later = .error (.idempotencyResourceDeleted again.resourceName) ∨
      ∃ returned, again.call now later = .ok (returned, later) ∧
        returned.resource = answer.resource ∧ returned.ReadFrom later ∧
        ∀ middle, storeSystem.Path (unexpired record) created middle →
          storeSystem.Path (unexpired record) middle later →
          middle.holds answer.resource.1 answer.resource.2 = true) ∧
    (again.contents ≠ first.contents → again.call now later = .error again.refusal) ∧
    (∀ (failing : Create) error, failing.call now later = .error error →
      failing.settle now later = later) ∧
    (∀ key old, later.idempotency.find? key = some old → old.resourceDeletedAt = none →
      later.holds old.operation old.resourceId = true) := by
  obtain ⟨written, there, contents, operation, named, -⟩ := recorded_of_call free made
  rw [recorded] at there
  cases there
  have stepped : storeSystem.step (session, first.op) before created := by
    change commit session first.op before = .ok created
    rw [commit_op, made]
    rfl
  have reached : storeSystem.Reachable (fun _ => True) created := reachable.step trivial stepped
  have sound : RecordsSound later :=
    recordsSound_of_reachable (reached.path (run.mono fun _ _ => trivial))
  obtain ⟨last, found, follows⟩ := hasRecord_of_path run ⟨record, recorded, .refl record⟩
  rw [← sameKey] at found
  have unexpired : expired now last = false := (follows.expired now).trans live
  refine ⟨?_, ?_, ?_, ?_, sound.backed⟩
  · intro next committed
    rw [commit_op, map_snd_eq_ok] at committed
    obtain ⟨returned, served⟩ := committed
    exact unchanged_of_record found unexpired served
  · intro same
    have repeated : again.contents = .ok last.fingerprint := by
      rw [same, contents, follows.fingerprint]
    have sameOperation : last.operation = again.operation := by
      rw [follows.operation, operation]
      exact same_operation contents (same.trans contents)
    obtain ⟨deleted, kept⟩ := call_of_same_contents sound found unexpired repeated sameOperation
    cases tombstone : last.resourceDeletedAt with
    | some =>
      apply Or.inl
      apply deleted
      rw [tombstone]
      nofun
    | none =>
      obtain ⟨returned, served, resource, read⟩ := kept tombstone
      refine .inr ⟨returned, served, ?_, read, ?_⟩
      · rw [resource, named, follows.operation, follows.resourceId]
      · intro middle toMiddle toLater
        rw [sameKey] at found
        rw [named]
        exact held_along_run reached recorded toMiddle toLater found tombstone
  · intro other
    rw [contents, ← follows.fingerprint] at other
    exact call_of_other_contents found unexpired other
  · intro failing error failed
    rw [Create.settle, failed]

namespace Sample

def remembering (now : Int) : Session := { session now with idempotencyRetentionMillis := some 1000 }

def firstWeb : Create :=
  .newInstance
    { idempotencyKey := ⟨⟨"create-web", rfl⟩⟩
      instanceId := web
      workloadClass := { classId := "service", version := 1 }
      values := []
      routeBindings := [] } (.ok [])

def webRecord : IdempotencyRecord where
  operation := .createInstance
  fingerprint := .createInstance web { classId := "service", version := 1 } [] []
  resourceId := "web"
  expiresAt := some 1000
  resourceDeletedAt := none

/-- Delete the instance and create another one of that id under another key. -/
def recreateWeb : List (Session × Op) :=
  [(remembering 10, .requestInstanceDeletion { instanceId := web, expectedGeneration := 0 }),
   (remembering 20, .deleteInstance web),
   (remembering 30, .createInstance
    { idempotencyKey := ⟨⟨"create-web-again", by decide⟩⟩
      instanceId := web
      workloadClass := { classId := "service", version := 1 }
      values := []
      routeBindings := [] } (.ok []))]

/-- The databases after the first use of the key, and after the id was used again. -/
def createdWeb : Database := firstWeb.settle (remembering 0) .empty

def recreatedWeb : Database := ((runOps recreateWeb createdWeb).toOption).getD createdWeb

end Sample

/-- The replay of a create does not return the instance that reused the id. -/
theorem sample_creation_is_idempotent :
    Sample.recreatedWeb.holds .createInstance "web" = true ∧
      Sample.firstWeb.call (Sample.remembering 40) Sample.recreatedWeb =
        .error (.idempotencyResourceDeleted "instance") := by
  have made : Sample.firstWeb.call (Sample.remembering 0) .empty = .ok (_, Sample.createdWeb) := rfl
  have recorded : Sample.createdWeb.idempotency.find? Sample.firstWeb.key =
    some Sample.webRecord := rfl
  have ran : runOps Sample.recreateWeb Sample.createdWeb = .ok Sample.recreatedWeb := rfl
  have live : expired (Sample.remembering 40) Sample.webRecord = false := rfl
  have free : ∀ old, Database.empty.idempotency.find? Sample.firstWeb.key = some old →
      expired (Sample.remembering 0) old = true := by
    intro old found
    cases found
  have honoured := creation_is_idempotent (.init rfl) free made recorded
    (runOps_path (by decide) ran) live (Eq.refl Sample.firstWeb.key)
  constructor
  · decide +kernel
  apply (honoured.2.1 rfl).resolve_right
  intro replayed
  obtain ⟨returned, served, -⟩ := replayed
  cases served

end Sleepypods.Store
