import Sleepypods.Store.Database

/-! The statements of the store's transactions. Each one includes the triggers that run on its
table, the constraints it is checked against and the cascades it causes. -/

set_option autoImplicit false

namespace Sleepypods.Store

open Library Library.Fallible

/-- `retain_instance_generation`: raise the watermark of an id to a generation it now has. -/
def retainGeneration (id : InstanceId) (generation : Nat)
    (watermarks : Table InstanceId GenerationWatermark) : Table InstanceId GenerationWatermark :=
  watermarks.insert id
    (match watermarks.find? id with
    | some watermark =>
      { watermark with lastGeneration := max watermark.lastGeneration generation }
    | none => { lastGeneration := generation, retired := false })

/-- The generation an inserted instance gets: above every generation its id ever had. -/
def insertedGeneration (requested : Nat) : Option GenerationWatermark → Nat
  | none => requested
  | some watermark => max requested (watermark.lastGeneration + 1)

def insertInstance (session : Session) (id : InstanceId) (row : InstanceRow) (db : Database) :
    StoreResult (InstanceRow × Database) := do
  require (¬(db.watermarks.find? id).any GenerationWatermark.retired)
    (.invalidArgument "instance ID was deleted before incarnation fencing; use a new instance ID")
  let generation := insertedGeneration row.generation (db.watermarks.find? id)
  require (generation < bigintBound) bigintOutOfRange
  require (db.instances.find? id = none) (.alreadyExists "instance")
  let stored := { row with generation := generation }
  let db ← recordRouteChanges session [.lifecycle id]
    { db with
      instances := db.instances.insert id stored
      watermarks := retainGeneration id generation db.watermarks }
  return (stored, db)

/-- Move an instance, whose current row is `old`, to a state and generation. -/
def updateInstance (session : Session) (id : InstanceId) (old : InstanceRow)
    (state : InstanceState) (generation : Nat) (db : Database) : StoreResult Database := do
  require (generation < bigintBound) bigintOutOfRange
  recordRouteChanges session
    (if (state, generation) ≠ (old.state, old.generation) then [.lifecycle id] else [])
    { db with
      instances := db.instances.insert id { old with state := state, generation := generation }
      watermarks := retainGeneration id generation db.watermarks }

/-- `mark_idempotency_resource_deleted`: a replay must not return a later resource of the same
id. -/
def markResourceDeleted (session : Session) (operation : IdempotentOperation)
    (deleted : String → Bool) (records : Table IdempotencyKey IdempotencyRecord) :
    Table IdempotencyKey IdempotencyRecord :=
  records.mapRows fun _ record =>
    if record.operation = operation ∧ deleted record.resourceId = true ∧
        record.resourceDeletedAt = none then
      { record with resourceDeletedAt := some session.now }
    else record

def insertRouteBinding (session : Session) (id : RouteBindingId) (row : RouteBindingRow)
    (db : Database) : StoreResult Database := do
  require (db.routeBindings.find? id = none) (.alreadyExists "route binding")
  require (db.routeBindings.any (fun _ other => decide (other.identityKey = row.identityKey)) = false)
    (.alreadyExists "route binding")
  require ((db.instances.find? row.instanceId).isSome) (.notFound "referenced resource")
  recordRouteChanges session [row.change false id]
    { db with routeBindings := db.routeBindings.insert id row }

def deleteRouteBindings (session : Session) (selects : RouteBindingId → RouteBindingRow → Bool)
    (db : Database) : StoreResult Database :=
  let deleted := db.routeBindings.entries.filter fun entry => selects entry.1 entry.2
  recordRouteChanges session (deleted.map fun entry => entry.2.change true entry.1)
    { db with
      routeBindings := db.routeBindings.filterRows fun id row => !selects id row
      idempotency := markResourceDeleted session .createRouteBinding
        (fun resource => deleted.any fun entry => decide (entry.1.value = resource)) db.idempotency }

def insertMaterialization (session : Session) (id : MaterializationId) (row : MaterializationRow)
    (db : Database) : StoreResult Database := do
  require (row.fits = true) bigintOutOfRange
  require (db.materializations.find? id = none) (.alreadyExists "materialization")
  require ((db.instances.find? row.instanceId).isSome) (.notFound "referenced resource")
  let db ← syncReservations id none row
    { db with materializations := db.materializations.insert id row }
  recordRouteChanges session [.lifecycle row.instanceId] db

/-- Update one materialization, whose current row is `old`. -/
def updateMaterialization (session : Session) (id : MaterializationId) (old assigned : MaterializationRow)
    (db : Database) : StoreResult Database := do
  let new := beforeUpdate session old assigned
  require (new.fits = true) bigintOutOfRange
  let db ← syncReservations id (some old) new
    { db with materializations := db.materializations.insert id new }
  recordRouteChanges session
    (if routeVisibleChange old new then [.lifecycle old.instanceId] else []) db

def updateMaterializations (session : Session)
    (selects : MaterializationId → MaterializationRow → Bool)
    (assign : MaterializationRow → MaterializationRow) (db : Database) : StoreResult Database := do
  let rewrite := fun old => beforeUpdate session old (assign old)
  let updated := db.materializations.entries.filter fun entry => selects entry.1 entry.2
  require (∀ entry ∈ updated, (rewrite entry.2).fits = true) bigintOutOfRange
  let db ← updated.foldlM
    (fun db entry => syncReservations entry.1 (some entry.2) (rewrite entry.2) db)
    { db with
      materializations := db.materializations.mapRows fun id row =>
        if selects id row then rewrite row else row }
  let visible := updated.filter fun entry => routeVisibleChange entry.2 (rewrite entry.2)
  recordRouteChanges session
    ((visible.map fun entry => entry.2.instanceId).dedup.map RouteChange.lifecycle) db

/-- The cascade from an instance to its materializations. An unresolved effect still references
its materialization and refuses the deletion. -/
def deleteMaterializationsOf (session : Session) (instanceId : InstanceId) (db : Database) :
    StoreResult Database := do
  let deleted := db.materializations.entries.filter fun entry =>
    decide (entry.2.instanceId = instanceId)
  require (∀ entry ∈ deleted, db.effects.find? entry.1 = none) (.notFound "referenced resource")
  let owns := fun owner => deleted.any fun entry => decide (entry.1 = owner)
  recordRouteChanges session (if deleted.isEmpty then [] else [.lifecycle instanceId])
    { db with
      materializations := db.materializations.filterRows fun _ row =>
        decide (row.instanceId ≠ instanceId)
      objectReservations := db.objectReservations.filterRows fun _ owner => !owns owner
      keyReservations := db.keyReservations.filterRows fun _ owner => !owns owner }

def deleteInstanceRow (session : Session) (db : Database) (id : InstanceId) :
    StoreResult Database := do
  let db ← deleteRouteBindings session (fun _ row => decide (row.instanceId = id))
    { db with
      instances := db.instances.erase id
      idempotency := markResourceDeleted session .createInstance
        (fun resource => decide (id.value = resource)) db.idempotency }
  let db ← deleteMaterializationsOf session id db
  return { db with deferredWakes := db.deferredWakes.erase id }

def deleteInstances (session : Session) (ids : List InstanceId) (db : Database) :
    StoreResult Database := do
  let db ← ids.foldlM (deleteInstanceRow session) db
  recordRouteChanges session (ids.map RouteChange.lifecycle) db

end Sleepypods.Store
