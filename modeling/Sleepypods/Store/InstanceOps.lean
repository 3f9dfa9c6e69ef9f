import Sleepypods.Store.RouteOps

/-! Creating instances together with their route bindings, and deleting drained ones. -/

set_option autoImplicit false

namespace Sleepypods.Store

open Library Library.Fallible

structure CreateInstanceResult where
  instanceId : InstanceId
  row : InstanceRow
  routeBindings : List RouteBindingRecord
  idempotencyReplayed : Bool

/-- The id of the binding created at a position of the request, counted from one. -/
def createdBindingId (instanceId : InstanceId) (position : Nat) : RouteBindingId where
  value := instanceId.value ++ ":route:" ++ toString position
  nonblank := by
    rw [isBlank, List.all_eq_false]
    exact ⟨':', by simp, by decide⟩

def createInstanceFingerprint (request : CreateInstanceRequest) : StoreResult RequestFingerprint := do
  request.routeBindings.forM validateRouteProtocol
  return .createInstance request.instanceId request.workloadClass request.values
    request.routeBindings

/-- Insert the bindings of a request in order, numbering them from `position`. -/
def insertRouteBindings (session : Session) (instanceId : InstanceId) :
    Nat → List RouteBindingSpec → Database → StoreResult (List RouteBindingRecord × Database)
  | _, [], db => .ok ([], db)
  | position, spec :: rest, db => do
      validateRouteProtocol spec
      let row := routeBindingRow instanceId spec.identity spec.protocol
      let inserted ← insertRouteBinding session (createdBindingId instanceId position) row db
      let record ← row.decode (createdBindingId instanceId position)
      let (records, after) ← insertRouteBindings session instanceId (position + 1) rest inserted
      return (record :: records, after)

def routeBindingsOf (db : Database) (instanceId : InstanceId) :
    StoreResult (List RouteBindingRecord) :=
  ((db.routeBindings.entries.filter fun entry =>
    decide (entry.2.instanceId = instanceId)).insertionSort
      fun left right => left.1.value ≤ right.1.value).mapM fun entry => entry.2.decode entry.1

/-- `create_instance`. `validated` is the outcome of loading the workload class and validating
the request's values against it: the values with their defaults, or the error. -/
def createInstance (session : Session) (request : CreateInstanceRequest)
    (validated : StoreResult (List (String × String))) (db : Database) :
    StoreResult (CreateInstanceResult × Database) := do
  let values ← validated
  let fingerprint ← createInstanceFingerprint { request with values := values }
  let live := expireKey session request.idempotencyKey db
  match live.idempotency.find? request.idempotencyKey with
  | some record =>
    checkReplay record .createInstance fingerprint "instance"
    let (id, row) ← orError
      (live.instances.select? fun id _ => decide (id.value = record.resourceId))
      (.notFound "instance")
    let bindings ← routeBindingsOf live id
    return ({ instanceId := id, row := row, routeBindings := bindings,
              idempotencyReplayed := true }, live)
  | none =>
    let recorded ← insertIdempotencyRecord session request.idempotencyKey .createInstance
      fingerprint request.instanceId.value live
    let (row, inserted) ← insertInstance session request.instanceId
      { workloadClass := request.workloadClass, values := values, state := .cold, generation := 0 }
      recorded
    let (bindings, after) ← insertRouteBindings session request.instanceId 1
      request.routeBindings inserted
    return ({ instanceId := request.instanceId, row := row, routeBindings := bindings,
              idempotencyReplayed := false }, after)

def hasLiveMaterialization (db : Database) (instanceId : InstanceId) : Bool :=
  db.materializations.any fun _ row =>
    decide (row.instanceId = instanceId) && decide (row.state ≠ .deleted)

def deleteInstance (session : Session) (id : InstanceId) (db : Database) :
    StoreResult (Bool × Database) :=
  match db.instances.find? id with
  | none => .ok (false, db)
  | some row => do
      require (row.state = .deleting)
        (.invalidArgument "instance delete requires state deleting")
      require (hasLiveMaterialization db id = false)
        (.invalidArgument "instance deletion requires completed materialization cleanup")
      let after ← deleteInstances session [id] db
      return (true, after)

end Sleepypods.Store
