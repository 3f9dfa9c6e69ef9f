import Sleepypods.Store.StatementProperties
import Sleepypods.Store.Step

/-! Every committed transaction is a chain of statements on the tables. What a statement keeps, a
transaction keeps. -/

set_option autoImplicit false

namespace Sleepypods.Store

open Library Library.Fallible

def Op.bindings : Op → List RouteBindingSpec
  | .createInstance request _ => request.routeBindings
  | .createRouteBinding request => [⟨request.identity, request.protocol⟩]
  | _ => []

def Database.holds (db : Database) : IdempotentOperation → String → Bool
  | .createInstance, resourceId => db.instances.any fun id _ => decide (id.value = resourceId)
  | .createRouteBinding, resourceId =>
    db.routeBindings.any fun id _ => decide (id.value = resourceId)

variable {db : Database}

theorem Database.holds_createInstance {resourceId : String} :
    db.holds .createInstance resourceId = true ↔
      ∃ id row, db.instances.find? id = some row ∧ id.value = resourceId := by
  simp only [holds, Table.any_eq_true, decide_eq_true_eq]

theorem Database.holds_createRouteBinding {resourceId : String} :
    db.holds .createRouteBinding resourceId = true ↔
      ∃ id row, db.routeBindings.find? id = some row ∧ id.value = resourceId := by
  simp only [holds, Table.any_eq_true, decide_eq_true_eq]

structure Remembers (session : Session) (db : Database)
    (records : Table IdempotencyKey IdempotencyRecord) : Prop where
  kept : ∀ key record, db.idempotency.find? key = some record → expired session record = false →
    records.find? key = some record
  written : ∀ key record, records.find? key = some record →
    db.idempotency.find? key = some record ∨ db.holds record.operation record.resourceId = true

theorem Remembers.refl (session : Session) (db : Database) : Remembers session db db.idempotency where
  kept _ _ found _ := found
  written _ _ found := .inl found

/-- One statement of a transaction that creates the given bindings, with the row it found. -/
inductive Statement (session : Session) (bindings : List RouteBindingSpec) (db after : Database) :
    Prop where
  | insertInstance (id : InstanceId) (row stored : InstanceRow)
      (inserted : insertInstance session id row db = .ok (stored, after))
  | updateInstance (id : InstanceId) (old : InstanceRow) (state : InstanceState) (generation : Nat)
      (found : db.instances.find? id = some old)
      (updated : updateInstance session id old state generation db = .ok after)
  | insertRouteBinding (id : RouteBindingId) (instanceId : InstanceId) (spec : RouteBindingSpec)
      (listed : spec ∈ bindings) (valid : validateRouteProtocol spec = .ok ())
      (inserted : insertRouteBinding session id
        (routeBindingRow instanceId spec.identity spec.protocol) db = .ok after)
      (decoded : ∃ record,
        (routeBindingRow instanceId spec.identity spec.protocol).decode id = .ok record)
  | deleteRouteBindings (selects : RouteBindingId → RouteBindingRow → Bool)
      (deleted : deleteRouteBindings session selects db = .ok after)
  | insertMaterialization (row : MaterializationRow)
      (inserted : insertMaterialization session (materializationId row.instanceId row.target) row
        db = .ok after)
  | updateMaterialization (id : MaterializationId) (old assigned : MaterializationRow)
      (found : db.materializations.find? id = some old)
      (owned : assigned.instanceId = old.instanceId) (targeted : assigned.target = old.target)
      (updated : updateMaterialization session id old assigned db = .ok after)
  | updateMaterializations (selects : MaterializationId → MaterializationRow → Bool)
      (assign : MaterializationRow → MaterializationRow)
      (owned : ∀ row, (assign row).instanceId = row.instanceId)
      (targeted : ∀ row, (assign row).target = row.target)
      (updated : updateMaterializations session selects assign db = .ok after)
  | deleteInstanceRow (id : InstanceId) (deleted : deleteInstanceRow session db id = .ok after)
  | recordRouteChanges (changes : List RouteChange)
      (recorded : recordRouteChanges session changes db = .ok after)
  | pruneOutbox (limit : Nat) (pruned : after = pruneOutbox session limit db)
  | keep (effects : Table MaterializationId EffectRow)
      (deferredWakes : Table InstanceId DeferredWakeIntent)
      (idempotency : Table IdempotencyKey IdempotencyRecord)
      (kept : after = { db with
        effects := effects, deferredWakes := deferredWakes, idempotency := idempotency })
      (remembered : Remembers session db idempotency)

abbrev Statements (session : Session) (bindings : List RouteBindingSpec) :
    Database → Database → Prop :=
  Relation.ReflTransGen (Statement session bindings)

theorem Statements.preserves {session : Session} {bindings : List RouteBindingSpec}
    {holds : Database → Prop}
    (step : ∀ db after, holds db → Statement session bindings db after → holds after)
    {after : Database} (statements : Statements session bindings db after) (held : holds db) :
    holds after := by
  induction statements with
  | refl => exact held
  | tail _ statement ih => exact step _ _ ih statement

namespace Statements

variable {session : Session} {bindings : List RouteBindingSpec} {db middle after : Database}

theorem keep (effects : Table MaterializationId EffectRow)
    (deferredWakes : Table InstanceId DeferredWakeIntent) :
    Statements session bindings db
      { db with effects := effects, deferredWakes := deferredWakes } :=
  .single (.keep effects deferredWakes db.idempotency rfl (.refl session db))

/-- Records go only when a condition that every unexpired record meets drops them. -/
theorem forget (keeps : IdempotencyKey → IdempotencyRecord → Bool)
    (unexpired : ∀ key record, db.idempotency.find? key = some record →
      expired session record = false → keeps key record = true) :
    Statements session bindings db
      { db with idempotency := db.idempotency.filterRows keeps } := by
  refine .single (.keep db.effects db.deferredWakes _ rfl ⟨?_, ?_⟩)
  · intro key record found live
    rw [Table.find?_filterRows, found, Option.filter_some, unexpired key record found live]
    rfl
  · intro key record found
    rw [Table.find?_filterRows] at found
    exact .inl (Option.filter_eq_some_iff.mp found).1

theorem expireKey (key : IdempotencyKey) : Statements session bindings db (expireKey session key db) := by
  refine forget _ ?_
  intro other record _ live
  rw [live, Bool.and_false]
  rfl

variable {records : Table IdempotencyKey IdempotencyRecord}

theorem remember {key : IdempotencyKey} {record : IdempotencyRecord}
    (fresh : records.find? key = none) (written : after.idempotency = records.insert key record)
    (there : after.holds record.operation record.resourceId = true) :
    Statement session bindings { after with idempotency := records } after := by
  refine .keep after.effects after.deferredWakes after.idempotency rfl ⟨?_, ?_⟩
  · intro other old found _
    rw [written, Table.find?_insert, Function.update_of_ne, found]
    rintro rfl
    rw [fresh] at found
    cases found
  · intro other new found
    rw [written, Table.find?_insert, Function.update_apply] at found
    split at found
    · cases found
      exact .inr there
    · exact .inl found

variable {id : MaterializationId}

theorem found_of_findByTarget {instanceId : InstanceId} {target : MaterializationTarget}
    {row : MaterializationRow} (found : findByTarget db instanceId target = some (id, row)) :
    db.materializations.find? id = some row ∧ row.instanceId = instanceId ∧ row.target = target := by
  obtain ⟨stored, condition⟩ := Table.select?_eq_some found
  simp only [Bool.and_eq_true, decide_eq_true_eq] at condition
  exact ⟨stored, condition⟩

-- A create writes its record first. The tables are independent, so the record may as well be
-- written right after the resource: then no statement leaves a record without its resource.

theorem insertInstance_remembering {id : InstanceId} {row stored : InstanceRow}
    (inserted : insertInstance session id row { db with idempotency := records } =
      .ok (stored, after)) :
    insertInstance session id row db = .ok (stored, { after with idempotency := db.idempotency }) ∧
      after.idempotency = records ∧ after.instances.find? id = some stored := by
  simp only [insertInstance, recordRouteChanges, bind_eq_ok, require_eq_ok, pure_eq_ok,
    exists_const, Prod.mk.injEq] at inserted ⊢
  obtain ⟨active, bounded, absent, _, ⟨room, rfl⟩, rfl, rfl⟩ := inserted
  exact ⟨⟨active, bounded, absent, _, ⟨room, rfl⟩, rfl, rfl⟩, rfl, by simp⟩

theorem insertRouteBinding_remembering {id : RouteBindingId} {row : RouteBindingRow}
    (inserted : insertRouteBinding session id row { db with idempotency := records } = .ok after) :
    insertRouteBinding session id row db = .ok { after with idempotency := db.idempotency } ∧
      after.idempotency = records ∧ after.routeBindings.find? id = some row := by
  simp only [insertRouteBinding, recordRouteChanges, bind_eq_ok, require_eq_ok, pure_eq_ok,
    exists_const] at inserted ⊢
  obtain ⟨absent, unique, owned, room, rfl⟩ := inserted
  exact ⟨⟨absent, unique, owned, room, rfl⟩, rfl, by simp⟩

theorem beginFailureCleanup {generation : Nat} {row : MaterializationRow} {owner : InstanceRow}
    (found : db.materializations.find? id = some row)
    (owned : db.instances.find? row.instanceId = some owner)
    (begun : beginFailureCleanup session id generation row owner db = .ok after) :
    Statements session bindings db after := by
  simp only [Store.beginFailureCleanup, bind_eq_ok] at begun
  obtain ⟨deleting, updated, rest⟩ := begun
  have marked : Statements session bindings db deleting :=
    .single (.updateMaterialization id row { row with state := .deleting } found rfl rfl updated)
  split at rest
  · refine marked.tail (.updateInstance _ owner _ _ ?_ rest)
    obtain ⟨objects, keys, rfl⟩ := updateMaterialization_ok updated
    exact owned
  · simp only [pure_eq_ok] at rest
    exact rest ▸ marked

theorem update {old assigned : MaterializationRow} {condition : MaterializationRow → Bool}
    (selected : (db.materializations.find? id).filter condition = some old)
    (owned : assigned.instanceId = old.instanceId) (targeted : assigned.target = old.target)
    (after : Database) (updated : updateMaterialization session id old assigned db = .ok after) :
    Statement session bindings db after :=
  .updateMaterialization id old assigned (Option.filter_eq_some_iff.mp selected).1 owned targeted
    updated

end Statements

/-- Every database that a transaction returns is reached by statements. -/
def Chain (session : Session) (bindings : List RouteBindingSpec) (db : Database) {α : Type}
    (run : StoreResult (α × Database)) : Prop :=
  ∀ result after, run = .ok (result, after) → Statements session bindings db after

namespace Chain

variable {session : Session} {bindings : List RouteBindingSpec} {db middle : Database} {α β : Type}

theorem done (result : α) : Chain session bindings db (pure (result, db)) := by
  intro _ _ returned
  cases returned
  exact .refl

theorem keep {effects : Table MaterializationId EffectRow}
    {deferredWakes : Table InstanceId DeferredWakeIntent} (result : α) :
    Chain session bindings db
      (pure (result, { db with effects := effects, deferredWakes := deferredWakes })) := by
  intro _ _ returned
  cases returned
  exact Statements.keep effects deferredWakes

theorem after {run : StoreResult (α × Database)} (reached : Statements session bindings db middle)
    (chain : Chain session bindings middle run) : Chain session bindings db run :=
  fun result after returned => reached.trans (chain result after returned)

theorem check {check : StoreResult β} {next : β → StoreResult (α × Database)}
    (rest : ∀ value, check = .ok value → Chain session bindings db (next value)) :
    Chain session bindings db (check >>= next) := by
  intro result after returned
  obtain ⟨value, passed, returned⟩ := bind_eq_ok.mp returned
  exact rest value passed result after returned

variable {next : Database → StoreResult (α × Database)}

theorem step {statement : StoreResult Database}
    (reaches : ∀ middle, statement = .ok middle → Statement session bindings db middle)
    (rest : ∀ middle, statement = .ok middle → Chain session bindings middle (next middle)) :
    Chain session bindings db (statement >>= next) :=
  check fun middle executed => .after (.single (reaches middle executed)) (rest middle executed)

theorem call {first : StoreResult (β × Database)} {next : β × Database → StoreResult (α × Database)}
    (head : Chain session bindings db first)
    (rest : ∀ value middle, Chain session bindings middle (next (value, middle))) :
    Chain session bindings db (first >>= next) :=
  check fun (value, middle) returned => .after (head value middle returned) (rest value middle)

theorem upsertMaterialization {request : RecordMaterializationRequest} :
    Chain session bindings db (upsertMaterialization session request db) := by
  unfold Store.upsertMaterialization
  refine .check fun _ _ => .check fun _ _ => .check fun _ _ => ?_
  split
  · exact .step (fun _ => .insertMaterialization (newMaterializationRow session request))
      fun _ _ => .done _
  next id old found =>
    exact .check fun _ _ => .step (fun _ => .updateMaterialization id old _
      (Statements.found_of_findByTarget found).1 rfl rfl) fun _ _ => .done _

theorem insertRouteBindings {instanceId : InstanceId} {specs : List RouteBindingSpec}
    (listed : specs ⊆ bindings) (position : Nat) :
    Chain session bindings db (insertRouteBindings session instanceId position specs db) := by
  induction specs generalizing position db with
  | nil => exact .done _
  | cons spec _ ih =>
    refine .check fun _ valid => .check fun stored inserted => .check fun record decoded => ?_
    refine .after (.single (.insertRouteBinding _ instanceId spec (listed List.mem_cons_self) valid
      inserted ⟨record, decoded⟩)) ?_
    exact .call (ih (List.subset_of_cons_subset listed) _) fun _ _ => .done _

theorem createInstance {request : CreateInstanceRequest}
    {validated : StoreResult (List (String × String))}
    (listed : request.routeBindings ⊆ bindings) :
    Chain session bindings db (createInstance session request validated db) := by
  refine .check fun values _ => .check fun fingerprint _ => ?_
  refine .after (Statements.expireKey request.idempotencyKey) ?_
  dsimp only
  split
  · exact .check fun _ _ => .check fun _ _ => .check fun _ _ => .done _
  next fresh =>
    refine .check fun recorded record => .check fun (row, inserted) insert => ?_
    simp only [insertIdempotencyRecord, bind_eq_ok, require_eq_ok, pure_eq_ok, exists_const]
      at record
    obtain ⟨-, rfl⟩ := record
    obtain ⟨insert, written, found⟩ := Statements.insertInstance_remembering insert
    refine .after (.tail (.single (.insertInstance _ _ _ insert)) (Statements.remember fresh written
      (Database.holds_createInstance.mpr ⟨_, _, found, rfl⟩))) ?_
    exact .call (insertRouteBindings listed 1) fun _ _ => .done _

theorem createRouteBinding {request : CreateRouteBindingRequest}
    (listed : ⟨request.identity, request.protocol⟩ ∈ bindings) :
    Chain session bindings db (createRouteBinding session request db) := by
  refine .check fun _ valid => .after (Statements.expireKey request.idempotencyKey) ?_
  dsimp only
  split
  · exact .check fun _ _ => .check fun _ _ => .check fun _ _ => .done _
  next fresh =>
    refine .check fun recorded record => .check fun inserted insert => .check fun decoded decode => ?_
    simp only [insertIdempotencyRecord, bind_eq_ok, require_eq_ok, pure_eq_ok, exists_const]
      at record
    obtain ⟨-, rfl⟩ := record
    obtain ⟨insert, written, found⟩ := Statements.insertRouteBinding_remembering insert
    refine .after (.tail (.single (.insertRouteBinding _ request.instanceId
      ⟨request.identity, request.protocol⟩ listed valid insert ⟨decoded, decode⟩))
      (Statements.remember fresh written
        (Database.holds_createRouteBinding.mpr ⟨_, _, found, rfl⟩))) (.done _)

theorem deleteInstances {ids : List InstanceId}
    (rest : ∀ middle, Chain session bindings middle (next middle)) :
    Chain session bindings db (deleteInstances session ids db >>= next) := by
  refine .check fun deleted deletion => .after ?_ (rest deleted)
  obtain ⟨cleared, fold, recorded⟩ := bind_eq_ok.mp deletion
  have rows : Statements session bindings db cleared :=
    foldlM_preserves (fun _ _ _ before deletion => before.tail (.deleteInstanceRow _ deletion))
      ids db cleared .refl fold
  exact rows.tail (.recordRouteChanges _ recorded)

theorem deleteInstance {id : InstanceId} :
    Chain session bindings db (deleteInstance session id db) := by
  unfold Store.deleteInstance
  split
  · exact .done _
  · exact .check fun _ _ => .check fun _ _ => deleteInstances fun _ => .done _

theorem deleteRouteBinding {id : RouteBindingId} :
    Chain session bindings db (deleteRouteBinding session id db) :=
  .step (fun _ => .deleteRouteBindings _) fun _ _ => .done _

variable {pending : RecordMaterializationRequest} {current : InstanceRow}

theorem startWake (found : db.instances.find? pending.instanceId = some current) :
    Chain session bindings db (startWake session pending current db) :=
  .check fun _ _ => .step (fun _ => .updateInstance _ current _ _ found) fun _ _ =>
    .call upsertMaterialization fun _ _ => .done _

theorem deferWake : Chain session bindings db (deferWake pending current db) := by
  refine .check fun _ _ => .check fun _ _ => .check fun _ _ => ?_
  split
  · exact .check fun _ _ => .done _
  · exact .keep _

theorem acceptWake {request : AcceptWakeRequest} :
    Chain session bindings db (acceptWake session request db) := by
  refine .check fun current found => ?_
  have stored := orError_eq_ok.mp found
  split
  · exact .check fun _ _ => .done _
  · refine .check fun _ _ => .check fun _ _ => .check fun _ _ => .check fun _ _ =>
      .check fun backendGeneration _ => ?_
    split
    · exact deferWake
    · exact startWake stored

theorem activateDeferredWake {id : InstanceId} :
    Chain session bindings db (activateDeferredWake session id db) := by
  unfold Store.activateDeferredWake
  split
  · exact .done _
  · refine .check fun current selected => .after
      (Statements.keep db.effects (db.deferredWakes.erase id)) ?_
    have found := (Option.filter_eq_some_iff.mp (orError_eq_ok.mp selected)).1
    exact .step (fun _ => .updateInstance id current _ _ found) fun _ _ =>
      .call upsertMaterialization fun _ _ => .done _

theorem markDeletingForSleep {request : BeginSleepRequest} :
    Chain session bindings db (markDeletingForSleep session request db) := by
  refine .check fun _ _ => .check fun _ _ => ?_
  split
  · exact .done _
  next id old selected =>
    have found := Statements.found_of_findByTarget (Option.filter_eq_some_iff.mp selected).1
    exact .check fun _ _ => .step (fun _ => .updateMaterialization id old _ found.1 rfl rfl)
      fun _ _ => .done _

theorem beginSleep {request : BeginSleepRequest} :
    Chain session bindings db (beginSleep session request db) := by
  refine .check fun current found => .check fun _ _ => .check fun _ _ => .check fun _ _ =>
    .check fun _ _ => ?_
  exact .step (fun _ => .updateInstance _ current _ _ (orError_eq_ok.mp found)) fun _ _ =>
    .call markDeletingForSleep fun _ _ => .done _

theorem requestInstanceDeletion {request : RequestInstanceDeletion} :
    Chain session bindings db (requestInstanceDeletion session request db) := by
  refine .check fun _ _ => ?_
  split
  · exact .done _
  next row found =>
    refine .check fun _ _ => ?_
    dsimp only
    split
    · refine .check fun deleting kept => ?_
      cases kept
      exact .after (Statements.keep db.effects (db.deferredWakes.erase request.instanceId))
        (.step (fun _ => .updateMaterializations _ _ (fun _ => rfl) fun _ => rfl) fun _ _ => .done _)
    · refine .check fun _ _ => .step (fun _ => .updateInstance _ row _ _ found) fun deleting _ => ?_
      exact .after
        (Statements.keep deleting.effects (deleting.deferredWakes.erase request.instanceId))
        (.step (fun _ => .updateMaterializations _ _ (fun _ => rfl) fun _ => rfl) fun _ _ => .done _)

theorem finalizeInstanceDeletions {limit : Nat} {locked : InstanceId → Bool} :
    Chain session bindings db (finalizeInstanceDeletions session limit locked db) :=
  .check fun _ _ => deleteInstances fun _ => .done _

theorem claim {request : ClaimRequest} :
    Chain session bindings db (claimMaterializationReconciliation session request db) := by
  refine .check fun _ _ => .check fun ttl _ => ?_
  dsimp only
  split
  · exact .done _
  next selected => exact .step (Statements.update selected rfl rfl) fun _ _ => .done _

theorem renewLease {request : RenewLeaseRequest} :
    Chain session bindings db (renewMaterializationReconciliationLease session request db) := by
  refine .check fun _ _ => .check fun ttl _ => .check fun _ _ => .check fun _ _ => ?_
  split
  · exact .done _
  next selected => exact .step (Statements.update selected rfl rfl) fun _ _ => .done _

theorem releaseLease {request : ReleaseLeaseRequest} :
    Chain session bindings db (releaseMaterializationReconciliationLease session request db) := by
  refine .check fun _ _ => .check fun _ _ => .check fun _ _ => ?_
  split
  · exact .done _
  next selected => exact .step (Statements.update selected rfl rfl) fun _ _ => .done _

theorem beginEffect {request : EffectRequest} :
    Chain session bindings db (beginMaterializationEffect session request db) := by
  refine .check fun _ _ => .check fun _ _ => .check fun _ _ => .check fun _ _ => ?_
  split
  · exact .done _
  · split
    · exact .done _
    · exact .keep _

theorem acknowledgeEffect {request : AcknowledgeEffectRequest} :
    Chain session bindings db (acknowledgeMaterializationEffect request db) := by
  refine .check fun _ _ => .check fun _ _ => .check fun _ _ => ?_
  split
  · exact .done _
  · exact .keep _

/-! ### Completions and failures -/

theorem completeWake {request : CompleteWakeReconciliationRequest} :
    Chain session bindings db (completeWakeReconciliation session request db) := by
  refine .check fun _ _ => .check fun _ _ => .check fun current found => ?_
  refine .check fun _ _ => .check fun _ _ => .check fun _ _ => ?_
  exact .step (fun _ => .updateInstance _ current _ _ (orError_eq_ok.mp found)) fun _ _ =>
    .call upsertMaterialization fun _ _ => .done _

theorem finalizeSleep {request : FinalizeSleepReconciliationRequest} :
    Chain session bindings db (finalizeSleepReconciliation session request db) := by
  refine .check fun _ _ => .check fun _ _ => .check fun _ _ => .check fun current found => ?_
  refine .check fun _ _ => .check fun _ _ => .check fun _ _ => ?_
  refine .step (fun _ => .updateInstance _ current _ _ (orError_eq_ok.mp found)) fun drained _ => ?_
  dsimp only
  split
  · exact .call (.done _) fun _ _ => .call activateDeferredWake fun _ _ => .done _
  next id old selected =>
    have row := Statements.found_of_findByTarget (Option.filter_eq_some_iff.mp selected).1
    exact .step (fun _ => .updateMaterialization id old _ row.1 rfl rfl) fun _ _ =>
      .call (.done _) fun _ _ => .call activateDeferredWake fun _ _ => .done _

theorem deleteMaterialization {request : DeleteMaterializationReconciliationRequest} :
    Chain session bindings db (deleteMaterializationReconciliation session request db) := by
  refine .check fun _ _ => .check fun old ensured => ?_
  simp only [ensureReconciliationLease, bind_eq_ok, orError_eq_ok, pure_eq_ok] at ensured
  obtain ⟨_, -, _, selected, _, -, _, -, _, -, _, -, _, -, rfl⟩ := ensured
  exact .step (Statements.update selected rfl rfl) fun _ _ => .done _

theorem recordFailure {request : RecordFailureRequest} :
    Chain session bindings db (recordFailure session request db) := by
  refine .check fun _ _ => .check fun _ _ => ?_
  dsimp only
  split
  · exact .done _
  next row owner selected =>
    obtain ⟨_, found, joined⟩ := Option.bind_eq_some_iff.mp selected
    obtain ⟨_, owned, same⟩ := Option.map_eq_some_iff.mp joined
    cases same
    split
    · split
      · refine .check fun started start =>
          .after (Statements.beginFailureCleanup found owned start) (.check fun current stored => ?_)
        exact .step (fun _ => .updateMaterialization _ current _ (orError_eq_ok.mp stored) rfl rfl)
          fun _ _ => .done _
      · refine .check fun started kept => .check fun current stored => ?_
        cases kept
        exact .step (fun _ => .updateMaterialization _ current _ (orError_eq_ok.mp stored) rfl rfl)
          fun _ _ => .done _
    · exact .done _

theorem enqueue {id : MaterializationId} :
    Chain session bindings db (enqueueMaterialization session id db) := by
  unfold enqueueMaterialization
  split
  · exact .done _
  next selected => exact .step (Statements.update selected rfl rfl) fun _ _ => .done _

theorem forceDelete {request : ForceDeleteRequest} :
    Chain session bindings db (forceDeleteMaterialization session request db) := by
  refine .check fun _ _ => ?_
  split
  · exact .done _
  next old found =>
    refine .after (Statements.keep (db.effects.erase request.materializationId) db.deferredWakes) ?_
    exact .step (fun _ => .updateMaterialization _ old (deletedRow old) found rfl rfl) fun _ _ =>
      .done _

theorem forceReleaseKey {request : ForceReleaseKeyRequest} :
    Chain session bindings db (forceReleaseExclusivityKey session request db) :=
  .check fun _ _ => .check fun _ _ =>
    .step (fun _ => .updateMaterializations _ _ (fun _ => rfl) fun _ => rfl) fun _ _ => .done _

end Chain

namespace Statements

variable {session : Session} {db after : Database}

theorem expireRecords {bindings : List RouteBindingSpec} {limit : Nat}
    (expired : expireRecords session limit db = .ok after) :
    Statements session bindings db after := by
  simp only [Store.expireRecords, bind_eq_ok, pure_eq_ok] at expired
  obtain ⟨_, -, rfl⟩ := expired
  refine forget _ ?_
  intro key record found live
  rw [Bool.not_eq_true', List.contains_eq_mem, decide_eq_false_iff_not]
  intro doomed
  obtain ⟨entry, taken, rfl⟩ := List.mem_map.mp doomed
  have due := (List.mem_insertionSort _).mp (List.mem_of_mem_take taken)
  obtain ⟨stored, passed⟩ := List.mem_filter.mp due
  rw [Table.find?_eq_some.mpr stored] at found
  cases found
  rw [live] at passed
  cases passed

theorem commit {op : Op} (committed : commit session op db = .ok after) :
    Statements session op.bindings db after := by
  have result {α : Type} {transaction : StoreResult (α × Database)}
      (chain : Chain session op.bindings db transaction)
      (committed : Prod.snd <$> transaction = .ok after) : Statements session op.bindings db after := by
    obtain ⟨value, returned⟩ := map_snd_eq_ok.mp committed
    exact chain value after returned
  cases op with
  | createInstance => exact result (.createInstance (List.Subset.refl _)) committed
  | deleteInstance => exact result .deleteInstance committed
  | createRouteBinding => exact result (.createRouteBinding List.mem_cons_self) committed
  | deleteRouteBinding => exact result .deleteRouteBinding committed
  | acceptWake => exact result .acceptWake committed
  | beginSleep => exact result .beginSleep committed
  | requestInstanceDeletion => exact result .requestInstanceDeletion committed
  | finalizeInstanceDeletions => exact result .finalizeInstanceDeletions committed
  | claim => exact result .claim committed
  | renewLease => exact result .renewLease committed
  | releaseLease => exact result .releaseLease committed
  | beginEffect => exact result .beginEffect committed
  | acknowledgeEffect => exact result .acknowledgeEffect committed
  | completeWake => exact result .completeWake committed
  | finalizeSleep => exact result .finalizeSleep committed
  | deleteMaterialization => exact result .deleteMaterialization committed
  | recordFailure => exact result .recordFailure committed
  | enqueue => exact result .enqueue committed
  | forceDelete => exact result .forceDelete committed
  | forceReleaseKey => exact result .forceReleaseKey committed
  | expireRecords => exact expireRecords committed
  | pruneOutbox limit =>
    cases committed
    exact .single (.pruneOutbox limit rfl)

end Statements

theorem reachable_of_statements {allowed : Session × Op → Prop} {holds : Database → Prop}
    (initially : holds .empty)
    (step : ∀ session bindings db after, holds db → Statement session bindings db after →
      holds after) (reachable : storeSystem.Reachable allowed db) : holds db := by
  refine reachable.invariant ?_ ?_
  · rintro _ rfl
    exact initially
  · intro label db next _ held committed
    have statements : Statements label.1 label.2.bindings db next := Statements.commit committed
    exact statements.preserves (step label.1 label.2.bindings) held

end Sleepypods.Store
