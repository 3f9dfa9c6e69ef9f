import Sleepypods.Store.Selection

/-! What the answer to a route request depends on: the binding that is selected, the row of its
instance, and the instance's work in the target. -/

set_option autoImplicit false

namespace Sleepypods.Store

open Library

variable {db after : Database}

def WorkKeyed (db : Database) : Prop :=
  ∀ id row, db.materializations.find? id = some row → id = materializationId row.instanceId row.target

namespace WorkKeyed

theorem keep (keyed : WorkKeyed db) (same : after.materializations = db.materializations) :
    WorkKeyed after := by
  unfold WorkKeyed
  rw [same]
  exact keyed

theorem insert (keyed : WorkKeyed db) {id : MaterializationId} {row : MaterializationRow}
    (own : id = materializationId row.instanceId row.target)
    (inserted : after.materializations = db.materializations.insert id row) : WorkKeyed after := by
  intro other otherRow found
  rw [inserted, Table.find?_insert, Function.update_apply] at found
  split at found
  next same =>
    cases found
    exact same.trans own
  · exact keyed other otherRow found

theorem statement {session : Session} {bindings : List RouteBindingSpec} (keyed : WorkKeyed db)
    (statement : Statement session bindings db after) : WorkKeyed after := by
  cases statement with
  | insertInstance _ _ _ insert =>
    obtain ⟨_, _, rfl⟩ := insertInstance_ok insert
    exact keyed.keep rfl
  | updateInstance _ _ _ _ _ updated =>
    obtain ⟨_, rfl⟩ := updateInstance_ok updated
    exact keyed.keep rfl
  | insertRouteBinding _ _ _ _ _ inserted =>
    obtain ⟨_, _, _, rfl⟩ := insertRouteBinding_ok inserted
    exact keyed.keep rfl
  | deleteRouteBindings _ deleted =>
    obtain ⟨records, rfl⟩ := deleteRouteBindings_ok deleted
    exact keyed.keep rfl
  | insertMaterialization _ inserted =>
    obtain ⟨_, _, objects, keys, rfl⟩ := insertMaterialization_ok inserted
    exact keyed.insert rfl rfl
  | updateMaterialization id old assigned found owned targeted updated =>
    obtain ⟨objects, keys, rfl⟩ := updateMaterialization_ok updated
    have own : id = materializationId (beforeUpdate session old assigned).instanceId
        (beforeUpdate session old assigned).target := by
      rw [beforeUpdate_instanceId, beforeUpdate_target, owned, targeted]
      exact keyed id old found
    exact keyed.insert own rfl
  | updateMaterializations _ _ owned targeted updated =>
    obtain ⟨objects, keys, rfl⟩ := updateMaterializations_ok updated
    intro id row found
    rw [Table.find?_mapRows] at found
    obtain ⟨old, stored, rfl⟩ := Option.map_eq_some_iff.mp found
    split
    · rw [beforeUpdate_instanceId, beforeUpdate_target, owned, targeted]
      exact keyed id old stored
    · exact keyed id old stored
  | deleteInstanceRow _ deleted =>
    obtain ⟨_, records, objects, keys, more, rfl⟩ := deleteInstanceRow_ok deleted
    intro other row found
    rw [Table.find?_filterRows] at found
    exact keyed other row (Option.filter_eq_some_iff.mp found).1
  | recordRouteChanges _ recorded =>
    rw [recordRouteChanges_ok recorded]
    exact keyed.keep rfl
  | pruneOutbox _ pruned =>
    rw [pruned]
    exact keyed.keep rfl
  | keep _ _ _ kept =>
    rw [kept]
    exact keyed.keep rfl

theorem of_reachable {allowed : Session × Op → Prop}
    (reachable : storeSystem.Reachable allowed db) : WorkKeyed db :=
  reachable_of_statements (fun _ _ found => by cases found)
    (fun _ _ _ _ keyed => keyed.statement) reachable

end WorkKeyed

theorem readyMaterialization_eq (keyed : WorkKeyed db) (instanceId : InstanceId) (generation : Nat)
    (target : MaterializationTarget) :
    readyMaterialization db instanceId generation target =
      (db.materializations.find? (materializationId instanceId target)).filter fun row =>
        decide (row.instanceId = instanceId) && decide (row.instanceGeneration = generation) &&
          decide (row.target = target) && decide (row.state = .ready) := by
  unfold readyMaterialization
  rw [Table.select?_of_key, Option.map_map]
  · exact Option.map_id'
  · intro id row found ready
    simp only [Bool.and_eq_true, decide_eq_true_eq] at ready
    rw [keyed id row found, ready.1.1.1, ready.1.2]

/-! ### Answers -/

def readyBackend (db : Database) (instanceId : InstanceId) (generation : Nat)
    (target : MaterializationTarget) : Option BackendEndpoint × Option Nat :=
  ((readyMaterialization db instanceId generation target).bind MaterializationRow.backend,
    (readyMaterialization db instanceId generation target).map MaterializationRow.backendGeneration)

structure Answers (db : Database) (request : ResolveRouteRequest) (id : RouteBindingId)
    (row : RouteBindingRow) (owner : InstanceRow) (matchedIdentity : RouteIdentity)
    (entry : RouteEntry) : Prop where
  selected : selectedBinding db request.identity = some (id, row)
  owned : db.instances.find? row.instanceId = some owner
  decoded : row.decode id = .ok ⟨id, row.instanceId, matchedIdentity, row.protocol⟩
  routeBindingId : entry.routeBindingId = id
  instanceId : entry.instanceId = row.instanceId
  instanceState : entry.instanceState = owner.state
  instanceGeneration : entry.instanceGeneration = owner.generation
  ready : (entry.backend, entry.backendGeneration) =
    readyBackend db row.instanceId owner.generation request.target

variable {id : RouteBindingId} {row : RouteBindingRow}

theorem RouteBindingRow.decode_eq {record : RouteBindingRecord}
    (decoded : row.decode id = .ok record) :
    record = ⟨id, row.instanceId, record.identity, row.protocol⟩ := by
  obtain ⟨identity, _, same⟩ := Fallible.bind_eq_ok.mp decoded
  cases same
  rfl

theorem answers_of_resolved {request : ResolveRouteRequest} {matchedIdentity : RouteIdentity}
    {entry : RouteEntry} (resolved : resolveRoute db request = .ok (.resolved matchedIdentity entry)) :
    ∃ id row owner, Answers db request id row owner matchedIdentity entry := by
  obtain ⟨id, row, record, owner, selected, owned, decoded, rfl, rfl⟩ :=
    resolveRoute_resolved resolved
  rw [RouteBindingRow.decode_eq decoded] at decoded
  exact ⟨id, row, owner, selected, owned, decoded, rfl, rfl, rfl, rfl, rfl⟩

namespace Answers

variable {request : ResolveRouteRequest} {id : RouteBindingId} {row : RouteBindingRow}
  {owner : InstanceRow} {matchedIdentity : RouteIdentity} {entry : RouteEntry}

variable (answers : Answers db request id row owner matchedIdentity entry)

include answers

theorem resolved : resolveRoute db request = .ok (.resolved matchedIdentity entry) := by
  obtain ⟨selected, owned, decoded, bound, instanced, state, generation, ready⟩ := answers
  obtain ⟨backend, backendGeneration⟩ := Prod.mk.inj ready
  cases entry
  cases bound
  cases instanced
  cases state
  cases generation
  cases backend
  cases backendGeneration
  unfold resolveRoute
  simp only [selected, Option.bind_some, owned, Option.map_some, decoded]
  rfl

theorem transfer
    (selected : selectedBinding after request.identity = some (id, row)) {owner' : InstanceRow}
    (owned : after.instances.find? row.instanceId = some owner')
    (state : owner'.state = owner.state) (generation : owner'.generation = owner.generation)
    (ready : readyBackend after row.instanceId owner.generation request.target =
      readyBackend db row.instanceId owner.generation request.target) :
    Answers after request id row owner' matchedIdentity entry where
  selected := selected
  owned := owned
  decoded := answers.decoded
  routeBindingId := answers.routeBindingId
  instanceId := answers.instanceId
  instanceState := answers.instanceState.trans state.symm
  instanceGeneration := answers.instanceGeneration.trans generation.symm
  ready := by
    rw [generation, ready]
    exact answers.ready

end Answers

theorem selectedBinding_shrink {identity : RouteIdentity}
    (selected : selectedBinding db identity = some (id, row))
    (kept : after.routeBindings.find? id = some row)
    (fewer : ∀ other otherRow, after.routeBindings.find? other = some otherRow →
      db.routeBindings.find? other = some otherRow) :
    selectedBinding after identity = some (id, row) := by
  obtain ⟨candidate, first⟩ := selectedBinding_eq_some.mp selected
  refine selectedBinding_eq_some.mpr
    ⟨mem_candidates.mpr ⟨kept, (mem_candidates.mp candidate).2⟩, fun other otherRow rival => ?_⟩
  obtain ⟨there, matched⟩ := mem_candidates.mp rival
  exact first other otherRow (mem_candidates.mpr ⟨fewer other otherRow there, matched⟩)

theorem selectedBinding_congr (same : after.routeBindings = db.routeBindings)
    (identity : RouteIdentity) : selectedBinding after identity = selectedBinding db identity := by
  unfold selectedBinding
  rw [same]

structure RouteColumns where
  instanceId : InstanceId
  target : MaterializationTarget
  instanceGeneration : Nat
  state : MaterializationState
  backend : Option BackendEndpoint
  backendGeneration : Nat

def MaterializationRow.routeColumns (row : MaterializationRow) : RouteColumns where
  instanceId := row.instanceId
  target := row.target
  instanceGeneration := row.instanceGeneration
  state := row.state
  backend := row.backend
  backendGeneration := row.backendGeneration

/-- The work of an instance in a target, as far as an answer depends on it. -/
def routeWork (db : Database) (instanceId : InstanceId) (target : MaterializationTarget) :
    Option RouteColumns :=
  ((db.materializations.find? (materializationId instanceId target)).filter fun row =>
    decide (row.instanceId = instanceId)).map MaterializationRow.routeColumns

def backendAt (generation : Nat) (target : MaterializationTarget) (work : Option RouteColumns) :
    Option BackendEndpoint × Option Nat :=
  let ready := work.filter fun columns =>
    decide (columns.instanceGeneration = generation) && decide (columns.target = target) &&
      decide (columns.state = .ready)
  (ready.bind RouteColumns.backend, ready.map RouteColumns.backendGeneration)

theorem readyBackend_eq (keyed : WorkKeyed db) (instanceId : InstanceId) (generation : Nat)
    (target : MaterializationTarget) :
    readyBackend db instanceId generation target =
      backendAt generation target (routeWork db instanceId target) := by
  unfold readyBackend routeWork backendAt
  rw [readyMaterialization_eq keyed]
  cases db.materializations.find? (materializationId instanceId target) with
  | none => rfl
  | some row =>
    by_cases owned : row.instanceId = instanceId
    · simp only [Option.filter, owned, decide_true, Bool.true_and, if_true, Option.map_some,
        MaterializationRow.routeColumns]
      split <;> rfl
    · simp only [Option.filter, owned, decide_false, Bool.false_and, Bool.false_eq_true, if_false]
      rfl

section Work

variable {instanceId : InstanceId} {target : MaterializationTarget}

theorem routeWork_congr (same : after.materializations = db.materializations) :
    routeWork after instanceId target = routeWork db instanceId target := by
  unfold routeWork
  rw [same]

theorem routeWork_insert_other {id : MaterializationId} {row : MaterializationRow}
    (other : row.instanceId ≠ instanceId)
    (unowned : ∀ old, db.materializations.find? id = some old → old.instanceId ≠ instanceId)
    (inserted : after.materializations = db.materializations.insert id row) :
    routeWork after instanceId target = routeWork db instanceId target := by
  unfold routeWork
  rw [inserted, Table.find?_insert, Function.update_apply]
  split
  next same =>
    rw [same]
    cases found : db.materializations.find? id with
    | none => simp [Option.filter, other]
    | some old => simp [Option.filter, other, unowned old found]
  · rfl

theorem routeWork_filter_other {id : InstanceId} (other : instanceId ≠ id)
    (filtered : after.materializations = db.materializations.filterRows fun _ row =>
      decide (row.instanceId ≠ id)) :
    routeWork after instanceId target = routeWork db instanceId target := by
  unfold routeWork
  rw [filtered, Table.find?_filterRows]
  cases db.materializations.find? (materializationId instanceId target) with
  | none => rfl
  | some row =>
    by_cases owned : row.instanceId = instanceId
    · simp [Option.filter, owned, other]
    · by_cases gone : row.instanceId = id
      · simp [Option.filter, gone, other.symm]
      · simp [Option.filter, gone, owned]

theorem routeWork_rewrite
    (rewritten : ∀ id, ∃ rewrite : MaterializationRow → MaterializationRow,
      after.materializations.find? id = (db.materializations.find? id).map rewrite ∧
      ∀ row, db.materializations.find? id = some row → (rewrite row).instanceId = row.instanceId ∧
        (row.instanceId = instanceId → (rewrite row).routeColumns = row.routeColumns)) :
    routeWork after instanceId target = routeWork db instanceId target := by
  unfold routeWork
  obtain ⟨rewrite, equal, keeps⟩ := rewritten (materializationId instanceId target)
  rw [equal]
  cases found : db.materializations.find? (materializationId instanceId target) with
  | none => rfl
  | some row =>
    obtain ⟨owner, columns⟩ := keeps row found
    by_cases owned : row.instanceId = instanceId
    · simp [Option.filter, owner, owned, columns owned]
    · simp [Option.filter, owner, owned]

end Work

theorem routeColumns_of_not_visible {old new : MaterializationRow}
    (owned : new.instanceId = old.instanceId) (targeted : new.target = old.target)
    (hidden : routeVisibleChange old new = false) : new.routeColumns = old.routeColumns := by
  rw [routeVisibleChange, decide_eq_false_iff_not, not_not] at hidden
  simp only [Prod.mk.injEq] at hidden
  obtain ⟨state, backend, backendGeneration, generation, -⟩ := hidden
  rw [MaterializationRow.routeColumns, owned, targeted, state, backend, backendGeneration, generation]
  rfl

/-- A binding that is inserted below the selected one, or does not match, leaves it selected. -/
theorem selectedBinding_insert {identity : RouteIdentity} {new : RouteBindingId}
    {newRow : RouteBindingRow} (selected : selectedBinding db identity = some (id, row))
    (absent : db.routeBindings.find? new = none)
    (inserted : after.routeBindings = db.routeBindings.insert new newRow)
    (behind : newRow.matches identity = true → outranks row.rank newRow.rank) :
    selectedBinding after identity = some (id, row) := by
  obtain ⟨candidate, first⟩ := selectedBinding_eq_some.mp selected
  obtain ⟨found, matched⟩ := mem_candidates.mp candidate
  have different : id ≠ new := by
    rintro rfl
    rw [absent] at found
    cases found
  have rows : ∀ other otherRow, after.routeBindings.find? other = some otherRow →
      (other = new ∧ otherRow = newRow) ∨ db.routeBindings.find? other = some otherRow := by
    intro other otherRow stored
    rw [inserted, Table.find?_insert, Function.update_apply] at stored
    split at stored
    next same => exact .inl ⟨same, (Option.some.inj stored).symm⟩
    · exact .inr stored
  refine selectedBinding_eq_some.mpr ⟨mem_candidates.mpr ⟨?_, matched⟩, fun other otherRow rival => ?_⟩
  · rw [inserted, Table.find?_insert, Function.update_of_ne different]
    exact found
  · obtain ⟨stored, matches'⟩ := mem_candidates.mp rival
    rcases rows other otherRow stored with ⟨_, rfl⟩ | old
    · exact .inl (behind matches')
    · exact first other otherRow (mem_candidates.mpr ⟨old, matches'⟩)

end Sleepypods.Store
