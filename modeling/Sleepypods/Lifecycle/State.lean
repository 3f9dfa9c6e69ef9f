import Sleepypods.Store.StatementProperties

/-! The lifecycle state of the store: instances with their generation watermarks, the work rows,
the effect barriers and the deferred wakes, each as a function of its key. The view forgets how
rows are stored, and the tables that lifecycle rules never read. -/

set_option autoImplicit false

namespace Sleepypods.Lifecycle

open Library Store

@[ext]
structure State where
  instances : InstanceId → Option InstanceRow
  watermarks : InstanceId → Option GenerationWatermark
  work : MaterializationId → Option MaterializationRow
  effects : MaterializationId → Option EffectRow
  deferred : InstanceId → Option DeferredWakeIntent

def view (db : Database) : State where
  instances := db.instances.find?
  watermarks := db.watermarks.find?
  work := db.materializations.find?
  effects := db.effects.find?
  deferred := db.deferredWakes.find?

variable {id : InstanceId}

namespace State

def raised (generation : Nat) : Option GenerationWatermark → GenerationWatermark
  | some watermark => { watermark with lastGeneration := max watermark.lastGeneration generation }
  | none => { lastGeneration := generation, retired := false }

/-- An instance row written together with its watermark. -/
@[simps]
def setInstance (state : State) (id : InstanceId) (row : InstanceRow) : State :=
  { state with
    instances := Function.update state.instances id (some row)
    watermarks :=
      Function.update state.watermarks id (some (raised row.generation (state.watermarks id))) }

@[simps]
def setWork (state : State) (id : MaterializationId) (row : MaterializationRow) : State :=
  { state with work := Function.update state.work id (some row) }

@[simps]
def setEffect (state : State) (id : MaterializationId) (marker : Option EffectRow) : State :=
  { state with effects := Function.update state.effects id marker }

@[simps]
def setDeferred (state : State) (id : InstanceId) (intent : Option DeferredWakeIntent) : State :=
  { state with deferred := Function.update state.deferred id intent }

@[simps]
def mapWork (state : State) (rewrite : MaterializationId → MaterializationRow → MaterializationRow) :
    State :=
  { state with work := fun id => (state.work id).map (rewrite id) }

/-- Instances deleted with their work and their deferred wakes. Watermarks stay. -/
@[simps]
def remove (state : State) (ids : List InstanceId) : State :=
  { state with
    instances := fun id => if id ∈ ids then none else state.instances id
    work := fun id => (state.work id).filter fun row => decide (row.instanceId ∉ ids)
    deferred := fun id => if id ∈ ids then none else state.deferred id }

theorem work_setWork_eq_some {state : State} {id other : MaterializationId}
    {row found : MaterializationRow} :
    (state.setWork id row).work other = some found ↔
      (other = id ∧ found = row) ∨ (other ≠ id ∧ state.work other = some found) := by
  by_cases same : other = id
  · subst same
    simp [eq_comm]
  · simp [same]

theorem instances_setInstance_eq_some {state : State} {other : InstanceId}
    {row found : InstanceRow} :
    (state.setInstance id row).instances other = some found ↔
      (other = id ∧ found = row) ∨ (other ≠ id ∧ state.instances other = some found) := by
  by_cases same : other = id
  · subst same
    simp [eq_comm]
  · simp [same]

theorem setWork_setWork (state : State) (id : MaterializationId)
    (first second : MaterializationRow) :
    (state.setWork id first).setWork id second = state.setWork id second := by
  simp [setWork]

theorem remove_nil (state : State) : state.remove [] = state := by
  ext1
  · simp [remove]
  · rfl
  · funext work
    cases found : state.work work <;> simp [remove, found]
  · rfl
  · simp [remove]

theorem remove_cons (state : State) (id : InstanceId) (ids : List InstanceId) :
    state.remove (id :: ids) = (state.remove [id]).remove ids := by
  ext1
  · funext other
    by_cases same : other = id <;> by_cases member : other ∈ ids <;> simp [remove, same, member]
  · rfl
  · funext work
    cases found : state.work work with
    | none => simp [remove, found]
    | some row =>
      by_cases same : row.instanceId = id <;> by_cases member : row.instanceId ∈ ids <;>
        simp [remove, found, Option.filter, same, member]
  · rfl
  · funext other
    by_cases same : other = id <;> by_cases member : other ∈ ids <;> simp [remove, same, member]

end State

/-! ### What the statements do to the view -/

@[simp]
theorem retainGeneration_find? (id : InstanceId) (generation : Nat)
    (watermarks : Table InstanceId GenerationWatermark) :
    (retainGeneration id generation watermarks).find? =
      Function.update watermarks.find? id
        (some (State.raised generation (watermarks.find? id))) := by
  rw [retainGeneration, Table.find?_insert]
  cases watermarks.find? id <;> rfl

variable {session : Session} {db after : Database}

theorem view_updateInstance {old : InstanceRow} {state : InstanceState} {generation : Nat}
    (updated : updateInstance session id old state generation db = .ok after) :
    view after =
      (view db).setInstance id { old with state := state, generation := generation } := by
  rw [(updateInstance_ok updated).2]
  simp [view, State.setInstance]

theorem view_insertInstance {row stored : InstanceRow}
    (inserted : insertInstance session id row db = .ok (stored, after)) :
    (view db).instances id = none ∧
      stored =
        { row with generation := insertedGeneration row.generation ((view db).watermarks id) } ∧
      view after = (view db).setInstance id stored := by
  obtain ⟨absent, storedEq, rfl⟩ := insertInstance_ok inserted
  refine ⟨absent, storedEq, ?_⟩
  simp [view, State.setInstance]

theorem view_insertRouteBinding {id : RouteBindingId} {row : RouteBindingRow}
    (inserted : insertRouteBinding session id row db = .ok after) :
    view after = view db := by
  obtain ⟨-, -, -, rfl⟩ := insertRouteBinding_ok inserted
  rfl

theorem view_insertMaterialization {id : MaterializationId} {row : MaterializationRow}
    (inserted : insertMaterialization session id row db = .ok after) :
    (view db).work id = none ∧ (view db).instances row.instanceId ≠ none ∧
      view after = (view db).setWork id row := by
  obtain ⟨absent, owned, _, _, rfl⟩ := insertMaterialization_ok inserted
  refine ⟨absent, Option.isSome_iff_ne_none.mp owned, ?_⟩
  simp [view, State.setWork]

theorem view_updateMaterialization {id : MaterializationId} {old assigned : MaterializationRow}
    (updated : updateMaterialization session id old assigned db = .ok after) :
    view after = (view db).setWork id (beforeUpdate session old assigned) := by
  obtain ⟨_, _, rfl⟩ := updateMaterialization_ok updated
  simp [view, State.setWork]

theorem view_updateMaterializations {selects : MaterializationId → MaterializationRow → Bool}
    {assign : MaterializationRow → MaterializationRow}
    (updated : updateMaterializations session selects assign db = .ok after) :
    view after = (view db).mapWork fun id row =>
      if selects id row then beforeUpdate session row (assign row) else row := by
  obtain ⟨_, _, rfl⟩ := updateMaterializations_ok updated
  simp only [view, State.mapWork, State.mk.injEq, true_and, and_true]
  funext id
  exact Table.find?_mapRows _ _ _

theorem view_deleteInstanceRow (deleted : deleteInstanceRow session db id = .ok after) :
    (∀ work row, (view db).work work = some row → row.instanceId = id →
        (view db).effects work = none) ∧
      view after = (view db).remove [id] := by
  obtain ⟨unreferenced, _, _, _, _, rfl⟩ := deleteInstanceRow_ok deleted
  refine ⟨unreferenced, ?_⟩
  ext1
  · funext other
    by_cases same : other = id <;> simp [view, State.remove, same]
  · rfl
  · funext work
    simp [view, State.remove]
  · rfl
  · funext other
    by_cases same : other = id <;> simp [view, State.remove, same]

theorem view_deleteInstanceRows {ids : List InstanceId}
    (deleted : ids.foldlM (deleteInstanceRow session) db = .ok after) :
    (∀ work row, (view db).work work = some row → row.instanceId ∈ ids →
        (view db).effects work = none) ∧
      view after = (view db).remove ids := by
  induction ids generalizing db with
  | nil =>
    cases deleted
    exact ⟨by simp, (State.remove_nil _).symm⟩
  | cons id ids ih =>
    simp only [List.foldlM_cons, Fallible.bind_eq_ok] at deleted
    obtain ⟨next, first, rest⟩ := deleted
    obtain ⟨firstFree, firstView⟩ := view_deleteInstanceRow first
    obtain ⟨restFree, restView⟩ := ih rest
    rw [firstView] at restFree restView
    refine ⟨?_, restView.trans (State.remove_cons _ id ids).symm⟩
    intro work row found member
    by_cases same : row.instanceId = id
    · exact firstFree work row found same
    · refine restFree work row ?_ (List.mem_of_ne_of_mem same member)
      simp [State.remove, found, Option.filter, same]

theorem view_deleteInstances {ids : List InstanceId}
    (deleted : deleteInstances session ids db = .ok after) :
    (∀ work row, (view db).work work = some row → row.instanceId ∈ ids →
        (view db).effects work = none) ∧
      view after = (view db).remove ids := by
  simp only [deleteInstances, Fallible.bind_eq_ok] at deleted
  obtain ⟨rows, removed, recorded⟩ := deleted
  have viewed := view_deleteInstanceRows removed
  rw [recordRouteChanges_ok recorded]
  exact viewed

end Sleepypods.Lifecycle
