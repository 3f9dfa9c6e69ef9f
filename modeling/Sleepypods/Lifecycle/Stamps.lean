import Sleepypods.Lifecycle.LeaseFencing

/-! The generation a projection is stamped with: the one its instance has when the wake that the
projection was rendered for is complete. -/

set_option autoImplicit false

namespace Sleepypods.Lifecycle

open Library Store

/-- A pending row is stamped with the generation it is to run at, a ready row with its own. -/
structure Stamped (row : MaterializationRow) : Prop where
  pending : row.state = .pending → row.projectionGeneration = row.instanceGeneration + 1
  ready : row.state = .ready → row.projectionGeneration = row.instanceGeneration

theorem stamped_of_ending {row : MaterializationRow}
    (ending : row.state = .deleting ∨ row.state = .deleted) : Stamped row := by
  constructor
  · intro pending
    rw [pending] at ending
    rcases ending with other | other <;> cases other
  · intro ready
    rw [ready] at ending
    rcases ending with other | other <;> cases other

theorem Stamped.congr {row new : MaterializationRow} (stamped : Stamped row)
    (sameState : new.state = row.state)
    (sameGeneration : new.instanceGeneration = row.instanceGeneration)
    (sameProjection : new.projectionGeneration = row.projectionGeneration) : Stamped new := by
  constructor
  · rw [sameState, sameGeneration, sameProjection]
    exact stamped.pending
  · rw [sameState, sameGeneration, sameProjection]
    exact stamped.ready

structure AllStamped (state : State) : Prop where
  rows : ∀ {id : MaterializationId} {row : MaterializationRow}, state.work id = some row →
    Stamped row
  intents : ∀ {id : InstanceId} {intent : DeferredWakeIntent}, state.deferred id = some intent →
    intent.projectionGeneration = intent.instanceGeneration + 1

theorem allStamped_empty : AllStamped (view .empty) where
  rows := fun found => by cases found
  intents := fun found => by cases found

theorem Step.allStamped {session : Session} {op : Op} {state next : State}
    (step : Step session op state next) (stamped : AllStamped state) : AllStamped next := by
  have everywhere := step.everywhere ⟨stamped.rows, stamped.intents⟩
    { touched := fun stamped sameState sameGeneration sameProjection _ =>
        stamped.congr sameState sameGeneration sameProjection
      ended := fun _ ending _ _ => stamped_of_ending ending
      accepted := fun _ _ prepared _ =>
        prepared.projection_eq.trans (congrArg (· + 1) prepared.generation_eq.symm)
      recorded := by
        intro intent row ahead pending generation projection _
        refine ⟨fun _ => ?_, fun ready => ?_⟩
        · rw [projection, generation]
          exact ahead
        · cases pending.symm.trans ready
      completed := by
        intro request current row _ completable isStamped
        refine ⟨nofun, fun _ => ?_⟩
        exact (isStamped.pending completable.pending).trans (congrArg (· + 1) completable.stamped) }
  exact ⟨everywhere.rows, everywhere.intents⟩

end Sleepypods.Lifecycle
