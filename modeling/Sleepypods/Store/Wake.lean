import Sleepypods.Store.LifecycleOps

/-! The wake call of the control plane: it reads the instance, decides, and asks the store to
accept a projection of the next incarnation. -/

set_option autoImplicit false

namespace Sleepypods.Store

open Library

structure WakeInstanceRequest where
  instanceId : InstanceId
  expectedGeneration : Nat
  target : MaterializationTarget
  backendGeneration : Option Nat

inductive WakeUnavailableReason where
  | deleting
  | deleted
  deriving DecidableEq

inductive WakeInstanceError where
  | notFound
  | generationConflict (expected actual : Nat)
  | readyMaterializationNotFound (found : InstanceRow) (target : MaterializationTarget)
  | unavailable (found : InstanceRow) (reason : WakeUnavailableReason)
  | store (error : StoreError)
  | workloadClassNotFound (found : InstanceRow)
  | sleepPolicy (found : InstanceRow)
  | render (found : InstanceRow)
  | materializer (found : InstanceRow)

structure RenderedWake where
  objects : List RenderedObjectRef
  keys : List RenderedExclusivityKey

inductive WakeDecision where
  | alreadyRunning (found : InstanceRow) (materialization : MaterializationRow)
  | alreadyWaking (found : InstanceRow)
  | accept (request : AcceptWakeRequest)

def RecordMaterializationRequest.new (instanceId : InstanceId) (instanceGeneration : Nat)
    (target : MaterializationTarget) (state : MaterializationState) (backendGeneration : Nat) :
    RecordMaterializationRequest where
  instanceId := instanceId
  instanceGeneration := instanceGeneration
  projectionGeneration := if state = .pending then instanceGeneration + 1 else instanceGeneration
  target := target
  state := state
  backend := none
  backendGeneration := backendGeneration
  renderedObjects := []
  exclusivityKeys := []

/-- The request a wake passes to the store, with the waking generation as its backend
generation when the caller supplied none. -/
def acceptWakeRequest (request : WakeInstanceRequest) (found : InstanceRow)
    (rendered : RenderedWake) : AcceptWakeRequest :=
  let wakingGeneration :=
    if found.state = .draining then found.generation + 1 + 1 else found.generation + 1
  { expectedGeneration := found.generation
    pending :=
      { RecordMaterializationRequest.new request.instanceId wakingGeneration request.target .pending
          (request.backendGeneration.getD wakingGeneration) with
        renderedObjects := rendered.objects
        exclusivityKeys := rendered.keys } }

/-- `wake_instance` up to its call of `accept_wake`. The arguments are what its reads of the
instance, of the ready and of the active materialization returned. -/
def wakeInstance (request : WakeInstanceRequest) (found : Option InstanceRow)
    (ready active : Option MaterializationRow) (rendered : Except WakeInstanceError RenderedWake) :
    Except WakeInstanceError WakeDecision := do
  let found ← Fallible.orError found .notFound
  Fallible.require (found.generation = request.expectedGeneration)
    (.generationConflict request.expectedGeneration found.generation)
  match found.state with
  | .running =>
    match ready with
    | some materialization => return .alreadyRunning found materialization
    | none => throw (.readyMaterializationNotFound found request.target)
  | .waking =>
    if active.any fun row =>
        decide (row.state = .pending) && decide (row.instanceGeneration = found.generation) then
      return .alreadyWaking found
    else throw (.store (.invalidArgument "no accepted wake exists for this target"))
  | .deleting => throw (.unavailable found .deleting)
  | .deleted => throw (.unavailable found .deleted)
  | .cold | .failed | .draining => return .accept (acceptWakeRequest request found (← rendered))

theorem wakeInstance_accept {call : WakeInstanceRequest} {found : Option InstanceRow}
    {ready active : Option MaterializationRow} {rendered : Except WakeInstanceError RenderedWake}
    {request : AcceptWakeRequest}
    (accepted : wakeInstance call found ready active rendered = .ok (.accept request)) :
    ∃ row objects, request = acceptWakeRequest call row objects := by
  simp only [wakeInstance, Fallible.bind_eq_ok, Fallible.orError_eq_ok, Fallible.require_eq_ok,
    exists_const] at accepted
  obtain ⟨row, -, -, decided⟩ := accepted
  have wakes (answer : (do return .accept (acceptWakeRequest call row (← rendered)) :
      Except WakeInstanceError WakeDecision) = .ok (.accept request)) :
      ∃ row objects, request = acceptWakeRequest call row objects := by
    simp only [Fallible.bind_eq_ok, Fallible.pure_eq_ok, WakeDecision.accept.injEq] at answer
    obtain ⟨objects, -, same⟩ := answer
    exact ⟨row, objects, same.symm⟩
  split at decided
  · split at decided <;> cases decided
  · split at decided <;> cases decided
  · cases decided
  · cases decided
  · exact wakes decided
  · exact wakes decided
  · exact wakes decided

end Sleepypods.Store
