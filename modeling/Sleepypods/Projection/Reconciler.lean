import Sleepypods.Projection.Client

/-! `ProjectionReconciler`: a plan is inspected before anything is applied or deleted, and every
mutation carries the identity the inspection found. -/

set_option autoImplicit false

namespace Sleepypods.Projection

open Library Library.Fallible Store Procedure

inductive ProjectionError where
  | ownershipConflict (observations : List ProjectionObservation)
  | cleanupBlocked (observations : List ProjectionObservation)
  | apply (observations : List ProjectionObservation) (source : MaterializerError)
  | delete (observations : List ProjectionObservation) (source : MaterializerError)
  | inspect (objectRef : RenderedObjectRef) (observations : List ProjectionObservation)
      (source : KubernetesClientError)
  | missingManifest

def deleteBlocked (objectRef : RenderedObjectRef) (reason : String) (finalizers : List String) :
    ProjectionObservation :=
  .new objectRef .deleteBlocked (some reason) finalizers

def applyRejected (objectRef : RenderedObjectRef) (reason : String) : ProjectionObservation :=
  .new objectRef .applyRejected (some reason) []

def fallbackObservationRef (plan : ProjectionPlan) : RenderedObjectRef :=
  (plan.objects.head?.map (·.objectRef)).getD
    { apiVersion := "", kind := "", namespaceName := "", name := "" }

def readinessObservationRef (plan : ProjectionPlan) : RenderedObjectRef :=
  ((plan.objects.find? fun object =>
      object.objectRef.kind == "Service" && object.objectRef.apiVersion == "v1").map
    (·.objectRef)).getD (fallbackObservationRef plan)

def applyRejectedObservations (plan : ProjectionPlan) :
    MaterializerError → List ProjectionObservation
  | .apply object _ _ => [applyRejected object "apply_rejected"]
  | .pvcBoundWait namespaceName name _ _ =>
    [applyRejected
      { apiVersion := "v1", kind := "PersistentVolumeClaim"
        namespaceName := namespaceName, name := name } "pvc_bound_wait_failed"]
  | .invalidManifest _ => [applyRejected (fallbackObservationRef plan) "invalid_manifest"]
  | .delete object _ => [deleteBlocked object "delete_request_failed" []]
  | .panicked => []

def deleteBlockedObservation (observation : ProjectionObservation) :
    Option ProjectionObservation :=
  match observation.state with
  | .presentOwned =>
    some (deleteBlocked observation.objectRef "delete_pending" observation.finalizers)
  | .deletingOwned =>
    let reason := if observation.finalizers.isEmpty then "deletion_in_progress"
      else "finalizers_blocking"
    some (deleteBlocked observation.objectRef reason observation.finalizers)
  | .missing => none
  | .presentUnowned | .deletingUnowned | .applyRejected | .deleteBlocked | .inspectFailed =>
    some observation

section operations

variable {World : Type} (client : KubernetesMaterializerClient World)

def inspectPlanned (object : ProjectionObjectPlan) :
    Procedure (Journaled World KubeEvent) ProjectionError ProjectionObservation := do
  let inspection ← mapError (fun source => ProjectionError.inspect object.objectRef
      [.new object.objectRef .inspectFailed (some "inspect_failed") []] source)
    (client.inspectObject object.objectRef)
  return classifyObject object inspection

def inspect (plan : ProjectionPlan) :
    Procedure (Journaled World KubeEvent) ProjectionError (List ProjectionObservation) :=
  collect (inspectPlanned client) plan.objects

def rejectUnowned (observations : List ProjectionObservation) : Except ProjectionError Unit :=
  let conflicts := observations.filter (·.isUnownedConflict)
  require (conflicts = []) (.ownershipConflict conflicts)

def applyWithPrecondition (observations : List ProjectionObservation) (object : KubernetesObject) :
    Procedure (Journaled World KubeEvent) MaterializerError RenderedObjectRef := do
  let objectRef := renderedObjectRef object
  let precondition :=
    (observations.find? fun observation => observation.objectRef = objectRef).bind (·.identity)
  mapError (fun source => .apply objectRef [] source) (client.applyObject object precondition)
  return objectRef

/-- Apply objects one after the other; an error names the ones applied before it. -/
def applyEach (observations : List ProjectionObservation) (applied : List RenderedObjectRef) :
    List RenderedManifestObject →
      Procedure (Journaled World KubeEvent) MaterializerError (List RenderedObjectRef)
  | [] => pure applied
  | item :: rest => do
      let objectRef ← mapError (·.withAppliedObjects applied)
        (applyWithPrecondition client observations item.object)
      applyEach observations (applied ++ [objectRef]) rest

def waitForClaim (applied : List RenderedObjectRef) (claim : RenderedObjectRef) :
    Procedure (Journaled World KubeEvent) MaterializerError Unit :=
  mapError (fun source => .pvcBoundWait claim.namespaceName claim.name applied source)
    (client.waitForPvcBound claim.namespaceName claim.name)

def applyManifestWithPreconditions (manifest : RenderedManifest)
    (observations : List ProjectionObservation) :
    Procedure (Journaled World KubeEvent) MaterializerError (List RenderedObjectRef) := do
  let refs ← ofExcept (renderedObjectRefs manifest)
  let ofOrder := fun order => (orderedObjects manifest).filter fun item => item.applyOrder = order
  let volumes ← applyEach client observations [] (ofOrder .persistentVolume)
  let applied ← applyEach client observations volumes (ofOrder .persistentVolumeClaim)
  forEach (waitForClaim client applied)
    ((ofOrder .persistentVolumeClaim).map fun item => renderedObjectRef item.object)
  let applied ← applyEach client observations applied (ofOrder .secret)
  let applied ← applyEach client observations applied (ofOrder .service)
  let _ ← applyEach client observations applied (ofOrder .workload)
  return refs

def applyWithObservations (plan : ProjectionPlan) (observations : List ProjectionObservation) :
    Procedure (Journaled World KubeEvent) ProjectionError Unit :=
  match plan.manifest with
  | none => fail .missingManifest
  | some manifest => do
      let _ ← mapError (fun source => .apply (applyRejectedObservations plan source) source)
        (applyManifestWithPreconditions client manifest observations)
      return ()

def apply (plan : ProjectionPlan) : Procedure (Journaled World KubeEvent) ProjectionError Unit := do
  let observations ← inspect client plan
  ofExcept (rejectUnowned observations)
  applyWithObservations client plan observations

def isUnsafeVolume (observation : ProjectionObservation) : Bool :=
  observation.objectRef.kind == "PersistentVolume" && observation.state != .missing &&
    observation.persistentVolumeReclaimPolicy != some "Retain"

def rejectUnsafeVolumes (before : List ProjectionObservation) : Except ProjectionError Unit :=
  let unsafeVolumes := (before.filter isUnsafeVolume).map fun observation =>
    deleteBlocked observation.objectRef "managed_volume_requires_retain_before_cleanup"
      observation.finalizers
  require (unsafeVolumes = []) (.cleanupBlocked unsafeVolumes)

def deleteObserved (before : List ProjectionObservation) (objectRef : RenderedObjectRef) :
    Procedure (Journaled World KubeEvent) ProjectionError Unit :=
  match before.find? fun observation => observation.objectRef = objectRef with
  | none => pure ()
  | some observation =>
    if observation.state = .presentOwned then
      match observation.identity with
      | none => fail (.delete [] .panicked)
      | some identity =>
        mapError (fun source => .delete [deleteBlocked objectRef "delete_request_failed" []]
            (.delete objectRef source)) (client.deleteObject objectRef identity)
    else pure ()

def confirmAbsent (plan : ProjectionPlan) :
    Procedure (Journaled World KubeEvent) ProjectionError Unit := do
  let after ← inspect client plan
  ofExcept (rejectUnowned after)
  if after.all fun observation => observation.state = .missing then
    mapError (fun source => .inspect (readinessObservationRef plan)
        [deleteBlocked (readinessObservationRef plan) "descendants_remain_or_inspection_failed" []]
        source)
      (client.ensureNoDescendants plan.objectRefs plan.instanceId.value)
  else fail (.cleanupBlocked (after.filterMap deleteBlockedObservation))

def deleteOwned (plan : ProjectionPlan) :
    Procedure (Journaled World KubeEvent) ProjectionError Unit := do
  let before ← inspect client plan
  ofExcept (rejectUnowned before)
  ofExcept (rejectUnsafeVolumes before)
  mapError (fun source => .inspect (readinessObservationRef plan)
      [deleteBlocked (readinessObservationRef plan) "retained_static_binding_not_proven" []] source)
    (client.verifyRetainedBindings plan.objectRefs)
  forEach (deleteObserved client before) (deleteOrder plan.objectRefs)
  confirmAbsent client plan

end operations

end Sleepypods.Projection
