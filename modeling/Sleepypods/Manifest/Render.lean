import Sleepypods.Library.StableSort
import Sleepypods.Manifest.RawObjects

/-! Rendering a manifest template for an instance: the structured objects, the raw ones after
them, a stable sort into apply order, and the checks of the result. -/

set_option autoImplicit false

namespace Sleepypods.Manifest

open Library Library.Fallible
open Projection (ApplyOrder)

/-! ### Structured objects -/

structure SharedMetadata where
  namespaceName : String
  labels : StringMap
  annotations : StringMap

def SharedMetadata.named (shared : SharedMetadata) (name : String) : ObjectMeta where
  name := name
  namespaceName := some shared.namespaceName
  labels := shared.labels
  annotations := shared.annotations

def persistentVolumeObject (shared : SharedMetadata) (rendered : RenderedVolume) :
    RenderedManifestObject where
  applyOrder := .persistentVolume
  object := .persistentVolume {
    metadata := { shared.named rendered.pvName with namespaceName := none }
    capacity := rendered.capacity
    accessModes := rendered.accessModes
    reclaimPolicy := rendered.reclaimPolicy
    storageClassName := rendered.storageClassName
    claimRef := { namespaceName := shared.namespaceName, name := rendered.pvcName }
    source := rendered.source }

def persistentVolumeClaimObject (shared : SharedMetadata) (rendered : RenderedVolume) :
    RenderedManifestObject where
  applyOrder := .persistentVolumeClaim
  object := .persistentVolumeClaim {
    metadata := shared.named rendered.pvcName
    accessModes := rendered.accessModes
    requestsStorage := rendered.capacity
    storageClassName := rendered.storageClassName
    volumeName := rendered.pvName }

def annotationBackendScheme : String := "sleepypods.io/backend-scheme"

def serviceObject (shared : SharedMetadata) (selector : StringMap) (sidecar : SidecarRenderConfig)
    (name : String) (ports : List ServicePort) : RenderedManifestObject where
  applyOrder := .service
  object := .service {
    metadata := { shared.named name with
      annotations :=
        if sidecar.mode = some "tcp" then shared.annotations.insert annotationBackendScheme "tcp"
        else shared.annotations }
    selector := selector
    ports := ports }

def secretObject (shared : SharedMetadata) (name token : String) : RenderedManifestObject where
  applyOrder := .secret
  object := .secret {
    metadata := shared.named name
    type := "Opaque"
    stringData := .ofList [("token", token)] }

def podTemplate (shared : SharedMetadata) (app sidecar : Container)
    (volumes : List RenderedVolume) : PodTemplateSpec where
  metadata := { labels := shared.labels, annotations := shared.annotations }
  spec := {
    containers := [app, sidecar]
    volumes := volumes.map fun volume => ⟨volume.volumeName, volume.pvcName⟩ }

/-- The primary workload. A StatefulSet governs its pods through the Service. -/
def workloadObject (shared : SharedMetadata) (selector : StringMap) (workload : WorkloadTemplate)
    (name : String) (serviceName : Option String) (template : PodTemplateSpec) :
    RenderResult RenderedManifestObject :=
  match workload.kind with
  | .deployment => .ok {
      applyOrder := .workload
      object := .deployment {
        metadata := shared.named name
        replicas := workload.replicas.getD 1
        selector := { matchLabels := selector }
        template := template } }
  | .statefulSet => do
      let serviceName ← orError serviceName (.invalidField "stateful_set.service_name"
        "StatefulSet rendering requires a service template")
      return {
        applyOrder := .workload
        object := .statefulSet {
          metadata := shared.named name
          replicas := workload.replicas.getD 1
          serviceName := serviceName
          selector := { matchLabels := selector }
          template := template } }

def KubernetesObject.ref (object : KubernetesObject) : RenderedObjectRef where
  apiVersion := object.apiVersion
  kind := object.kind
  namespaceName := object.metadata.namespaceName.getD ""
  name := object.metadata.name

def duplicateRef (object : RenderedObjectRef) : ManifestRenderError :=
  .invalidField "template" ("duplicate rendered Kubernetes object ref " ++ object.apiVersion ++
    " " ++ object.kind ++ " " ++ object.namespaceName ++ "/" ++ object.name)

def validateUniqueRefs (seen : List RenderedObjectRef) : List RenderedObjectRef → RenderResult Unit
  | [] => .ok ()
  | object :: rest => do
      require (object ∉ seen) (duplicateRef object)
      validateUniqueRefs (object :: seen) rest

def validateUniqueRenderedRefs (objects : List RenderedManifestObject) : RenderResult Unit :=
  validateUniqueRefs [] (objects.map fun rendered => rendered.object.ref)

def isVolumeNamed (name : String) (value : Value) : Bool :=
  decide ((value.index "kind").asStr = some "PersistentVolume" ∧
    ((value.index "metadata").index "name").asStr = some name)

def boundVolumeName (value : Value) : Option String :=
  ((value.pointer ["spec", "volumeName"]).bind Value.asStr).filter fun name => decide (name ≠ "")

def validateRetained (values : List Value) (value : Value) : RenderResult Unit :=
  if (value.index "kind").asStr = some "PersistentVolume" then
    require ((value.pointer ["spec", "persistentVolumeReclaimPolicy"]).bind Value.asStr =
        some "Retain")
      (.invalidField "volumes.reclaim_policy"
        "all managed static PVs, including raw PVs, require explicit Retain")
  else if (value.index "kind").asStr = some "PersistentVolumeClaim" then
    require ((boundVolumeName value).any (fun name => values.any (isVolumeNamed name)) = true)
      (.invalidField "volumes.static_binding" ("PVC must explicitly bind a retained PV in the " ++
        "same managed inventory; dynamic/external bindings are unsupported"))
  else .ok ()

def validateRetainedStaticInventory (objects : List RenderedManifestObject) : RenderResult Unit :=
  let values := objects.map fun rendered => rendered.object.toKubernetesJson
  values.forM (validateRetained values)

def sortByApplyOrder (objects : List RenderedManifestObject) : List RenderedManifestObject :=
  sortByRank (fun rendered => rendered.applyOrder.rank) objects

def sidecarTokenSecretName (externals : Externals) (record : InstanceRecord) : String :=
  renderInstanceScopedName externals "sleepypods-sidecar-token" record.id

def renderService (shared : SharedMetadata) (selector : StringMap) (sidecar : SidecarRenderConfig)
    (template : Option ServiceTemplate) (name : Option String) :
    RenderResult (List RenderedManifestObject) :=
  match template, name with
  | some service, some name => do
      let ports ← renderServicePorts service sidecar.listenPort
      return [serviceObject shared selector sidecar name ports]
  | _, _ => .ok []

/-- The objects in the order they are rendered: the structured ones, then the raw ones. -/
def renderObjects (externals : Externals) (request : RenderManifestRequest)
    (options : RenderManifestOptions) : RenderResult (List RenderedManifestObject) := do
  let template := request.template
  let record := request.instanceRecord
  template.workload.validateReplicas
  template.validateStorageRetention externals
  validateDnsLabel "namespace" request.namespaceName
  let workloadName ← renderObjectName externals "workload.name" template.workload.name record
  let serviceName ← template.service.mapM fun service =>
    renderObjectName externals "service.name" service.name record
  let selector ← selectorLabels externals record workloadName
  let labels ← metadataLabels externals record workloadName
  let annotations := metadataAnnotations request.templateGeneration
  let sidecar ← renderSidecarConfig externals template record
  let volumes ← template.volumes.mapM fun volume =>
    renderVolume externals volume record request.namespaceName
  let shared : SharedMetadata := {
    namespaceName := request.namespaceName
    labels := labels
    annotations := annotations }
  let services ← renderService shared selector sidecar template.service serviceName
  let secretName := options.sidecarControlPlaneToken.map fun _ =>
    sidecarTokenSecretName externals record
  let secrets := (options.sidecarControlPlaneToken.map
    (secretObject shared (sidecarTokenSecretName externals record))).toList
  let app ← renderAppContainer template.workload.appContainer record volumes
  let proxy ← renderSidecarContainer template.sidecar record sidecar request.namespaceName
    request.sleepPolicy secretName options
  let workload ← workloadObject shared selector template.workload workloadName serviceName
    (podTemplate shared app proxy volumes)
  let raws ← template.rawObjects.mapM fun raw => renderRawObject externals raw record
    request.namespaceName (labels.erase labelWorkloadName) annotations
  return volumes.map (persistentVolumeObject shared) ++
    volumes.map (persistentVolumeClaimObject shared) ++ services ++ secrets ++ workload :: raws

def finishManifest (request : RenderManifestRequest) (rendered : List RenderedManifestObject) :
    RenderResult RenderedManifest := do
  let objects := sortByApplyOrder rendered
  validateUniqueRenderedRefs objects
  validateRetainedStaticInventory objects
  return {
    instanceGeneration := request.instanceRecord.generation
    templateGeneration := request.templateGeneration
    objects := objects }

def renderManifestsWithOptions (externals : Externals) (request : RenderManifestRequest)
    (options : RenderManifestOptions) : RenderResult RenderedManifest := do
  let rendered ← renderObjects externals request options
  finishManifest request rendered

end Sleepypods.Manifest
