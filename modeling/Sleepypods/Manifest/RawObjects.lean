import Sleepypods.Manifest.Structured

/-! Raw objects: YAML that the class author wrote, checked and given the labels and annotations
of the instance. -/

set_option autoImplicit false

namespace Sleepypods.Manifest

open Library Library.Fallible Entries
open Projection (ApplyOrder)

def parsePlaceholders (externals : Externals) (manifest : TemplateText) : Option Value :=
  match externals.parseYaml (PlaceholderDocument.new manifest).text with
  | .ok document => some document.value
  | .error _ => none

def validateRawRetention (value : Value) : RenderResult Unit := do
  require (¬((value.index "kind").asStr = some "PersistentVolume" ∧
      (value.pointer ["spec", "persistentVolumeReclaimPolicy"]).bind Value.asStr ≠ some "Retain"))
    (.invalidField "volumes.reclaim_policy" "raw managed static PVs require explicit Retain")
  require (¬((value.index "kind").asStr = some "PersistentVolumeClaim" ∧
      ((value.pointer ["spec", "volumeName"]).bind Value.asStr).getD "" = ""))
    (.invalidField "volumes.static_binding"
      "raw PVCs require explicit static bindings in managed inventory")

def ManifestTemplate.validateStorageRetention (externals : Externals) (template : ManifestTemplate) :
    RenderResult Unit := do
  require (∀ volume ∈ template.volumes, volume.reclaimPolicy = .retain)
    (.invalidField "volumes.reclaim_policy" ("managed static volumes require Retain; " ++
      "provider-volume deletion is outside the lifecycle contract"))
  template.rawObjects.forM fun raw =>
    (parsePlaceholders externals raw.manifest).forM validateRawRetention

def requiredStringField (members : List (String × Value)) (key field : String) :
    RenderResult String :=
  orError (((get? key members).bind Value.asStr).filter fun value => !isBlank value)
    (.invalidField field (key ++ " must be a non-empty string"))

def memberObject (members : List (String × Value)) (key field message : String) :
    RenderResult (List (String × Value)) :=
  orError ((get? key members).getD (.object [])).asObject (.invalidField field message)

def mergeLabel (externals : Externals) (field : String) (map : List (String × Value))
    (required : String × String) : RenderResult (List (String × Value)) :=
  match get? required.1 map with
  | none => .ok (insert required.1 (.string required.2) map)
  | some (.string existing) => do
      require (existing = required.2) (.invalidField field
        (required.1 ++ " must be " ++ externals.debugText required.2 ++
          ", got conflicting value " ++ externals.debugText existing))
      return map
  | some _ => .error (.invalidField field
      (required.1 ++ " must be " ++ externals.debugText required.2 ++ ", got non-string value"))

def mergeRequiredStringMap (externals : Externals) (key : String) (required : StringMap)
    (field : String) (metadata : List (String × Value)) : RenderResult (List (String × Value)) := do
  let map ← memberObject metadata key field (key ++ " must be an object")
  let merged ← required.entries.foldlM (mergeLabel externals field) map
  return insert key (.object merged) metadata

def stringMap (metadata : List (String × Value)) (key field : String) : RenderResult StringMap := do
  let map ← memberObject metadata key field (key ++ " must be an object")
  let entries ← map.mapM fun entry => do
    let value ← orError entry.2.asStr (.invalidField field "all values must be strings")
    return (entry.1, value)
  return .ofList entries

/-- The generated Service selector is reserved for the structured primary workload: raw
auxiliaries keep instance ownership for cleanup, but may not join that Service. -/
def rejectRawPrimarySelector (value : Value) : RenderResult Unit :=
  let explicitLabel := [["metadata", "labels"], ["spec", "template", "metadata", "labels"],
    ["spec", "selector"], ["spec", "selector", "matchLabels"]].any fun path =>
      ((value.pointer path).bind (Value.get? labelWorkloadName)).isSome
  let expression := ((value.pointer ["spec", "selector", "matchExpressions"]).bind
    Value.asArray).any fun expressions => expressions.any fun expression =>
      decide ((expression.get? "key").bind Value.asStr = some labelWorkloadName)
  require (explicitLabel = false ∧ expression = false) (.invalidField "raw_objects.manifest"
    (labelWorkloadName ++ " is reserved for the primary workload and Service selector"))

def rawApplyOrder (apiVersion kind : String) : RenderResult ApplyOrder :=
  if apiVersion = "v1" ∧ kind = "PersistentVolume" then .ok .persistentVolume
  else if apiVersion = "v1" ∧ kind = "PersistentVolumeClaim" then .ok .persistentVolumeClaim
  else if apiVersion = "v1" ∧ kind = "Secret" then .ok .secret
  else if apiVersion = "v1" ∧ kind = "Service" then .ok .service
  else if apiVersion = "apps/v1" ∧ (kind = "Deployment" ∨ kind = "StatefulSet") then .ok .workload
  else .error (.invalidField "raw_objects.manifest.kind"
    ("raw object " ++ apiVersion ++ " " ++ kind ++ " is not in the V1 allow-list"))

def rawKindIsNamespaced (kind : String) : Bool := kind != "PersistentVolume"

/-- The namespace a raw object is rendered into, none for cluster-scoped kinds. -/
def rawEffectiveNamespace (externals : Externals) (metadata : List (String × Value))
    (namespaceName : String) (namespaced : Bool) : RenderResult (Option String) :=
  let field := "raw_objects.manifest.metadata.namespace"
  match namespaced, get? "namespace" metadata with
  | false, some _ =>
    .error (.invalidField field "PersistentVolume must be cluster-scoped with no namespace")
  | false, none => .ok none
  | true, none => .ok (some namespaceName)
  | true, some (.string effective) => do
      require (effective ≠ "") (.invalidField field "namespace must be a non-empty string")
      validateDnsLabel field effective
      require (effective = namespaceName) (.invalidField field
        ("namespace must be omitted or match target namespace " ++
          externals.debugText namespaceName))
      return some effective
  | true, some _ => .error (.invalidField field "namespace must be a string")

def placeRawMetadata (metadata : List (String × Value)) : Option String → List (String × Value)
  | some namespaceName => insert "namespace" (.string namespaceName) metadata
  | none => erase "namespace" metadata

/-! ### Rendering -/

/-- Merge required labels and annotations into the members of a metadata object, and read the
result back. -/
def mergeMetadata (externals : Externals) (labels annotations : StringMap) (path : String)
    (metadata : List (String × Value)) :
    RenderResult (List (String × Value) × StringMap × StringMap) := do
  let labelled ← mergeRequiredStringMap externals "labels" labels (path ++ ".labels") metadata
  let merged ← mergeRequiredStringMap externals "annotations" annotations (path ++ ".annotations")
    labelled
  let allLabels ← stringMap merged "labels" (path ++ ".labels")
  let allAnnotations ← stringMap merged "annotations" (path ++ ".annotations")
  return (merged, allLabels, allAnnotations)

/-- The pod template of a raw workload gets the labels and annotations too. -/
def rawPodTemplateMetadata (externals : Externals) (labels annotations : StringMap)
    (members : List (String × Value)) :
    RenderResult (List (String × Value) × PodTemplateMetadata) := do
  let spec ← memberObject members "spec" "raw_objects.manifest.spec" "spec must be an object"
  let template ← memberObject spec "template" "raw_objects.manifest.spec.template"
    "workload template must be an object"
  let metadata ← memberObject template "metadata" "raw_objects.manifest.spec.template.metadata"
    "workload template metadata must be an object"
  let (merged, allLabels, allAnnotations) ← mergeMetadata externals labels annotations
    "raw_objects.manifest.spec.template.metadata" metadata
  let rendered := insert "spec"
    (.object (insert "template"
      (.object (insert "metadata" (.object merged) template)) spec)) members
  return (rendered, { labels := allLabels, annotations := allAnnotations })

/-- Only workloads have pods. -/
def renderRawPods (externals : Externals) (labels annotations : StringMap) (kind : String)
    (members : List (String × Value)) :
    RenderResult (List (String × Value) × Option PodTemplateMetadata) :=
  if kind = "Deployment" ∨ kind = "StatefulSet" then do
    let (rendered, podTemplate) ← rawPodTemplateMetadata externals labels annotations members
    return (rendered, some podTemplate)
  else .ok (members, none)

def bindRawObject (externals : Externals) (manifest : TemplateText) (record : InstanceRecord) :
    RenderResult (List (String × Value)) := do
  let document ← (PlaceholderDocument.new manifest).withValues record.values
  require (isBlank document.text = false)
    (.invalidField "raw_objects.manifest" "rendered value must not be empty")
  let parsed ← (externals.parseYaml document.text).mapError fun message =>
    .invalidField "raw_objects.manifest" ("manifest must be valid YAML or JSON: " ++ message)
  let value := document.bind parsed.value
  rejectRawPrimarySelector value
  orError value.asObject
    (.invalidField "raw_objects.manifest" "manifest must render to one Kubernetes object")

def renderRawMembers (externals : Externals) (members : List (String × Value))
    (namespaceName : String) (labels annotations : StringMap) :
    RenderResult RenderedManifestObject := do
  let apiVersion ← requiredStringField members "apiVersion" "raw_objects.manifest"
  let kind ← requiredStringField members "kind" "raw_objects.manifest"
  let applyOrder ← rawApplyOrder apiVersion kind
  let metadata ← memberObject members "metadata" "raw_objects.manifest.metadata"
    "metadata must be an object"
  let name ← requiredStringField metadata "name" "raw_objects.manifest.metadata.name"
  validateDnsLabel "raw_objects.manifest.metadata.name" name
  let effective ← rawEffectiveNamespace externals metadata namespaceName (rawKindIsNamespaced kind)
  let (merged, allLabels, allAnnotations) ← mergeMetadata externals labels annotations
    "raw_objects.manifest.metadata" (placeRawMetadata metadata effective)
  let placed := insert "metadata" (.object merged) members
  let (rendered, podTemplate) ← renderRawPods externals labels annotations kind placed
  return {
    applyOrder := applyOrder
    object := .raw {
      apiVersion := apiVersion
      kind := kind
      metadata := {
        name := name
        namespaceName := effective
        labels := allLabels
        annotations := allAnnotations }
      podTemplateMetadata := podTemplate
      value := .object rendered } }

def renderRawObject (externals : Externals) (template : RawKubernetesManifestTemplate)
    (record : InstanceRecord) (namespaceName : String) (labels annotations : StringMap) :
    RenderResult RenderedManifestObject := do
  let members ← bindRawObject externals template.manifest record
  renderRawMembers externals members namespaceName labels annotations

end Sleepypods.Manifest
