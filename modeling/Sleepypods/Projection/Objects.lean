import Sleepypods.Library.Fallible
import Sleepypods.Library.Table
import Sleepypods.Store.Rows

/-! Rendered Kubernetes objects: their references, the order in which they are applied and deleted,
and the validation of a rendered manifest. -/

set_option autoImplicit false

namespace Sleepypods.Projection

open Library Library.Fallible Store

/-! ### Objects -/

structure ObjectMeta where
  name : String
  namespaceName : Option String
  labels : Table String String
  annotations : Table String String

structure PodTemplateMetadata where
  labels : Table String String
  annotations : Table String String

inductive ObjectShape where
  | deployment (template : PodTemplateMetadata)
  | statefulSet (template : PodTemplateMetadata)
  | service
  | secret
  | persistentVolume
  | persistentVolumeClaim
  | raw (apiVersion kind : String) (template : Option PodTemplateMetadata)

/-- An object to apply. What it renders beside its metadata is only ever serialized. -/
structure KubernetesObject where
  shape : ObjectShape
  metadata : ObjectMeta
  content : String

namespace KubernetesObject

def kind (object : KubernetesObject) : String :=
  match object.shape with
  | .deployment _ => "Deployment"
  | .statefulSet _ => "StatefulSet"
  | .service => "Service"
  | .secret => "Secret"
  | .persistentVolume => "PersistentVolume"
  | .persistentVolumeClaim => "PersistentVolumeClaim"
  | .raw _ kind _ => kind

def podTemplateMetadata (object : KubernetesObject) : Option PodTemplateMetadata :=
  match object.shape with
  | .deployment template => some template
  | .statefulSet template => some template
  | .service | .secret | .persistentVolume | .persistentVolumeClaim => none
  | .raw _ _ template => template

def mapPodTemplate (change : PodTemplateMetadata → PodTemplateMetadata)
    (object : KubernetesObject) : KubernetesObject :=
  { object with
    shape :=
      match object.shape with
      | .deployment template => .deployment (change template)
      | .statefulSet template => .statefulSet (change template)
      | .raw apiVersion kind template => .raw apiVersion kind (template.map change)
      | shape => shape }

end KubernetesObject

def renderedObjectRef (object : KubernetesObject) : RenderedObjectRef where
  apiVersion :=
    match object.shape with
    | .deployment _ | .statefulSet _ => "apps/v1"
    | .service | .secret | .persistentVolume | .persistentVolumeClaim => "v1"
    | .raw apiVersion _ _ => apiVersion
  kind := object.kind
  namespaceName := object.metadata.namespaceName.getD ""
  name := object.metadata.name

inductive ApplyOrder where
  | persistentVolume
  | persistentVolumeClaim
  | secret
  | service
  | workload
  deriving DecidableEq

def ApplyOrder.rank : ApplyOrder → Nat
  | .persistentVolume => 0
  | .persistentVolumeClaim => 1
  | .secret => 2
  | .service => 3
  | .workload => 4

structure RenderedManifestObject where
  applyOrder : ApplyOrder
  object : KubernetesObject

structure RenderedManifest where
  instanceGeneration : Nat
  templateGeneration : Option Nat
  objects : List RenderedManifestObject

def orderedObjects (manifest : RenderedManifest) : List RenderedManifestObject :=
  manifest.objects.mergeSort fun former latter =>
    decide (former.applyOrder.rank ≤ latter.applyOrder.rank)

def isWorkloadRef (object : RenderedObjectRef) : Bool :=
  object.kind == "Deployment" || object.kind == "StatefulSet"

def deleteOrder (objects : List RenderedObjectRef) : List RenderedObjectRef :=
  (objects.reverse.filter fun object => !isWorkloadRef object) ++
    objects.reverse.filter isWorkloadRef

/-! ### Validation -/

structure KubernetesClientError where
  message : String
  retryable : Bool
  outcomeUncertain : Bool

def KubernetesClientError.new (message : String) : KubernetesClientError :=
  { message := message, retryable := false, outcomeUncertain := false }

def KubernetesClientError.transient (message : String) : KubernetesClientError :=
  { message := message, retryable := true, outcomeUncertain := false }

inductive ManifestProblem where
  | generation (object : RenderedObjectRef) (context key expected : String) (actual : Option String)
  | duplicateRef (object : RenderedObjectRef)
  | invalidName (object : RenderedObjectRef)
  | namespacedVolume (object : RenderedObjectRef)
  | invalidNamespace (object : RenderedObjectRef)
  | unsupportedKind (kind : String)

inductive MaterializerError where
  | invalidManifest (problem : ManifestProblem)
  | apply (object : RenderedObjectRef) (appliedObjects : List RenderedObjectRef)
      (source : KubernetesClientError)
  | delete (object : RenderedObjectRef) (source : KubernetesClientError)
  | pvcBoundWait (namespaceName name : String) (appliedObjects : List RenderedObjectRef)
      (source : KubernetesClientError)
  /-- An expected stamp was missing, which panics. -/
  | panicked

def MaterializerError.withAppliedObjects (applied : List RenderedObjectRef) :
    MaterializerError → MaterializerError
  | .apply object _ source => .apply object applied source
  | .pvcBoundWait namespaceName name _ source => .pvcBoundWait namespaceName name applied source
  | other => other

def labelInstanceGeneration : String := "sleepypods.io/instance-generation"

def annotationTemplateGeneration : String := "sleepypods.io/template-generation"

def validateGenerationValue (object : KubernetesObject) (context key : String)
    (actual : Option String) (expected : String) : Except MaterializerError Unit :=
  require (actual = some expected)
    (.invalidManifest (.generation (renderedObjectRef object) context key expected actual))

def validateMetadataGeneration (object : KubernetesObject)
    (labels annotations : Table String String) (expectedInstanceGeneration : String)
    (expectedTemplateGeneration : Option String) (context : String) :
    Except MaterializerError Unit := do
  validateGenerationValue object context labelInstanceGeneration
    (labels.find? labelInstanceGeneration) expectedInstanceGeneration
  expectedTemplateGeneration.forM fun expected =>
    validateGenerationValue object context annotationTemplateGeneration
      (annotations.find? annotationTemplateGeneration) expected

def validateManifestGenerations (manifest : RenderedManifest) : Except MaterializerError Unit :=
  manifest.objects.forM fun rendered => do
    let expected := toString manifest.instanceGeneration
    let template := manifest.templateGeneration.map toString
    validateMetadataGeneration rendered.object rendered.object.metadata.labels
      rendered.object.metadata.annotations expected template "metadata"
    rendered.object.podTemplateMetadata.forM fun metadata =>
      validateMetadataGeneration rendered.object metadata.labels metadata.annotations expected
        template "pod template metadata"

def namespacedKinds : List String :=
  ["Deployment", "StatefulSet", "Service", "Secret", "PersistentVolumeClaim"]

def validateRenderedObjectRef (object : RenderedObjectRef) : Except MaterializerError Unit := do
  require (isDnsLabel object.name = true) (.invalidManifest (.invalidName object))
  if object.kind = "PersistentVolume" then
    require (object.namespaceName = "") (.invalidManifest (.namespacedVolume object))
  else if object.kind ∈ namespacedKinds then
    require (isDnsLabel object.namespaceName = true) (.invalidManifest (.invalidNamespace object))
  else
    .error (.invalidManifest (.unsupportedKind object.kind))

/-- Check references one after the other, and that none of them was seen before. -/
def validateRenderedObjectRefs (seen : List RenderedObjectRef) :
    List RenderedObjectRef → Except MaterializerError Unit
  | [] => .ok ()
  | object :: rest => do
      validateRenderedObjectRef object
      require (object ∉ seen) (.invalidManifest (.duplicateRef object))
      validateRenderedObjectRefs (object :: seen) rest

def renderedObjectRefs (manifest : RenderedManifest) :
    Except MaterializerError (List RenderedObjectRef) := do
  validateManifestGenerations manifest
  let rendered := (orderedObjects manifest).map fun rendered => renderedObjectRef rendered.object
  validateRenderedObjectRefs [] rendered
  return rendered

theorem renderedObjectRefs_eq_ok {manifest : RenderedManifest} {refs : List RenderedObjectRef}
    (rendered : renderedObjectRefs manifest = .ok refs) :
    refs = (orderedObjects manifest).map fun rendered => renderedObjectRef rendered.object := by
  simp only [renderedObjectRefs, bind_eq_ok, pure_eq_ok] at rendered
  obtain ⟨_, -, _, -, rfl⟩ := rendered
  rfl

theorem mem_orderedObjects {manifest : RenderedManifest} {rendered : RenderedManifestObject} :
    rendered ∈ orderedObjects manifest ↔ rendered ∈ manifest.objects :=
  List.mem_mergeSort

end Sleepypods.Projection
