import Sleepypods.Api.Ids
import Sleepypods.Library.Fallible
import Sleepypods.Library.OrderedMap

/-! Manifest templates of workload classes. A template text mixes what the class author wrote
with values that an instance supplies. Ports are the numbers of a `u16`. -/

set_option autoImplicit false

namespace Sleepypods.Manifest

open Library Library.Fallible

inductive WorkloadKind where
  | deployment
  | statefulSet
  deriving DecidableEq

inductive ManifestRenderError where
  | missingInstanceValue (field : String)
  | invalidName (field value : String)
  | invalidField (field message : String)
  | invalidReplicas (kind : WorkloadKind) (replicas : Nat) (message : String)

abbrev RenderResult (α : Type) := Except ManifestRenderError α

inductive TemplateTextPart where
  | literal (text : String)
  | instanceValue (field : String)

structure TemplateText where
  parts : List TemplateTextPart

abbrev InstanceValues := List (String × String)

def requiredValue (values : InstanceValues) (field : String) : RenderResult String :=
  orError (Entries.get? field values) (.missingInstanceValue field)

def TemplateTextPart.render (values : InstanceValues) : TemplateTextPart → RenderResult String
  | .literal text => .ok text
  | .instanceValue field => requiredValue values field

def TemplateText.render (template : TemplateText) (values : InstanceValues) : RenderResult String := do
  let parts ← template.parts.mapM (TemplateTextPart.render values)
  return String.join parts

/-- The text that the author fixed at the front, the same for every instance. -/
def TemplateText.literalPrefix (template : TemplateText) : String :=
  match template.parts.head? with
  | some (.literal text) => text
  | _ => ""

/-! ### Templates -/

structure ContainerPortTemplate where
  name : Option String
  containerPort : Nat

structure EnvVarTemplate where
  name : String
  value : TemplateText

structure ContainerTemplate where
  name : String
  image : TemplateText
  ports : List ContainerPortTemplate
  env : List EnvVarTemplate

structure WorkloadTemplate where
  kind : WorkloadKind
  name : TemplateText
  replicas : Option Nat
  appContainer : ContainerTemplate

structure SidecarTemplate where
  name : String
  image : TemplateText
  listenPort : Nat
  mode : Option String

structure ServicePortTemplate where
  name : Option String
  port : Nat
  targetPort : Nat

structure ServiceTemplate where
  name : TemplateText
  ports : List ServicePortTemplate

inductive PersistentVolumeAccessMode where
  | readWriteOnce
  | readOnlyMany
  | readWriteMany
  deriving DecidableEq

inductive PersistentVolumeReclaimPolicy where
  | retain
  | delete
  deriving DecidableEq

structure CsiSecretRefTemplate where
  name : TemplateText
  namespaceName : TemplateText

structure CsiTemplate where
  driver : TemplateText
  volumeHandle : TemplateText
  fsType : Option TemplateText
  readOnly : Bool
  volumeAttributes : List (String × TemplateText)
  controllerPublishSecretRef : Option CsiSecretRefTemplate
  nodeStageSecretRef : Option CsiSecretRefTemplate
  nodePublishSecretRef : Option CsiSecretRefTemplate
  controllerExpandSecretRef : Option CsiSecretRefTemplate
  nodeExpandSecretRef : Option CsiSecretRefTemplate

inductive PersistentVolumeSourceTemplate where
  | csi (source : CsiTemplate)
  | hostPath (path : TemplateText) (type : Option TemplateText)

structure VolumeTemplate where
  name : String
  mountPath : TemplateText
  pvName : TemplateText
  pvcName : TemplateText
  accessModes : List PersistentVolumeAccessMode
  capacity : TemplateText
  reclaimPolicy : PersistentVolumeReclaimPolicy
  storageClassName : Option TemplateText
  source : PersistentVolumeSourceTemplate

structure RawKubernetesManifestTemplate where
  manifest : TemplateText

structure ManifestTemplate where
  workload : WorkloadTemplate
  sidecar : SidecarTemplate
  service : Option ServiceTemplate
  volumes : List VolumeTemplate
  rawObjects : List RawKubernetesManifestTemplate

/-- Every sidecar observation must describe the whole supported workload. -/
def WorkloadTemplate.validateReplicas (workload : WorkloadTemplate) : RenderResult Unit :=
  require (workload.replicas.getD 1 = 1)
    (.invalidReplicas workload.kind (workload.replicas.getD 1)
      "automatic sleep requires exactly one replica")

end Sleepypods.Manifest
