import Sleepypods.Library.Json
import Sleepypods.Manifest.Template
import Sleepypods.Projection.Objects

/-! The objects of a rendered manifest and the JSON they are applied as. -/

set_option autoImplicit false

namespace Sleepypods.Manifest

open Library
open Projection (ApplyOrder)

abbrev StringMap := OrderedMap String String

structure ObjectMeta where
  name : String
  namespaceName : Option String
  labels : StringMap
  annotations : StringMap

structure PodTemplateMetadata where
  labels : StringMap
  annotations : StringMap

structure LabelSelector where
  matchLabels : StringMap

structure HttpReadinessProbe where
  path : String
  port : Nat
  periodSeconds : Nat
  timeoutSeconds : Nat
  failureThreshold : Nat

structure ContainerPort where
  name : Option String
  containerPort : Nat

structure SecretKeyRef where
  name : String
  key : String

inductive EnvVarSource where
  | secretKeyRef (source : SecretKeyRef)
  | fieldRef (fieldPath : String)

structure EnvVar where
  name : String
  value : String
  valueFrom : Option EnvVarSource

structure VolumeMount where
  name : String
  mountPath : String

structure Container where
  name : String
  image : String
  ports : List ContainerPort
  env : List EnvVar
  volumeMounts : List VolumeMount
  readinessProbe : Option HttpReadinessProbe

structure PodVolume where
  name : String
  claimName : String

structure PodSpec where
  containers : List Container
  volumes : List PodVolume

structure PodTemplateSpec where
  metadata : PodTemplateMetadata
  spec : PodSpec

/-! ### Objects -/

structure Deployment where
  metadata : ObjectMeta
  replicas : Nat
  selector : LabelSelector
  template : PodTemplateSpec

structure StatefulSet where
  metadata : ObjectMeta
  replicas : Nat
  serviceName : String
  selector : LabelSelector
  template : PodTemplateSpec

structure ServicePort where
  name : Option String
  port : Nat
  targetPort : Nat

structure Service where
  metadata : ObjectMeta
  selector : StringMap
  ports : List ServicePort

structure Secret where
  metadata : ObjectMeta
  type : String
  stringData : StringMap

structure CsiSecretReference where
  name : String
  namespaceName : String

structure CsiPersistentVolumeSource where
  driver : String
  volumeHandle : String
  fsType : Option String
  readOnly : Bool
  volumeAttributes : StringMap
  controllerPublishSecretRef : Option CsiSecretReference
  nodeStageSecretRef : Option CsiSecretReference
  nodePublishSecretRef : Option CsiSecretReference
  controllerExpandSecretRef : Option CsiSecretReference
  nodeExpandSecretRef : Option CsiSecretReference

structure HostPathPersistentVolumeSource where
  path : String
  type : Option String

inductive PersistentVolumeSource where
  | csi (source : CsiPersistentVolumeSource)
  | hostPath (source : HostPathPersistentVolumeSource)

structure PersistentVolumeClaimRef where
  namespaceName : String
  name : String

structure PersistentVolume where
  metadata : ObjectMeta
  capacity : String
  accessModes : List PersistentVolumeAccessMode
  reclaimPolicy : PersistentVolumeReclaimPolicy
  storageClassName : Option String
  claimRef : PersistentVolumeClaimRef
  source : PersistentVolumeSource

structure PersistentVolumeClaim where
  metadata : ObjectMeta
  accessModes : List PersistentVolumeAccessMode
  requestsStorage : String
  storageClassName : Option String
  volumeName : String

structure RawKubernetesObject where
  apiVersion : String
  kind : String
  metadata : ObjectMeta
  podTemplateMetadata : Option PodTemplateMetadata
  value : Value

inductive KubernetesObject where
  | deployment (object : Deployment)
  | statefulSet (object : StatefulSet)
  | service (object : Service)
  | secret (object : Secret)
  | persistentVolume (object : PersistentVolume)
  | persistentVolumeClaim (object : PersistentVolumeClaim)
  | raw (object : RawKubernetesObject)

structure RenderedManifestObject where
  applyOrder : ApplyOrder
  object : KubernetesObject

structure RenderedManifest where
  instanceGeneration : Nat
  templateGeneration : Option Nat
  objects : List RenderedManifestObject

namespace KubernetesObject

def apiVersion : KubernetesObject → String
  | .deployment _ | .statefulSet _ => "apps/v1"
  | .service _ | .secret _ | .persistentVolume _ | .persistentVolumeClaim _ => "v1"
  | .raw object => object.apiVersion

def kind : KubernetesObject → String
  | .deployment _ => "Deployment"
  | .statefulSet _ => "StatefulSet"
  | .service _ => "Service"
  | .secret _ => "Secret"
  | .persistentVolume _ => "PersistentVolume"
  | .persistentVolumeClaim _ => "PersistentVolumeClaim"
  | .raw object => object.kind

def metadata : KubernetesObject → ObjectMeta
  | .deployment object => object.metadata
  | .statefulSet object => object.metadata
  | .service object => object.metadata
  | .secret object => object.metadata
  | .persistentVolume object => object.metadata
  | .persistentVolumeClaim object => object.metadata
  | .raw object => object.metadata

def podTemplateMetadata : KubernetesObject → Option PodTemplateMetadata
  | .deployment object => some object.template.metadata
  | .statefulSet object => some object.template.metadata
  | .service _ | .secret _ | .persistentVolume _ | .persistentVolumeClaim _ => none
  | .raw object => object.podTemplateMetadata

end KubernetesObject

/-! ### JSON -/

def json (members : List (String × Value)) : Value := .object (Entries.collect members [])

def jsonMap (map : StringMap) : Value := .ofStrings map.entries

def jsonNumber (value : Nat) : Value := .number (toString value)

def optionalMember (key : String) (value : Option Value) : List (String × Value) :=
  (value.map fun value => (key, value)).toList

def optionalString (key : String) (value : Option String) : List (String × Value) :=
  optionalMember key (value.map .string)

def metadataToValue (metadata : ObjectMeta) : Value :=
  json ([("name", .string metadata.name)] ++ optionalString "namespace" metadata.namespaceName ++
    [("labels", jsonMap metadata.labels), ("annotations", jsonMap metadata.annotations)])

def objectToValue (apiVersion kind : String) (metadata : ObjectMeta) (spec : Value) : Value :=
  json [("apiVersion", .string apiVersion), ("kind", .string kind),
    ("metadata", metadataToValue metadata), ("spec", spec)]

def labelSelectorToValue (selector : LabelSelector) : Value :=
  json [("matchLabels", jsonMap selector.matchLabels)]

def containerPortToValue (port : ContainerPort) : Value :=
  json (optionalString "name" port.name ++ [("containerPort", jsonNumber port.containerPort)])

def envVarToValue (env : EnvVar) : Value :=
  json [("name", .string env.name),
    match env.valueFrom with
    | some (.secretKeyRef secret) => ("valueFrom", json [("secretKeyRef",
        json [("name", .string secret.name), ("key", .string secret.key)])])
    | some (.fieldRef fieldPath) => ("valueFrom", json [("fieldRef",
        json [("apiVersion", .string "v1"), ("fieldPath", .string fieldPath)])])
    | none => ("value", .string env.value)]

def volumeMountToValue (mount : VolumeMount) : Value :=
  json [("name", .string mount.name), ("mountPath", .string mount.mountPath)]

def readinessProbeToValue (probe : HttpReadinessProbe) : Value :=
  json [("httpGet", json [("path", .string probe.path), ("port", jsonNumber probe.port)]),
    ("periodSeconds", jsonNumber probe.periodSeconds),
    ("timeoutSeconds", jsonNumber probe.timeoutSeconds),
    ("failureThreshold", jsonNumber probe.failureThreshold)]

def containerToValue (container : Container) : Value :=
  json ([("name", .string container.name), ("image", .string container.image),
    ("ports", .array (container.ports.map containerPortToValue)),
    ("env", .array (container.env.map envVarToValue)),
    ("volumeMounts", .array (container.volumeMounts.map volumeMountToValue)),
    ("securityContext", json [("allowPrivilegeEscalation", .bool false)])] ++
    optionalMember "readinessProbe" (container.readinessProbe.map readinessProbeToValue))

def podVolumeToValue (volume : PodVolume) : Value :=
  json [("name", .string volume.name),
    ("persistentVolumeClaim", json [("claimName", .string volume.claimName)])]

def podTemplateMetadataToValue (metadata : PodTemplateMetadata) : Value :=
  json [("labels", jsonMap metadata.labels), ("annotations", jsonMap metadata.annotations)]

def podTemplateToValue (template : PodTemplateSpec) : Value :=
  json [("metadata", podTemplateMetadataToValue template.metadata),
    ("spec", json [("containers", .array (template.spec.containers.map containerToValue)),
      ("volumes", .array (template.spec.volumes.map podVolumeToValue)),
      ("automountServiceAccountToken", .bool false),
      ("securityContext", json [("seccompProfile", json [("type", .string "RuntimeDefault")])])])]

def deploymentToValue (object : Deployment) : Value :=
  objectToValue "apps/v1" "Deployment" object.metadata
    (json [("replicas", jsonNumber object.replicas),
      ("strategy", json [("type", .string "Recreate")]),
      ("selector", labelSelectorToValue object.selector),
      ("template", podTemplateToValue object.template)])

def statefulSetToValue (object : StatefulSet) : Value :=
  objectToValue "apps/v1" "StatefulSet" object.metadata
    (json [("replicas", jsonNumber object.replicas),
      ("serviceName", .string object.serviceName),
      ("selector", labelSelectorToValue object.selector),
      ("template", podTemplateToValue object.template)])

def servicePortToValue (port : ServicePort) : Value :=
  json (optionalString "name" port.name ++
    [("port", jsonNumber port.port), ("targetPort", jsonNumber port.targetPort)])

def serviceToValue (object : Service) : Value :=
  objectToValue "v1" "Service" object.metadata
    (json [("selector", jsonMap object.selector),
      ("ports", .array (object.ports.map servicePortToValue))])

/-- A Secret has no `spec`. -/
def secretToValue (object : Secret) : Value :=
  json [("apiVersion", .string "v1"), ("kind", .string "Secret"),
    ("metadata", metadataToValue object.metadata), ("type", .string object.type),
    ("stringData", jsonMap object.stringData)]

def accessModeText : PersistentVolumeAccessMode → String
  | .readWriteOnce => "ReadWriteOnce"
  | .readOnlyMany => "ReadOnlyMany"
  | .readWriteMany => "ReadWriteMany"

def accessModesToValue (modes : List PersistentVolumeAccessMode) : Value :=
  .array (modes.map fun mode => .string (accessModeText mode))

def reclaimPolicyText : PersistentVolumeReclaimPolicy → String
  | .retain => "Retain"
  | .delete => "Delete"

def optionalSecretRef (key : String) (reference : Option CsiSecretReference) :
    List (String × Value) :=
  optionalMember key (reference.map fun reference =>
    json [("name", .string reference.name), ("namespace", .string reference.namespaceName)])

def csiSourceToValue (source : CsiPersistentVolumeSource) : Value :=
  json ([("driver", .string source.driver), ("volumeHandle", .string source.volumeHandle)] ++
    optionalString "fsType" source.fsType ++
    [("readOnly", .bool source.readOnly), ("volumeAttributes", jsonMap source.volumeAttributes)] ++
    optionalSecretRef "controllerPublishSecretRef" source.controllerPublishSecretRef ++
    optionalSecretRef "nodeStageSecretRef" source.nodeStageSecretRef ++
    optionalSecretRef "nodePublishSecretRef" source.nodePublishSecretRef ++
    optionalSecretRef "controllerExpandSecretRef" source.controllerExpandSecretRef ++
    optionalSecretRef "nodeExpandSecretRef" source.nodeExpandSecretRef)

def hostPathSourceToValue (source : HostPathPersistentVolumeSource) : Value :=
  json ([("path", .string source.path)] ++ optionalString "type" source.type)

def persistentVolumeToValue (object : PersistentVolume) : Value :=
  objectToValue "v1" "PersistentVolume" object.metadata
    (json ([("capacity", json [("storage", .string object.capacity)]),
      ("accessModes", accessModesToValue object.accessModes),
      ("persistentVolumeReclaimPolicy", .string (reclaimPolicyText object.reclaimPolicy))] ++
      optionalString "storageClassName" object.storageClassName ++
      [("claimRef", json [("namespace", .string object.claimRef.namespaceName),
        ("name", .string object.claimRef.name)]),
       match object.source with
       | .csi source => ("csi", csiSourceToValue source)
       | .hostPath source => ("hostPath", hostPathSourceToValue source)]))

def persistentVolumeClaimToValue (object : PersistentVolumeClaim) : Value :=
  objectToValue "v1" "PersistentVolumeClaim" object.metadata
    (json ([("accessModes", accessModesToValue object.accessModes),
      ("resources", json [("requests", json [("storage", .string object.requestsStorage)])])] ++
      optionalString "storageClassName" object.storageClassName ++
      [("volumeName", .string object.volumeName)]))

def ensureObject (value : Value) : List (String × Value) := value.asObject.getD []

def patchRawMetadata (metadata : ObjectMeta) (value : Value) : Value :=
  let named := Entries.insert "name" (.string metadata.name) (ensureObject value)
  let placed :=
    match metadata.namespaceName with
    | some namespaceName => Entries.insert "namespace" (.string namespaceName) named
    | none => Entries.erase "namespace" named
  .object (Entries.insert "annotations" (jsonMap metadata.annotations)
    (Entries.insert "labels" (jsonMap metadata.labels) placed))

def patchRawPodTemplateMetadata (metadata : PodTemplateMetadata) (value : Value) : Value :=
  .object (Entries.insert "annotations" (jsonMap metadata.annotations)
    (Entries.insert "labels" (jsonMap metadata.labels) (ensureObject value)))

def rawObjectToValue (object : RawKubernetesObject) : Value :=
  let patched := Value.update "metadata" (patchRawMetadata object.metadata)
    ((object.value.set "apiVersion" (.string object.apiVersion)).set "kind" (.string object.kind))
  match object.podTemplateMetadata with
  | none => patched
  | some metadata =>
    Value.update "spec" (Value.update "template"
      (Value.update "metadata" (patchRawPodTemplateMetadata metadata))) patched

def KubernetesObject.toKubernetesJson : KubernetesObject → Value
  | .deployment object => deploymentToValue object
  | .statefulSet object => statefulSetToValue object
  | .service object => serviceToValue object
  | .secret object => secretToValue object
  | .persistentVolume object => persistentVolumeToValue object
  | .persistentVolumeClaim object => persistentVolumeClaimToValue object
  | .raw object => rawObjectToValue object

end Sleepypods.Manifest
