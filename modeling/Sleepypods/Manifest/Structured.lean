import Sleepypods.Idle.SleepPolicy
import Sleepypods.Manifest.Bind
import Sleepypods.Manifest.Objects

/-! The parts of a manifest that are rendered from the structured fields of its template: names,
labels, volumes, containers and service ports, each with its checks in the order they run. -/

set_option autoImplicit false

namespace Sleepypods.Manifest

open Library Library.Fallible
open Projection (labelInstanceGeneration annotationTemplateGeneration)

/-- The code that rendering calls into: the YAML parser, the parser of socket addresses, the
digest behind generated names and the quoted form of a text. -/
structure Externals where
  parseYaml : String → Except String Document
  socketAddrPort : String → Option Nat
  sha256 : String → Vector UInt8 32
  debugText : String → String

structure InstanceRecord where
  id : InstanceId
  workloadClass : WorkloadClassVersionRef
  values : InstanceValues
  generation : Nat

structure RenderManifestRequest where
  template : ManifestTemplate
  instanceRecord : InstanceRecord
  sleepPolicy : Idle.ResolvedSleepPolicy
  namespaceName : String
  templateGeneration : Option Nat

structure RenderManifestOptions where
  sidecarControlPlaneToken : Option String
  sidecarControlPlaneEndpoint : Option String
  sidecarControlPlaneCa : Option String

def labelInstanceId : String := "sleepypods.io/instance-id"
def labelWorkloadClassId : String := "sleepypods.io/workload-class-id"
def labelWorkloadClassVersion : String := "sleepypods.io/workload-class-version"
def labelWorkloadName : String := "sleepypods.io/workload-name"

section names

variable (externals : Externals)

def hexByte (byte : UInt8) : List Char :=
  [Nat.digitChar (byte.toNat / 16), Nat.digitChar (byte.toNat % 16)]

def instanceIdSuffix (id : InstanceId) : List Char :=
  ((externals.sha256 id.value).toList.take 4).flatMap hexByte

def truncateToByteLen : Nat → List Char → List Char
  | _, [] => []
  | budget, c :: rest =>
    if c.utf8Size ≤ budget then c :: truncateToByteLen (budget - c.utf8Size) rest else []

def renderInstanceScopedName (base : String) (id : InstanceId) : String :=
  String.ofList (truncateToByteLen (63 - 1 - 8) base.toList ++ '-' :: instanceIdSuffix externals id)

def validateDnsLabel (field value : String) : RenderResult Unit :=
  require (isDnsLabel value = true) (.invalidName field value)

def validatePort (field : String) (value : Nat) : RenderResult Unit :=
  require (value ≠ 0) (.invalidField field "port must be between 1 and 65535")

def renderNonEmpty (field : String) (template : TemplateText) (record : InstanceRecord) :
    RenderResult String := do
  let value ← template.render record.values
  require (isBlank value = false) (.invalidField field "rendered value must not be empty")
  return value

def renderObjectName (field : String) (template : TemplateText) (record : InstanceRecord) :
    RenderResult String := do
  let base ← renderNonEmpty field template record
  let value := renderInstanceScopedName externals base record.id
  validateDnsLabel field value
  return value

end names

def isLabelValue (value : String) : Bool :=
  decide (value.utf8ByteSize ≤ 63) && (value.toList.isEmpty ||
    (value.toList.all (fun c => isAlphanumericChar c || c == '-' || c == '_' || c == '.') &&
      value.toList.head?.any isAlphanumericChar && value.toList.getLast?.any isAlphanumericChar))

def label (externals : Externals) (field value : String) : RenderResult (String × String) := do
  require (isLabelValue value = true) (.invalidField field
    ("label value " ++ externals.debugText value ++ " is not Kubernetes label-value-safe"))
  return (field, value)

def selectorLabels (externals : Externals) (record : InstanceRecord) (workloadName : String) :
    RenderResult StringMap := do
  let labels ← [(labelInstanceId, record.id.value), (labelWorkloadName, workloadName)].mapM
    fun entry => label externals entry.1 entry.2
  return .ofList labels

def metadataLabels (externals : Externals) (record : InstanceRecord) (workloadName : String) :
    RenderResult StringMap := do
  let labels ← [(labelInstanceId, record.id.value),
    (labelInstanceGeneration, toString record.generation),
    (labelWorkloadClassId, record.workloadClass.classId),
    (labelWorkloadClassVersion, toString record.workloadClass.version),
    (labelWorkloadName, workloadName)].mapM fun entry => label externals entry.1 entry.2
  return .ofList labels

def metadataAnnotations (templateGeneration : Option Nat) : StringMap :=
  .ofList (templateGeneration.map fun generation =>
    (annotationTemplateGeneration, toString generation)).toList

/-! ### Volumes -/

structure RenderedVolume where
  volumeName : String
  mountPath : String
  pvName : String
  pvcName : String
  accessModes : List PersistentVolumeAccessMode
  capacity : String
  reclaimPolicy : PersistentVolumeReclaimPolicy
  storageClassName : Option String
  source : PersistentVolumeSource

def opensWithSlash (text : String) : Bool := text.toList.head? == some '/'

/-- Whether `..` is one of the segments that slashes separate. -/
def hasParentSegment (text : String) : Bool :=
  (text.toList.splitOn '/').any fun segment => segment == ['.', '.']

/-- A hostPath names a directory on the node, so the class author fixes its root and an instance
may only choose a subdirectory beneath that root. -/
def validateHostPath (externals : Externals) (template : TemplateText) (rendered : String) :
    RenderResult Unit := do
  let field := "volume.source.host_path.path"
  let quoted := "hostPath path " ++ externals.debugText rendered
  require (opensWithSlash rendered = true) (.invalidField field (quoted ++ " must be absolute"))
  require (opensWithSlash template.literalPrefix = true) (.invalidField field
    (quoted ++ " must start with a literal absolute directory, " ++
      "so that an instance value chooses a subdirectory rather than the root"))
  require (hasParentSegment rendered = false) (.invalidField field
    (quoted ++ " must stay inside its directory, so no segment may be \"..\""))

def renderCsiSecretRef (reference : String) (template : Option CsiSecretRefTemplate)
    (record : InstanceRecord) : RenderResult (Option CsiSecretReference) :=
  template.mapM fun template => do
    let nameField := "volume.source.csi." ++ reference ++ ".name"
    let namespaceField := "volume.source.csi." ++ reference ++ ".namespace"
    let name ← renderNonEmpty nameField template.name record
    let namespaceName ← renderNonEmpty namespaceField template.namespaceName record
    validateDnsLabel nameField name
    validateDnsLabel namespaceField namespaceName
    return { name := name, namespaceName := namespaceName }

def renderCsiSource (source : CsiTemplate) (record : InstanceRecord) :
    RenderResult CsiPersistentVolumeSource := do
  let attributes ← source.volumeAttributes.mapM fun entry => do
    return (entry.1, ← renderNonEmpty "volume.source.csi.volume_attributes" entry.2 record)
  let driver ← renderNonEmpty "volume.source.csi.driver" source.driver record
  let volumeHandle ← renderNonEmpty "volume.source.csi.volume_handle" source.volumeHandle record
  let fsType ← source.fsType.mapM fun value =>
    renderNonEmpty "volume.source.csi.fs_type" value record
  let controllerPublish ← renderCsiSecretRef "controller_publish_secret_ref"
    source.controllerPublishSecretRef record
  let nodeStage ← renderCsiSecretRef "node_stage_secret_ref" source.nodeStageSecretRef record
  let nodePublish ← renderCsiSecretRef "node_publish_secret_ref" source.nodePublishSecretRef record
  let controllerExpand ← renderCsiSecretRef "controller_expand_secret_ref"
    source.controllerExpandSecretRef record
  let nodeExpand ← renderCsiSecretRef "node_expand_secret_ref" source.nodeExpandSecretRef record
  return {
    driver := driver
    volumeHandle := volumeHandle
    fsType := fsType
    readOnly := source.readOnly
    volumeAttributes := .ofList attributes
    controllerPublishSecretRef := controllerPublish
    nodeStageSecretRef := nodeStage
    nodePublishSecretRef := nodePublish
    controllerExpandSecretRef := controllerExpand
    nodeExpandSecretRef := nodeExpand }

def renderVolumeSource (externals : Externals) (record : InstanceRecord) :
    PersistentVolumeSourceTemplate → RenderResult PersistentVolumeSource
  | .csi source => do return .csi (← renderCsiSource source record)
  | .hostPath path type => do
      let rendered ← renderNonEmpty "volume.source.host_path.path" path record
      validateHostPath externals path rendered
      let type ← type.mapM fun value => renderNonEmpty "volume.source.host_path.type" value record
      return .hostPath { path := rendered, type := type }

def renderVolume (externals : Externals) (template : VolumeTemplate) (record : InstanceRecord)
    (namespaceName : String) : RenderResult RenderedVolume := do
  validateDnsLabel "volume.name" template.name
  require (template.accessModes ≠ [])
    (.invalidField "volume.access_modes" "at least one access mode is required")
  require template.accessModes.Nodup
    (.invalidField "volume.access_modes" "access modes must not contain duplicates")
  let mountPath ← renderNonEmpty "volume.mount_path" template.mountPath record
  require (opensWithSlash mountPath = true) (.invalidField "volume.mount_path"
    ("mount path " ++ externals.debugText mountPath ++ " must be absolute"))
  let pvName ← renderObjectName externals "volume.pv_name" template.pvName record
  let pvcName ← renderObjectName externals "volume.pvc_name" template.pvcName record
  let capacity ← renderNonEmpty "volume.capacity" template.capacity record
  let storageClassName ← template.storageClassName.mapM fun value =>
    renderNonEmpty "volume.storage_class_name" value record
  let source ← renderVolumeSource externals record template.source
  validateDnsLabel "namespace" namespaceName
  return {
    volumeName := template.name
    mountPath := mountPath
    pvName := pvName
    pvcName := pvcName
    accessModes := template.accessModes
    capacity := capacity
    reclaimPolicy := template.reclaimPolicy
    storageClassName := storageClassName
    source := source }

/-! ### Containers -/

structure SidecarRenderConfig where
  listenPort : Nat
  proxyPortName : Option String
  appPort : Nat
  readinessPort : Nat
  mode : Option String

def metricsVariables : List String :=
  ["SLEEPYPODS_SIDECAR_METRICS_LISTEN_ADDR", "SLEEPYPODS_FRONTLINE_METRICS_LISTEN_ADDR",
   "SLEEPYPODS_CONTROL_PLANE_METRICS_LISTEN_ADDR"]

def occupiedPort (externals : Externals) (record : InstanceRecord) (env : EnvVarTemplate) :
    RenderResult (Option Nat) := do
  if env.name ∈ metricsVariables then
    let value ← env.value.render record.values
    if value = "" then return none
    else
      let port ← orError (externals.socketAddrPort value)
        (.invalidField "container.env.metrics_listen_addr" (env.name ++ " must be a socket address"))
      return some port
  else return none

def candidatePorts : List Nat := List.range' 15001 (65536 - 15001) ++ List.range' 1024 (15001 - 1024)

def readinessPort (externals : Externals) (template : ManifestTemplate) (record : InstanceRecord) :
    RenderResult Nat := do
  let metrics ← template.workload.appContainer.env.mapM (occupiedPort externals record)
  let occupied := template.workload.appContainer.ports.map ContainerPortTemplate.containerPort ++
    [template.sidecar.listenPort] ++ metrics.filterMap id
  orError (candidatePorts.find? fun port => !occupied.contains port)
    (.invalidField "sidecar.readiness_port"
      "no unused unprivileged port remains for sidecar readiness")

def renderSidecarConfig (externals : Externals) (template : ManifestTemplate)
    (record : InstanceRecord) : RenderResult SidecarRenderConfig := do
  validatePort "sidecar.listen_port" template.sidecar.listenPort
  let service ← orError template.service
    (.invalidField "service" "sidecar-routed workloads require a service template")
  let port ← orError (if service.ports.length = 1 then service.ports.head? else none)
    (.invalidField "service.ports"
      "exactly one service port is supported for sidecar-routed workloads")
  let appPort := port.targetPort
  validatePort "service.ports.target_port" appPort
  require (appPort ≠ template.sidecar.listenPort) (.invalidField "service.ports.target_port"
    "original app target port must differ from the sidecar listen port")
  let appPorts := template.workload.appContainer.ports
  require (¬((∀ port ∈ appPorts, port.containerPort ≠ 0) ∧
      ∀ port ∈ appPorts, port.containerPort ≠ appPort))
    (.invalidField "service.ports.target_port"
      ("target port " ++ toString appPort ++ " must match an app container port"))
  let _ ← renderNonEmpty "sidecar.image" template.sidecar.image record
  validateDnsLabel "sidecar.name" template.sidecar.name
  require (template.sidecar.mode.all (fun mode => mode == "http" || mode == "tcp") = true)
    (.invalidField "sidecar.mode" "sidecar mode must be either http or tcp")
  let readiness ← readinessPort externals template record
  return {
    listenPort := template.sidecar.listenPort
    proxyPortName :=
      if appPorts.any fun port => port.name == some "sleepypods" then none else some "sleepypods"
    appPort := appPort
    readinessPort := readiness
    mode := template.sidecar.mode }

def renderAppContainer (template : ContainerTemplate) (record : InstanceRecord)
    (volumes : List RenderedVolume) : RenderResult Container := do
  validateDnsLabel "container.name" template.name
  let image ← renderNonEmpty "container.image" template.image record
  let ports ← template.ports.mapM fun port => do
    validatePort "container.ports.container_port" port.containerPort
    return { name := port.name, containerPort := port.containerPort : ContainerPort }
  let env ← template.env.mapM fun env => do
    return { name := env.name, value := ← env.value.render record.values, valueFrom := none : EnvVar }
  return {
    name := template.name
    image := image
    ports := ports
    env := env
    volumeMounts := volumes.map fun volume => ⟨volume.volumeName, volume.mountPath⟩
    readinessProbe := none }

def controlPlaneEndpoint (namespaceName : String) : String :=
  "http://sleepypods-control-plane." ++ namespaceName ++ ".svc.cluster.local:50051"

def plainEnv (name value : String) : EnvVar := { name := name, value := value, valueFrom := none }

def sidecarEnv (record : InstanceRecord) (config : SidecarRenderConfig) (namespaceName : String)
    (sleepPolicy : Idle.ResolvedSleepPolicy) (tokenSecretName : Option String)
    (options : RenderManifestOptions) : List EnvVar :=
  [{ name := "SLEEPYPODS_POD_UID", value := "", valueFrom := some (.fieldRef "metadata.uid") },
   plainEnv "SLEEPYPODS_LISTEN_PORT" (toString config.listenPort),
   plainEnv "SLEEPYPODS_SIDECAR_LISTEN_ADDR" ("0.0.0.0:" ++ toString config.listenPort),
   plainEnv "SLEEPYPODS_SIDECAR_READINESS_LISTEN_ADDR" ("0.0.0.0:" ++ toString config.readinessPort),
   plainEnv "SLEEPYPODS_APP_PORT" (toString config.appPort),
   plainEnv "SLEEPYPODS_INSTANCE_ID" record.id.value,
   plainEnv "SLEEPYPODS_INSTANCE_GENERATION" (toString record.generation),
   plainEnv "SLEEPYPODS_CONTROL_PLANE_ENDPOINT"
     (options.sidecarControlPlaneEndpoint.getD (controlPlaneEndpoint namespaceName)),
   plainEnv "SLEEPYPODS_IDLE_TIMEOUT_MS" (toString sleepPolicy.idleTimeoutMs),
   plainEnv "SLEEPYPODS_IDLE_RETRY_BACKOFF_MS" (toString sleepPolicy.idleRetryBackoffMs),
   plainEnv "SLEEPYPODS_DRAIN_GRACE_TIMEOUT_MS" (toString sleepPolicy.drainGraceTimeoutMs)] ++
  (options.sidecarControlPlaneCa.map (plainEnv "SLEEPYPODS_CONTROL_PLANE_TLS_CA_PEM")).toList ++
  (config.mode.map (plainEnv "SLEEPYPODS_SIDECAR_MODE")).toList ++
  (tokenSecretName.map fun name =>
    { name := "SLEEPYPODS_CONTROL_PLANE_SIDECAR_TOKEN", value := ""
      valueFrom := some (.secretKeyRef { name := name, key := "token" }) : EnvVar }).toList

def renderSidecarContainer (template : SidecarTemplate) (record : InstanceRecord)
    (config : SidecarRenderConfig) (namespaceName : String)
    (sleepPolicy : Idle.ResolvedSleepPolicy) (tokenSecretName : Option String)
    (options : RenderManifestOptions) : RenderResult Container := do
  let image ← renderNonEmpty "sidecar.image" template.image record
  return {
    name := template.name
    image := image
    ports := [⟨config.proxyPortName, config.listenPort⟩, ⟨none, config.readinessPort⟩]
    env := sidecarEnv record config namespaceName sleepPolicy tokenSecretName options
    volumeMounts := []
    readinessProbe := some {
      path := "/ready"
      port := config.readinessPort
      periodSeconds := 1
      timeoutSeconds := 1
      failureThreshold := 1 } }

/-- Traffic of every service port goes through the sidecar. -/
def renderServicePorts (template : ServiceTemplate) (sidecarListenPort : Nat) :
    RenderResult (List ServicePort) :=
  template.ports.mapM fun port => do
    validatePort "service.ports.port" port.port
    validatePort "service.ports.target_port" port.targetPort
    return { name := port.name, port := port.port, targetPort := sidecarListenPort }

end Sleepypods.Manifest
