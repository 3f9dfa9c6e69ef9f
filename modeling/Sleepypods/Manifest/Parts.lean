import Sleepypods.Manifest.Ownership

/-! The parts that a manifest is rendered from, and what the checks of rendering leave of each: its
name, its place, and the labels and annotations it carries. -/

set_option autoImplicit false

namespace Sleepypods.Manifest

open Library Library.Fallible OrderedMap
open Projection (labelInstanceGeneration annotationTemplateGeneration)

/-! ### Generated names -/

variable {externals : Externals}

section names

structure NameChar (c : Char) : Prop where
  label : isLabelChar c = true
  size : c.utf8Size = 1

theorem digitChar_name : ∀ digit < 16, isAlphanumericChar (Nat.digitChar digit) = true ∧
    isLabelChar (Nat.digitChar digit) = true ∧ (Nat.digitChar digit).utf8Size = 1 := by
  decide

theorem hexByte_name {byte : UInt8} {c : Char} (member : c ∈ hexByte byte) :
    isAlphanumericChar c = true ∧ NameChar c := by
  have bound : byte.toNat < 256 := byte.toNat_lt
  simp only [hexByte, List.mem_cons, List.not_mem_nil, or_false] at member
  cases member with
  | inl high =>
    obtain ⟨alphanumeric, label, size⟩ := digitChar_name (byte.toNat / 16) (by omega)
    exact high ▸ ⟨alphanumeric, label, size⟩
  | inr low =>
    obtain ⟨alphanumeric, label, size⟩ := digitChar_name (byte.toNat % 16) (by omega)
    exact low ▸ ⟨alphanumeric, label, size⟩

theorem instanceIdSuffix_name {id : InstanceId} {c : Char}
    (member : c ∈ instanceIdSuffix externals id) : isAlphanumericChar c = true ∧ NameChar c := by
  obtain ⟨byte, _, inByte⟩ := List.mem_flatMap.mp member
  exact hexByte_name inByte

theorem length_instanceIdSuffix (externals : Externals) (id : InstanceId) :
    (instanceIdSuffix externals id).length = 8 := by
  have twice (bytes : List UInt8) : (bytes.flatMap hexByte).length = 2 * bytes.length := by
    induction bytes with
    | nil => rfl
    | cons byte rest ih =>
      rw [List.flatMap_cons, List.length_append, ih, List.length_cons]
      have two : (hexByte byte).length = 2 := rfl
      omega
  rw [instanceIdSuffix, twice, List.length_take, Vector.length_toList]
  rfl

theorem utf8Len_eq_length {text : List Char} (each : ∀ c ∈ text, NameChar c) :
    String.utf8Len text = text.length := by
  induction text with
  | nil => rfl
  | cons _ _ ih =>
    obtain ⟨first, later⟩ := List.forall_mem_cons.mp each
    rw [String.utf8Len_cons, ih later, first.size, List.length_cons]

/-- A name put together from a label and the suffix of an instance is a label again. -/
theorem isDnsLabel_append_suffix {base suffix : List Char} (opens : base.head?.any isAlphanumericChar = true)
    (baseNames : ∀ c ∈ base, NameChar c) (nonempty : suffix ≠ [])
    (suffixNames : ∀ c ∈ suffix, isAlphanumericChar c = true ∧ NameChar c)
    (short : base.length + 1 + suffix.length ≤ 63) :
    isDnsLabel (String.ofList (base ++ '-' :: suffix)) = true := by
  have each : ∀ c ∈ base ++ '-' :: suffix, NameChar c := by
    intro c member
    cases List.mem_append.mp member with
    | inl inBase => exact baseNames c inBase
    | inr inRest =>
      cases List.mem_cons.mp inRest with
      | inl dash => exact dash ▸ ⟨by decide, by decide⟩
      | inr inSuffix => exact (suffixNames c inSuffix).2
  have size : (String.ofList (base ++ '-' :: suffix)).utf8ByteSize ≤ 63 := by
    rw [String.utf8ByteSize_ofList, utf8Len_eq_length each, List.length_append, List.length_cons]
    omega
  have first : (base ++ '-' :: suffix).head?.any isAlphanumericChar = true := by
    cases base with
    | nil => cases opens
    | cons => exact opens
  have last : (base ++ '-' :: suffix).getLast?.any isAlphanumericChar = true := by
    have ending : (base ++ '-' :: suffix).getLast? = some (suffix.getLast nonempty) := by
      rw [List.getLast?_append_of_ne_nil _ (List.cons_ne_nil _ _), List.getLast?_cons,
        List.getLast?_eq_some_getLast nonempty]
      rfl
    rw [ending]
    exact (suffixNames _ (List.getLast_mem nonempty)).1
  simp only [isDnsLabel, String.toList_ofList, Bool.and_eq_true, decide_eq_true_iff, List.all_eq_true]
  refine ⟨⟨⟨⟨?_, size⟩, fun c member => (each c member).label⟩, first⟩, last⟩
  simp

theorem isDnsLabel_sidecarTokenSecretName (externals : Externals) (record : InstanceRecord) :
    isDnsLabel (sidecarTokenSecretName externals record) = true := by
  have whole : truncateToByteLen (63 - 1 - 8) "sleepypods-sidecar-token".toList =
      "sleepypods-sidecar-token".toList := by
    decide
  have size := length_instanceIdSuffix externals record.id
  rw [sidecarTokenSecretName, renderInstanceScopedName, whole]
  apply isDnsLabel_append_suffix
  · decide
  · have each : ("sleepypods-sidecar-token".toList.all fun c =>
        isLabelChar c && c.utf8Size == 1) = true := by
      decide
    intro c member
    have both := List.all_eq_true.mp each c member
    rw [Bool.and_eq_true] at both
    exact ⟨both.1, eq_of_beq both.2⟩
  · intro empty
    rw [empty] at size
    cases size
  · exact fun c member => instanceIdSuffix_name member
  · rw [size]
    decide

end names

/-! ### Parts of a rendering -/

structure Owned (record : InstanceRecord) (labels : StringMap) : Prop where
  instanceId : labels.get? labelInstanceId = some record.id.value
  generation : labels.get? labelInstanceGeneration = some (toString record.generation)

variable {record : InstanceRecord}

theorem Owned.of_includes {required labels : StringMap} (owned : Owned record required)
    (includes : Includes required labels) : Owned record labels where
  instanceId := includes _ _ owned.instanceId
  generation := includes _ _ owned.generation

theorem labels_eq_ok {pairs labels : List (String × String)}
    (read : (pairs.mapM fun entry => label externals entry.1 entry.2) = .ok labels) :
    labels = pairs := by
  induction pairs generalizing labels with
  | nil => exact (pure_eq_ok.mp read).symm
  | cons _ _ ih =>
    simp only [List.mapM_cons, label, bind_eq_ok, pure_eq_ok] at read
    obtain ⟨_, ⟨_, _, rfl⟩, later, laterRead, rfl⟩ := read
    rw [ih laterRead]

/-- The labels of a primary workload's objects: those of the instance, and the name its Service
selects by. -/
structure PrimaryLabels (record : InstanceRecord) (workloadName : String) (labels : StringMap) :
    Prop where
  owned : Owned record labels
  workload : labels.get? labelWorkloadName = some workloadName

theorem metadataLabels_eq_ok {workloadName : String} {labels : StringMap}
    (read : metadataLabels externals record workloadName = .ok labels) :
    PrimaryLabels record workloadName labels := by
  simp only [metadataLabels, bind_eq_ok, pure_eq_ok] at read
  obtain ⟨pairs, all, rfl⟩ := read
  cases labels_eq_ok all
  have distinct : [labelInstanceId, labelInstanceGeneration, labelWorkloadClassId,
      labelWorkloadClassVersion, labelWorkloadName].Nodup := by
    decide
  constructor
  · constructor
    · exact get?_ofList distinct (.head _)
    · exact get?_ofList distinct (.tail _ (.head _))
  · exact get?_ofList distinct (.tail _ (.tail _ (.tail _ (.tail _ (.head _)))))

variable {selector : StringMap}

theorem selectorLabels_eq_ok {workloadName : String}
    (read : selectorLabels externals record workloadName = .ok selector) (labels : StringMap) :
    Includes selector labels ↔ labels.get? labelInstanceId = some record.id.value ∧
      labels.get? labelWorkloadName = some workloadName := by
  simp only [selectorLabels, bind_eq_ok, pure_eq_ok] at read
  obtain ⟨pairs, all, rfl⟩ := read
  cases labels_eq_ok all
  have distinct : [labelInstanceId, labelWorkloadName].Nodup := by decide
  constructor
  · intro includes
    constructor
    · exact includes _ _ (get?_ofList distinct (.head _))
    · exact includes _ _ (get?_ofList distinct (.tail _ (.head _)))
  · rintro ⟨instanceId, workload⟩ label value found
    have member := Entries.mem_collect (Entries.mem_of_get? found)
    simp only [List.mem_cons, List.not_mem_nil, or_false, Prod.mk.injEq] at member
    obtain ⟨rfl, rfl⟩ | ⟨rfl, rfl⟩ := member
    · exact instanceId
    · exact workload

variable {name : String}

theorem renderObjectName_eq_ok {field : String} {template : TemplateText}
    (render : renderObjectName externals field template record = .ok name) :
    isDnsLabel name = true := by
  simp only [renderObjectName, validateDnsLabel, bind_eq_ok, require_eq_ok, pure_eq_ok] at render
  obtain ⟨_, _, ⟨⟩, named, rfl⟩ := render
  exact named

inductive PrimaryWorkload (shared : SharedMetadata) (name : String) (template : PodTemplateSpec) :
    RenderedManifestObject → Prop where
  | deployment (object : Deployment) : object.metadata = shared.named name →
      object.template = template → PrimaryWorkload shared name template ⟨.workload, .deployment object⟩
  | statefulSet (object : StatefulSet) : object.metadata = shared.named name →
      object.template = template →
      PrimaryWorkload shared name template ⟨.workload, .statefulSet object⟩

variable {rendered : RenderedManifestObject}

/-- The objects of a manifest before they are sorted, with what they were built from. -/
structure Parts where
  shared : SharedMetadata
  selector : StringMap
  workloadName : String
  template : PodTemplateSpec
  volumes : List RenderedVolume
  services : List RenderedManifestObject
  secrets : List RenderedManifestObject
  workload : RenderedManifestObject
  raws : List RenderedManifestObject

def Parts.objects (parts : Parts) : List RenderedManifestObject :=
  parts.volumes.map (persistentVolumeObject parts.shared) ++
    parts.volumes.map (persistentVolumeClaimObject parts.shared) ++ parts.services ++
    parts.secrets ++ parts.workload :: parts.raws

structure Parts.Sound (request : RenderManifestRequest) (parts : Parts) : Prop where
  namespaced : isDnsLabel request.namespaceName = true
  placed : parts.shared.namespaceName = request.namespaceName
  annotated : parts.shared.annotations = metadataAnnotations request.templateGeneration
  labelled : PrimaryLabels request.instanceRecord parts.workloadName parts.shared.labels
  selects : ∀ labels, Includes parts.selector labels ↔
    labels.get? labelInstanceId = some request.instanceRecord.id.value ∧
      labels.get? labelWorkloadName = some parts.workloadName
  workloadNamed : isDnsLabel parts.workloadName = true
  volumesNamed : ∀ volume ∈ parts.volumes,
    isDnsLabel volume.pvName = true ∧ isDnsLabel volume.pvcName = true
  service : ∀ rendered ∈ parts.services, ∃ sidecar name ports, isDnsLabel name = true ∧
    rendered = serviceObject parts.shared parts.selector sidecar name ports
  oneService : parts.services.length = if request.template.service.isSome then 1 else 0
  secret : ∀ rendered ∈ parts.secrets, ∃ name token, isDnsLabel name = true ∧
    rendered = secretObject parts.shared name token
  pods : parts.template.metadata = ⟨parts.shared.labels, parts.shared.annotations⟩
  primary : PrimaryWorkload parts.shared parts.workloadName parts.template parts.workload
  raw : ∀ rendered ∈ parts.raws, ∃ raw, RawRendered request.namespaceName
    (parts.shared.labels.erase labelWorkloadName) parts.shared.annotations rendered raw

theorem mapM_isSome {α β ε : Type} {read : α → Except ε β} {item : Option α} {result : Option β}
    (mapped : item.mapM read = .ok result) : result.isSome = item.isSome ∧
      ∀ value, result = some value → ∃ source, item = some source ∧ read source = .ok value := by
  cases item with
  | none =>
    cases pure_eq_ok.mp mapped
    exact ⟨rfl, nofun⟩
  | some source =>
    obtain ⟨value, here, rfl⟩ := map_eq_ok.mp mapped
    exact ⟨rfl, fun other same => ⟨source, rfl, Option.some.inj same ▸ here⟩⟩

theorem renderService_eq_ok {shared : SharedMetadata} {sidecar : SidecarRenderConfig}
    {template : Option ServiceTemplate} {name : Option String}
    {services : List RenderedManifestObject} (both : name.isSome = template.isSome)
    (render : renderService shared selector sidecar template name = .ok services) :
    services.length = (if template.isSome then 1 else 0) ∧ ∀ rendered ∈ services, ∃ text ports,
      name = some text ∧ rendered = serviceObject shared selector sidecar text ports := by
  unfold renderService at render
  split at render
  · simp only [bind_eq_ok, pure_eq_ok] at render
    obtain ⟨ports, _, rfl⟩ := render
    refine ⟨rfl, fun rendered member => ⟨_, ports, rfl, List.mem_singleton.mp member⟩⟩
  next absent =>
    cases render
    refine ⟨?_, List.forall_mem_nil _⟩
    cases template with
    | none => rfl
    | some service =>
      cases name with
      | none => cases both
      | some name => exact (absent service name rfl rfl).elim

variable {options : RenderManifestOptions} {request : RenderManifestRequest}

theorem renderObjects_eq_ok {rendered : List RenderedManifestObject}
    (render : renderObjects externals request options = .ok rendered) :
    ∃ parts : Parts, parts.Sound request ∧ rendered = parts.objects := by
  simp only [renderObjects, bind_eq_ok, pure_eq_ok] at render
  obtain ⟨_, _, _, _, _, namespaced, workloadName, workloadNamed, serviceName, serviceNamed,
    selector, selects, labels, labelled, sidecar, _, volumes, volumesRead, services, servicesRead,
    app, _, proxy, _, workload, workloadRead, raws, rawsRead, rfl⟩ := render
  obtain ⟨both, serviceName_eq⟩ := mapM_isSome serviceNamed
  obtain ⟨oneService, service⟩ := renderService_eq_ok both servicesRead
  let shared : SharedMetadata := {
    namespaceName := request.namespaceName
    labels := labels
    annotations := metadataAnnotations request.templateGeneration }
  refine ⟨{
    shared := shared
    selector := selector
    workloadName := workloadName
    template := podTemplate shared app proxy volumes
    volumes := volumes
    services := services
    secrets := (options.sidecarControlPlaneToken.map
      (secretObject shared (sidecarTokenSecretName externals request.instanceRecord))).toList
    workload := workload
    raws := raws }, ?_, rfl⟩
  constructor
  case namespaced => exact require_eq_ok.mp namespaced
  case placed => rfl
  case annotated => rfl
  case labelled => exact metadataLabels_eq_ok labelled
  case selects => exact selectorLabels_eq_ok selects
  case workloadNamed => exact renderObjectName_eq_ok workloadNamed
  case volumesNamed =>
    intro volume member
    obtain ⟨_, _, read⟩ := exists_of_mem_mapM volumesRead member
    simp only [renderVolume, bind_eq_ok, pure_eq_ok] at read
    obtain ⟨_, _, _, _, _, _, _, _, _, _, pvName, volumeNamed, pvcName, claimNamed, _, _, _, _, _, _,
      _, _, rfl⟩ := read
    exact ⟨renderObjectName_eq_ok volumeNamed, renderObjectName_eq_ok claimNamed⟩
  case service =>
    intro rendered member
    obtain ⟨name, ports, named, same⟩ := service rendered member
    obtain ⟨_, _, read⟩ := serviceName_eq name named
    exact ⟨sidecar, name, ports, renderObjectName_eq_ok read, same⟩
  case oneService => exact oneService
  case secret =>
    intro rendered member
    obtain ⟨token, _, same⟩ := Option.map_eq_some_iff.mp (Option.mem_toList.mp member)
    exact ⟨_, token, isDnsLabel_sidecarTokenSecretName externals request.instanceRecord, same.symm⟩
  case pods => rfl
  case primary =>
    unfold workloadObject at workloadRead
    split at workloadRead
    · cases workloadRead
      exact .deployment _ rfl rfl
    · simp only [bind_eq_ok, pure_eq_ok] at workloadRead
      obtain ⟨_, _, rfl⟩ := workloadRead
      exact .statefulSet _ rfl rfl
  case raw =>
    intro rendered member
    obtain ⟨_, _, read⟩ := exists_of_mem_mapM rawsRead member
    exact renderRawObject_eq_ok read

/-! ### Managed objects -/

structure Managed (request : RenderManifestRequest) (rendered : RenderedManifestObject) : Prop where
  order : rawApplyOrder rendered.object.apiVersion rendered.object.kind = .ok rendered.applyOrder
  named : isDnsLabel rendered.object.metadata.name = true
  placed : rendered.object.metadata.namespaceName =
    if rendered.object.kind = "PersistentVolume" then none else some request.namespaceName
  owned : Owned request.instanceRecord rendered.object.metadata.labels
  stamped : Includes (metadataAnnotations request.templateGeneration)
    rendered.object.metadata.annotations
  podsOwned : ∀ template, rendered.object.podTemplateMetadata = some template →
    Owned request.instanceRecord template.labels
  podsStamped : ∀ template, rendered.object.podTemplateMetadata = some template →
    Includes (metadataAnnotations request.templateGeneration) template.annotations
  serialized : Serialized rendered.object rendered.object.toKubernetesJson

theorem Includes.refl (map : StringMap) : Includes map map := fun _ _ found => found

theorem includes_insert_backendScheme (templateGeneration : Option Nat) (scheme : String) :
    Includes (metadataAnnotations templateGeneration)
      ((metadataAnnotations templateGeneration).insert annotationBackendScheme scheme) := by
  intro label value found
  have member := Entries.mem_collect (Entries.mem_of_get? found)
  cases templateGeneration with
  | none => cases member with
    | inl none => cases none
    | inr none => cases none
  | some =>
    simp only [Option.map_some, Option.toList_some, List.mem_cons, List.not_mem_nil, or_false,
      Prod.mk.injEq] at member
    rw [get?_insert, if_neg, found]
    rw [member.1]
    decide

section managed

variable {request : RenderManifestRequest} {parts : Parts}

section

variable (sound : parts.Sound request)

include sound

theorem Parts.Sound.managed_volume {volume : RenderedVolume} (inside : volume ∈ parts.volumes) :
    Managed request (persistentVolumeObject parts.shared volume) where
  order := rfl
  named := (sound.volumesNamed volume inside).1
  placed := rfl
  owned := sound.labelled.owned
  stamped := by
    rw [← sound.annotated]
    exact .refl _
  podsOwned := nofun
  podsStamped := nofun
  serialized := serialized_toKubernetesJson nofun

theorem Parts.Sound.managed_service {sidecar : SidecarRenderConfig} {ports : List ServicePort}
    (named : isDnsLabel name = true) :
    Managed request (serviceObject parts.shared parts.selector sidecar name ports) where
  order := rfl
  named := named
  placed := congrArg some sound.placed
  owned := sound.labelled.owned
  stamped := by
    have annotated := sound.annotated
    simp only [serviceObject, KubernetesObject.metadata, annotated]
    split
    · exact includes_insert_backendScheme _ _
    · exact .refl _
  podsOwned := nofun
  podsStamped := nofun
  serialized := serialized_toKubernetesJson nofun

theorem Parts.Sound.managed_named (kind : String)
    (isKind : rendered.object.kind = kind) (namespaced : kind ≠ "PersistentVolume")
    (named : isDnsLabel name = true)
    (order : rawApplyOrder rendered.object.apiVersion rendered.object.kind =
      .ok rendered.applyOrder) (metadata : rendered.object.metadata = parts.shared.named name)
    (pods : ∀ template, rendered.object.podTemplateMetadata = some template →
      template = ⟨parts.shared.labels, parts.shared.annotations⟩)
    (structured : ∀ raw, rendered.object ≠ .raw raw) : Managed request rendered where
  order := order
  named := by
    rw [metadata]
    exact named
  placed := by
    rw [metadata, isKind, if_neg namespaced]
    exact congrArg some sound.placed
  owned := by
    rw [metadata]
    exact sound.labelled.owned
  stamped := by
    rw [metadata, ← sound.annotated]
    exact .refl _
  podsOwned := by
    intro template has
    rw [pods template has]
    exact sound.labelled.owned
  podsStamped := by
    intro template has
    rw [pods template has, ← sound.annotated]
    exact .refl _
  serialized := serialized_toKubernetesJson fun raw same => absurd same (structured raw)

theorem Parts.Sound.managed_workload : Managed request parts.workload := by
  have primary := sound.primary
  have pods := sound.pods
  generalize parts.workload = workload at primary
  cases primary with
  | deployment _ metadata template =>
    refine sound.managed_named "Deployment" rfl (by decide) sound.workloadNamed rfl metadata ?_ nofun
    intro other same
    cases same
    exact (congrArg PodTemplateSpec.metadata template).trans pods
  | statefulSet _ metadata template =>
    refine sound.managed_named "StatefulSet" rfl (by decide) sound.workloadNamed rfl metadata ?_ nofun
    intro other same
    cases same
    exact (congrArg PodTemplateSpec.metadata template).trans pods

theorem Parts.Sound.managed_raw (member : rendered ∈ parts.raws) : Managed request rendered := by
  obtain ⟨raw, spec⟩ := sound.raw rendered member
  obtain ⟨order, object⟩ := rendered
  cases spec.object
  have kept : Owned request.instanceRecord (parts.shared.labels.erase labelWorkloadName) := by
    constructor
    · rw [get?_erase, if_neg (by decide), sound.labelled.owned.instanceId]
    · rw [get?_erase, if_neg (by decide), sound.labelled.owned.generation]
  have stamps := sound.annotated
  constructor
  case order => exact spec.order
  case named => exact spec.named
  case placed => exact spec.placed
  case owned => exact kept.of_includes spec.labelled
  case stamped => exact stamps ▸ spec.annotated
  case podsOwned => exact fun template has => kept.of_includes (spec.podsLabelled template has)
  case podsStamped => exact fun template has => stamps ▸ spec.podsAnnotated template has
  case serialized =>
    apply serialized_toKubernetesJson
    intro other same
    cases same
    exact spec.shape

end

theorem Parts.mem_objects :
    rendered ∈ parts.objects ↔
      (∃ volume ∈ parts.volumes, rendered = persistentVolumeObject parts.shared volume) ∨
      (∃ volume ∈ parts.volumes, rendered = persistentVolumeClaimObject parts.shared volume) ∨
      rendered ∈ parts.services ∨ rendered ∈ parts.secrets ∨ rendered = parts.workload ∨
      rendered ∈ parts.raws := by
  simp only [objects, List.mem_append, List.mem_map, List.mem_cons, or_assoc, eq_comm]

theorem Parts.Sound.managed (sound : parts.Sound request) (member : rendered ∈ parts.objects) :
    Managed request rendered := by
  obtain ⟨volume, inside, rfl⟩ | ⟨volume, inside, rfl⟩ | inServices | inSecrets | rfl | inRaws :=
    Parts.mem_objects.mp member
  · exact sound.managed_volume inside
  · exact sound.managed_named "PersistentVolumeClaim" rfl (by decide)
      (sound.volumesNamed volume inside).2 rfl rfl nofun nofun
  · obtain ⟨_, _, _, named, rfl⟩ := sound.service rendered inServices
    exact sound.managed_service named
  · obtain ⟨_, _, named, rfl⟩ := sound.secret rendered inSecrets
    exact sound.managed_named "Secret" rfl (by decide) named rfl rfl nofun nofun
  · exact sound.managed_workload
  · exact sound.managed_raw inRaws

end managed

end Sleepypods.Manifest
