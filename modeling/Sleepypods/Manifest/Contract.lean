import Sleepypods.Manifest.Parts

/-! The contract of rendered manifests: what holds of every manifest that rendering returns, and
that the materializer accepts it as it stands. -/

set_option autoImplicit false

namespace Sleepypods.Manifest

open Library Library.Fallible Projection
open Projection (labelInstanceGeneration annotationTemplateGeneration)

/-! ### Manifests as the materializer reads them -/

def toTable (map : StringMap) : Table String String := ⟨map.entries, map.sorted.nodup⟩

theorem find?_toTable (map : StringMap) (key : String) : (toTable map).find? key = map.get? key := by
  cases held : map.get? key with
  | none =>
    cases found : (toTable map).find? key with
    | none => rfl
    | some value =>
      have member : (key, value) ∈ map.entries := Table.find?_eq_some.mp found
      exact absurd (List.mem_map_of_mem member) (Entries.get?_eq_none.mp held)
  | some => exact Table.find?_eq_some.mpr (Entries.mem_of_get? held)

def projectedMeta (metadata : ObjectMeta) : Projection.ObjectMeta where
  name := metadata.name
  namespaceName := metadata.namespaceName
  labels := toTable metadata.labels
  annotations := toTable metadata.annotations

def projectedPods (metadata : PodTemplateMetadata) : Projection.PodTemplateMetadata where
  labels := toTable metadata.labels
  annotations := toTable metadata.annotations

def KubernetesObject.projectedShape : KubernetesObject → Projection.ObjectShape
  | .deployment object => .deployment (projectedPods object.template.metadata)
  | .statefulSet object => .statefulSet (projectedPods object.template.metadata)
  | .service _ => .service
  | .secret _ => .secret
  | .persistentVolume _ => .persistentVolume
  | .persistentVolumeClaim _ => .persistentVolumeClaim
  | .raw object => .raw object.apiVersion object.kind (object.podTemplateMetadata.map projectedPods)

section projected

variable (serialize : Value → String)

def KubernetesObject.projected (object : KubernetesObject) : Projection.KubernetesObject where
  shape := object.projectedShape
  metadata := projectedMeta object.metadata
  content := serialize object.toKubernetesJson

def RenderedManifestObject.projected (rendered : RenderedManifestObject) :
    Projection.RenderedManifestObject where
  applyOrder := rendered.applyOrder
  object := rendered.object.projected serialize

def RenderedManifest.projected (manifest : RenderedManifest) : Projection.RenderedManifest where
  instanceGeneration := manifest.instanceGeneration
  templateGeneration := manifest.templateGeneration
  objects := manifest.objects.map (RenderedManifestObject.projected serialize)

end projected

variable {manifest : RenderedManifest} {rendered : RenderedManifestObject}

section acceptance

variable {serialize : Value → String}

theorem podTemplateMetadata_projected (object : KubernetesObject) :
    (object.projected serialize).podTemplateMetadata =
      object.podTemplateMetadata.map projectedPods := by
  cases object <;> rfl

/-- Labels and annotations that carry the generations pass the materializer's check of them. -/
theorem validateMetadataGeneration_eq_ok {object : Projection.KubernetesObject}
    {record : InstanceRecord} {labels annotations : StringMap} {templateGeneration : Option Nat}
    {context : String} (owned : Owned record labels)
    (stamped : Includes (metadataAnnotations templateGeneration) annotations) :
    validateMetadataGeneration object (toTable labels) (toTable annotations)
      (toString record.generation) (templateGeneration.map toString) context = .ok () := by
  have first : validateGenerationValue object context labelInstanceGeneration
      ((toTable labels).find? labelInstanceGeneration) (toString record.generation) = .ok () := by
    apply require_eq_ok.mpr
    rw [find?_toTable, owned.generation]
  rw [validateMetadataGeneration, first, ok_bind]
  cases templateGeneration with
  | none => rfl
  | some generation =>
    have required : (metadataAnnotations (some generation)).get? annotationTemplateGeneration =
        some (toString generation) :=
      OrderedMap.get?_ofList (List.nodup_singleton annotationTemplateGeneration) (.head _)
    apply require_eq_ok.mpr
    rw [find?_toTable, stamped _ _ required]

variable {request : RenderManifestRequest}

theorem validateManifestGenerations_eq_ok
    (instanceGeneration : manifest.instanceGeneration = request.instanceRecord.generation)
    (templateGeneration : manifest.templateGeneration = request.templateGeneration)
    (managed : ∀ rendered ∈ manifest.objects, Managed request rendered) :
    validateManifestGenerations (manifest.projected serialize) = .ok () := by
  apply forM_eq_ok.mpr
  intro projected member
  obtain ⟨rendered, inside, rfl⟩ := List.mem_map.mp member
  have object := managed rendered inside
  simp only [RenderedManifest.projected, instanceGeneration, templateGeneration]
  have own := @validateMetadataGeneration_eq_ok (rendered.object.projected serialize) _ _ _ _
    "metadata" object.owned object.stamped
  refine bind_eq_ok.mpr ⟨(), own, ?_⟩
  rw [RenderedManifestObject.projected, podTemplateMetadata_projected]
  cases pods : rendered.object.podTemplateMetadata with
  | none => rfl
  | some template =>
    exact validateMetadataGeneration_eq_ok (object.podsOwned template pods)
      (object.podsStamped template pods)

variable {apiVersion : String} {order : Projection.ApplyOrder}

theorem rawApplyOrder_eq_ok {kind : String} (read : rawApplyOrder apiVersion kind = .ok order) :
    (kind, order) ∈ [("PersistentVolume", .persistentVolume),
      ("PersistentVolumeClaim", .persistentVolumeClaim), ("Secret", .secret), ("Service", .service),
      ("Deployment", .workload), ("StatefulSet", .workload)] := by
  unfold rawApplyOrder at read
  split at read
  next named => cases read; rw [named.2]; decide
  split at read
  next named => cases read; rw [named.2]; decide
  split at read
  next named => cases read; rw [named.2]; decide
  split at read
  next named => cases read; rw [named.2]; decide
  split at read
  next named =>
    cases read
    cases named.2 with
    | inl deployment => rw [deployment]; decide
    | inr statefulSet => rw [statefulSet]; decide
  · cases read

theorem rawApplyOrder_kind {kind : String} (read : rawApplyOrder apiVersion kind = .ok order) :
    kind = "PersistentVolume" ∨ kind ∈ namespacedKinds := by
  have supported := List.mem_map_of_mem (f := Prod.fst) (rawApplyOrder_eq_ok read)
  revert supported
  simp only [List.map_cons, List.map_nil, namespacedKinds, List.mem_cons]
  tauto

theorem rawApplyOrder_service (read : rawApplyOrder apiVersion "Service" = .ok order) :
    order = .service := by
  have supported := rawApplyOrder_eq_ok read
  simp only [List.mem_cons, Prod.mk.injEq, String.reduceEq, false_and, false_or, true_and,
    List.not_mem_nil, or_false] at supported
  exact supported

theorem Managed.validateRef (managed : Managed request rendered)
    (namespaced : isDnsLabel request.namespaceName = true) :
    validateRenderedObjectRef rendered.object.ref = .ok () := by
  have placed : _ = if rendered.object.ref.kind = "PersistentVolume" then none else _ :=
    managed.placed
  have named : isDnsLabel rendered.object.ref.name = true := managed.named
  simp only [validateRenderedObjectRef]
  refine bind_eq_ok.mpr ⟨(), require_eq_ok.mpr named, ?_⟩
  split
  next volume =>
    apply require_eq_ok.mpr
    rw [if_pos volume] at placed
    exact congrArg (Option.getD · "") placed
  next other =>
    rw [if_neg other] at placed
    have supported : rendered.object.ref.kind ∈ namespacedKinds :=
      (rawApplyOrder_kind managed.order).resolve_left other
    rw [if_pos supported]
    apply require_eq_ok.mpr
    have same : rendered.object.ref.namespaceName = request.namespaceName :=
      congrArg (Option.getD · "") placed
    rw [same]
    exact namespaced

variable {refs seen : List RenderedObjectRef}

theorem validateRenderedObjectRefs_eq_ok
    (each : ∀ object ∈ refs, validateRenderedObjectRef object = .ok ())
    (distinct : refs.Nodup) (fresh : ∀ object ∈ refs, object ∉ seen) :
    validateRenderedObjectRefs seen refs = .ok () := by
  induction refs generalizing seen with
  | nil => rfl
  | cons _ _ ih =>
    obtain ⟨first, later⟩ := List.forall_mem_cons.mp each
    obtain ⟨unseen, laterUnseen⟩ := List.forall_mem_cons.mp fresh
    obtain ⟨notAgain, laterDistinct⟩ := List.nodup_cons.mp distinct
    rw [validateRenderedObjectRefs, first, ok_bind]
    refine bind_eq_ok.mpr ⟨(), require_eq_ok.mpr unseen, ih later laterDistinct ?_⟩
    intro other member again
    cases List.mem_cons.mp again with
    | inl same => exact notAgain (same ▸ member)
    | inr before => exact laterUnseen other member before

theorem validateUniqueRefs_eq_ok (unique : validateUniqueRefs seen refs = .ok ()) :
    refs.Nodup ∧ ∀ object ∈ refs, object ∉ seen := by
  induction refs generalizing seen with
  | nil => exact ⟨List.nodup_nil, List.forall_mem_nil _⟩
  | cons object _ ih =>
    simp only [validateUniqueRefs, bind_eq_ok, require_eq_ok] at unique
    obtain ⟨⟨⟩, unseen, later⟩ := unique
    obtain ⟨distinct, fresh⟩ := ih later
    constructor
    · apply List.nodup_cons.mpr
      exact ⟨fun member => fresh object member List.mem_cons_self, distinct⟩
    · intro other member
      cases List.mem_cons.mp member with
      | inl same => exact same ▸ unseen
      | inr inside => exact fun before => fresh other inside (List.mem_cons_of_mem _ before)

/-- A managed manifest in apply order with distinct references is accepted as it stands. -/
theorem renderedObjectRefs_eq_ok
    (instanceGeneration : manifest.instanceGeneration = request.instanceRecord.generation)
    (templateGeneration : manifest.templateGeneration = request.templateGeneration)
    (managed : ∀ rendered ∈ manifest.objects, Managed request rendered)
    (namespaced : isDnsLabel request.namespaceName = true)
    (ordered : manifest.objects.Pairwise fun former latter => former.applyOrder.rank ≤
      latter.applyOrder.rank)
    (distinct : (manifest.objects.map fun rendered => rendered.object.ref).Nodup) :
    renderedObjectRefs (manifest.projected serialize) =
      .ok (manifest.objects.map fun rendered => rendered.object.ref) := by
  have sorted : orderedObjects (manifest.projected serialize) =
      manifest.objects.map (RenderedManifestObject.projected serialize) := by
    apply List.mergeSort_of_pairwise
    rw [RenderedManifest.projected, List.pairwise_map]
    exact ordered.imp decide_eq_true
  have refs : ((orderedObjects (manifest.projected serialize)).map fun rendered =>
      renderedObjectRef rendered.object) =
      manifest.objects.map fun rendered => rendered.object.ref := by
    rw [sorted, List.map_map]
    apply List.map_congr_left
    rintro ⟨_, object⟩ _
    cases object <;> rfl
  have valid : validateRenderedObjectRefs []
      (manifest.objects.map fun rendered => rendered.object.ref) = .ok () := by
    apply validateRenderedObjectRefs_eq_ok _ distinct fun _ _ => List.not_mem_nil
    intro object member
    obtain ⟨rendered, inside, rfl⟩ := List.mem_map.mp member
    exact (managed rendered inside).validateRef namespaced
  have generations : validateManifestGenerations (manifest.projected serialize) = .ok () :=
    validateManifestGenerations_eq_ok instanceGeneration templateGeneration managed
  simp only [renderedObjectRefs, refs, generations, valid, ok_bind]
  rfl

end acceptance

variable {value : Value}

section retention

variable {request : RenderManifestRequest} {objects : List RenderedManifestObject}

theorem asStr_eq_some {text : String} : value.asStr = some text ↔ value = .string text := by
  cases value with
  | string => simp only [Value.asStr, Option.some.injEq, Value.string.injEq]
  | _ => simp only [Value.asStr, reduceCtorEq]

theorem Serialized.index_kind {object : KubernetesObject} (serialized : Serialized object value) :
    value.index "kind" = .string object.kind := by
  have found := serialized.kind
  simp only [Value.pointer] at found
  exact Value.index_of_get? ((Option.bind_fun_some _).symm.trans found)

theorem Serialized.index_name {object : KubernetesObject} (serialized : Serialized object value) :
    (value.index "metadata").index "name" = .string object.metadata.name := by
  have found := serialized.name
  rw [Value.pointer, Option.bind_eq_some_iff] at found
  obtain ⟨metadata, held, inside⟩ := found
  rw [Value.pointer, Option.bind_eq_some_iff] at inside
  obtain ⟨name, named, same⟩ := inside
  cases same
  rw [Value.index_of_get? held, Value.index_of_get? named]

/-- The inventory check, read on the objects: volumes are retained, and each claim names one of
them. -/
theorem validateRetainedStaticInventory_eq_ok
    (managed : ∀ rendered ∈ objects, Managed request rendered)
    (passed : validateRetainedStaticInventory objects = .ok ()) :
    (∀ rendered ∈ objects, rendered.object.kind = "PersistentVolume" →
      rendered.object.toKubernetesJson.pointer ["spec", "persistentVolumeReclaimPolicy"] =
        some (.string "Retain")) ∧
    ∀ claim ∈ objects, claim.object.kind = "PersistentVolumeClaim" →
      ∃ volume ∈ objects, volume.object.kind = "PersistentVolume" ∧
        claim.object.toKubernetesJson.pointer ["spec", "volumeName"] =
          some (.string volume.object.metadata.name) := by
  have each := forM_eq_ok.mp passed
  constructor
  · intro rendered member volume
    have check := each _ (List.mem_map_of_mem member)
    have kind := (managed rendered member).serialized.index_kind
    rw [validateRetained, if_pos (by rw [kind, volume]; rfl), require_eq_ok,
      Option.bind_eq_some_iff] at check
    obtain ⟨policy, found, retain⟩ := check
    rw [found, asStr_eq_some.mp retain]
  · intro claim member isClaim
    have check := each _ (List.mem_map_of_mem member)
    have kind := (managed claim member).serialized.index_kind
    rw [validateRetained, if_neg (by rw [kind, isClaim]; decide),
      if_pos (by rw [kind, isClaim]; rfl), require_eq_ok, Option.any_eq_true] at check
    obtain ⟨name, bound, present⟩ := check
    rw [List.any_eq_true] at present
    obtain ⟨value, inside, named⟩ := present
    obtain ⟨volume, volumeMember, rfl⟩ := List.mem_map.mp inside
    have serialized := (managed volume volumeMember).serialized
    rw [isVolumeNamed, decide_eq_true_iff, serialized.index_kind, serialized.index_name] at named
    obtain ⟨isVolume, same⟩ := named
    refine ⟨volume, volumeMember, Option.some.inj isVolume, ?_⟩
    rw [boundVolumeName, Option.filter_eq_some_iff, Option.bind_eq_some_iff] at bound
    obtain ⟨⟨text, found, isText⟩, _⟩ := bound
    rw [found, asStr_eq_some.mp isText]
    exact congrArg (fun name => some (Value.string name)) (Option.some.inj same).symm

end retention

/-! ### The generated Service -/

def KubernetesObject.isRaw : KubernetesObject → Bool
  | .raw _ => true
  | _ => false

/-- The Service that readiness is decided on is the generated one. It selects the pods of the
primary workload and no pods of a raw object. -/
structure ServesPrimary (manifest : RenderedManifest) (service : Service) : Prop where
  selectsPrimary : ∀ rendered ∈ manifest.objects, rendered.object.isRaw = false →
    ∀ template, rendered.object.podTemplateMetadata = some template →
      selects service.selector template.labels = true
  skipsRaw : ∀ rendered ∈ manifest.objects, rendered.object.isRaw = true →
    ∀ template, rendered.object.podTemplateMetadata = some template →
      selects service.selector template.labels = false
  first : (manifest.objects.map fun rendered => rendered.object.ref).find?
    (fun object => object.kind == "Service") = some (KubernetesObject.service service).ref

section service

variable {request : RenderManifestRequest} {parts : Parts}

theorem Parts.Sound.roles (sound : parts.Sound request) (member : rendered ∈ parts.objects) :
    (rendered.object.isRaw = false → ∀ template,
      rendered.object.podTemplateMetadata = some template →
        template.labels = parts.shared.labels) ∧
    (rendered.object.isRaw = true → ∀ template,
      rendered.object.podTemplateMetadata = some template →
        template.labels.get? labelWorkloadName = none) ∧
    ∀ service, rendered.object = .service service → rendered ∈ parts.services := by
  obtain ⟨_, _, rfl⟩ | ⟨_, _, rfl⟩ | inServices | inSecrets | rfl | inRaws :=
    Parts.mem_objects.mp member
  · exact ⟨fun _ _ => nofun, nofun, nofun⟩
  · exact ⟨fun _ _ => nofun, nofun, nofun⟩
  · obtain ⟨_, _, _, _, rfl⟩ := sound.service rendered inServices
    exact ⟨fun _ _ => nofun, nofun, fun _ _ => inServices⟩
  · obtain ⟨_, _, _, rfl⟩ := sound.secret rendered inSecrets
    exact ⟨fun _ _ => nofun, nofun, nofun⟩
  · have primary := sound.primary
    have pods := sound.pods
    generalize parts.workload = workload at primary ⊢
    cases primary with
    | deployment _ _ same | statefulSet _ _ same =>
      refine ⟨fun _ template has => ?_, nofun, nofun⟩
      cases has
      rw [same, pods]
  · obtain ⟨raw, spec⟩ := sound.raw rendered inRaws
    rw [spec.object]
    refine ⟨nofun, fun _ template has => ?_, nofun⟩
    apply spec.reserved template has
    rw [OrderedMap.get?_erase, if_pos rfl]

/-- Among the unsorted parts only volumes and claims come before the generated Service. -/
theorem Parts.find_service {rest : List RenderedManifestObject}
    (services : parts.services = rendered :: rest) (isService : rendered.object.kind = "Service") :
    parts.objects.find? (fun rendered => rendered.object.kind == "Service") = some rendered := by
  have volumes : (parts.volumes.map (persistentVolumeObject parts.shared) ++
      parts.volumes.map (persistentVolumeClaimObject parts.shared)).find?
      (fun rendered => rendered.object.kind == "Service") = none := by
    apply List.find?_eq_none.mpr
    intro other member
    cases List.mem_append.mp member with
    | inl inside | inr inside =>
      obtain ⟨volume, _, rfl⟩ := List.mem_map.mp inside
      exact nofun
  rw [objects, services, List.append_assoc, List.append_assoc, List.find?_append, volumes,
    List.cons_append, List.find?_cons_of_pos (by rw [isService]; rfl)]
  rfl

theorem Parts.Sound.servesPrimary (sound : parts.Sound request)
    (sorted : manifest.objects = sortByApplyOrder parts.objects) {service : Service}
    (member : rendered ∈ manifest.objects) (isService : rendered.object = .service service) :
    ServesPrimary manifest service := by
  have mem {rendered : RenderedManifestObject} :
      rendered ∈ manifest.objects ↔ rendered ∈ parts.objects := by
    rw [sorted]
    exact mem_sortByRank
  have generated := (sound.roles (mem.mp member)).2.2 service isService
  have only : parts.services = [rendered] := by
    have few := sound.oneService
    generalize parts.services = services at few generated
    match services, generated with
    | [only], inside => rw [List.mem_singleton.mp inside]
    | _ :: _ :: _, _ => split at few <;> simp at few
  obtain ⟨sidecar, name, ports, _, built⟩ := sound.service rendered generated
  have selector : service.selector = parts.selector := by
    rw [built] at isService
    cases isService
    rfl
  constructor
  · intro other otherMember structured template has
    have labels := (sound.roles (mem.mp otherMember)).1 structured template has
    rw [selector, selects_iff, sound.selects, labels]
    exact ⟨sound.labelled.owned.instanceId, sound.labelled.workload⟩
  · intro other otherMember isRaw template has
    have unnamed := (sound.roles (mem.mp otherMember)).2.1 isRaw template has
    rw [Bool.eq_false_iff, selector, ne_eq, selects_iff, sound.selects, unnamed]
    exact fun both => absurd both.2 nofun
  · have alike : ∀ rendered ∈ parts.objects, (rendered.object.kind == "Service") = true →
        rendered.applyOrder.rank = Projection.ApplyOrder.rank .service := by
      intro other otherMember otherService
      have order := (sound.managed otherMember).order
      rw [beq_iff_eq.mp otherService] at order
      rw [rawApplyOrder_service order]
    have found : manifest.objects.find? (fun rendered => rendered.object.kind == "Service") =
        some rendered := by
      rw [sorted, sortByApplyOrder, find?_sortByRank alike]
      exact Parts.find_service only (congrArg KubernetesObject.kind isService)
    rw [List.find?_map]
    have same : ((fun object : RenderedObjectRef => object.kind == "Service") ∘
        fun rendered : RenderedManifestObject => rendered.object.ref) =
        fun rendered => rendered.object.kind == "Service" := rfl
    rw [same, found, Option.map_some, isService]

end service

/-! ### The contract -/

structure OwnedJson (record : InstanceRecord) (value : Value) (path : List String) : Prop where
  instanceId : (value.pointer (path ++ ["labels"])).bind (Value.get? labelInstanceId) =
    some (.string record.id.value)
  generation : (value.pointer (path ++ ["labels"])).bind (Value.get? labelInstanceGeneration) =
    some (.string (toString record.generation))

theorem Owned.json {record : InstanceRecord} {labels : StringMap} (owned : Owned record labels)
    {path : List String} (found : value.pointer (path ++ ["labels"]) = some (jsonMap labels)) :
    OwnedJson record value path := by
  constructor
  · rw [found, Option.bind_some, get?_jsonMap, owned.instanceId, Option.map_some]
  · rw [found, Option.bind_some, get?_jsonMap, owned.generation, Option.map_some]

structure Contract (request : RenderManifestRequest) (manifest : RenderedManifest) : Prop where
  orderOfKind : ∀ rendered ∈ manifest.objects,
    rawApplyOrder rendered.object.apiVersion rendered.object.kind = .ok rendered.applyOrder
  ordered : manifest.objects.Pairwise fun former latter =>
    former.applyOrder.rank ≤ latter.applyOrder.rank
  distinct : (manifest.objects.map fun rendered => rendered.object.ref).Nodup
  owned : ∀ rendered ∈ manifest.objects, Owned request.instanceRecord rendered.object.metadata.labels
  podsOwned : ∀ rendered ∈ manifest.objects, ∀ template,
    rendered.object.podTemplateMetadata = some template →
      Owned request.instanceRecord template.labels
  applied : ∀ rendered ∈ manifest.objects,
    OwnedJson request.instanceRecord rendered.object.toKubernetesJson ["metadata"]
  podsApplied : ∀ rendered ∈ manifest.objects,
    rendered.object.podTemplateMetadata.isSome = true →
      OwnedJson request.instanceRecord rendered.object.toKubernetesJson
        ["spec", "template", "metadata"]
  retained : ∀ rendered ∈ manifest.objects, rendered.object.kind = "PersistentVolume" →
    rendered.object.toKubernetesJson.pointer ["spec", "persistentVolumeReclaimPolicy"] =
      some (.string "Retain")
  bound : ∀ claim ∈ manifest.objects, claim.object.kind = "PersistentVolumeClaim" →
    ∃ volume ∈ manifest.objects, volume.object.kind = "PersistentVolume" ∧
      claim.object.toKubernetesJson.pointer ["spec", "volumeName"] =
        some (.string volume.object.metadata.name)
  primary : ∃ rendered ∈ manifest.objects, rendered.object.isRaw = false ∧
    rendered.object.podTemplateMetadata.isSome = true
  generated : request.template.service.isSome = true →
    ∃ rendered ∈ manifest.objects, ∃ service, rendered.object = .service service
  serves : ∀ rendered ∈ manifest.objects, ∀ service, rendered.object = .service service →
    ServesPrimary manifest service
  accepted : ∀ serialize : Value → String,
    renderedObjectRefs (manifest.projected serialize) =
      .ok (manifest.objects.map fun rendered => rendered.object.ref)

theorem rendered_manifest_keeps_contract (externals : Externals) (request : RenderManifestRequest)
    (options : RenderManifestOptions) (manifest : RenderedManifest)
    (render : renderManifestsWithOptions externals request options = .ok manifest) :
    Contract request manifest := by
  simp only [renderManifestsWithOptions, finishManifest, bind_eq_ok, pure_eq_ok] at render
  obtain ⟨_, objects, ⟨⟩, unique, ⟨⟩, inventory, same⟩ := render
  obtain ⟨parts, sound, rfl⟩ := renderObjects_eq_ok objects
  have sorted : manifest.objects = sortByApplyOrder parts.objects := by rw [← same]
  rw [← sorted] at unique inventory
  have mem {rendered : RenderedManifestObject} :
      rendered ∈ manifest.objects ↔ rendered ∈ parts.objects := by
    rw [sorted]
    exact mem_sortByRank
  have managed : ∀ rendered ∈ manifest.objects, Managed request rendered :=
    fun rendered member => sound.managed (mem.mp member)
  have ordered : manifest.objects.Pairwise fun former latter =>
      former.applyOrder.rank ≤ latter.applyOrder.rank := by
    rw [sorted]
    exact pairwise_sortByRank
  have distinct := (validateUniqueRefs_eq_ok unique).1
  obtain ⟨retained, bound⟩ := validateRetainedStaticInventory_eq_ok managed inventory
  constructor
  case orderOfKind => exact fun rendered member => (managed rendered member).order
  case ordered => exact ordered
  case distinct => exact distinct
  case owned => exact fun rendered member => (managed rendered member).owned
  case podsOwned => exact fun rendered member => (managed rendered member).podsOwned
  case applied =>
    intro rendered member
    exact (managed rendered member).owned.json (managed rendered member).serialized.labels
  case podsApplied =>
    intro rendered member has
    obtain ⟨template, pods⟩ := Option.isSome_iff_exists.mp has
    exact ((managed rendered member).podsOwned template pods).json
      ((managed rendered member).serialized.podLabels template pods)
  case retained => exact retained
  case bound => exact bound
  case primary =>
    have primary := sound.primary
    refine ⟨parts.workload, mem.mpr (Parts.mem_objects.mpr (by simp)), ?_⟩
    generalize parts.workload = workload at primary
    cases primary <;> exact ⟨rfl, rfl⟩
  case generated =>
    intro has
    have one := sound.oneService
    rw [if_pos has] at one
    obtain ⟨rendered, only⟩ := List.length_eq_one_iff.mp one
    have inside : rendered ∈ parts.services := only ▸ List.mem_singleton_self rendered
    obtain ⟨_, _, _, _, built⟩ := sound.service rendered inside
    refine ⟨rendered, mem.mpr (Parts.mem_objects.mpr (by simp [inside])), ?_⟩
    rw [built]
    exact ⟨_, rfl⟩
  case serves => exact fun rendered member service => sound.servesPrimary sorted member
  case accepted =>
    intro serialize
    exact renderedObjectRefs_eq_ok (congrArg RenderedManifest.instanceGeneration same.symm)
      (congrArg RenderedManifest.templateGeneration same.symm) managed sound.namespaced ordered distinct

namespace Sample

def literal (text : String) : TemplateText := ⟨[.literal text]⟩

def auxiliary : Value :=
  .object [("apiVersion", .string "apps/v1"), ("kind", .string "Deployment"),
    ("metadata", .object [("name", .string "cache")])]

theorem auxiliary_ordered : auxiliary.Ordered := by
  apply Value.Ordered.object _ (by decide)
  intro entry member
  simp only [List.mem_cons, List.not_mem_nil, or_false] at member
  obtain rfl | rfl | rfl := member
  · exact .string _
  · exact .string _
  · exact Value.Ordered.empty.insert "name" (.string "cache")

def externals : Externals where
  parseYaml _ := .ok ⟨auxiliary, auxiliary_ordered⟩
  socketAddrPort _ := none
  sha256 _ := Vector.replicate 32 0
  debugText text := text

def request : RenderManifestRequest where
  template := {
    workload := {
      kind := .deployment
      name := literal "web"
      replicas := none
      appContainer := {
        name := "app"
        image := literal "web:1"
        ports := [⟨none, 8080⟩]
        env := [] } }
    sidecar := {
      name := "proxy"
      image := literal "proxy:1"
      listenPort := 15000
      mode := none }
    service := some { name := literal "web", ports := [⟨none, 80, 8080⟩] }
    volumes := [{
      name := "data"
      mountPath := literal "/data"
      pvName := literal "pv"
      pvcName := literal "pvc"
      accessModes := [.readWriteOnce]
      capacity := literal "1Gi"
      reclaimPolicy := .retain
      storageClassName := none
      source := .hostPath (literal "/srv") none }]
    rawObjects := [⟨literal "kind: Deployment"⟩] }
  instanceRecord := {
    id := ⟨"acme", by decide⟩
    workloadClass := ⟨"web", 1⟩
    values := []
    generation := 3 }
  sleepPolicy := ⟨1000, 1000, 1000⟩
  namespaceName := "apps"
  templateGeneration := some 2

def options : RenderManifestOptions := ⟨none, none, none⟩

def passes (rendered : List RenderedManifestObject) : Bool :=
  decide (rendered.Pairwise fun former latter => former.applyOrder.rank ≤ latter.applyOrder.rank) &&
    (validateUniqueRenderedRefs rendered).isOk && (validateRetainedStaticInventory rendered).isOk

theorem eq_ok_of_isOk {check : RenderResult Unit} (passed : check.isOk = true) :
    check = .ok () := by
  cases check with
  | ok => rfl
  | error => cases passed

theorem exists_rendered :
    ∃ manifest, renderManifestsWithOptions externals request options = .ok manifest := by
  have passed : ((renderObjects externals request options).map passes).toOption = some true := by
    decide +kernel
  obtain ⟨objects, rendered, all⟩ := map_eq_ok.mp (toOption_eq_some.mp passed)
  simp only [passes, Bool.and_eq_true, decide_eq_true_iff] at all
  obtain ⟨⟨ordered, unique⟩, retained⟩ := all
  have sorted : sortByApplyOrder objects = objects := sortByRank_of_pairwise ordered
  have finished : finishManifest request objects = .ok ⟨3, some 2, objects⟩ := by
    simp only [finishManifest, sorted, eq_ok_of_isOk unique, eq_ok_of_isOk retained, ok_bind]
    rfl
  exact ⟨_, bind_eq_ok.mpr ⟨objects, rendered, finished⟩⟩

end Sample

theorem sample_manifest_keeps_contract : ∃ manifest,
    renderManifestsWithOptions Sample.externals Sample.request Sample.options = .ok manifest ∧
      Contract Sample.request manifest := by
  obtain ⟨manifest, rendered⟩ := Sample.exists_rendered
  exact ⟨manifest, rendered,
    rendered_manifest_keeps_contract Sample.externals Sample.request Sample.options manifest rendered⟩

end Sleepypods.Manifest
