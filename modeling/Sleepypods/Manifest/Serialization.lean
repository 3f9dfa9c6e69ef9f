import Sleepypods.Manifest.Render

/-! What the applied JSON of an object shows of it: its kind, its name and the labels of the object
and of its pods. -/

set_option autoImplicit false

namespace Sleepypods.Manifest

open Library Library.Fallible Value

/-- The JSON shows the kind, name and labels that the object was rendered with. -/
structure Serialized (object : KubernetesObject) (value : Value) : Prop where
  kind : value.pointer ["kind"] = some (.string object.kind)
  name : value.pointer ["metadata", "name"] = some (.string object.metadata.name)
  labels : value.pointer ["metadata", "labels"] = some (jsonMap object.metadata.labels)
  podLabels : ∀ template, object.podTemplateMetadata = some template →
    value.pointer ["spec", "template", "metadata", "labels"] = some (jsonMap template.labels)

theorem pointer_cons {value item : Value} {key : String} {path : List String}
    (found : value.get? key = some item) : value.pointer (key :: path) = item.pointer path := by
  rw [pointer, found, Option.bind_some]

theorem get?_json {members : List (String × Value)} {key : String} {item : Value}
    (keys : List String) (same : members.map Prod.fst = keys) (distinct : keys.Nodup)
    (member : (key, item) ∈ members) : (json members).get? key = some item := by
  subst same
  exact Entries.get?_collect distinct member

theorem get?_jsonMap (map : StringMap) (label : String) :
    (jsonMap map).get? label = (map.get? label).map .string :=
  Entries.get?_mapValues _

theorem metadataToValue_name (metadata : ObjectMeta) :
    (metadataToValue metadata).get? "name" = some (.string metadata.name) := by
  cases placed : metadata.namespaceName with
  | none =>
    rw [metadataToValue, placed]
    exact get?_json ["name", "labels", "annotations"] rfl (by decide) (.head _)
  | some =>
    rw [metadataToValue, placed]
    exact get?_json ["name", "namespace", "labels", "annotations"] rfl (by decide) (.head _)

theorem metadataToValue_labels (metadata : ObjectMeta) :
    (metadataToValue metadata).get? "labels" = some (jsonMap metadata.labels) := by
  cases placed : metadata.namespaceName with
  | none =>
    rw [metadataToValue, placed]
    exact get?_json ["name", "labels", "annotations"] rfl (by decide) (.tail _ (.head _))
  | some =>
    rw [metadataToValue, placed]
    exact get?_json ["name", "namespace", "labels", "annotations"] rfl (by decide)
      (.tail _ (.tail _ (.head _)))

theorem serialized_of_members {object : KubernetesObject} {value spec : Value}
    (kind : value.get? "kind" = some (.string object.kind))
    (metadata : value.get? "metadata" = some (metadataToValue object.metadata))
    (podLabels : ∀ template, object.podTemplateMetadata = some template →
      value.get? "spec" = some spec ∧
        spec.pointer ["template", "metadata", "labels"] = some (jsonMap template.labels)) :
    Serialized object value where
  kind := pointer_cons kind
  name := (pointer_cons metadata).trans (pointer_cons (metadataToValue_name _))
  labels := (pointer_cons metadata).trans (pointer_cons (metadataToValue_labels _))
  podLabels := by
    intro template has
    obtain ⟨found, inside⟩ := podLabels template has
    rw [pointer_cons found, inside]

theorem serialized_objectToValue {object : KubernetesObject} {apiVersion : String} {spec : Value}
    (podLabels : ∀ template, object.podTemplateMetadata = some template →
      spec.pointer ["template", "metadata", "labels"] = some (jsonMap template.labels)) :
    Serialized object (objectToValue apiVersion object.kind object.metadata spec) := by
  let keys := ["apiVersion", "kind", "metadata", "spec"]
  have distinct : keys.Nodup := by decide
  have found : (objectToValue apiVersion object.kind object.metadata spec).get? "spec" = some spec :=
    get?_json keys rfl distinct (.tail _ (.tail _ (.tail _ (.head _))))
  apply serialized_of_members
  · exact get?_json keys rfl distinct (.tail _ (.head _))
  · exact get?_json keys rfl distinct (.tail _ (.tail _ (.head _)))
  · exact fun template has => ⟨found, podLabels template has⟩

theorem podTemplateToValue_labels (template : PodTemplateSpec) :
    (podTemplateToValue template).pointer ["metadata", "labels"] =
      some (jsonMap template.metadata.labels) := by
  have metadata : (podTemplateToValue template).get? "metadata" =
      some (podTemplateMetadataToValue template.metadata) :=
    get?_json ["metadata", "spec"] rfl (by decide) (.head _)
  have labels : (podTemplateMetadataToValue template.metadata).get? "labels" =
      some (jsonMap template.metadata.labels) :=
    get?_json ["labels", "annotations"] rfl (by decide) (.head _)
  rw [pointer_cons metadata, pointer_cons labels]
  rfl

theorem serialized_deployment (object : Deployment) :
    Serialized (.deployment object) (deploymentToValue object) := by
  refine @serialized_objectToValue (.deployment object) "apps/v1" _ ?_
  intro template has
  cases has
  rw [pointer_cons (get?_json ["replicas", "strategy", "selector", "template"] rfl (by decide)
    (.tail _ (.tail _ (.tail _ (.head _))))), podTemplateToValue_labels]

theorem serialized_statefulSet (object : StatefulSet) :
    Serialized (.statefulSet object) (statefulSetToValue object) := by
  refine @serialized_objectToValue (.statefulSet object) "apps/v1" _ ?_
  intro template has
  cases has
  rw [pointer_cons (get?_json ["replicas", "serviceName", "selector", "template"] rfl (by decide)
    (.tail _ (.tail _ (.tail _ (.head _))))), podTemplateToValue_labels]

theorem serialized_secret (object : Secret) : Serialized (.secret object) (secretToValue object) := by
  let keys := ["apiVersion", "kind", "metadata", "type", "stringData"]
  have distinct : keys.Nodup := by decide
  refine @serialized_of_members (.secret object) _ .null ?_ ?_ nofun
  · exact get?_json keys rfl distinct (.tail _ (.head _))
  · exact get?_json keys rfl distinct (.tail _ (.tail _ (.head _)))

/-! ### Raw objects -/

structure RawShape (raw : RawKubernetesObject) : Prop where
  members : raw.value.isOpen = true
  spec : raw.podTemplateMetadata.isSome = true → (raw.value.index "spec").isOpen = true
  template : raw.podTemplateMetadata.isSome = true →
    ((raw.value.index "spec").index "template").isOpen = true

theorem patchRawMetadata_name (metadata : ObjectMeta) (value : Value) :
    (patchRawMetadata metadata value).get? "name" = some (.string metadata.name) := by
  cases placed : metadata.namespaceName <;>
    simp [patchRawMetadata, placed, get?, Entries.get?_insert, Entries.get?_erase]

theorem patchRawMetadata_labels (metadata : ObjectMeta) (value : Value) :
    (patchRawMetadata metadata value).get? "labels" = some (jsonMap metadata.labels) := by
  simp [patchRawMetadata, get?, Entries.get?_insert]

theorem patchRawPodTemplateMetadata_labels (metadata : PodTemplateMetadata) (value : Value) :
    (patchRawPodTemplateMetadata metadata value).get? "labels" = some (jsonMap metadata.labels) := by
  simp [patchRawPodTemplateMetadata, get?, Entries.get?_insert]

/-- The value of a raw object with its identity and its metadata written back. -/
def patchRawObject (raw : RawKubernetesObject) : Value :=
  update "metadata" (patchRawMetadata raw.metadata)
    ((raw.value.set "apiVersion" (.string raw.apiVersion)).set "kind" (.string raw.kind))

theorem get?_patchRawObject {raw : RawKubernetesObject} (room : raw.value.isOpen = true)
    (key : String) : (patchRawObject raw).get? key =
      if "metadata" = key then
        some (patchRawMetadata raw.metadata (((raw.value.set "apiVersion"
          (.string raw.apiVersion)).set "kind" (.string raw.kind)).index "metadata"))
      else if "kind" = key then some (.string raw.kind)
      else if "apiVersion" = key then some (.string raw.apiVersion)
      else raw.value.get? key := by
  rw [patchRawObject, get?_update (isOpen_set (isOpen_set room)),
    get?_set (isOpen_set room), get?_set room]

theorem serialized_raw {raw : RawKubernetesObject} (shape : RawShape raw) :
    Serialized (.raw raw) (rawObjectToValue raw) := by
  have looked := get?_patchRawObject shape.members
  have room : (patchRawObject raw).isOpen = true :=
    isOpen_set (isOpen_set (isOpen_set shape.members))
  cases pods : raw.podTemplateMetadata with
  | none =>
    have same : rawObjectToValue raw = patchRawObject raw := by
      rw [rawObjectToValue, pods]
      rfl
    have kind := looked "kind"
    have metadata := looked "metadata"
    rw [same]
    constructor
    · exact pointer_cons kind
    · exact (pointer_cons metadata).trans (pointer_cons (patchRawMetadata_name _ _))
    · exact (pointer_cons metadata).trans (pointer_cons (patchRawMetadata_labels _ _))
    · intro template has
      exact absurd (pods.symm.trans has) nofun
  | some template =>
    have same : rawObjectToValue raw = update "spec" (update "template"
        (update "metadata" (patchRawPodTemplateMetadata template)))
        (patchRawObject raw) := by
      rw [rawObjectToValue, pods]
      rfl
    have patched (key : String) := @Value.get?_update (patchRawObject raw)
      (update "template" (update "metadata" (patchRawPodTemplateMetadata template)))
      "spec" key room
    have isSome : raw.podTemplateMetadata.isSome = true := by rw [pods, Option.isSome_some]
    have kind := (patched "kind").trans (looked "kind")
    have metadata := (patched "metadata").trans (looked "metadata")
    have unpatched : (patchRawObject raw).index "spec" = raw.value.index "spec" := by
      rw [index, looked "spec"]
      rfl
    have spec := patched "spec"
    rw [if_pos rfl, unpatched] at spec
    rw [same]
    constructor
    · exact pointer_cons kind
    · exact (pointer_cons metadata).trans (pointer_cons (patchRawMetadata_name _ _))
    · exact (pointer_cons metadata).trans (pointer_cons (patchRawMetadata_labels _ _))
    · intro other has
      cases pods.symm.trans has
      have inside := @Value.get?_update (raw.value.index "spec")
        (update "metadata" (patchRawPodTemplateMetadata template)) "template" "template"
        (shape.spec isSome)
      have deeper := @Value.get?_update ((raw.value.index "spec").index "template")
        (patchRawPodTemplateMetadata template) "metadata" "metadata" (shape.template isSome)
      rw [pointer_cons spec, pointer_cons inside, pointer_cons deeper,
        pointer_cons (patchRawPodTemplateMetadata_labels _ _)]
      rfl

theorem serialized_toKubernetesJson {object : KubernetesObject}
    (shape : ∀ raw, object = .raw raw → RawShape raw) :
    Serialized object object.toKubernetesJson := by
  cases object with
  | deployment object => exact serialized_deployment object
  | statefulSet object => exact serialized_statefulSet object
  | service object => exact @serialized_objectToValue (.service object) "v1" _ nofun
  | secret object => exact serialized_secret object
  | persistentVolume object => exact @serialized_objectToValue (.persistentVolume object) "v1" _ nofun
  | persistentVolumeClaim object =>
    exact @serialized_objectToValue (.persistentVolumeClaim object) "v1" _ nofun
  | raw raw => exact serialized_raw (shape raw rfl)

end Sleepypods.Manifest
