import Sleepypods.Manifest.Serialization

/-! What rendering leaves of the labels and annotations it requires: merged into whatever the author
wrote, none of them is missing or changed. -/

set_option autoImplicit false

namespace Sleepypods.Manifest

open Library Library.Fallible Entries

def Includes (required held : StringMap) : Prop :=
  ∀ label value, required.get? label = some value → held.get? label = some value

/-- A label selector, as the cluster evaluates it. -/
def selects (selector labels : StringMap) : Bool :=
  selector.entries.all fun entry => decide (labels.get? entry.1 = some entry.2)

variable {labels : StringMap}

theorem selects_iff {selector : StringMap} :
    selects selector labels = true ↔ Includes selector labels := by
  simp only [selects, List.all_eq_true, decide_eq_true_iff]
  constructor
  · intro all label value found
    exact all (label, value) (mem_of_get? found)
  · intro held entry member
    exact held entry.1 entry.2 (get?_of_mem selector.sorted.nodup member)

/-! ### Merging -/

variable {members metadata : List (String × Value)}

section merging

variable {externals : Externals} {field : String}

variable {map merged : List (String × Value)} {required : String × String}

theorem get?_mergeLabel (merge : mergeLabel externals field map required = .ok merged)
    (key : String) :
    get? key merged =
      if required.1 = key then some (.string required.2) else get? key map := by
  unfold mergeLabel at merge
  split at merge
  · cases merge
    exact get?_insert
  next existing present =>
    simp only [bind_eq_ok, require_eq_ok, pure_eq_ok] at merge
    obtain ⟨⟨⟩, same, rfl⟩ := merge
    split
    next here => rw [← here, present, same]
    · rfl
  · cases merge

theorem ordered_mergeLabel (ordered : (Value.object map).Ordered)
    (merge : mergeLabel externals field map required = .ok merged) :
    (Value.object merged).Ordered := by
  unfold mergeLabel at merge
  split at merge
  · cases merge
    exact ordered.insert _ (.string _)
  · simp only [bind_eq_ok, pure_eq_ok] at merge
    obtain ⟨_, _, rfl⟩ := merge
    exact ordered
  · cases merge

/-- After all merges a required label has its value, and every other one is as the author wrote it. -/
theorem get?_mergeLabels {required : List (String × String)}
    (distinct : (required.map Prod.fst).Nodup)
    (merge : required.foldlM (mergeLabel externals field) map = .ok merged) (key : String) :
    get? key merged =
      ((get? key required).map Value.string).or (get? key map) := by
  induction required generalizing map with
  | nil =>
    cases pure_eq_ok.mp merge
    rfl
  | cons _ _ ih =>
    rw [List.map_cons, List.nodup_cons] at distinct
    simp only [List.foldlM_cons, bind_eq_ok] at merge
    obtain ⟨next, here, later⟩ := merge
    rw [ih distinct.2 later, get?_mergeLabel here, get?]
    split
    next same =>
      rw [← same, get?_eq_none.mpr distinct.1]
      rfl
    · rfl

variable {key message : String} {inner : List (String × Value)}

theorem get?_memberObject (read : memberObject members key field message = .ok inner)
    (label : String) :
    get? label inner = (get? key members).bind (Value.get? label) := by
  rw [memberObject, orError_eq_ok] at read
  cases found : get? key members with
  | none =>
    rw [found] at read
    cases read
    rfl
  | some value =>
    rw [found] at read
    cases value with
    | object =>
      cases read
      rfl
    | _ => cases read

theorem ordered_memberObject (ordered : (Value.object members).Ordered)
    (read : memberObject members key field message = .ok inner) : (Value.object inner).Ordered := by
  rw [memberObject, orError_eq_ok] at read
  cases found : get? key members with
  | none =>
    rw [found] at read
    cases read
    exact .empty
  | some value =>
    have held := ordered.of_mem (mem_of_get? found)
    rw [found] at read
    cases value with
    | object =>
      cases read
      exact held
    | _ => cases read

variable {required : StringMap}

/-- A merge rewrites one member, which then holds what is required over what was there. -/
theorem mergeRequiredStringMap_eq_ok (ordered : (Value.object metadata).Ordered)
    (merge : mergeRequiredStringMap externals key required field metadata = .ok merged) :
    ∃ all, merged = insert key (.object all) metadata ∧ (Value.object all).Ordered ∧
      ∀ label, get? label all = ((required.get? label).map Value.string).or
        ((get? key metadata).bind (Value.get? label)) := by
  simp only [mergeRequiredStringMap, bind_eq_ok, pure_eq_ok] at merge
  obtain ⟨held, read, all, folded, rfl⟩ := merge
  refine ⟨all, rfl, ?_, ?_⟩
  · exact foldlM_preserves (fun _ _ _ => ordered_mergeLabel) _ _ _
      (ordered_memberObject ordered read) folded
  · intro label
    rw [get?_mergeLabels required.sorted.nodup folded, get?_memberObject read]
    rfl

theorem get?_readStrings {pairs : List (String × String)} (read : (map.mapM fun entry => do
      let value ← orError entry.2.asStr
        (ManifestRenderError.invalidField field "all values must be strings")
      return (entry.1, value)) = .ok pairs) :
    pairs.map Prod.fst = map.map Prod.fst ∧
      ∀ label, get? label pairs = (get? label map).bind Value.asStr := by
  induction map generalizing pairs with
  | nil =>
    cases pure_eq_ok.mp read
    exact ⟨rfl, fun _ => rfl⟩
  | cons entry _ ih =>
    obtain ⟨name, value⟩ := entry
    simp only [List.mapM_cons, bind_eq_ok, pure_eq_ok, orError_eq_ok] at read
    obtain ⟨_, ⟨text, isText, rfl⟩, later, laterRead, rfl⟩ := read
    obtain ⟨sameKeys, lookups⟩ := ih laterRead
    constructor
    · rw [List.map_cons, List.map_cons, sameKeys]
    · intro label
      simp only [get?, lookups]
      split
      · exact isText.symm
      · rfl

theorem get?_stringMap {result : StringMap} (found : get? key metadata = some (.object map))
    (ordered : (Value.object map).Ordered) (read : stringMap metadata key field = .ok result)
    (label : String) :
    result.get? label = (get? label map).bind Value.asStr := by
  simp only [stringMap, memberObject, found, bind_eq_ok, pure_eq_ok, orError_eq_ok] at read
  obtain ⟨_, same, pairs, all, rfl⟩ := read
  cases same
  obtain ⟨sameKeys, lookups⟩ := get?_readStrings all
  have distinct : (pairs.map Prod.fst).Nodup := sameKeys ▸ ordered.sorted.nodup
  rw [← lookups]
  cases held : get? label pairs with
  | none => exact Entries.get?_collect_of_notMem (get?_eq_none.mp held)
  | some => exact OrderedMap.get?_ofList distinct (mem_of_get? held)

/-- Merged metadata reads back with every required label and annotation, and with no label that
neither the author nor the renderer wrote. -/
structure MergedMetadata (required annotations : StringMap) (authored : List (String × Value))
    (labels allAnnotations : StringMap) : Prop where
  labelled : Includes required labels
  annotated : Includes annotations allAnnotations
  noOther : ∀ label, required.get? label = none →
    (get? "labels" authored).bind (Value.get? label) = none → labels.get? label = none

theorem mergeMetadata_eq_ok {annotations allAnnotations : StringMap} {path : String}
    (ordered : (Value.object metadata).Ordered)
    (merge : mergeMetadata externals required annotations path metadata = .ok (merged, labels,
      allAnnotations)) :
    MergedMetadata required annotations metadata labels allAnnotations := by
  simp only [mergeMetadata, bind_eq_ok, pure_eq_ok, Prod.mk.injEq] at merge
  obtain ⟨labelled, mergedLabels, _, mergedAnnotations, _, readLabels, _, readAnnotations, rfl,
    rfl, rfl⟩ := merge
  obtain ⟨all, rfl, allOrdered, allGet⟩ := mergeRequiredStringMap_eq_ok ordered mergedLabels
  have labelledOrdered := ordered.insert "labels" allOrdered
  obtain ⟨notes, rfl, notesOrdered, notesGet⟩ :=
    mergeRequiredStringMap_eq_ok labelledOrdered mergedAnnotations
  have labelsHeld : get? "labels" (insert "annotations" (.object notes)
      (insert "labels" (.object all) metadata)) = some (.object all) := by
    rw [get?_insert, if_neg (by decide), get?_insert, if_pos rfl]
  have annotationsHeld : get? "annotations" (insert "annotations" (.object notes)
      (insert "labels" (.object all) metadata)) = some (.object notes) := by
    rw [get?_insert, if_pos rfl]
  have labelsGet := get?_stringMap labelsHeld allOrdered readLabels
  have annotationsGet := get?_stringMap annotationsHeld notesOrdered readAnnotations
  constructor
  · intro label value needed
    rw [labelsGet, allGet, needed]
    rfl
  · intro label value needed
    rw [annotationsGet, notesGet, needed]
    rfl
  · intro label unneeded unwritten
    rw [labelsGet, allGet, unneeded, unwritten]
    rfl

theorem ordered_mergeMetadata {annotations allAnnotations : StringMap} {path : String}
    (ordered : (Value.object metadata).Ordered)
    (merge : mergeMetadata externals required annotations path metadata = .ok (merged, labels,
      allAnnotations)) : (Value.object merged).Ordered := by
  simp only [mergeMetadata, bind_eq_ok, pure_eq_ok, Prod.mk.injEq] at merge
  obtain ⟨_, mergedLabels, _, mergedAnnotations, _, _, _, _, rfl, _, _⟩ := merge
  obtain ⟨_, rfl, allOrdered, _⟩ := mergeRequiredStringMap_eq_ok ordered mergedLabels
  have labelledOrdered := ordered.insert "labels" allOrdered
  obtain ⟨_, rfl, notesOrdered, _⟩ := mergeRequiredStringMap_eq_ok labelledOrdered mergedAnnotations
  exact labelledOrdered.insert "annotations" notesOrdered

end merging

/-! ### Raw objects -/

section raw

variable {externals : Externals} {labels annotations : StringMap} {rendered : List (String × Value)}

theorem rawPodTemplateMetadata_eq_ok
    {template : PodTemplateMetadata} (ordered : (Value.object members).Ordered)
    (read : rawPodTemplateMetadata externals labels annotations members =
      .ok (rendered, template)) :
    (∃ metadata, MergedMetadata labels annotations metadata template.labels template.annotations ∧
      ∀ label, (get? "labels" metadata).bind (Value.get? label) =
        ((Value.object members).pointer ["spec", "template", "metadata", "labels"]).bind
          (Value.get? label)) ∧
      ∃ spec pods, rendered = insert "spec" (.object (insert "template"
        (.object pods) spec)) members := by
  simp only [rawPodTemplateMetadata, bind_eq_ok, pure_eq_ok, Prod.mk.injEq] at read
  obtain ⟨spec, readSpec, pods, readPods, metadata, readMetadata, ⟨merged, allLabels,
    allAnnotations⟩, merge, rfl, rfl⟩ := read
  have metadataOrdered := ordered_memberObject
    (ordered_memberObject (ordered_memberObject ordered readSpec) readPods) readMetadata
  refine ⟨⟨metadata, mergeMetadata_eq_ok metadataOrdered merge, ?_⟩, spec, _, rfl⟩
  intro label
  rw [get?_memberObject readMetadata, get?_memberObject readPods, get?_memberObject readSpec]
  simp only [Value.pointer, Option.bind_assoc, Option.bind_some]
  rfl

variable {namespaceName : String}

theorem rawEffectiveNamespace_eq_ok {namespaced : Bool} {effective : Option String}
    (read : rawEffectiveNamespace externals metadata namespaceName namespaced = .ok effective) :
    effective = if namespaced = true then some namespaceName else none := by
  unfold rawEffectiveNamespace at read
  dsimp only at read
  split at read
  · cases read
  · cases read
    rfl
  · cases read
    rfl
  · simp only [bind_eq_ok, require_eq_ok, pure_eq_ok] at read
    obtain ⟨_, _, _, _, _, same, rfl⟩ := read
    rw [same]
    rfl
  · cases read

theorem ordered_placeRawMetadata (ordered : (Value.object metadata).Ordered)
    (placed : Option String) :
    (Value.object (placeRawMetadata metadata placed)).Ordered := by
  cases placed with
  | none => exact ordered.erase _
  | some => exact ordered.insert _ (.string _)

structure RawRendered (namespaceName : String) (labels annotations : StringMap)
    (rendered : RenderedManifestObject) (raw : RawKubernetesObject) : Prop where
  object : rendered.object = .raw raw
  order : rawApplyOrder raw.apiVersion raw.kind = .ok rendered.applyOrder
  named : isDnsLabel raw.metadata.name = true
  placed : raw.metadata.namespaceName =
    if raw.kind = "PersistentVolume" then none else some namespaceName
  labelled : Includes labels raw.metadata.labels
  annotated : Includes annotations raw.metadata.annotations
  podsLabelled : ∀ template, raw.podTemplateMetadata = some template →
    Includes labels template.labels
  podsAnnotated : ∀ template, raw.podTemplateMetadata = some template →
    Includes annotations template.annotations
  reserved : ∀ template, raw.podTemplateMetadata = some template →
    labels.get? labelWorkloadName = none → template.labels.get? labelWorkloadName = none
  shape : RawShape raw

theorem rejectRawPrimarySelector_eq_ok {value : Value}
    (passed : rejectRawPrimarySelector value = .ok ()) :
    (value.pointer ["spec", "template", "metadata", "labels"]).bind
      (Value.get? labelWorkloadName) = none := by
  simp only [rejectRawPrimarySelector, require_eq_ok, List.any_cons, Bool.or_eq_false_iff] at passed
  exact Option.not_isSome_iff_eq_none.mp (Bool.eq_false_iff.mp passed.1.2.1)

theorem rawKindIsNamespaced_eq {kind : String} :
    (if rawKindIsNamespaced kind = true then some namespaceName else none) =
      if kind = "PersistentVolume" then none else some namespaceName := by
  unfold rawKindIsNamespaced
  by_cases volume : kind = "PersistentVolume"
  · rw [if_pos volume, if_neg (by simp [volume])]
  · rw [if_neg volume, if_pos (by simp [volume])]

/-- The pods of a raw workload carry what is required, and only the author could have given them
the reserved label. -/
structure PodsRendered (labels annotations : StringMap) (authored : List (String × Value))
    (template : PodTemplateMetadata) : Prop where
  labelled : Includes labels template.labels
  annotated : Includes annotations template.annotations
  noOther : ∀ label, labels.get? label = none →
    ((Value.object authored).pointer ["spec", "template", "metadata", "labels"]).bind
      (Value.get? label) = none → template.labels.get? label = none

theorem renderRawPods_eq_ok {kind : String} {pods : Option PodTemplateMetadata}
    (ordered : (Value.object members).Ordered)
    (render : renderRawPods externals labels annotations kind members = .ok (rendered, pods)) :
    (∀ template, pods = some template → PodsRendered labels annotations members template) ∧
      (pods.isSome = true → ((Value.object rendered).index "spec").isOpen = true ∧
        (((Value.object rendered).index "spec").index "template").isOpen = true) := by
  unfold renderRawPods at render
  split at render
  · simp only [bind_eq_ok, pure_eq_ok, Prod.mk.injEq] at render
    obtain ⟨⟨_, template⟩, read, rfl, rfl⟩ := render
    obtain ⟨⟨metadata, merged, authored⟩, spec, inner, rfl⟩ :=
      rawPodTemplateMetadata_eq_ok ordered read
    constructor
    · intro other same
      cases same
      constructor
      · exact merged.labelled
      · exact merged.annotated
      · intro label unneeded unwritten
        exact merged.noOther label unneeded ((authored label).trans unwritten)
    · intro _
      have specHeld : (Value.object (insert "spec" (.object (insert "template"
          (.object inner) spec)) members)).index "spec" =
          .object (insert "template" (.object inner) spec) :=
        Value.index_of_get? (get?_insert.trans (if_pos rfl))
      have podsHeld : (Value.object (insert "template" (.object inner) spec)).index
          "template" = .object inner :=
        Value.index_of_get? (get?_insert.trans (if_pos rfl))
      rw [specHeld, podsHeld]
      exact ⟨rfl, rfl⟩
  · cases render
    simp

theorem renderRawMembers_eq_ok {rendered : RenderedManifestObject}
    (ordered : (Value.object members).Ordered)
    (reserved : rejectRawPrimarySelector (.object members) = .ok ())
    (render : renderRawMembers externals members namespaceName labels annotations = .ok rendered) :
    ∃ raw, RawRendered namespaceName labels annotations rendered raw := by
  simp only [renderRawMembers, bind_eq_ok, pure_eq_ok] at render
  obtain ⟨apiVersion, _, kind, _, applyOrder, order, metadata, readMetadata, name, _, ⟨⟩, named,
    effective, placed, ⟨merged, allLabels, allAnnotations⟩, merge, ⟨final, pods⟩, podsRead,
    rfl⟩ := render
  have metadataOrdered := ordered_placeRawMetadata (ordered_memberObject ordered readMetadata)
    effective
  have own := mergeMetadata_eq_ok metadataOrdered merge
  have placedOrdered : (Value.object (insert "metadata" (.object merged) members)).Ordered :=
    ordered.insert _ (ordered_mergeMetadata metadataOrdered merge)
  obtain ⟨each, shape⟩ := renderRawPods_eq_ok placedOrdered podsRead
  have unwritten : ((Value.object (insert "metadata" (.object merged) members)).pointer
      ["spec", "template", "metadata", "labels"]).bind (Value.get? labelWorkloadName) = none := by
    have same : (Value.object (insert "metadata" (.object merged) members)).get? "spec" =
        (Value.object members).get? "spec" :=
      get?_insert.trans (if_neg (by decide))
    rw [Value.pointer, same]
    exact rejectRawPrimarySelector_eq_ok reserved
  refine ⟨_, rfl, order, require_eq_ok.mp named, ?_, own.labelled, own.annotated, ?_, ?_, ?_, ?_⟩
  · exact (rawEffectiveNamespace_eq_ok placed).trans rawKindIsNamespaced_eq
  · exact fun template has => (each template has).labelled
  · exact fun template has => (each template has).annotated
  · exact fun template has unneeded => (each template has).noOther _ unneeded unwritten
  · exact ⟨rfl, fun has => (shape has).1, fun has => (shape has).2⟩

theorem renderRawObject_eq_ok {template : RawKubernetesManifestTemplate} {record : InstanceRecord}
    {rendered : RenderedManifestObject}
    (render : renderRawObject externals template record namespaceName labels annotations =
      .ok rendered) :
    ∃ raw, RawRendered namespaceName labels annotations rendered raw := by
  simp only [renderRawObject, bindRawObject, bind_eq_ok, orError_eq_ok] at render
  obtain ⟨members, ⟨document, _, ⟨⟩, _, parsed, _, ⟨⟩, reserved, isObject⟩, rest⟩ := render
  have ordered : (document.bind parsed.value).Ordered :=
    PlaceholderDocument.bind_ordered parsed.ordered
  cases bound : document.bind parsed.value with
  | object =>
    rw [bound] at isObject ordered reserved
    cases isObject
    exact renderRawMembers_eq_ok ordered reserved rest
  | _ =>
    rw [bound] at isObject
    cases isObject

end raw

end Sleepypods.Manifest
