import Sleepypods.Projection.Objects

/-! Projection plans: the objects of one materialization with the ownership stamp each of them must
carry, and the classification of what was found live under their references. -/

set_option autoImplicit false

namespace Sleepypods.Projection

open Library Library.Fallible Store

def labelManagedBy : String := "app.kubernetes.io/managed-by"

def labelManagedByValue : String := "sleepypods"

def labelInstanceId : String := "sleepypods.io/instance-id"

def annotationMaterializationId : String := "sleepypods.io/materialization-id"

def annotationRenderedHash : String := "sleepypods.io/rendered-hash"

structure MaterializationRecord where
  id : MaterializationId
  instanceId : InstanceId
  projectionGeneration : Nat
  renderedObjects : List RenderedObjectRef

/-- The stamp a live object must carry. The generation is compared as a number. -/
structure ExpectedOwnershipStamp where
  materializationId : String
  instanceId : String
  instanceGeneration : Nat
  renderedHash : Option String

def ExpectedOwnershipStamp.new (record : MaterializationRecord) (renderedHash : Option String) :
    ExpectedOwnershipStamp where
  materializationId := record.id.value
  instanceId := record.instanceId.value
  instanceGeneration := record.projectionGeneration
  renderedHash := renderedHash

def stampLabels (record : MaterializationRecord) (labels : Table String String) :
    Table String String :=
  ((labels.insert labelManagedBy labelManagedByValue).insert labelInstanceId
    record.instanceId.value).insert labelInstanceGeneration (toString record.projectionGeneration)

def stampAnnotations (record : MaterializationRecord) (annotations : Table String String) :
    Table String String :=
  (annotations.insert annotationMaterializationId record.id.value).erase annotationRenderedHash

def stampObjectBase (record : MaterializationRecord) (object : KubernetesObject) :
    KubernetesObject :=
  let stamped : KubernetesObject :=
    { object with
      metadata :=
        { object.metadata with
          labels := stampLabels record object.metadata.labels
          annotations := stampAnnotations record object.metadata.annotations } }
  stamped.mapPodTemplate fun template =>
    { labels := stampLabels record template.labels
      annotations := stampAnnotations record template.annotations }

def mapAnnotations (change : Table String String → Table String String)
    (object : KubernetesObject) : KubernetesObject :=
  let changed : KubernetesObject :=
    { object with
      metadata := { object.metadata with annotations := change object.metadata.annotations } }
  changed.mapPodTemplate fun template =>
    { template with annotations := change template.annotations }

def stampRenderedHash (renderedHash : String) (object : KubernetesObject) : KubernetesObject :=
  mapAnnotations (fun annotations => annotations.insert annotationRenderedHash renderedHash) object

def fnv1a64 (bytes : List UInt8) : UInt64 :=
  bytes.foldl (fun hash byte => (hash ^^^ byte.toUInt64) * 0x00000100000001b3) 0xcbf29ce484222325

def hexDigits (value : UInt64) : String :=
  String.ofList ((List.range 16).reverse.map fun place =>
    Nat.digitChar (value.toNat / 16 ^ place % 16))

/-- The hash of an object without its own hash, over the JSON it serializes to. -/
def renderedHashForObject (toKubernetesJson : KubernetesObject → String)
    (object : KubernetesObject) : String :=
  let bare := mapAnnotations (fun annotations => annotations.erase annotationRenderedHash) object
  hexDigits (fnv1a64 (toKubernetesJson bare).toUTF8.toList)

/-! ### Plans -/

structure ProjectionObjectPlan where
  objectRef : RenderedObjectRef
  expected : ExpectedOwnershipStamp

def RenderedManifest.refs (manifest : RenderedManifest) : List RenderedObjectRef :=
  (orderedObjects manifest).map fun rendered => renderedObjectRef rendered.object

/-- The objects of one materialization. Every stamp is of that materialization, and a plan with a
manifest plans each of its objects, with the hash the object carries. -/
structure ProjectionPlan where
  materializationId : MaterializationId
  instanceId : InstanceId
  instanceGeneration : Nat
  manifest : Option RenderedManifest
  objects : List ProjectionObjectPlan
  stamped : ∀ object ∈ objects, object.expected.materializationId = materializationId.value ∧
    object.expected.instanceId = instanceId.value ∧
    object.expected.instanceGeneration = instanceGeneration
  planned : ∀ rendered, manifest = some rendered → objects.map (·.objectRef) = rendered.refs
  hashed : ∀ rendered, manifest = some rendered → ∀ item ∈ rendered.objects,
    ∀ object ∈ objects, object.objectRef = renderedObjectRef item.object →
      (item.object.metadata.annotations.find? annotationRenderedHash).isSome ∧
      object.expected.renderedHash =
        item.object.metadata.annotations.find? annotationRenderedHash

def ProjectionPlan.objectRefs (plan : ProjectionPlan) : List RenderedObjectRef :=
  plan.objects.map (·.objectRef)

def ProjectionPlan.fromRecordedRefs (record : MaterializationRecord) : ProjectionPlan where
  materializationId := record.id
  instanceId := record.instanceId
  instanceGeneration := record.projectionGeneration
  manifest := none
  objects := record.renderedObjects.map fun objectRef =>
    { objectRef := objectRef, expected := .new record none }
  stamped := by
    intro object member
    obtain ⟨objectRef, -, rfl⟩ := List.mem_map.mp member
    exact ⟨rfl, rfl, rfl⟩
  planned := nofun
  hashed := nofun

/-- The manifest of a materialization, each object with its ownership stamp and hash. -/
def stampManifest (toKubernetesJson : KubernetesObject → String) (record : MaterializationRecord)
    (manifest : RenderedManifest) : RenderedManifest :=
  { manifest with
    objects := manifest.objects.map fun rendered =>
      let stamped := stampObjectBase record rendered.object
      { rendered with
        object := stampRenderedHash (renderedHashForObject toKubernetesJson stamped) stamped } }

def renderedHash (rendered : RenderedManifestObject) : Option String :=
  rendered.object.metadata.annotations.find? annotationRenderedHash

def expectedStamps (record : MaterializationRecord) (manifest : RenderedManifest) :
    Table RenderedObjectRef ExpectedOwnershipStamp :=
  manifest.objects.foldl (fun expected rendered =>
    expected.insert (renderedObjectRef rendered.object) (.new record (renderedHash rendered))) .empty

def takeExpected : List RenderedObjectRef → Table RenderedObjectRef ExpectedOwnershipStamp →
    Except MaterializerError (List ProjectionObjectPlan)
  | [], _ => .ok []
  | objectRef :: rest, expected => do
      let stamp ← orError (expected.find? objectRef) .panicked
      let objects ← takeExpected rest (expected.erase objectRef)
      return { objectRef := objectRef, expected := stamp } :: objects

variable {refs : List RenderedObjectRef}

theorem validateRenderedObjectRefs_nodup {seen : List RenderedObjectRef}
    (validated : validateRenderedObjectRefs seen refs = .ok ()) :
    refs.Nodup ∧ ∀ object ∈ refs, object ∉ seen := by
  induction refs generalizing seen with
  | nil => exact ⟨List.nodup_nil, nofun⟩
  | cons object _ ih =>
    simp only [validateRenderedObjectRefs, bind_eq_ok, require_eq_ok, exists_const] at validated
    obtain ⟨_, -, unseen, rested⟩ := validated
    obtain ⟨distinct, fresh⟩ := ih rested
    refine ⟨List.nodup_cons.mpr ⟨fun repeated => ?_, distinct⟩, fun other member => ?_⟩
    · exact fresh object repeated List.mem_cons_self
    · rcases List.mem_cons.mp member with rfl | later
      · exact unseen
      · exact fun already => fresh other later (List.mem_cons_of_mem _ already)

theorem nodup_of_renderedObjectRefs {manifest : RenderedManifest}
    (rendered : renderedObjectRefs manifest = .ok refs) :
    (manifest.objects.map fun item => renderedObjectRef item.object).Nodup := by
  simp only [renderedObjectRefs, bind_eq_ok, pure_eq_ok] at rendered
  obtain ⟨_, -, _, validated, -⟩ := rendered
  have sorted := (validateRenderedObjectRefs_nodup validated).1
  exact ((List.mergeSort_perm manifest.objects _).map _).nodup_iff.mp sorted

/-- What taking the stamps gives: the references in order, each with a stamp of the table. -/
theorem takeExpected_eq_ok {expected : Table RenderedObjectRef ExpectedOwnershipStamp}
    {objects : List ProjectionObjectPlan} (taken : takeExpected refs expected = .ok objects) :
    objects.map (·.objectRef) = refs ∧
      ∀ object ∈ objects, expected.find? object.objectRef = some object.expected := by
  induction refs generalizing expected objects with
  | nil =>
    cases taken
    exact ⟨rfl, nofun⟩
  | cons objectRef _ ih =>
    simp only [takeExpected, bind_eq_ok, orError_eq_ok, pure_eq_ok] at taken
    obtain ⟨stamp, found, others, rested, rfl⟩ := taken
    obtain ⟨sameRefs, stamps⟩ := ih rested
    refine ⟨by rw [List.map_cons, sameRefs], fun object member => ?_⟩
    rcases List.mem_cons.mp member with rfl | later
    · exact found
    · have kept := stamps object later
      rw [Table.find?_erase] at kept
      by_cases same : object.objectRef = objectRef
      · rw [same, Function.update_self] at kept
        cases kept
      · rwa [Function.update_of_ne same] at kept

section fromManifest

variable {record : MaterializationRecord} {manifest : RenderedManifest}
  {refs : List RenderedObjectRef} {objects : List ProjectionObjectPlan}

variable (rendered : renderedObjectRefs manifest = .ok refs)
  (taken : takeExpected refs (expectedStamps record manifest) = .ok objects)

include rendered taken

theorem expected_of_taken {object : ProjectionObjectPlan} (member : object ∈ objects)
    {item : RenderedManifestObject} (itemMember : item ∈ manifest.objects)
    (same : object.objectRef = renderedObjectRef item.object) :
    object.expected = .new record (renderedHash item) := by
  have found := (takeExpected_eq_ok taken).2 object member
  rw [same, expectedStamps, Table.find?_foldl_insert (nodup_of_renderedObjectRefs rendered) _
    itemMember] at found
  exact (Option.some.inj found).symm

theorem exists_item_of_taken {object : ProjectionObjectPlan} (member : object ∈ objects) :
    ∃ item ∈ manifest.objects, object.objectRef = renderedObjectRef item.object := by
  have planned : object.objectRef ∈ objects.map (·.objectRef) := List.mem_map_of_mem member
  rw [(takeExpected_eq_ok taken).1, renderedObjectRefs_eq_ok rendered] at planned
  obtain ⟨item, itemMember, same⟩ := List.mem_map.mp planned
  exact ⟨item, mem_orderedObjects.mp itemMember, same.symm⟩

end fromManifest

theorem renderedHash_of_stamped {toKubernetesJson : KubernetesObject → String}
    {record : MaterializationRecord} {manifest : RenderedManifest} {item : RenderedManifestObject}
    (member : item ∈ (stampManifest toKubernetesJson record manifest).objects) :
    (renderedHash item).isSome = true := by
  obtain ⟨original, -, rfl⟩ := List.mem_map.mp member
  simp [renderedHash, stampRenderedHash, mapAnnotations, KubernetesObject.mapPodTemplate]

def ProjectionPlan.fromManifest (toKubernetesJson : KubernetesObject → String)
    (record : MaterializationRecord) (manifest : RenderedManifest) :
    Except MaterializerError ProjectionPlan :=
  let stamped := stampManifest toKubernetesJson record manifest
  match rendered : renderedObjectRefs stamped with
  | .error error => .error error
  | .ok refs =>
    match taken : takeExpected refs (expectedStamps record stamped) with
    | .error error => .error error
    | .ok objects =>
      .ok
        { materializationId := record.id
          instanceId := record.instanceId
          instanceGeneration := record.projectionGeneration
          manifest := some stamped
          objects := objects
          stamped := by
            intro object member
            obtain ⟨item, itemMember, same⟩ := exists_item_of_taken rendered taken member
            rw [expected_of_taken rendered taken member itemMember same]
            exact ⟨rfl, rfl, rfl⟩
          planned := by
            rintro _ ⟨⟩
            rw [(takeExpected_eq_ok taken).1, renderedObjectRefs_eq_ok rendered]
            rfl
          hashed := by
            rintro _ ⟨⟩ item itemMember object member same
            refine ⟨renderedHash_of_stamped itemMember, ?_⟩
            rw [expected_of_taken rendered taken member itemMember same]
            rfl }

theorem exists_takeExpected {expected : Table RenderedObjectRef ExpectedOwnershipStamp}
    (distinct : refs.Nodup) (stamped : ∀ objectRef ∈ refs, (expected.find? objectRef).isSome) :
    ∃ objects, takeExpected refs expected = .ok objects := by
  induction refs generalizing expected with
  | nil => exact ⟨[], rfl⟩
  | cons objectRef rest ih =>
    obtain ⟨new, distinct⟩ := List.nodup_cons.mp distinct
    obtain ⟨first, later⟩ := List.forall_mem_cons.mp stamped
    obtain ⟨stamp, found⟩ := Option.isSome_iff_exists.mp first
    obtain ⟨objects, taken⟩ := @ih (expected.erase objectRef) distinct fun other member => by
      have different : other ≠ objectRef := fun same => new (same ▸ member)
      simpa [Table.find?_erase, different] using later other member
    simp [takeExpected, found, taken]

/-- Planning fails only where the references of the manifest do: every reference finds its stamp. -/
theorem valid_manifests_are_planned (toKubernetesJson : KubernetesObject → String)
    (record : MaterializationRecord) (manifest : RenderedManifest) :
    (∃ plan, ProjectionPlan.fromManifest toKubernetesJson record manifest = .ok plan) ↔
      ∃ refs, renderedObjectRefs (stampManifest toKubernetesJson record manifest) = .ok refs := by
  unfold ProjectionPlan.fromManifest
  dsimp only
  split
  next failed => simp [failed]
  next refs rendered =>
    have distinct := nodup_of_renderedObjectRefs rendered
    have taken : ∃ objects, takeExpected refs (expectedStamps record
        (stampManifest toKubernetesJson record manifest)) = .ok objects := by
      rw [renderedObjectRefs_eq_ok rendered]
      apply exists_takeExpected (((List.mergeSort_perm _ _).map _).nodup_iff.mpr distinct)
      intro objectRef member
      obtain ⟨item, ordered, rfl⟩ := List.mem_map.mp member
      rw [expectedStamps, Table.find?_foldl_insert distinct _ (mem_orderedObjects.mp ordered)]
      rfl
    split
    next failed => simp [failed] at taken
    · exact iff_of_true ⟨_, rfl⟩ ⟨refs, rendered⟩

/-! ### Classification -/

structure LiveObjectMetadata where
  persistentVolumeReclaimPolicy : Option String
  identity : LiveObjectIdentity
  labels : Table String String
  annotations : Table String String
  deleting : Bool
  finalizers : List String

inductive ProjectionObjectInspection where
  | missing
  | present (live : LiveObjectMetadata)

inductive ProjectionObservationState where
  | missing
  | presentOwned
  | presentUnowned
  | deletingOwned
  | deletingUnowned
  | applyRejected
  | deleteBlocked
  | inspectFailed
  deriving DecidableEq

structure ProjectionObservation where
  persistentVolumeReclaimPolicy : Option String
  identity : Option LiveObjectIdentity
  objectRef : RenderedObjectRef
  state : ProjectionObservationState
  reason : Option String
  finalizers : List String

def boundDetail (value : String) : String := String.ofList (value.toList.take 160)

def boundFinalizers (finalizers : List String) : List String :=
  ((finalizers.mergeSort fun former latter => decide (former ≤ latter)).take 5).map boundDetail

def ProjectionObservation.new (objectRef : RenderedObjectRef) (state : ProjectionObservationState)
    (reason : Option String) (finalizers : List String) : ProjectionObservation where
  persistentVolumeReclaimPolicy := none
  identity := none
  objectRef := objectRef
  state := state
  reason := reason.map boundDetail
  finalizers := boundFinalizers finalizers

def ProjectionObservation.isUnownedConflict (observation : ProjectionObservation) : Bool :=
  observation.state == .presentUnowned || observation.state == .deletingUnowned

/-- `str::parse::<u64>`: decimal digits, after an optional plus sign. -/
def parseU64 (text : String) : Option Nat :=
  let digits := if text.toList.head? = some '+' then text.toList.drop 1 else text.toList
  if digits.isEmpty || !digits.all Char.isDigit then none
  else
    let value := digits.foldl (fun value digit => value * 10 + (digit.toNat - '0'.toNat)) 0
    if value < 2 ^ 64 then some value else none

def liveGeneration (live : LiveObjectMetadata) : Option Nat :=
  (live.labels.find? labelInstanceGeneration).bind parseU64

def ownershipMismatchReason (live : LiveObjectMetadata) (expected : ExpectedOwnershipStamp) :
    Option String :=
  if live.labels.find? labelManagedBy ≠ some labelManagedByValue then some "managed_by_mismatch"
  else if live.labels.find? labelInstanceId ≠ some expected.instanceId then
    some "instance_id_mismatch"
  else if live.annotations.find? annotationMaterializationId ≠ some expected.materializationId then
    some "materialization_id_mismatch"
  else
    match liveGeneration live with
    | none => some "generation_mismatch"
    | some generation =>
      -- Leftovers of an older generation of the same instance belong to the newer one.
      if generation < expected.instanceGeneration then none
      else if generation = expected.instanceGeneration then
        match expected.renderedHash with
        | none => none
        | some hash =>
          if live.annotations.find? annotationRenderedHash ≠ some hash then
            some "rendered_hash_mismatch"
          else none
      else some "generation_mismatch"

def classifyObject (object : ProjectionObjectPlan) :
    ProjectionObjectInspection → ProjectionObservation
  | .missing => .new object.objectRef .missing none []
  | .present live =>
    let reason := ownershipMismatchReason live object.expected
    let state :=
      match live.deleting, reason.isNone with
      | false, true => .presentOwned
      | false, false => .presentUnowned
      | true, true => .deletingOwned
      | true, false => .deletingUnowned
    { ProjectionObservation.new object.objectRef state reason live.finalizers with
      identity := some live.identity
      persistentVolumeReclaimPolicy := live.persistentVolumeReclaimPolicy }

/-- The live object carries the stamp of this plan, at a generation that is not newer. -/
structure OwnedBy (plan : ProjectionPlan) (live : LiveObjectMetadata) : Prop where
  managed : live.labels.find? labelManagedBy = some labelManagedByValue
  named : live.labels.find? labelInstanceId = some plan.instanceId.value
  materialization : live.annotations.find? annotationMaterializationId =
    some plan.materializationId.value
  generation : ∃ generation, liveGeneration live = some generation ∧
    generation ≤ plan.instanceGeneration

theorem ownershipMismatchReason_eq_none {live : LiveObjectMetadata}
    {expected : ExpectedOwnershipStamp} (owned : ownershipMismatchReason live expected = none) :
    live.labels.find? labelManagedBy = some labelManagedByValue ∧
      live.labels.find? labelInstanceId = some expected.instanceId ∧
      live.annotations.find? annotationMaterializationId = some expected.materializationId ∧
      ∃ generation, liveGeneration live = some generation ∧
        generation ≤ expected.instanceGeneration ∧
        (generation = expected.instanceGeneration → ∀ hash, expected.renderedHash = some hash →
          live.annotations.find? annotationRenderedHash = some hash) := by
  unfold ownershipMismatchReason at owned
  split at owned
  · cases owned
  next managed =>
    split at owned
    · cases owned
    next named =>
      split at owned
      · cases owned
      next materialization =>
        refine ⟨not_not.mp managed, not_not.mp named, not_not.mp materialization, ?_⟩
        split at owned
        · cases owned
        next generation found =>
          refine ⟨generation, found, ?_⟩
          split at owned
          next older => exact ⟨Nat.le_of_lt older, fun same => absurd same (Nat.ne_of_lt older)⟩
          · split at owned
            next same =>
              refine ⟨Nat.le_of_eq same, fun _ hash expectedHash => ?_⟩
              rw [expectedHash] at owned
              by_contra different
              simp [different] at owned
            · cases owned

end Sleepypods.Projection
