import Sleepypods.Projection.Reconciler

/-! What a reconciler asks of the cluster is justified by what it observed there: nothing that another
owner may rely on is created over, patched or deleted, and a deletion that succeeds saw everything
gone. -/

set_option autoImplicit false

namespace Sleepypods.Projection

open Library Library.Fallible Store Procedure Journaled

/-! ### Observations -/

/-- The observations are those of the objects, and every inspection in the journal is one of them. -/
structure Inspected (objects : List ProjectionObjectPlan)
    (observations : List ProjectionObservation) (journal : List KubeEvent) : Prop where
  planned : ∀ object ∈ objects, ∃ answer, .inspected object.objectRef answer ∈ journal ∧
    classifyObject object answer ∈ observations
  observed : ∀ observation ∈ observations, ∃ object ∈ objects, ∃ answer,
    observation = classifyObject object answer ∧ .inspected object.objectRef answer ∈ journal
  journaled : ∀ objectRef answer, .inspected objectRef answer ∈ journal →
    ∃ object ∈ objects, object.objectRef = objectRef ∧ classifyObject object answer ∈ observations

theorem Inspected.nil : Inspected [] [] [] := ⟨nofun, nofun, nofun⟩

variable {observations : List ProjectionObservation}

theorem Inspected.cons {objects : List ProjectionObjectPlan} {journal : List KubeEvent}
    (rest : Inspected objects observations journal) (object : ProjectionObjectPlan)
    (answer : ProjectionObjectInspection) :
    Inspected (object :: objects) (classifyObject object answer :: observations)
      (journal ++ [.inspected object.objectRef answer]) := by
  constructor
  · intro other member
    rcases List.mem_cons.mp member with rfl | later
    · exact ⟨answer, by simp, List.mem_cons_self⟩
    · obtain ⟨found, noted, classified⟩ := rest.planned other later
      exact ⟨found, List.mem_append_left _ noted, List.mem_cons_of_mem _ classified⟩
  · intro observation member
    rcases List.mem_cons.mp member with rfl | later
    · exact ⟨object, List.mem_cons_self, answer, rfl, by simp⟩
    · obtain ⟨other, planned, found, classified, noted⟩ := rest.observed observation later
      exact ⟨other, List.mem_cons_of_mem _ planned, found, classified, List.mem_append_left _ noted⟩
  · intro objectRef found noted
    rcases List.mem_append.mp noted with later | here
    · obtain ⟨other, planned, same, classified⟩ := rest.journaled objectRef found later
      exact ⟨other, List.mem_cons_of_mem _ planned, same, List.mem_cons_of_mem _ classified⟩
    · cases List.mem_singleton.mp here
      exact ⟨object, List.mem_cons_self, rfl, List.mem_cons_self⟩

section inspect

variable {World : Type} {client : KubernetesMaterializerClient World}

variable (faithful : client.Faithful)

include faithful

theorem shows_inspectPlanned (object : ProjectionObjectPlan) :
    Shows (fun observation added => ∃ answer, observation = classifyObject object answer ∧
      added = [.inspected object.objectRef answer]) (inspectPlanned client object) :=
  (faithful.inspects object.objectRef).shown.mapError.bind fun answer => .pure <| by
    rintro _ rfl
    exact ⟨answer, rfl, rfl⟩

variable (plan : ProjectionPlan)

include plan

theorem shows_inspect :
    Shows (fun observations added => Inspected plan.objects observations added)
      (inspect client plan) := by
  unfold inspect
  induction plan.objects with
  | nil => exact .pure .nil
  | cons object _ ih =>
    refine (shows_inspectPlanned faithful object).bind fun observation => ih.bind fun others => ?_
    refine .pure fun later inspected earlier noted => ?_
    obtain ⟨answer, rfl, rfl⟩ := noted
    exact inspected.cons object answer

inductive IsInspection : KubeEvent → Prop where
  | inspected (objectRef : RenderedObjectRef) (answer : ProjectionObjectInspection) :
      IsInspection (.inspected objectRef answer)

theorem adds_inspect : Adds IsInspection (inspect client plan) := by
  refine .collect fun object _ => ?_
  exact ((faithful.inspects object.objectRef).adds fun answer => .inspected _ answer).mapError.bind
    fun _ => .pure _

structure JustInspected (plan : ProjectionPlan) (may : KubeEvent → List KubeEvent → Prop)
    (before : List KubeEvent → Prop) (observations : List ProjectionObservation)
    (journal : List KubeEvent) : Prop where
  justified : Justified may journal
  recent : ∃ added earlier, journal = added ++ earlier ∧ before earlier ∧
    (∀ event ∈ added, IsInspection event) ∧ Inspected plan.objects observations added

/-- An inspection from a justified journal, under rules that allow inspections. -/
theorem inspect_ensures (may : KubeEvent → List KubeEvent → Prop) (before : List KubeEvent → Prop)
    (allows : ∀ event, IsInspection event → ∀ earlier, may event earlier)
    (justified : ∀ journal, before journal → Justified may journal) :
    Ensures (fun state => before state.journal) (inspect client plan)
      (fun observations state => JustInspected plan may before observations state.journal)
      fun state => Justified may state.journal := by
  have extended : ∀ added journal, before journal → (∀ event ∈ added, IsInspection event) →
      Justified may (added ++ journal) := fun added journal holds inspections =>
    (justified journal holds).append fun event member => allows event (inspections event member)
  refine (shows_inspect faithful plan).ensures (adds_inspect faithful plan) ?_
    fun journal added holds inspections => extended added journal holds inspections
  intro journal observations added holds inspected inspections
  exact ⟨extended added journal holds inspections, added, journal, rfl, holds, inspections, inspected⟩

end inspect

theorem rejectUnowned_eq_ok (accepted : rejectUnowned observations = .ok ()) :
    ∀ observation ∈ observations, observation.isUnownedConflict = false := by
  intro observation member
  rw [rejectUnowned, require_eq_ok, List.filter_eq_nil_iff] at accepted
  simpa using accepted observation member

theorem rejectUnsafeVolumes_eq_ok {before : List ProjectionObservation}
    (accepted : rejectUnsafeVolumes before = .ok ()) :
    ∀ observation ∈ before, isUnsafeVolume observation = false := by
  intro observation member
  rw [rejectUnsafeVolumes, require_eq_ok, List.map_eq_nil_iff, List.filter_eq_nil_iff] at accepted
  simpa using accepted observation member

variable {object : ProjectionObjectPlan} {live : LiveObjectMetadata}

theorem mismatch_eq_none_of_accepted
    (accepted : (classifyObject object (.present live)).isUnownedConflict = false) :
    ownershipMismatchReason live object.expected = none := by
  cases reason : ownershipMismatchReason live object.expected with
  | none => rfl
  | some =>
    cases deleting : live.deleting <;>
      simp [classifyObject, ProjectionObservation.isUnownedConflict, ProjectionObservation.new,
        reason, deleting] at accepted

theorem ownedBy_of_accepted {plan : ProjectionPlan} (planned : object ∈ plan.objects)
    (accepted : (classifyObject object (.present live)).isUnownedConflict = false) :
    OwnedBy plan live ∧ (liveGeneration live = some plan.instanceGeneration →
      ∀ hash, object.expected.renderedHash = some hash →
        live.annotations.find? annotationRenderedHash = some hash) := by
  obtain ⟨managed, named, materialization, generation, found, notNewer, hashed⟩ :=
    ownershipMismatchReason_eq_none (mismatch_eq_none_of_accepted accepted)
  obtain ⟨sameMaterialization, sameInstance, sameGeneration⟩ := plan.stamped object planned
  rw [sameInstance] at named
  rw [sameMaterialization] at materialization
  rw [sameGeneration] at notNewer hashed
  refine ⟨⟨managed, named, materialization, generation, found, notNewer⟩, fun current => ?_⟩
  rw [found] at current
  exact hashed (Option.some.inj current)

/-! ### Applying -/

/-- A create needs its object observed absent; a patch needs the observed object to be this plan's
own, with the hash of the object to apply when it is of the same generation. -/
def ApplyMay (plan : ProjectionPlan) : KubeEvent → List KubeEvent → Prop
  | .created object, earlier => .inspected (renderedObjectRef object) .missing ∈ earlier
  | .patched object identity, earlier => ∃ live,
      .inspected (renderedObjectRef object) (.present live) ∈ earlier ∧ live.identity = identity ∧
      OwnedBy plan live ∧ (liveGeneration live = some plan.instanceGeneration →
        ∃ hash, object.metadata.annotations.find? annotationRenderedHash = some hash ∧
          live.annotations.find? annotationRenderedHash = some hash)
  | .deleted _ _, _ => False
  | .inspected _ _, _ | .claimRead _ _ _, _ | .volumeRead _ _, _ => True

/-- Every planned object has an observation, which the journal shows and nothing disputes. -/
structure Observed (plan : ProjectionPlan) (observations : List ProjectionObservation)
    (journal : List KubeEvent) : Prop where
  covered : ∀ object ∈ plan.objects, ∃ observation ∈ observations,
    observation.objectRef = object.objectRef
  known : ∀ observation ∈ observations, ∃ object ∈ plan.objects, ∃ answer,
    observation = classifyObject object answer ∧ .inspected object.objectRef answer ∈ journal
  accepted : ∀ observation ∈ observations, observation.isUnownedConflict = false

@[simp] theorem classifyObject_objectRef (object : ProjectionObjectPlan)
    (answer : ProjectionObjectInspection) :
    (classifyObject object answer).objectRef = object.objectRef := by
  cases answer <;> rfl

theorem Inspected.toObserved {plan : ProjectionPlan} {added : List KubeEvent}
    (inspected : Inspected plan.objects observations added)
    (accepted : ∀ observation ∈ observations, observation.isUnownedConflict = false) :
    Observed plan observations added where
  covered object planned := by
    obtain ⟨answer, -, classified⟩ := inspected.planned object planned
    exact ⟨_, classified, classifyObject_objectRef object answer⟩
  known := inspected.observed
  accepted := accepted

variable {manifest : RenderedManifest}

section observed

variable {plan : ProjectionPlan} {observations : List ProjectionObservation}
  {journal : List KubeEvent}

variable (observed : Observed plan observations journal)

include observed

theorem Observed.cons (event : KubeEvent) :
    Observed plan observations (event :: journal) where
  covered := observed.covered
  known observation member := by
    obtain ⟨object, planned, answer, classified, noted⟩ := observed.known observation member
    exact ⟨object, planned, answer, classified, List.mem_cons_of_mem _ noted⟩
  accepted := observed.accepted

theorem Observed.found {objectRef : RenderedObjectRef} {observation : ProjectionObservation}
    (found : observations.find? (fun other => other.objectRef = objectRef) = some observation) :
    ∃ object ∈ plan.objects, object.objectRef = objectRef ∧ ∃ answer,
      observation = classifyObject object answer ∧ .inspected objectRef answer ∈ journal ∧
      observation.isUnownedConflict = false := by
  have member := List.mem_of_find?_eq_some found
  have same : observation.objectRef = objectRef := by simpa using List.find?_some found
  obtain ⟨object, planned, answer, rfl, noted⟩ := observed.known observation member
  rw [classifyObject_objectRef] at same
  rw [same] at noted
  exact ⟨object, planned, same, answer, rfl, noted, observed.accepted _ member⟩

def applyEvent (object : KubernetesObject) : Option LiveObjectIdentity → KubeEvent
  | none => .created object
  | some identity => .patched object identity

theorem Observed.applyMay (planned : plan.manifest = some manifest) {item : RenderedManifestObject}
    (member : item ∈ manifest.objects) :
    ApplyMay plan (applyEvent item.object ((observations.find? fun observation =>
      observation.objectRef = renderedObjectRef item.object).bind (·.identity))) journal := by
  have listed : renderedObjectRef item.object ∈ plan.objects.map (·.objectRef) := by
    rw [plan.planned manifest planned]
    exact List.mem_map.mpr ⟨item, mem_orderedObjects.mpr member, rfl⟩
  obtain ⟨object, objectMember, sameRef⟩ := List.mem_map.mp listed
  obtain ⟨observation, observationMember, sameObservation⟩ := observed.covered object objectMember
  cases found : observations.find? fun observation =>
      observation.objectRef = renderedObjectRef item.object with
  | none =>
    have unmatched := List.find?_eq_none.mp found observation observationMember
    simp [sameObservation, sameRef] at unmatched
  | some =>
    obtain ⟨owner, ownerMember, ownerRef, answer, rfl, noted, accepted⟩ := observed.found found
    cases answer with
    | missing => exact noted
    | present live =>
      obtain ⟨owned, hashed⟩ := ownedBy_of_accepted ownerMember accepted
      refine ⟨live, noted, rfl, owned, fun current => ?_⟩
      obtain ⟨rendered, sameHash⟩ :=
        plan.hashed manifest planned item member owner ownerMember ownerRef
      obtain ⟨hash, carried⟩ := Option.isSome_iff_exists.mp rendered
      exact ⟨hash, carried, hashed current hash (sameHash.trans carried)⟩

end observed

variable {event : KubeEvent}

section apply

variable {World : Type} {client : KubernetesMaterializerClient World} {plan : ProjectionPlan}
  {observations : List ProjectionObservation}

/-- While objects are applied: the journal is justified, and shows the observations. -/
def Applying (plan : ProjectionPlan) (observations : List ProjectionObservation)
    (journal : List KubeEvent) : Prop :=
  Justified (ApplyMay plan) journal ∧ Observed plan observations journal

theorem applyMay_incidental (read : event.Incidental) (earlier : List KubeEvent) :
    ApplyMay plan event earlier := by
  cases read <;> trivial

section

variable (faithful : client.Faithful)

include faithful

theorem KubernetesMaterializerClient.Faithful.applies (object : KubernetesObject)
    (precondition : Option LiveObjectIdentity) :
    Adds (fun event => event.Incidental ∨ event = applyEvent object precondition)
      (client.applyObject object precondition) := by
  cases precondition with
  | none => exact faithful.creates object
  | some identity => exact faithful.patches object identity

variable (planned : plan.manifest = some manifest)

include planned

theorem applyWithPrecondition_keeps {item : RenderedManifestObject}
    (member : item ∈ manifest.objects) :
    Keeps (fun state => Applying plan observations state.journal)
      (applyWithPrecondition client observations item.object) := by
  refine ((faithful.applies _ _).keeps ?_).mapError.bind fun _ => .pure _
  rintro event journal (read | rfl) ⟨justified, observed⟩
  · exact ⟨.cons (applyMay_incidental read journal) justified, observed.cons event⟩
  · exact ⟨.cons (observed.applyMay planned member) justified, observed.cons _⟩

theorem applyEach_keeps {items : List RenderedManifestObject}
    (members : ∀ item ∈ items, item ∈ manifest.objects) (applied : List RenderedObjectRef) :
    Keeps (fun state => Applying plan observations state.journal)
      (applyEach client observations applied items) := by
  induction items generalizing applied with
  | nil => exact .pure applied
  | cons item _ ih =>
    refine (applyWithPrecondition_keeps faithful planned
      (members item List.mem_cons_self)).mapError.bind fun _ => ?_
    exact ih (fun other member => members other (List.mem_cons_of_mem _ member)) _

theorem applyManifest_keeps :
    Keeps (fun state => Applying plan observations state.journal)
      (applyManifestWithPreconditions client manifest observations) := by
  have each : ∀ order applied, Keeps (fun state => Applying plan observations state.journal)
      (applyEach client observations applied
        ((orderedObjects manifest).filter fun item => item.applyOrder = order)) :=
    fun order applied => applyEach_keeps faithful planned
      (fun item member => mem_orderedObjects.mp (List.mem_of_mem_filter member)) applied
  refine (Keeps.ofExcept _).bind fun refs => (each _ _).bind fun volumes => ?_
  refine (each _ _).bind fun applied => Keeps.bind (.forEach fun claim _ => ?_) fun _ => ?_
  · refine ((faithful.waits _ _).keeps ?_).mapError
    rintro event journal read ⟨justified, observed⟩
    exact ⟨.cons (applyMay_incidental read journal) justified, observed.cons event⟩
  · exact (each _ _).bind fun _ => (each _ _).bind fun _ => (each _ _).bind fun _ => .pure refs

end

theorem applyWithObservations_keeps (faithful : client.Faithful) :
    Keeps (fun state => Applying plan observations state.journal)
      (applyWithObservations client plan observations) := by
  unfold applyWithObservations
  cases planned : plan.manifest with
  | none => exact .fail _
  | some => exact (applyManifest_keeps faithful planned).mapError.bind fun _ => .pure ()

/-- Every mutation of an apply is justified, whether the apply succeeds or not. -/
theorem apply_ensures (faithful : client.Faithful) (plan : ProjectionPlan) :
    Ensures (fun state => state.journal = []) (apply client plan)
      (fun _ state => Justified (ApplyMay plan) state.journal)
      fun state => Justified (ApplyMay plan) state.journal := by
  have inspected := inspect_ensures faithful plan (ApplyMay plan) (fun journal => journal = [])
    (fun _ inspection _ => by cases inspection; trivial) (by rintro _ rfl; exact .nil)
  refine inspected.bind fun observations =>
    .of_except (fun _ accepted => ?_) fun _ holds => holds.justified
  have applied : Keeps (fun state => Applying plan observations state.journal)
      (applyWithObservations client plan observations) := applyWithObservations_keeps faithful
  refine applied.weaken ?_ (fun _ _ holds => holds.1) fun _ holds => holds.1
  rintro state ⟨justified, added, _, journal, rfl, -, inspected⟩
  rw [List.append_nil] at journal
  rw [← journal] at inspected
  exact ⟨justified, inspected.toObserved (rejectUnowned_eq_ok accepted)⟩

end apply

/-! ### Deleting -/

/-- What was found under a recorded reference is no obstacle to a deletion. -/
def SafeToDelete (plan : ProjectionPlan) (objectRef : RenderedObjectRef) :
    ProjectionObjectInspection → Prop
  | .missing => True
  | .present live => OwnedBy plan live ∧
      (objectRef.kind = "PersistentVolume" → live.persistentVolumeReclaimPolicy = some "Retain")

/-- Every recorded object was inspected, nothing was found that is in the way, and every binding of
a recorded claim is proven. -/
structure Cleared (plan : ProjectionPlan) (journal : List KubeEvent) : Prop where
  inspected : ∀ object ∈ plan.objects, ∃ answer, .inspected object.objectRef answer ∈ journal
  safe : ∀ objectRef answer, .inspected objectRef answer ∈ journal →
    SafeToDelete plan objectRef answer
  bound : BindingsProven plan.objectRefs journal

/-- A delete needs everything cleared and its object observed as this plan's own. -/
def DeleteMay (plan : ProjectionPlan) : KubeEvent → List KubeEvent → Prop
  | .deleted objectRef identity, earlier => Cleared plan earlier ∧ ∃ live,
      .inspected objectRef (.present live) ∈ earlier ∧ live.identity = identity ∧ OwnedBy plan live
  | .created _, _ | .patched _ _, _ => False
  | .inspected _ _, _ | .claimRead _ _ _, _ | .volumeRead _ _, _ => True

def ObservedAbsent (plan : ProjectionPlan) (journal : List KubeEvent) : Prop :=
  ∃ later earlier, journal = later ++ earlier ∧ (∀ event ∈ later, ¬ event.Mutation) ∧
    ∀ object ∈ plan.objects, .inspected object.objectRef .missing ∈ later

section delete

variable {World : Type} {client : KubernetesMaterializerClient World} {plan : ProjectionPlan}
  {before : List ProjectionObservation}

theorem deleteMay_incidental (read : event.Incidental) (earlier : List KubeEvent) :
    DeleteMay plan event earlier := by
  cases read <;> trivial

theorem deleteMay_inspection (inspection : IsInspection event) (earlier : List KubeEvent) :
    DeleteMay plan event earlier := by
  cases inspection
  trivial

variable {event : KubeEvent} {journal : List KubeEvent}

theorem Cleared.cons (cleared : Cleared plan journal) (other : ¬ IsInspection event) : Cleared plan (event :: journal) where
  inspected object planned := by
    obtain ⟨answer, noted⟩ := cleared.inspected object planned
    exact ⟨answer, List.mem_cons_of_mem _ noted⟩
  safe objectRef answer noted := by
    rcases List.mem_cons.mp noted with rfl | earlier
    · exact absurd (.inspected objectRef answer) other
    · exact cleared.safe objectRef answer earlier
  bound claim member kind := (cleared.bound claim member kind).mono (List.subset_cons_self _ _)

theorem not_isInspection_of_incidental (read : event.Incidental) :
    ¬ IsInspection event := by
  cases read <;> exact nofun

structure Deleting (plan : ProjectionPlan) (before : List ProjectionObservation)
    (journal : List KubeEvent) : Prop where
  justified : Justified (DeleteMay plan) journal
  cleared : Cleared plan journal
  observed : Observed plan before journal

theorem Deleting.cons (deleting : Deleting plan before journal) (may : DeleteMay plan event journal)
    (other : ¬ IsInspection event) : Deleting plan before (event :: journal) :=
  ⟨.cons may deleting.justified, deleting.cleared.cons other, deleting.observed.cons event⟩

theorem deleteObserved_keeps (faithful : client.Faithful) (objectRef : RenderedObjectRef) :
    Keeps (fun state => Deleting plan before state.journal)
      (deleteObserved client before objectRef) := by
  unfold deleteObserved
  cases found : before.find? fun observation => observation.objectRef = objectRef with
  | none => exact .pure ()
  | some observation =>
    dsimp only
    split
    next owned =>
      cases identified : observation.identity with
      | none => exact .fail _
      | some identity =>
        refine ((faithful.deletes objectRef identity).keeps ?_).mapError
        rintro event journal (read | rfl) deleting
        · exact deleting.cons (deleteMay_incidental read journal)
            (not_isInspection_of_incidental read)
        · refine deleting.cons ⟨deleting.cleared, ?_⟩ nofun
          obtain ⟨object, planned, -, answer, rfl, noted, accepted⟩ :=
            deleting.observed.found found
          cases answer with
          | missing => cases identified
          | present live =>
            exact ⟨live, noted, Option.some.inj identified,
              (ownedBy_of_accepted planned accepted).1⟩
    · exact .pure ()

variable {answer : ProjectionObjectInspection}

theorem safeToDelete_of_accepted (planned : object ∈ plan.objects)
    (accepted : (classifyObject object answer).isUnownedConflict = false)
    (retained : isUnsafeVolume (classifyObject object answer) = false) :
    SafeToDelete plan object.objectRef answer := by
  cases answer with
  | missing => trivial
  | present live =>
    refine ⟨(ownedBy_of_accepted planned accepted).1, fun kind => ?_⟩
    have owned := mismatch_eq_none_of_accepted accepted
    cases deleting : live.deleting <;>
      simpa [isUnsafeVolume, classifyObject, ProjectionObservation.new, owned, deleting, kind]
        using retained

theorem Inspected.safe (inspected : Inspected plan.objects before journal)
    (accepted : rejectUnowned before = .ok ()) (retained : rejectUnsafeVolumes before = .ok ()) :
    ∀ objectRef answer, .inspected objectRef answer ∈ journal →
      SafeToDelete plan objectRef answer := by
  intro objectRef answer noted
  obtain ⟨object, planned, rfl, classified⟩ := inspected.journaled objectRef answer noted
  exact safeToDelete_of_accepted planned (rejectUnowned_eq_ok accepted _ classified)
    (rejectUnsafeVolumes_eq_ok retained _ classified)

theorem verifyRetainedBindings_ensures (faithful : client.Faithful)
    (accepted : rejectUnowned before = .ok ()) (retained : rejectUnsafeVolumes before = .ok ()) :
    Ensures (fun state => JustInspected plan (DeleteMay plan) (fun journal => journal = []) before
        state.journal)
      (client.verifyRetainedBindings plan.objectRefs)
      (fun _ state => Deleting plan before state.journal)
      fun state => Justified (DeleteMay plan) state.journal := by
  have extended : ∀ {added journal : List KubeEvent}, Justified (DeleteMay plan) journal →
      (∀ event ∈ added, event.Incidental) → Justified (DeleteMay plan) (added ++ journal) :=
    fun justified reads => justified.append fun event member =>
      deleteMay_incidental (reads event member)
  refine (faithful.proves plan.objectRefs).ensures (faithful.verifies plan.objectRefs) ?_
    fun journal added holds reads => extended holds.justified reads
  rintro journal _ added ⟨justified, entries, _, rfl, rfl, -, inspected⟩ proven reads
  rw [List.append_nil] at justified ⊢
  have others : ∀ objectRef answer, KubeEvent.inspected objectRef answer ∈ added ++ entries →
      .inspected objectRef answer ∈ entries := by
    intro objectRef answer noted
    rcases List.mem_append.mp noted with recent | earlier
    · exact absurd (.inspected _ _) (not_isInspection_of_incidental (reads _ recent))
    · exact earlier
  have observed := inspected.toObserved (rejectUnowned_eq_ok accepted)
  refine ⟨extended justified reads, ⟨?_, ?_, ?_⟩, observed.covered, ?_, observed.accepted⟩
  · intro object planned
    obtain ⟨answer, noted, -⟩ := inspected.planned object planned
    exact ⟨answer, List.mem_append_right _ noted⟩
  · exact fun objectRef answer noted =>
      inspected.safe accepted retained objectRef answer (others objectRef answer noted)
  · exact fun claim member kind => (proven claim member kind).mono (List.subset_append_left _ _)
  · intro observation member
    obtain ⟨object, planned, answer, classified, noted⟩ := observed.known observation member
    exact ⟨object, planned, answer, classified, List.mem_append_right _ noted⟩

theorem eq_missing_of_state (missing : (classifyObject object answer).state = .missing) : answer = .missing := by
  cases answer with
  | missing => rfl
  | present live =>
    cases deleting : live.deleting <;>
      cases owned : (ownershipMismatchReason live object.expected).isNone <;>
      simp [classifyObject, ProjectionObservation.new, deleting, owned] at missing

theorem ObservedAbsent.cons (absent : ObservedAbsent plan journal) (read : event.Incidental) : ObservedAbsent plan (event :: journal) := by
  obtain ⟨later, earlier, rfl, reads, missing⟩ := absent
  refine ⟨event :: later, earlier, rfl, fun other member => ?_, fun object planned =>
    List.mem_cons_of_mem _ (missing object planned)⟩
  rcases List.mem_cons.mp member with rfl | recent
  · cases read <;> exact nofun
  · exact reads other recent

def Confirmed (plan : ProjectionPlan) (journal : List KubeEvent) : Prop :=
  Justified (DeleteMay plan) journal ∧ ObservedAbsent plan journal

theorem confirmAbsent_ensures (faithful : client.Faithful) :
    Ensures (fun state => Justified (DeleteMay plan) state.journal) (confirmAbsent client plan)
      (fun _ state => Confirmed plan state.journal)
      fun state => Justified (DeleteMay plan) state.journal := by
  have inspected := inspect_ensures faithful plan (DeleteMay plan)
    (fun journal => Justified (DeleteMay plan) journal) (fun _ => deleteMay_inspection)
    fun _ justified => justified
  refine inspected.bind fun after => .of_except (fun _ _ => ?_) fun _ holds => holds.justified
  split
  next absent =>
    have lists : Keeps (fun state => Confirmed plan state.journal)
        (client.ensureNoDescendants plan.objectRefs plan.instanceId.value) :=
      (faithful.lists _ _).keeps fun event journal read holds =>
        ⟨.cons (deleteMay_incidental read journal) holds.1, holds.2.cons read⟩
    refine (lists.weaken ?_ (fun _ _ holds => holds) fun _ holds => holds.1).mapError
    rintro state ⟨justified, added, earlier, journal, -, inspections, inspected⟩
    refine ⟨justified, added, earlier, journal, ?_, fun object planned => ?_⟩
    · intro event member mutation
      cases inspections event member
      cases mutation
    · obtain ⟨answer, noted, classified⟩ := inspected.planned object planned
      have missing := List.all_eq_true.mp absent _ classified
      rwa [eq_missing_of_state (of_decide_eq_true missing)] at noted
  · exact .fail fun _ holds => holds.justified

theorem deleteOwned_ensures (faithful : client.Faithful) (plan : ProjectionPlan) :
    Ensures (fun state => state.journal = []) (deleteOwned client plan)
      (fun _ state => Confirmed plan state.journal)
      fun state => Justified (DeleteMay plan) state.journal := by
  have inspected := inspect_ensures faithful plan (DeleteMay plan) (fun journal => journal = [])
    (fun _ => deleteMay_inspection) (by rintro _ rfl; exact .nil)
  refine inspected.bind fun before => .of_except (fun _ accepted => ?_) fun _ holds => holds.justified
  refine .of_except (fun _ retained => ?_) fun _ holds => holds.justified
  refine (verifyRetainedBindings_ensures faithful accepted retained).mapError.bind fun _ => ?_
  have deletes : Keeps (fun state => Deleting plan before state.journal)
      (forEach (deleteObserved client before) (deleteOrder plan.objectRefs)) :=
    .forEach fun objectRef _ => deleteObserved_keeps faithful objectRef
  refine (deletes.weaken (fun _ holds => holds) (fun _ _ holds => holds.justified)
    fun _ holds => holds.justified).bind fun _ => confirmAbsent_ensures faithful

end delete

/-- Against every API server, in every state of the cluster and with every interference between two
calls, what the reconciler asks for is justified by what it observed. -/
theorem projection_respects_owners {World : Type} (api : KubeApi World) (polls more : Nat)
    (plan : ProjectionPlan) (world : World) :
    Justified (ApplyMay plan)
        (apply (retryingClient more (kubeMaterializerClient api polls)) plan ⟨world, []⟩).2.journal ∧
      Justified (DeleteMay plan)
        (deleteOwned (retryingClient more (kubeMaterializerClient api polls)) plan
          ⟨world, []⟩).2.journal ∧
      ∀ reached, deleteOwned (retryingClient more (kubeMaterializerClient api polls)) plan
          ⟨world, []⟩ = (.ok (), reached) → ObservedAbsent plan reached.journal := by
  have faithful := (faithful_kubeMaterializerClient api polls).retrying more
  have applied := apply_ensures faithful plan ⟨world, []⟩ rfl
  have deleted := deleteOwned_ensures faithful plan ⟨world, []⟩ rfl
  refine ⟨?_, ?_, fun reached ran => ?_⟩
  · split at applied
    next ran => rwa [ran]
    next ran => rwa [ran]
  · split at deleted
    next ran =>
      rw [ran]
      exact deleted.1
    next ran => rwa [ran]
  · rw [ran] at deleted
    exact deleted.2

end Sleepypods.Projection
