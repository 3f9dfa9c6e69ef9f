import Sleepypods.Library.Journal
import Sleepypods.Projection.Plan

/-! The Kubernetes client of the materializer, over an API server that answers as it likes. What the
client reads and what it asks to be changed is written in a journal. -/

set_option autoImplicit false

namespace Sleepypods.Projection

open Library Library.Fallible Store Journaled

/-- A status the API server answered with, and how the client library reads it. -/
structure KubeStatus where
  code : Nat
  notFound : Bool
  conflict : Bool

inductive KubeError where
  | api (status : KubeStatus) (message : String)
  /-- `HyperError`, `Service` and `ReadEvents`. -/
  | connection (message : String)
  /-- `BuildRequest`, `HttpError` and `Auth`. -/
  | request (message : String)
  | other (message : String)

inductive KubeFailure where
  | answered (error : KubeError)
  | timedOut

def KubeError.message : KubeError → String
  | .api _ message | .connection message | .request message | .other message => message

def KubeError.isNotFound : KubeError → Bool
  | .api status _ => status.notFound
  | _ => false

def isTransientKubeError : KubeError → Bool
  | .api status _ =>
    status.conflict || status.code == 429 || (500 ≤ status.code && status.code ≤ 599)
  | .connection _ => true
  | .request _ | .other _ => false

def kubeError (error : KubeError) : KubernetesClientError :=
  if isTransientKubeError error then .transient error.message else .new error.message

def KubernetesClientError.uncertain (message : String) : KubernetesClientError :=
  { message := message, retryable := false, outcomeUncertain := true }

def mutationError (error : KubeError) : KubernetesClientError :=
  match error with
  | .api status message => if status.code < 500 then kubeError error else .uncertain message
  | .request message => .new message
  | .connection message | .other message => .uncertain message

structure LiveObject where
  uid : Option String
  resourceVersion : Option String
  labels : Option (Table String String)
  annotations : Option (Table String String)
  deletionTimestamp : Option String
  finalizers : Option (List String)
  persistentVolumeReclaimPolicy : Option String

structure LiveClaim where
  volumeName : Option String
  phase : Option String

structure KubeApi (World : Type) where
  get : RenderedObjectRef → Procedure World KubeFailure LiveObject
  create : KubernetesObject → Procedure World KubeFailure Unit
  /-- A merge patch whose body names the UID and resource version it is for. -/
  patch : KubernetesObject → LiveObjectIdentity → Procedure World KubeFailure Unit
  /-- A foreground deletion with its preconditions. -/
  delete : RenderedObjectRef → LiveObjectIdentity → Procedure World KubeFailure Unit
  getClaim : (namespaceName name : String) → Procedure World KubeFailure LiveClaim
  getVolume : (name : String) → Procedure World KubeFailure (Option String)
  listPods : (namespaceName selector : String) → Procedure World KubeFailure (List String)
  listReplicaSets : (namespaceName selector : String) → Procedure World KubeFailure (List String)

inductive KubeEvent where
  | inspected (object : RenderedObjectRef) (answer : ProjectionObjectInspection)
  | claimRead (namespaceName name : String) (claim : Option LiveClaim)
  | volumeRead (name : String) (reclaimPolicy : Option String)
  | created (object : KubernetesObject)
  | patched (object : KubernetesObject) (identity : LiveObjectIdentity)
  | deleted (object : RenderedObjectRef) (identity : LiveObjectIdentity)

inductive KubeEvent.Incidental : KubeEvent → Prop where
  | claimRead (namespaceName name : String) (claim : Option LiveClaim) :
      Incidental (.claimRead namespaceName name claim)
  | volumeRead (name : String) (reclaimPolicy : Option String) :
      Incidental (.volumeRead name reclaimPolicy)

inductive KubeEvent.Mutation : KubeEvent → Prop where
  | created (object : KubernetesObject) : Mutation (.created object)
  | patched (object : KubernetesObject) (identity : LiveObjectIdentity) :
      Mutation (.patched object identity)
  | deleted (object : RenderedObjectRef) (identity : LiveObjectIdentity) :
      Mutation (.deleted object identity)

abbrev ClientCall (World α : Type) : Type :=
  Procedure (Journaled World KubeEvent) KubernetesClientError α

structure KubernetesMaterializerClient (World : Type) where
  inspectObject : RenderedObjectRef → ClientCall World ProjectionObjectInspection
  applyObject : KubernetesObject → Option LiveObjectIdentity → ClientCall World Unit
  deleteObject : RenderedObjectRef → LiveObjectIdentity → ClientCall World Unit
  waitForPvcBound : (namespaceName name : String) → ClientCall World Unit
  verifyRetainedBindings : List RenderedObjectRef → ClientCall World Unit
  ensureNoDescendants : List RenderedObjectRef → (instanceId : String) → ClientCall World Unit

/-! ### `KubeMaterializerClient` -/

section kubeClient

open Procedure

variable {World : Type} (api : KubeApi World)

def apiResourceForRef (object : RenderedObjectRef) : Except KubernetesClientError String :=
  match object.apiVersion, object.kind, object.namespaceName.isEmpty with
  | "apps/v1", "Deployment", false => .ok "deployments"
  | "apps/v1", "StatefulSet", false => .ok "statefulsets"
  | "v1", "Service", false => .ok "services"
  | "v1", "Secret", false => .ok "secrets"
  | "v1", "PersistentVolume", true => .ok "persistentvolumes"
  | "v1", "PersistentVolumeClaim", false => .ok "persistentvolumeclaims"
  | _, _, _ =>
    .error (.new s!"unsupported rendered Kubernetes object {object.apiVersion} {object.kind} {object.namespaceName}/{object.name}")

def validateIdentity (identity : LiveObjectIdentity) : Except KubernetesClientError Unit :=
  require (¬ (identity.uid = "" ∨ identity.resourceVersion = ""))
    (.new "conditional mutation requires UID and resourceVersion")

def readOptional {α : Type} (timeoutMessage : String) (run : Procedure World KubeFailure α) :
    ClientCall World (Option α) := do
  match ← attempt (call run) with
  | .ok value => pure (some value)
  | .error .timedOut => fail (.transient timeoutMessage)
  | .error (.answered error) => if error.isNotFound then pure none else fail (kubeError error)

def readRequired {α : Type} (timeoutMessage : String) (run : Procedure World KubeFailure α) :
    ClientCall World α := do
  match ← attempt (call run) with
  | .ok value => pure value
  | .error .timedOut => fail (.transient timeoutMessage)
  | .error (.answered error) => fail (kubeError error)

def mutate (event : KubeEvent) (timeoutMessage : String) (absentIsDone : Bool)
    (run : Procedure World KubeFailure Unit) : ClientCall World Unit := do
  note event
  match ← attempt (call run) with
  | .ok () => pure ()
  | .error .timedOut => fail (.uncertain timeoutMessage)
  | .error (.answered error) =>
    if absentIsDone && error.isNotFound then pure () else fail (mutationError error)

def noteAnswer {α : Type} (event : α → KubeEvent) (value : α) : ClientCall World α := do
  note (event value)
  return value

def inspectObject (object : RenderedObjectRef) : ClientCall World ProjectionObjectInspection := do
  let _ ← ofExcept (apiResourceForRef object)
  match ← readOptional "Kubernetes inspection timed out" (api.get object) with
  | none => noteAnswer (.inspected object) .missing
  | some live => do
      let uid ← ofExcept (orError live.uid (.new "live Kubernetes object has no UID"))
      let resourceVersion ← ofExcept (orError live.resourceVersion
        (.new "live Kubernetes object has no resourceVersion"))
      noteAnswer (.inspected object) <| .present
        { persistentVolumeReclaimPolicy := live.persistentVolumeReclaimPolicy
          identity := { uid := uid, resourceVersion := resourceVersion }
          labels := live.labels.getD .empty
          annotations := live.annotations.getD .empty
          deleting := live.deletionTimestamp.isSome
          finalizers := live.finalizers.getD [] }

def applyObject (object : KubernetesObject) (precondition : Option LiveObjectIdentity) :
    ClientCall World Unit := do
  let _ ← ofExcept (apiResourceForRef (renderedObjectRef object))
  let timeoutMessage := "Kubernetes mutation timed out; effect outcome is unknown"
  match precondition with
  | none => mutate (.created object) timeoutMessage false (api.create object)
  | some identity => do
      ofExcept (validateIdentity identity)
      mutate (.patched object identity) timeoutMessage false (api.patch object identity)

/-- The check before a volume is deleted; false when there is nothing to delete. -/
def volumeMayGo (object : RenderedObjectRef) (precondition : LiveObjectIdentity) :
    ClientCall World Bool := do
  match ← readOptional "PV retention inspection timed out" (api.get object) with
  | none => return false
  | some live => do
      note (.volumeRead object.name live.persistentVolumeReclaimPolicy)
      ofExcept (require (live.uid = some precondition.uid ∧
          live.resourceVersion = some precondition.resourceVersion)
        (.transient "PV changed since ownership/retention inspection"))
      ofExcept (require (live.persistentVolumeReclaimPolicy = some "Retain")
        (.new "managed static PV requires Retain before automatic cleanup; operator correction required"))
      return true

def objectMayGo (object : RenderedObjectRef) (precondition : LiveObjectIdentity) :
    ClientCall World Bool :=
  if object.kind = "PersistentVolume" then volumeMayGo api object precondition else pure true

def deleteObject (object : RenderedObjectRef) (precondition : LiveObjectIdentity) :
    ClientCall World Unit := do
  ofExcept (validateIdentity precondition)
  let _ ← ofExcept (apiResourceForRef object)
  let proceed ← objectMayGo api object precondition
  if proceed then
    mutate (.deleted object precondition) "Kubernetes delete timed out; effect outcome is unknown"
      true (api.delete object precondition)

/-- Read a claim until it is bound, as often as the timeout allows. -/
def waitForPvcBound (namespaceName name : String) : (polls : Nat) → ClientCall World Unit
  | 0 => fail (.new
      s!"timed out waiting for PersistentVolumeClaim {namespaceName}/{name} to become Bound")
  | polls + 1 => do
      let claim ← readRequired "Kubernetes read/wait timed out" (api.getClaim namespaceName name)
      note (.claimRead namespaceName name (some claim))
      if claim.phase = some "Bound" then pure () else waitForPvcBound namespaceName name polls

def bindingTimeout : String := "retained static binding inspection timed out"

/-- A claim that is live is bound to a recorded volume that is kept when the claim goes. -/
def verifyRetainedBinding (objects : List RenderedObjectRef) (claim : RenderedObjectRef) :
    ClientCall World Unit := do
  let found ← readOptional bindingTimeout (api.getClaim claim.namespaceName claim.name)
  note (.claimRead claim.namespaceName claim.name found)
  match found with
  | none => pure ()
  | some live => do
      let volumeName ← ofExcept (orError (live.volumeName.filter fun name => !name.isEmpty)
        (.new "PVC has no proven static volume binding; automatic cleanup refused"))
      ofExcept (require (∃ recorded ∈ objects, recorded.kind = "PersistentVolume" ∧
          recorded.name = volumeName ∧ recorded.namespaceName = "")
        (.new "PVC binds a PV outside recorded inventory; automatic cleanup refused"))
      let policy ← readRequired bindingTimeout (api.getVolume volumeName)
      note (.volumeRead volumeName policy)
      ofExcept (require (policy = some "Retain")
        (.new "PVC backing PV requires Retain before any automatic cleanup"))

def verifyRetainedBindings (objects : List RenderedObjectRef) : ClientCall World Unit :=
  forEach (verifyRetainedBinding api objects)
    (objects.filter fun object => object.kind == "PersistentVolumeClaim")

def descendantTimeout : String := "descendant absence inspection timed out"

def ensureNoneIn (selector namespaceName : String) : ClientCall World Unit := do
  let pods ← readRequired descendantTimeout (api.listPods namespaceName selector)
  ofExcept (require (pods = [])
    (.transient "projection Pods still exist, including terminating members"))
  let replicaSets ← readRequired descendantTimeout (api.listReplicaSets namespaceName selector)
  ofExcept (require (replicaSets = []) (.transient "projection ReplicaSets still exist"))

def sortedDistinct (values : List String) : List String :=
  values.dedup.mergeSort fun former latter => decide (former ≤ latter)

def ensureNoDescendants (objects : List RenderedObjectRef) (instanceId : String) :
    ClientCall World Unit :=
  forEach (ensureNoneIn api (labelInstanceId ++ "=" ++ instanceId))
    (sortedDistinct ((objects.map (·.namespaceName)).filter fun name => !name.isEmpty))

def kubeMaterializerClient (polls : Nat) : KubernetesMaterializerClient World where
  inspectObject := inspectObject api
  applyObject := applyObject api
  deleteObject := deleteObject api
  waitForPvcBound namespaceName name := waitForPvcBound api namespaceName name polls
  verifyRetainedBindings := verifyRetainedBindings api
  ensureNoDescendants := ensureNoDescendants api

/-- `RetryingKubernetesMaterializerClient`, with the attempts after the first. -/
def retryingClient (more : Nat) (inner : KubernetesMaterializerClient World) :
    KubernetesMaterializerClient World where
  inspectObject object := retryIf (·.retryable) (inner.inspectObject object) more
  applyObject object precondition := retryIf (·.retryable) (inner.applyObject object precondition) more
  deleteObject object precondition :=
    retryIf (·.retryable) (inner.deleteObject object precondition) more
  waitForPvcBound namespaceName name :=
    retryIf (·.retryable) (inner.waitForPvcBound namespaceName name) more
  verifyRetainedBindings := inner.verifyRetainedBindings
  ensureNoDescendants := inner.ensureNoDescendants

end kubeClient

/-! ### What a client writes down -/

/-- A live claim was read as bound to a recorded volume, and the volume as retained. -/
def BindingProven (objects : List RenderedObjectRef) (claim : RenderedObjectRef)
    (journal : List KubeEvent) : Prop :=
  .claimRead claim.namespaceName claim.name none ∈ journal ∨
    ∃ live, ∃ recorded ∈ objects, .claimRead claim.namespaceName claim.name (some live) ∈ journal ∧
      live.volumeName = some recorded.name ∧ recorded.kind = "PersistentVolume" ∧
      recorded.namespaceName = "" ∧ .volumeRead recorded.name (some "Retain") ∈ journal

def BindingsProven (objects : List RenderedObjectRef) (journal : List KubeEvent) : Prop :=
  ∀ claim ∈ objects, claim.kind = "PersistentVolumeClaim" → BindingProven objects claim journal

theorem BindingProven.mono {objects : List RenderedObjectRef} {claim : RenderedObjectRef}
    {journal journal' : List KubeEvent} (proven : BindingProven objects claim journal)
    (grows : journal ⊆ journal') : BindingProven objects claim journal' := by
  rcases proven with absent | ⟨live, recorded, member, bound, volume, kind, scope, retained⟩
  · exact .inl (grows absent)
  · exact .inr ⟨live, recorded, member, grows bound, volume, kind, scope, grows retained⟩

/-- Inspections are answered once, each mutation is the one asked for, and everything else reads. -/
structure KubernetesMaterializerClient.Faithful {World : Type}
    (client : KubernetesMaterializerClient World) : Prop where
  inspects : ∀ object, Journaled.Answers (.inspected object) (client.inspectObject object)
  creates : ∀ object, Journaled.Adds (fun event => event.Incidental ∨ event = .created object)
    (client.applyObject object none)
  patches : ∀ object identity,
    Journaled.Adds (fun event => event.Incidental ∨ event = .patched object identity)
      (client.applyObject object (some identity))
  deletes : ∀ object identity,
    Journaled.Adds (fun event => event.Incidental ∨ event = .deleted object identity)
      (client.deleteObject object identity)
  waits : ∀ namespaceName name,
    Journaled.Adds KubeEvent.Incidental (client.waitForPvcBound namespaceName name)
  verifies : ∀ objects, Journaled.Adds KubeEvent.Incidental (client.verifyRetainedBindings objects)
  proves : ∀ objects, Journaled.Shows (fun _ added => BindingsProven objects added)
    (client.verifyRetainedBindings objects)
  lists : ∀ objects instanceId,
    Journaled.Adds KubeEvent.Incidental (client.ensureNoDescendants objects instanceId)

section faithful

open Journaled

variable {World α : Type} {allowed : KubeEvent → Prop}

theorem adds_readOptional (timeoutMessage : String) (run : Procedure World KubeFailure α) :
    Adds allowed (readOptional timeoutMessage run) := by
  refine (Adds.call run).attempt.bind fun result => ?_
  cases result with
  | ok => exact .pure _
  | error failure =>
    cases failure with
    | timedOut => exact .fail _
    | answered =>
      dsimp only
      split
      · exact .pure _
      · exact .fail _

theorem adds_readRequired (timeoutMessage : String) (run : Procedure World KubeFailure α) :
    Adds allowed (readRequired timeoutMessage run) := by
  refine (Adds.call run).attempt.bind fun result => ?_
  cases result with
  | ok => exact .pure _
  | error failure =>
    cases failure with
    | timedOut | answered => exact .fail _

theorem adds_mutate {event : KubeEvent} (allows : allowed event) (timeoutMessage : String)
    (absentIsDone : Bool) (run : Procedure World KubeFailure Unit) :
    Adds allowed (mutate event timeoutMessage absentIsDone run) := by
  refine (Adds.note allows).bind fun _ => (Adds.call run).attempt.bind fun result => ?_
  cases result with
  | ok => exact .pure _
  | error failure =>
    cases failure with
    | timedOut => exact .fail _
    | answered =>
      dsimp only
      split
      · exact .pure _
      · exact .fail _

variable (api : KubeApi World)

theorem answers_inspectObject (object : RenderedObjectRef) :
    Answers (.inspected object) (inspectObject api object) := by
  refine .after (.ofExcept _) fun _ => .after (adds_readOptional _ _) fun found => ?_
  cases found with
  | none => exact .note _
  | some => exact .after (.ofExcept _) fun _ => .after (.ofExcept _) fun _ => .note _

section

variable (reads : ∀ event : KubeEvent, event.Incidental → allowed event)

include reads

theorem adds_volumeMayGo (object : RenderedObjectRef) (precondition : LiveObjectIdentity) :
    Adds allowed (volumeMayGo api object precondition) := by
  refine (adds_readOptional _ _).bind fun found => ?_
  cases found with
  | none => exact .pure _
  | some =>
    refine (Adds.note (reads _ (.volumeRead _ _))).bind fun _ => ?_
    exact (Adds.ofExcept _).bind fun _ => (Adds.ofExcept _).bind fun _ => .pure _

theorem adds_deleteObject (object : RenderedObjectRef) (precondition : LiveObjectIdentity)
    (allows : allowed (.deleted object precondition)) :
    Adds allowed (deleteObject api object precondition) := by
  refine (Adds.ofExcept _).bind fun _ => (Adds.ofExcept _).bind fun _ => Adds.bind ?_ fun proceed => ?_
  · unfold objectMayGo
    split
    · exact adds_volumeMayGo api reads object precondition
    · exact .pure _
  · split
    · exact adds_mutate allows _ _ _
    · exact .pure _

end

theorem adds_waitForPvcBound (namespaceName name : String) (polls : Nat) :
    Adds KubeEvent.Incidental (waitForPvcBound api namespaceName name polls) := by
  induction polls with
  | zero => exact .fail _
  | succ _ ih =>
    refine (adds_readRequired _ _).bind fun claim => ?_
    refine (Adds.note (.claimRead _ _ _)).bind fun _ => ?_
    split
    · exact .pure _
    · exact ih

theorem adds_verifyRetainedBinding (objects : List RenderedObjectRef) (claim : RenderedObjectRef) :
    Adds KubeEvent.Incidental (verifyRetainedBinding api objects claim) := by
  refine (adds_readOptional _ _).bind fun found => (Adds.note (.claimRead _ _ _)).bind fun _ => ?_
  cases found with
  | none => exact .pure _
  | some =>
    refine (Adds.ofExcept _).bind fun volumeName => (Adds.ofExcept _).bind fun _ => ?_
    refine (adds_readRequired _ _).bind fun policy => ?_
    exact (Adds.note (.volumeRead _ _)).bind fun _ => .ofExcept _

theorem adds_ensureNoneIn (selector namespaceName : String) :
    Adds allowed (ensureNoneIn api selector namespaceName) :=
  (adds_readRequired _ _).bind fun _ => (Adds.ofExcept _).bind fun _ =>
    (adds_readRequired _ _).bind fun _ => .ofExcept _

theorem shows_verifyRetainedBinding (objects : List RenderedObjectRef) (claim : RenderedObjectRef) :
    Shows (fun _ added => BindingProven objects claim added)
      (verifyRetainedBinding api objects claim) := by
  refine Shows.of_silent (adds_readOptional _ _) fun found => Shows.note.bind fun _ => ?_
  cases found with
  | none =>
    refine .pure fun earlier noted => .inl ?_
    rw [noted]
    exact List.mem_cons_self
  | some live =>
    refine Shows.of_except fun volumeName named => Shows.of_except fun _ recorded => ?_
    refine Shows.of_silent (adds_readRequired _ _) fun policy => Shows.note.bind fun _ => ?_
    refine Shows.ofExcept fun _ retained => ?_
    rintro _ rfl _ rfl
    rw [orError_eq_ok, Option.filter_eq_some_iff] at named
    rw [require_eq_ok] at recorded retained
    obtain ⟨recorded, member, kind, rfl, scope⟩ := recorded
    subst retained
    exact .inr ⟨live, recorded, member, by simp, named.1, kind, scope, by simp⟩

theorem faithful_kubeMaterializerClient (polls : Nat) :
    (kubeMaterializerClient api polls).Faithful where
  inspects := answers_inspectObject api
  creates _ := (Adds.ofExcept _).bind fun _ => adds_mutate (.inr rfl) _ _ _
  patches _ _ := (Adds.ofExcept _).bind fun _ => (Adds.ofExcept _).bind fun _ =>
    adds_mutate (.inr rfl) _ _ _
  deletes object identity := adds_deleteObject api (fun _ read => .inl read) object identity (.inr rfl)
  waits namespaceName name := adds_waitForPvcBound api namespaceName name polls
  verifies objects := .forEach fun claim _ => adds_verifyRetainedBinding api objects claim
  proves objects := by
    have shown : Shows (fun _ added => ∀ claim ∈ objects.filter fun object =>
        object.kind == "PersistentVolumeClaim", BindingProven objects claim added)
        (verifyRetainedBindings api objects) :=
      .forEach (fun _ _ _ grows proven => proven.mono grows) fun claim _ =>
        shows_verifyRetainedBinding api objects claim
    refine shown.weaken fun _ added proven => ?_
    intro claim member kind
    exact proven claim (List.mem_filter.mpr ⟨member, by simpa using kind⟩)
  lists objects instanceId := .forEach fun name _ => adds_ensureNoneIn api _ name

theorem KubernetesMaterializerClient.Faithful.retrying {client : KubernetesMaterializerClient World}
    (faithful : client.Faithful) (more : Nat) : (retryingClient more client).Faithful where
  inspects object := (faithful.inspects object).retryIf more
  creates object := (faithful.creates object).retryIf more
  patches object identity := (faithful.patches object identity).retryIf more
  deletes object identity := (faithful.deletes object identity).retryIf more
  waits namespaceName name := (faithful.waits namespaceName name).retryIf more
  verifies := faithful.verifies
  proves := faithful.proves
  lists := faithful.lists

end faithful

end Sleepypods.Projection
