import Sleepypods.Library.Transition
import Sleepypods.Store.ReconcileOps

/-! The store as a transition system: each operation is one transaction, which commits its
changes or leaves the database as it was. -/

set_option autoImplicit false

namespace Sleepypods.Store

open Library

inductive Op where
  | createInstance (request : CreateInstanceRequest)
      (validated : StoreResult (List (String × String)))
  | deleteInstance (id : InstanceId)
  | createRouteBinding (request : CreateRouteBindingRequest)
  | deleteRouteBinding (id : RouteBindingId)
  | acceptWake (request : AcceptWakeRequest)
  | beginSleep (request : BeginSleepRequest)
  | requestInstanceDeletion (request : RequestInstanceDeletion)
  | finalizeInstanceDeletions (limit : Nat) (locked : InstanceId → Bool)
  | claim (request : ClaimRequest)
  | renewLease (request : RenewLeaseRequest)
  | releaseLease (request : ReleaseLeaseRequest)
  | beginEffect (request : EffectRequest)
  | acknowledgeEffect (request : AcknowledgeEffectRequest)
  | completeWake (request : CompleteWakeReconciliationRequest)
  | finalizeSleep (request : FinalizeSleepReconciliationRequest)
  | deleteMaterialization (request : DeleteMaterializationReconciliationRequest)
  | recordFailure (request : RecordFailureRequest)
  | enqueue (id : MaterializationId)
  | forceDelete (request : ForceDeleteRequest)
  | forceReleaseKey (request : ForceReleaseKeyRequest)
  | expireRecords (limit : Nat)
  | pruneOutbox (limit : Nat)

def commit (session : Session) (op : Op) (db : Database) : StoreResult Database :=
  match op with
  | .createInstance request validated => Prod.snd <$> createInstance session request validated db
  | .deleteInstance id => Prod.snd <$> deleteInstance session id db
  | .createRouteBinding request => Prod.snd <$> createRouteBinding session request db
  | .deleteRouteBinding id => Prod.snd <$> deleteRouteBinding session id db
  | .acceptWake request => Prod.snd <$> acceptWake session request db
  | .beginSleep request => Prod.snd <$> beginSleep session request db
  | .requestInstanceDeletion request => Prod.snd <$> requestInstanceDeletion session request db
  | .finalizeInstanceDeletions limit locked =>
    Prod.snd <$> finalizeInstanceDeletions session limit locked db
  | .claim request => Prod.snd <$> claimMaterializationReconciliation session request db
  | .renewLease request => Prod.snd <$> renewMaterializationReconciliationLease session request db
  | .releaseLease request =>
    Prod.snd <$> releaseMaterializationReconciliationLease session request db
  | .beginEffect request => Prod.snd <$> beginMaterializationEffect session request db
  | .acknowledgeEffect request => Prod.snd <$> acknowledgeMaterializationEffect request db
  | .completeWake request => Prod.snd <$> completeWakeReconciliation session request db
  | .finalizeSleep request => Prod.snd <$> finalizeSleepReconciliation session request db
  | .deleteMaterialization request =>
    Prod.snd <$> deleteMaterializationReconciliation session request db
  | .recordFailure request => Prod.snd <$> recordFailure session request db
  | .enqueue id => Prod.snd <$> enqueueMaterialization session id db
  | .forceDelete request => Prod.snd <$> forceDeleteMaterialization session request db
  | .forceReleaseKey request => Prod.snd <$> forceReleaseExclusivityKey session request db
  | .expireRecords limit => expireRecords session limit db
  | .pruneOutbox limit => .ok (pruneOutbox session limit db)

def Op.isForce : Op → Bool
  | .forceDelete _ => true
  | .forceReleaseKey _ => true
  | _ => false

/-- The store from a freshly migrated database; a step is one committed transaction. -/
def storeSystem : TransitionSystem Database (Session × Op) where
  initial db := db = .empty
  step label db next := commit label.1 label.2 db = .ok next

def production (label : Session × Op) : Prop := label.2.isForce = false

instance : DecidablePred production := fun label =>
  inferInstanceAs (Decidable (label.2.isForce = false))

/-! ### Executing runs -/

def runOps : List (Session × Op) → Database → StoreResult Database
  | [], db => .ok db
  | (session, op) :: rest, db => commit session op db >>= runOps rest

theorem runOps_path {allowed : Session × Op → Prop} {labels : List (Session × Op)}
    (allows : ∀ label ∈ labels, allowed label) {db after : Database}
    (ran : runOps labels db = .ok after) : storeSystem.Path allowed db after := by
  induction labels generalizing db with
  | nil =>
    cases ran
    exact .refl
  | cons label _ ih =>
    obtain ⟨session, op⟩ := label
    simp only [runOps, Fallible.bind_eq_ok] at ran
    obtain ⟨next, committed, ran⟩ := ran
    have first : storeSystem.Next allowed db next :=
      ⟨(session, op), allows _ List.mem_cons_self, committed⟩
    exact (Relation.ReflTransGen.single first).trans
      (ih (fun label member => allows label (List.mem_cons_of_mem _ member)) ran)

theorem exists_reachable_of_runOps {allowed : Session × Op → Prop}
    (labels : List (Session × Op)) (test : Database → Bool) (allows : ∀ label ∈ labels, allowed label)
    (passes : (runOps labels .empty).toOption.any test = true) :
    ∃ db, storeSystem.Reachable allowed db ∧ test db = true := by
  obtain ⟨db, ran, passed⟩ := (Option.any_eq_true _ _).mp passes
  exact ⟨db, ⟨.empty, rfl, runOps_path allows (Fallible.toOption_eq_some.mp ran)⟩, passed⟩

def execute (label : Session × Op) (db : Database) : Option Database :=
  (commit label.1 label.2 db).toOption

theorem execute_step (label : Session × Op) (db next : Database)
    (executed : execute label db = some next) : storeSystem.step label db next :=
  Fallible.toOption_eq_some.mp executed

/-! A small deployment, whose runs show that the states the theorems speak of occur. -/

namespace Sample

def session (now : Int) : Session :=
  { now := now, operationTimeoutMillis := 60000, idempotencyRetentionMillis := none }

def web : InstanceId := ⟨"web", rfl⟩

def target : MaterializationTarget := ⟨"east", "apps", by decide, by decide⟩

def work : MaterializationId := materializationId web target

def controller : String := "controller-1"

def createWeb : Op :=
  .createInstance
    { idempotencyKey := ⟨⟨"create-web", by decide⟩⟩
      instanceId := web
      workloadClass := { classId := "service", version := 1 }
      values := []
      routeBindings := [] } (.ok [])

/-- A wake prepared for the incarnation after `generation`. -/
def wakeRequest (generation waking : Nat) : AcceptWakeRequest where
  expectedGeneration := generation
  pending :=
    { instanceId := web
      instanceGeneration := waking
      projectionGeneration := waking + 1
      target := target
      state := .pending
      backend := none
      backendGeneration := waking
      renderedObjects := []
      exclusivityKeys := [] }

def wakeFrom (generation waking : Nat) : Op := .acceptWake (wakeRequest generation waking)

def claimWork : ClaimRequest :=
  { materializationId := work, owner := controller, leaseTtl := 30000000000 }

def pod : RenderedObjectRef :=
  { apiVersion := "v1", kind := "Pod", namespaceName := "apps", name := "web" }

def applyPod : EffectRequest where
  effectId := 1
  materializationId := work
  owner := controller
  attempt := 1
  instanceGeneration := 1
  expectedState := .pending
  operation := .apply
  object := pod
  precondition := none

def waking : List (Session × Op) := [(session 0, createWeb), (session 1, wakeFrom 0 1)]

/-- The first wake of the instance, up to an effect whose outcome is not known yet. -/
def applying : List (Session × Op) :=
  waking ++ [(session 2, .claim claimWork), (session 3, .beginEffect applyPod)]

end Sample

end Sleepypods.Store
