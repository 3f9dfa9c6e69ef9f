import Mathlib

/-! Identifiers, generations and lifecycle states shared by the control plane and the frontline.
An identifier carries the proof that its constructor accepts it. -/

set_option autoImplicit false

namespace Sleepypods

/-- The Unicode `White_Space` property, which `str::trim` strips. -/
def isWhiteSpace (c : Char) : Bool :=
  let code := c.toNat
  (decide (0x9 ≤ code) && decide (code ≤ 0xd)) || code == 0x20 || code == 0x85 || code == 0xa0 ||
    code == 0x1680 || (decide (0x2000 ≤ code) && decide (code ≤ 0x200a)) || code == 0x2028 ||
    code == 0x2029 || code == 0x202f || code == 0x205f || code == 0x3000

def isBlank (text : String) : Bool := text.toList.all isWhiteSpace

def trimEndMatches (strips : Char → Bool) (text : List Char) : List Char :=
  (text.reverse.dropWhile strips).reverse

def trimText (text : List Char) : List Char :=
  trimEndMatches isWhiteSpace (text.dropWhile isWhiteSpace)

structure NonEmptyString where
  value : String
  nonblank : isBlank value = false
  deriving DecidableEq

structure IdempotencyKey extends NonEmptyString
  deriving DecidableEq

structure RouteBindingId extends NonEmptyString
  deriving DecidableEq

structure MaterializationId extends NonEmptyString
  deriving DecidableEq

def isLabelChar (c : Char) : Bool :=
  (decide ('a' ≤ c) && decide (c ≤ 'z')) || (decide ('0' ≤ c) && decide (c ≤ '9')) || c == '-'

def isAlphanumericChar (c : Char) : Bool :=
  (decide ('a' ≤ c) && decide (c ≤ 'z')) || (decide ('A' ≤ c) && decide (c ≤ 'Z')) ||
    (decide ('0' ≤ c) && decide (c ≤ '9'))

def isDnsLabel (value : String) : Bool :=
  !value.toList.isEmpty && decide (value.utf8ByteSize ≤ 63) && value.toList.all isLabelChar &&
    value.toList.head?.any isAlphanumericChar && value.toList.getLast?.any isAlphanumericChar

structure InstanceId where
  value : String
  label : isDnsLabel value = true
  deriving DecidableEq

theorem InstanceId.colon_notMem (id : InstanceId) : ':' ∉ id.value.toList := by
  intro member
  have label := id.label
  simp only [isDnsLabel, Bool.and_eq_true, List.all_eq_true] at label
  exact absurd (label.1.1.2 ':' member) (by decide)

structure MaterializationTarget where
  clusterId : String
  namespaceName : String
  clusterNonblank : isBlank clusterId = false
  namespaceNonblank : isBlank namespaceName = false
  deriving DecidableEq

def materializationIdText (instanceId : InstanceId) (target : MaterializationTarget) : String :=
  instanceId.value ++ ":" ++ target.clusterId ++ ":" ++ target.namespaceName

def materializationId (instanceId : InstanceId) (target : MaterializationTarget) :
    MaterializationId where
  value := materializationIdText instanceId target
  nonblank := by
    rw [isBlank, List.all_eq_false]
    refine ⟨':', ?_, by decide⟩
    simp [materializationIdText]

/-- Equal materialization ids belong to the same instance: the text before the first colon is
the instance id. -/
theorem materializationId_instance {first second : InstanceId}
    {firstTarget secondTarget : MaterializationTarget}
    (same : materializationId first firstTarget = materializationId second secondTarget) :
    first = second := by
  have texts := congrArg (fun id => id.toNonEmptyString.value.toList) same
  simp only [materializationId, materializationIdText, String.toList_append, List.append_assoc]
    at texts
  have taken := congrArg (List.takeWhile fun c => decide (c ≠ ':')) texts
  have before (id : InstanceId) (rest : List Char) :
      (id.value.toList ++ (":".toList ++ rest)).takeWhile (fun c => decide (c ≠ ':')) =
        id.value.toList := by
    rw [List.takeWhile_append_of_pos]
    · simp
    · intro c member
      have other : c ≠ ':' := fun equal => id.colon_notMem (equal ▸ member)
      simpa using other
  rw [before, before, String.toList_inj] at taken
  obtain ⟨value, _⟩ := first
  obtain ⟨otherValue, _⟩ := second
  cases taken
  rfl

inductive InstanceState where
  | cold
  | waking
  | running
  | draining
  | failed
  | deleting
  | deleted
  deriving DecidableEq

inductive MaterializationState where
  | pending
  | ready
  | failed
  | deleting
  | deleted
  deriving DecidableEq

def MaterializationState.isWork (state : MaterializationState) : Bool :=
  decide (state = .pending) || decide (state = .deleting)

/-- A ready backend: its URI, and the address it was observed at when one was resolved. -/
structure BackendEndpoint where
  uri : NonEmptyString
  address : Option String
  deriving DecidableEq

structure RenderedObjectRef where
  apiVersion : String
  kind : String
  namespaceName : String
  name : String
  deriving DecidableEq

structure RenderedExclusivityKey where
  name : String
  value : String
  deriving DecidableEq

structure WorkloadClassVersionRef where
  classId : String
  version : Nat
  deriving DecidableEq

end Sleepypods
