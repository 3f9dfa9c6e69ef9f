import Sleepypods.Frontline.Cache

/-! Correlation of operations in flight with the events that arrive meanwhile. -/

set_option autoImplicit false

namespace Sleepypods.Frontline

open Library

def maxObservedSubscriptions : Nat := 4096

structure RouteObservation where
  id : Nat
  streamEpoch : Nat
  sequence : Nat
  deriving DecidableEq

structure RouteObservations where
  streamEpoch : Nat
  /-- Observations begun before this epoch crossed a session that dropped events. -/
  lossyFrom : Nat
  sequence : Nat
  nextId : Nat
  active : Table Nat Nat
  subscriptions : Table SubscriptionId Nat

namespace RouteObservations

def initial : RouteObservations where
  streamEpoch := 0
  lossyFrom := 0
  sequence := 0
  nextId := 0
  active := .empty
  subscriptions := .empty

def begin (observations : RouteObservations) : RouteObservations × RouteObservation :=
  let id := observations.nextId + 1
  ({ observations with
      nextId := id
      active := observations.active.insert id observations.sequence },
    { id := id
      streamEpoch := observations.streamEpoch
      sequence := observations.sequence })

/-- The stream ended in order: its ids are dead, but it delivered everything it had. -/
def rotate (observations : RouteObservations) : RouteObservations :=
  { observations with
    streamEpoch := observations.streamEpoch + 1
    active := .empty
    subscriptions := .empty }

def reset (observations : RouteObservations) : RouteObservations :=
  { observations.rotate with lossyFrom := observations.streamEpoch + 1 }

def crossedLossy (observations : RouteObservations) (epoch : Nat) : Bool :=
  decide (epoch < observations.lossyFrom)

def record (observations : RouteObservations) (id : SubscriptionId) : Option RouteObservations :=
  if observations.active.size = 0 then some observations
  else if observations.subscriptions.size = maxObservedSubscriptions ∧
      observations.subscriptions.find? id = none then none
  else
    some
      { observations with
        sequence := observations.sequence + 1
        subscriptions := observations.subscriptions.insert id (observations.sequence + 1) }

/-- Whether nothing the observation depends on has changed since it began. -/
def isValid (observations : RouteObservations) (observation : RouteObservation)
    (id : Option SubscriptionId) : Bool :=
  decide (observation.streamEpoch = observations.streamEpoch) &&
    !(id.any fun id =>
      (observations.subscriptions.find? id).any fun sequence =>
        decide (observation.sequence < sequence))

/-- The sequence of the oldest active observation, or the present one. -/
def oldest (observations : RouteObservations) : Nat :=
  (observations.active.entries.map Prod.snd).min?.getD observations.sequence

def finish (observations : RouteObservations) (observation : RouteObservation)
    (id : Option SubscriptionId) : RouteObservations × Bool :=
  let remaining := { observations with active := observations.active.erase observation.id }
  ({ remaining with
      subscriptions := observations.subscriptions.filterRows fun _ sequence =>
        decide (remaining.oldest < sequence) },
    observations.isValid observation id)

variable {observations recorded : RouteObservations} {id : SubscriptionId}

section

variable (accepted : observations.record id = some recorded)

include accepted

theorem record_eq_some :
    (observations.active.size = 0 ∧ recorded = observations) ∨
      recorded =
        { observations with
          sequence := observations.sequence + 1
          subscriptions := observations.subscriptions.insert id (observations.sequence + 1) } := by
  unfold record at accepted
  split at accepted
  next idle =>
    cases accepted
    exact .inl ⟨idle, rfl⟩
  · split at accepted
    · cases accepted
    · cases accepted
      exact .inr rfl

theorem streamEpoch_record : recorded.streamEpoch = observations.streamEpoch := by
  rcases record_eq_some accepted with ⟨_, rfl⟩ | rfl <;> rfl

theorem nextId_record : recorded.nextId = observations.nextId := by
  rcases record_eq_some accepted with ⟨_, rfl⟩ | rfl <;> rfl

end

theorem streamEpoch_of_isValid {observation : RouteObservation} {id : Option SubscriptionId}
    (valid : observations.isValid observation id = true) :
    observation.streamEpoch = observations.streamEpoch := by
  simp only [isValid, Bool.and_eq_true, decide_eq_true_eq] at valid
  exact valid.1

end RouteObservations

end Sleepypods.Frontline
