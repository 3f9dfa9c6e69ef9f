import Sleepypods.Frontline.Tracking

/-! Where the answers of a cache come from, and what a drain that holds a close barrier leaves. -/

set_option autoImplicit false

namespace Sleepypods.Frontline

open Library Actor

variable {permits : Permit} {actor next : Actor}

/-- An answer that was there before, under its subscription or without one after a rotation, or one
that was installed meanwhile. -/
def Derives (permits : Permit) (cache : RouteCache) (identity : RouteIdentity)
    (positive : PositiveCacheEntry) : Prop :=
  (∃ before, cache.positive identity = some before ∧
    (positive.subscriptionId = before.subscriptionId ∨
      (permits.rotates ∧ positive.subscriptionId = none))) ∨
  ∃ actor id entry, positive.subscriptionId = some id ∧ permits.resolves actor identity id entry

theorem Derives.congr {cache : RouteCache} {identity : RouteIdentity}
    {positive other : PositiveCacheEntry} (derives : Derives permits cache identity positive)
    (same : other.subscriptionId = positive.subscriptionId) :
    Derives permits cache identity other := by
  unfold Derives
  rw [same]
  exact derives

theorem derives_self (cache : RouteCache) : cache.All (Derives permits cache) :=
  fun _ positive found => .inl ⟨positive, found, .inl rfl⟩

/-- A rotation forgets ids; it must not meet an answer that was just installed. -/
theorem Derives.rotate {cache : RouteCache} {identity : RouteIdentity}
    {positive : PositiveCacheEntry} (derives : Derives permits cache identity positive)
    (rotates : permits.rotates)
    (separate : ∀ actor id entry, ¬ permits.resolves actor identity id entry) :
    Derives permits cache identity { positive with subscriptionId := none } := by
  rcases derives with ⟨before, found, _⟩ | ⟨actor, id, entry, _, resolved⟩
  · exact .inl ⟨before, found, .inr ⟨rotates, rfl⟩⟩
  · exact absurd resolved (separate actor id entry)

section

variable (separate : permits.rotates → ∀ actor identity id entry, ¬ permits.resolves actor identity id entry)

include separate

theorem Move.derives {start : RouteCache} (move : Move permits actor next)
    (before : actor.cache.All (Derives permits start)) :
    next.cache.All (Derives permits start) := by
  cases move with
  | release cache => exact before.shrink cache
  | lose cache =>
    rw [cache]
    exact before.shrink (RouteCache.shrinks_clear _)
  | rotate permitted cache =>
    rw [cache]
    exact before.rotateSession fun identity positive derives =>
      derives.rotate permitted fun actor => separate permitted actor identity
  | record _ cache => rwa [cache]
  | update _ _ permitted cache =>
    rw [cache]
    refine before.applyControlPlaneMessage ?_ ?_
    · rintro requestId id matchedIdentity entry ttl sequence rfl
      exact .inr ⟨actor, id, entry, rfl, permitted⟩
    · rintro id matchedIdentity entry ttl identity cached rfl _ present
      exact (before identity cached present).congr rfl
  | start _ _ _ cache => rwa [cache]
  | finish _ _ _ cache => rwa [cache]
  | answer task identity message requestId now member requested validated valid permitted cache
      observations tasks requests =>
      rw [cache]
      refine before.applyResolvedResponse ?_ ?_
      · rintro _ id matchedIdentity entry ttl sequence rfl
        exact .inr ⟨actor, id, entry, rfl, permitted valid _ requested⟩
      · rintro id matchedIdentity entry ttl other cached rfl
        cases validated
  | wake entry _ _ _ _ _ _ cache =>
    rw [cache]
    unfold RouteCache.applyReadyWake
    split
    · exact before
    · split
      · exact before
      · exact before.refreshPositive fun cached found =>
          (before entry.requestIdentity cached found).congr rfl

theorem Moves.derives (moves : Moves permits actor next) :
    next.cache.All (Derives permits actor.cache) := by
  induction moves with
  | refl => exact derives_self actor.cache
  | tail _ move ih => exact move.derives separate ih

end

theorem Bookkeeping.epoch_le (change : Bookkeeping actor next) :
    actor.observations.streamEpoch ≤ next.observations.streamEpoch := by
  cases change with
  | idle observations => exact Nat.le_of_eq (by rw [observations])
  | cross epoch =>
    rw [epoch]
    exact Nat.le_succ _
  | record _ observations =>
    exact Nat.le_of_eq (RouteObservations.streamEpoch_record observations).symm
  | start _ _ observations =>
    rw [observations]
    exact Nat.le_refl _
  | finish _ _ _ observations =>
    rw [observations]
    exact Nat.le_refl _

theorem Moves.epoch_le (moves : Moves permits actor next) :
    actor.observations.streamEpoch ≤ next.observations.streamEpoch := by
  induction moves with
  | refl => exact Nat.le_refl _
  | tail _ move ih => exact Nat.le_trans ih move.bookkeeping.epoch_le

theorem Moves.tracked (moves : Moves permits actor next) (tracked : Tracked actor) :
    Tracked next := by
  induction moves with
  | refl => exact tracked
  | tail _ move ih => exact ih.bookkeeping move.bookkeeping

structure Requests (actor next : Actor) : Prop where
  grows : actor.nextRequest ≤ next.nextRequest
  tasks : ∀ task ∈ next.tasks, task ∈ actor.tasks ∨
    ∀ request ∈ task.request, actor.nextRequest < request.1 ∧ request.1 ≤ next.nextRequest

theorem Requests.refl (actor : Actor) : Requests actor actor :=
  ⟨Nat.le_refl _, fun _ member => .inl member⟩

theorem Requests.trans {middle : Actor} (former : Requests actor middle)
    (latter : Requests middle next) : Requests actor next where
  grows := Nat.le_trans former.grows latter.grows
  tasks := by
    intro task member
    rcases latter.tasks task member with old | new
    · rcases former.tasks task old with older | newer
      · exact .inl older
      · exact .inr fun request requested =>
          ⟨(newer request requested).1, Nat.le_trans (newer request requested).2 latter.grows⟩
    · exact .inr fun request requested =>
        ⟨Nat.lt_of_le_of_lt former.grows (new request requested).1, (new request requested).2⟩

theorem Requests.of_subset (requests : next.nextRequest = actor.nextRequest)
    (tasks : next.tasks ⊆ actor.tasks) : Requests actor next :=
  ⟨Nat.le_of_eq requests.symm, fun _ member => .inl (tasks member)⟩

theorem Move.requests (move : Move permits actor next) : Requests actor next := by
  cases move with
  | release _ _ tasks requests | lose _ _ tasks requests =>
    exact .of_subset requests (tasks ▸ .refl _)
  | rotate _ _ _ tasks requests | record _ _ _ tasks requests =>
    exact .of_subset requests (tasks ▸ .refl _)
  | update _ _ _ _ _ tasks requests =>
    exact .of_subset requests (tasks ▸ .refl _)
  | start _ _ _ _ _ tasks requests fresh =>
    refine ⟨requests, fun other member => ?_⟩
    rw [tasks] at member
    rcases List.mem_append.mp member with before | new
    · exact .inl before
    · rw [List.mem_singleton.mp new]
      exact .inr fresh
  | finish _ _ _ _ _ tasks requests =>
    exact .of_subset requests (tasks ▸ List.erase_subset)
  | answer task identity message requestId now member requested validated valid permitted cache
      observations tasks requests => exact .of_subset requests (tasks ▸ List.erase_subset)
  | wake _ _ _ _ _ _ _ _ _ tasks requests =>
    exact .of_subset requests (tasks ▸ List.erase_subset)

theorem Moves.requests (moves : Moves permits actor next) : Requests actor next := by
  induction moves with
  | refl => exact .refl actor
  | tail _ move ih => exact ih.trans move.requests

/-! ### Drains -/

def RouteSubscriptionEvent.passive : RouteSubscriptionEvent → Bool
  | .update (.routeResolved ..) => false
  | _ => true

def passivePermit : Permit where
  resolves _ _ _ _ := False
  updates _ _ _ _ := True
  rotates := True

variable {now : Nat} {events : List RouteSubscriptionEvent}

theorem batchPermits_passive {actor : Actor} (passive : ∀ event ∈ events, event.passive = true) :
    BatchPermits passivePermit now events actor := by
  induction events generalizing actor with
  | nil => trivial
  | cons event _ ih =>
    refine ⟨?_, fun _ _ => ih fun event member => passive event (List.mem_cons_of_mem _ member)⟩
    have first := passive event List.mem_cons_self
    cases event with
    | streamEnded | streamClosed => exact trivial
    | update message =>
      cases message with
      | routeResolved => cases first
      | routeMiss | routeInvalidated => exact fun _ _ => trivial
      | routeUpdated => exact fun _ _ _ _ => trivial

/-- Every cached answer is of a kind, and the epoch is past the one before. -/
def Cut (keeps : PositiveCacheEntry → Prop) (actor next : Actor) : Prop :=
  next.cache.All (fun _ positive => keeps positive) ∧
    actor.observations.streamEpoch < next.observations.streamEpoch

def Forgetful (keeps : PositiveCacheEntry → Prop) : Prop :=
  ∀ before after, keeps before →
    after.subscriptionId = before.subscriptionId ∨ after.subscriptionId = none → keeps after

section Cuts

variable {keeps : PositiveCacheEntry → Prop}

theorem Cut.moves (forgetful : Forgetful keeps) {middle : Actor} (cut : Cut keeps actor middle)
    (moves : Moves passivePermit middle next) : Cut keeps actor next := by
  refine ⟨fun identity positive found => ?_, Nat.lt_of_lt_of_le cut.2 moves.epoch_le⟩
  rcases moves.derives (fun _ _ _ _ _ => not_false) identity positive found with
    ⟨before, kept, same | ⟨_, none⟩⟩ | ⟨_, _, _, _, resolved⟩
  · exact forgetful before positive (cut.1 identity before kept) (.inl same)
  · exact forgetful before positive (cut.1 identity before kept) (.inr none)
  · cases resolved

theorem Cut.of_le {earlier : Actor} (cut : Cut keeps actor next)
    (older : earlier.observations.streamEpoch ≤ actor.observations.streamEpoch) :
    Cut keeps earlier next :=
  ⟨cut.1, Nat.lt_of_le_of_lt older cut.2⟩

theorem cut_resetRouteSession (actor : Actor) : Cut keeps actor actor.resetRouteSession :=
  ⟨fun _ _ found => (by cases found), Nat.lt_succ_self _⟩

def Cuts (keeps : PositiveCacheEntry → Prop) (event : RouteSubscriptionEvent) : Prop :=
  ∀ (actor : Actor) now result, actor.applyEvent now event = some result → Cut keeps actor result.1

theorem streamClosed_cuts : Cuts keeps .streamClosed := by
  intro actor now result applied
  cases applied
  exact ⟨fun _ _ found => (by cases found), Nat.lt_succ_self _⟩

theorem streamEnded_cuts (unbacked : ∀ positive, positive.subscriptionId = none → keeps positive) :
    Cuts keeps .streamEnded := by
  intro actor now result applied
  cases applied
  refine ⟨fun identity positive found => ?_, Nat.lt_succ_self _⟩
  simp only [RouteCache.positive, Table.find?_mapRows] at found
  obtain ⟨old, _, rfl⟩ := Option.map_eq_some_iff.mp found
  exact unbacked _ rfl

/-- A batch with such an event leaves only answers of the kind, unless the history overflows
first. -/
theorem applyEvents_cut (forgetful : Forgetful keeps) :
    ∀ {actor : Actor}, (∀ event ∈ events, event.passive = true) → (∃ event ∈ events, Cuts keeps event) →
      (applyEvents now events actor).2.2 = true ∨
        Cut keeps actor (applyEvents now events actor).1 := by
  induction events with
  | nil =>
    rintro actor - ⟨event, member, _⟩
    exact absurd member List.not_mem_nil
  | cons event rest ih =>
    rintro actor passive ⟨cutting, member, cuts⟩
    have restPassive : ∀ event ∈ rest, event.passive = true :=
      fun event member => passive event (List.mem_cons_of_mem _ member)
    cases applied : actor.applyEvent now event with
    | none =>
      left
      simp only [applyEvents, applied]
    | some result =>
      have single : BatchPermits passivePermit now [event] actor :=
        batchPermits_passive fun other member =>
          passive other (List.mem_singleton.mp member ▸ List.mem_cons_self)
      have first : Moves passivePermit actor result.1 :=
        Moves.applyEvent .refl single.1 applied
      have later : Moves passivePermit result.1 (applyEvents now rest result.1).1 :=
        Moves.applyEvents .refl (batchPermits_passive restPassive)
      simp only [applyEvents, applied]
      rcases List.mem_cons.mp member with rfl | there
      · exact .inr ((cuts actor now result applied).moves forgetful later)
      · rcases ih restPassive ⟨cutting, there, cuts⟩ with overflow | cut
        · exact .inl overflow
        · exact .inr (cut.of_le first.epoch_le)

theorem drainEvents_cut (forgetful : Forgetful keeps) (actor : Actor)
    (passive : ∀ event ∈ events, event.passive = true) (cuts : ∃ event ∈ events, Cuts keeps event) :
    Cut keeps actor (actor.drainEvents events now) := by
  have applied : Moves passivePermit actor (applyEvents now events actor).1 :=
    Moves.applyEvents .refl (batchPermits_passive passive)
  have reset : Cut keeps actor (applyEvents now events actor).1.resetRouteSession :=
    (cut_resetRouteSession _).of_le applied.epoch_le
  unfold drainEvents
  simp only
  split
  · exact reset
  next kept =>
    rcases applyEvents_cut forgetful passive cuts with overflow | cut
    · exact absurd overflow kept
    · exact cut.moves forgetful (Moves.deferUnsubscribes .refl _)

end Cuts

/-- The permit of what a turn does after its drain: it installs the reply it joined. -/
def replyPermit (actor : Actor) (event : Actor.ActorEvent) : Permit where
  resolves _ _ id _ := ∃ task message, event.reply = some (task, .ok message) ∧
    resolvedSubscriptionId message = some id ∧
    task.observation.streamEpoch = (actor.drained event).observations.streamEpoch
  updates _ _ _ _ := True
  rotates := False

theorem moves_after_drain {event : Actor.ActorEvent} (handled : actor.handle event = some next) :
    Moves (replyPermit actor event) (actor.drained event) next := by
  refine Moves.handle_drained handled ?_
  rintro ⟨task, result⟩ replied
  cases result with
  | error => trivial
  | ok message =>
    cases message with
    | routeResolved =>
      intro valid request _
      exact ⟨task, _, replied, rfl, RouteObservations.streamEpoch_of_isValid valid⟩
    | routeMiss | routeUpdated | routeInvalidated => trivial

theorem mem_of_reply {event : Actor.ActorEvent} (handled : actor.handle event = some next)
    {task : PendingRoute} {result : Except CallError SubscribeControlPlaneOutput}
    (replied : event.reply = some (task, result)) : task ∈ actor.tasks := by
  cases event with
  | joinReregister _ _ _ _ events now =>
    cases replied
    obtain ⟨drained, joined, _⟩ := Option.map_eq_some_iff.mp handled
    exact tasks_drainEvents actor events now ▸ (joined_eq_some joined).1
  | joinSubscribe _ _ _ _ _ events now =>
    cases replied
    obtain ⟨drained, joined, _⟩ := Option.map_eq_some_iff.mp handled
    exact tasks_drainEvents actor events now ▸ (joined_eq_some joined).1
  | drain | expire | reregister | joinWake | command | cleanupFinished => cases replied

end Sleepypods.Frontline
