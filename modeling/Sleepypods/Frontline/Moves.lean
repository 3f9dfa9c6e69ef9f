import Sleepypods.Frontline.Actor
import Sleepypods.Frontline.CacheProperties

/-! What a turn of the route actor is made of: every turn is a chain of elementary changes of the
cached answers, the observations and the operations in flight. Which answers may be written is a
parameter, checked in the state each answer is written in. -/

set_option autoImplicit false

namespace Sleepypods.Frontline

open Library Relation

/-- Which answers may be installed under an identity, which may update one in place, and whether
the stream may end in order. -/
structure Permit where
  resolves : Actor → RouteIdentity → SubscriptionId → RouteEntry → Prop
  updates : Actor → RouteIdentity → SubscriptionId → RouteEntry → Prop
  rotates : Prop

def PendingRoute.observation : PendingRoute → RouteObservation
  | .reregister _ _ observation => observation
  | .subscribe _ _ observation => observation
  | .wake _ _ observation => observation

def PendingRoute.request : PendingRoute → Option (RouteRequestId × RouteIdentity)
  | .reregister identity requestId _ => some (requestId, identity)
  | .subscribe identity requestId _ => some (requestId, identity)
  | .wake .. => none

def PendingRoute.wakes : PendingRoute → Option PositiveCacheEntry
  | .wake entry _ _ => some entry
  | _ => none

namespace Actor

def ActorEvent.events : ActorEvent → List RouteSubscriptionEvent
  | .drain events _ => events
  | .joinReregister _ _ _ _ events _ => events
  | .joinSubscribe _ _ _ _ _ events _ _ => events
  | .joinWake _ _ _ _ events _ => events
  | _ => []

def ActorEvent.time : ActorEvent → Nat
  | .drain _ now => now
  | .joinReregister _ _ _ _ _ now => now
  | .joinSubscribe _ _ _ _ _ _ now _ => now
  | .joinWake _ _ _ _ _ now => now
  | .expire now => now
  | .reregister now => now
  | .command _ now _ => now
  | .cleanupFinished _ _ => 0

def ActorEvent.drains : ActorEvent → Bool
  | .drain .. => true
  | .joinReregister .. => true
  | .joinSubscribe .. => true
  | .joinWake .. => true
  | _ => false

def ActorEvent.reply :
    ActorEvent → Option (PendingRoute × Except CallError SubscribeControlPlaneOutput)
  | .joinReregister identity requestId observation result _ _ =>
    some (.reregister identity requestId observation, result)
  | .joinSubscribe identity requestId observation result _ _ _ _ =>
    some (.subscribe identity requestId observation, result)
  | _ => none

def drained (actor : Actor) (event : ActorEvent) : Actor :=
  if event.drains then actor.drainEvents event.events event.time else actor

end Actor

section Permits

variable (permits : Permit)

def MessagePermits (actor : Actor) : SubscribeControlPlaneOutput → Prop
  | .routeResolved _ id matchedIdentity entry _ => permits.resolves actor matchedIdentity id entry
  | .routeUpdated id _ entry _ =>
    ∀ identity ∈ actor.cache.bySubscription.find? id, permits.updates actor identity id entry
  | _ => True

def EventPermits (actor : Actor) : RouteSubscriptionEvent → Prop
  | .update message =>
    ∀ observations ∈ actor.recorded message,
      MessagePermits permits { actor with observations := observations } message
  | .streamEnded => permits.rotates
  | .streamClosed => True

def BatchPermits (now : Nat) : List RouteSubscriptionEvent → Actor → Prop
  | [], _ => True
  | event :: rest, actor =>
    EventPermits permits actor event ∧
      ∀ applied ∈ actor.applyEvent now event, BatchPermits now rest applied.1

def ReplyPermits (actor : Actor) (task : PendingRoute) :
    Except CallError SubscribeControlPlaneOutput → Prop
  | .ok (.routeResolved _ id _ entry _) =>
    actor.observations.isValid task.observation (some id) = true →
      ∀ request ∈ task.request, permits.resolves actor request.2 id entry
  | _ => True

/-- Every answer a turn writes, a finished wake's apart, is permitted: first what the drained
events write, then the reply. -/
def Permits (actor : Actor) (event : Actor.ActorEvent) : Prop :=
  BatchPermits permits event.time event.events actor ∧
    ∀ reply ∈ event.reply, ReplyPermits permits (actor.drained event) reply.1 reply.2

section Decidable

variable [∀ actor identity id entry, Decidable (permits.resolves actor identity id entry)]
variable [∀ actor identity id entry, Decidable (permits.updates actor identity id entry)]
variable [Decidable permits.rotates]

instance (actor : Actor) (message : SubscribeControlPlaneOutput) :
    Decidable (MessagePermits permits actor message) := by
  cases message <;> unfold MessagePermits <;> infer_instance

instance (actor : Actor) (event : RouteSubscriptionEvent) :
    Decidable (EventPermits permits actor event) := by
  cases event <;> unfold EventPermits <;> infer_instance

instance BatchPermits.decidable (now : Nat) : (events : List RouteSubscriptionEvent) →
    (actor : Actor) → Decidable (BatchPermits permits now events actor)
  | [], _ => .isTrue trivial
  | event :: rest, actor =>
    have : ∀ actor, Decidable (BatchPermits permits now rest actor) :=
      BatchPermits.decidable now rest
    inferInstanceAs (Decidable (EventPermits permits actor event ∧
      ∀ applied ∈ actor.applyEvent now event, BatchPermits permits now rest applied.1))

instance (actor : Actor) (task : PendingRoute)
    (result : Except CallError SubscribeControlPlaneOutput) :
    Decidable (ReplyPermits permits actor task result) := by
  unfold ReplyPermits
  split <;> infer_instance

instance (actor : Actor) (event : Actor.ActorEvent) : Decidable (Permits permits actor event) := by
  unfold Permits
  infer_instance

end Decidable

/-! ### Moves -/

inductive Move (actor next : Actor) : Prop where
  | release (cache : actor.cache.Shrinks next.cache)
      (observations : next.observations = actor.observations) (tasks : next.tasks = actor.tasks)
      (requests : next.nextRequest = actor.nextRequest)
  | lose (cache : next.cache = actor.cache.clear)
      (observations : next.observations = actor.observations.reset)
      (tasks : next.tasks = actor.tasks)
      (requests : next.nextRequest = actor.nextRequest)
  | rotate (permitted : permits.rotates) (cache : next.cache = actor.cache.rotateSession.1)
      (observations : next.observations = actor.observations.rotate)
      (tasks : next.tasks = actor.tasks)
      (requests : next.nextRequest = actor.nextRequest)
  | record (id : SubscriptionId) (cache : next.cache = actor.cache)
      (observations : actor.observations.record id = some next.observations)
      (tasks : next.tasks = actor.tasks)
      (requests : next.nextRequest = actor.nextRequest)
  | update (message : SubscribeControlPlaneOutput) (now : Nat)
      (permitted : MessagePermits permits actor message)
      (cache : next.cache = (actor.cache.applyControlPlaneMessage message now).1)
      (observations : next.observations = actor.observations) (tasks : next.tasks = actor.tasks)
      (requests : next.nextRequest = actor.nextRequest)
  | start (task : PendingRoute) (observed : task.observation = actor.observations.begin.2)
      (cached : ∀ entry ∈ task.wakes, ∃ identity, actor.cache.positive identity = some entry)
      (cache : next.cache = actor.cache)
      (observations : next.observations = actor.observations.begin.1)
      (tasks : next.tasks = actor.tasks ++ [task])
      (requests : actor.nextRequest ≤ next.nextRequest)
      (fresh : ∀ request ∈ task.request,
        actor.nextRequest < request.1 ∧ request.1 ≤ next.nextRequest)
  | finish (task : PendingRoute) (id : Option SubscriptionId) (member : task ∈ actor.tasks)
      (cache : next.cache = actor.cache)
      (observations : next.observations = (actor.observations.finish task.observation id).1)
      (tasks : next.tasks = actor.tasks.erase task)
      (requests : next.nextRequest = actor.nextRequest)
  | answer (task : PendingRoute) (identity : RouteIdentity)
      (message : SubscribeControlPlaneOutput) (requestId : RouteRequestId) (now : Nat)
      (member : task ∈ actor.tasks) (requested : task.request = some (requestId, identity))
      (validated : validateSubscribeResponse requestId identity message = .ok ())
      (valid : actor.observations.isValid task.observation (resolvedSubscriptionId message) = true)
      (permitted : ReplyPermits permits actor task (.ok message))
      (cache : next.cache = (actor.cache.applyResolvedResponse identity message now).1)
      (observations : next.observations =
        (actor.observations.finish task.observation (resolvedSubscriptionId message)).1)
      (tasks : next.tasks = actor.tasks.erase task)
      (requests : next.nextRequest = actor.nextRequest)
  | wake (entry : PositiveCacheEntry) (request : WakeInstanceRequest)
      (observation : RouteObservation) (backend : ReadyBackend) (now : Nat)
      (member : PendingRoute.wake entry request observation ∈ actor.tasks)
      (valid : actor.observations.isValid observation entry.subscriptionId = true)
      (cache : next.cache =
        (actor.cache.applyReadyWake entry (readyRouteEntry entry.entry backend) now).1)
      (observations : next.observations =
        (actor.observations.finish observation entry.subscriptionId).1)
      (tasks : next.tasks = actor.tasks.erase (.wake entry request observation))
      (requests : next.nextRequest = actor.nextRequest)

abbrev Moves := ReflTransGen (Move permits)

end Permits

variable {next : Actor} {now : Nat} {identity : RouteIdentity}

namespace Moves

variable {permits : Permit} {start actor : Actor}

section

variable (moves : Moves permits start actor)

include moves

theorem release (cache : actor.cache.Shrinks next.cache)
    (observations : next.observations = actor.observations) (tasks : next.tasks = actor.tasks)
    (requests : next.nextRequest = actor.nextRequest) : Moves permits start next :=
  moves.tail (.release cache observations tasks requests)

theorem resetRouteSession : Moves permits start actor.resetRouteSession :=
  moves.tail (.lose rfl rfl rfl rfl)

theorem deferUnsubscribes (ids : List SubscriptionId) :
    Moves permits start (actor.deferUnsubscribes ids) := by
  unfold Actor.deferUnsubscribes
  simp only
  split
  · exact (moves.release (.refl _) rfl rfl rfl).resetRouteSession
  · exact moves.release (.refl _) rfl rfl rfl

theorem applyEvent {event : RouteSubscriptionEvent}
    (permitted : EventPermits permits actor event) {released : List SubscriptionId}
    (applied : actor.applyEvent now event = some (next, released)) : Moves permits start next := by
  cases event with
  | streamEnded =>
    cases applied
    exact moves.tail (.rotate permitted rfl rfl rfl rfl)
  | streamClosed =>
    cases applied
    exact moves.tail (.lose rfl rfl rfl rfl)
  | update message =>
    obtain ⟨observations, recorded, same⟩ := Option.map_eq_some_iff.mp applied
    cases same
    have observed : Moves permits start { actor with observations := observations } := by
      unfold Actor.recorded at recorded
      split at recorded
      next id _ => exact moves.tail (.record id rfl recorded rfl rfl)
      · cases recorded
        exact moves.release (.refl _) rfl rfl rfl
    exact observed.tail (.update message now (permitted observations recorded) rfl rfl rfl rfl)

end

variable {events : List RouteSubscriptionEvent}

theorem applyEvents {actor : Actor} (moves : Moves permits start actor)
    (permitted : BatchPermits permits now events actor) :
    Moves permits start (Actor.applyEvents now events actor).1 := by
  induction events generalizing actor with
  | nil => exact moves
  | cons _ _ ih =>
    unfold Actor.applyEvents
    split
    · exact moves
    next next released applied =>
      exact ih (moves.applyEvent permitted.1 applied) (permitted.2 (next, released) applied)

variable (moves : Moves permits start actor)

include moves

theorem drainEvents (permitted : BatchPermits permits now events actor) :
    Moves permits start (actor.drainEvents events now) := by
  unfold Actor.drainEvents
  simp only
  split
  · exact (moves.applyEvents permitted).resetRouteSession
  · exact (moves.applyEvents permitted).deferUnsubscribes _

theorem dispatchEntry {entry : PositiveCacheEntry}
    (cached : actor.cache.positive identity = some entry) :
    Moves permits start (actor.dispatchEntry entry).1 := by
  unfold Actor.dispatchEntry
  split
  · exact moves
  · split
    · exact moves
    · exact moves
    · split
      · exact moves.release (.refl _) rfl rfl rfl
      next request _ =>
        refine moves.tail (.start (.wake entry request _) rfl ?_ rfl rfl rfl (Nat.le_refl _) ?_)
        · intro _ wakes
          cases wakes
          exact ⟨identity, cached⟩
        · intro _ requested
          cases requested

theorem spawnSubscribe (identity : RouteIdentity) :
    Moves permits start (actor.spawnSubscribe identity) := by
  refine moves.tail (.start (.subscribe identity _ _) rfl ?_ rfl rfl rfl (Nat.le_succ _) ?_)
  · intro _ wakes
    cases wakes
  · intro _ requested
    cases requested
    exact ⟨Nat.lt_succ_self _, Nat.le_refl _⟩

theorem handleCommand (identity : RouteIdentity) (now : Nat) (refresh : Bool) :
    Moves permits start (actor.handleCommand identity now refresh).1 := by
  unfold Actor.handleCommand
  split
  · exact moves
  · split
    · have invalidated : Moves permits start
          { actor with cache := (actor.cache.invalidateRequest identity).1 } :=
        moves.release (RouteCache.shrinks_removePositive actor.cache identity) rfl rfl rfl
      exact (invalidated.deferUnsubscribes _).spawnSubscribe identity
    · cases hit : actor.cache.lookup identity now with
      | positive => exact moves.dispatchEntry (RouteCache.positive_of_lookup hit).1
      | negative => exact moves
      | expired | absent => exact moves.spawnSubscribe identity

theorem expire (now : Nat) : Moves permits start (actor.expire now) := by
  unfold Actor.expire
  split
  · have expired : Moves permits start
        { actor with
          cache := (actor.cache.expireLimited now
            (maxRouteFlights - actor.unsubscribes.length)).1 } :=
      moves.release (RouteCache.shrinks_expireLimited actor.cache now _) rfl rfl rfl
    exact expired.deferUnsubscribes _
  · exact moves.deferUnsubscribes []

theorem reregisterNext (registered : actor.reregisterNext now = some next) :
    Moves permits start next := by
  unfold Actor.reregisterNext at registered
  split at registered
  · split at registered
    · cases registered
    next identity rest _ =>
      simp only at registered
      split at registered
      · cases registered
        refine moves.tail
          (.start (.reregister identity _ _) rfl ?_ rfl rfl rfl (Nat.le_succ _) ?_)
        · intro _ wakes
          cases wakes
        · intro _ requested
          cases requested
          exact ⟨Nat.lt_succ_self _, Nat.le_refl _⟩
      · cases registered
        exact moves.release (.refl _) rfl rfl rfl
  · cases registered

end Moves

/-! ### Completions -/

variable {task : PendingRoute}

namespace Actor

def withTasks (actor : Actor) (tasks : List PendingRoute) : Actor := { actor with tasks := tasks }

def without (actor : Actor) (task : PendingRoute) : Actor :=
  actor.withTasks (actor.tasks.erase task)

theorem applyEvent_withTasks (actor : Actor) (tasks : List PendingRoute) (now : Nat)
    (event : RouteSubscriptionEvent) :
    (actor.withTasks tasks).applyEvent now event =
      (actor.applyEvent now event).map fun applied => (applied.1.withTasks tasks, applied.2) := by
  cases event with
  | update =>
    unfold applyEvent
    rw [Option.map_map]
    rfl
  | streamEnded | streamClosed => rfl

theorem applyEvents_withTasks (tasks : List PendingRoute) (now : Nat)
    (events : List RouteSubscriptionEvent) (actor : Actor) :
    applyEvents now events (actor.withTasks tasks) =
      ((applyEvents now events actor).1.withTasks tasks, (applyEvents now events actor).2) := by
  induction events generalizing actor with
  | nil => rfl
  | cons event _ ih =>
    simp only [applyEvents, applyEvent_withTasks]
    cases actor.applyEvent now event with
    | none => rfl
    | some => simp only [Option.map_some, ih]

theorem drainEvents_withTasks (actor : Actor) (tasks : List PendingRoute)
    (events : List RouteSubscriptionEvent) (now : Nat) :
    (actor.withTasks tasks).drainEvents events now =
      (actor.drainEvents events now).withTasks tasks := by
  unfold drainEvents
  simp only [applyEvents_withTasks]
  split
  · rfl
  · simp only [deferUnsubscribes]
    rw [apply_ite (fun result : Actor => result.withTasks tasks)]
    rfl

theorem tasks_drainEvents (actor : Actor) (events : List RouteSubscriptionEvent) (now : Nat) :
    (actor.drainEvents events now).tasks = actor.tasks := by
  have same := congrArg Actor.tasks (drainEvents_withTasks actor actor.tasks events now)
  exact same

theorem joined_eq_some {actor drained : Actor} {events : List RouteSubscriptionEvent}
    (joined : actor.joined task events now = some drained) :
    task ∈ (actor.drainEvents events now).tasks ∧
      drained = (actor.drainEvents events now).without task := by
  unfold Actor.joined at joined
  split at joined
  next member =>
    cases joined
    unfold without
    rw [tasks_drainEvents]
    exact ⟨member, drainEvents_withTasks actor _ events now⟩
  · cases joined

end Actor

namespace Moves

variable {permits : Permit} {start actor : Actor}

theorem rejectReply (moves : Moves permits start actor) (observation : RouteObservation)
    (result : Except CallError SubscribeControlPlaneOutput) :
    Moves permits start (actor.rejectReply observation result) := by
  unfold Actor.rejectReply Actor.reclaimCrossedReply
  split
  · exact moves.deferUnsubscribes _
  · split
    · exact moves.resetRouteSession
    · exact moves

theorem checkReply (moves : Moves permits start actor) (member : task ∈ actor.tasks)
    (identity : RouteIdentity) (requestId : RouteRequestId)
    (result : Except CallError SubscribeControlPlaneOutput) :
    Moves permits start
      ((actor.without task).checkReply identity requestId task.observation result).1 :=
  moves.tail (.finish task (result.toOption.bind resolvedSubscriptionId) member rfl rfl rfl rfl)

variable {requestId : RouteRequestId}

/-- A reply that passed every check is installed under the identity its task asked for. -/
theorem installReply (moves : Moves permits start actor) (member : task ∈ actor.tasks)
    (requested : task.request = some (requestId, identity)) {message : SubscribeControlPlaneOutput}
    (permitted : ReplyPermits permits actor task (.ok message)) {checked : Actor}
    (accepted : (actor.without task).checkReply identity requestId task.observation (.ok message) =
      (checked, true, none)) (now : Nat) :
    Moves permits start (checked.installReply identity message now) := by
  unfold Actor.checkReply at accepted
  simp only [Prod.mk.injEq] at accepted
  obtain ⟨rfl, valid, unmatched⟩ := accepted
  have validated : validateSubscribeResponse requestId identity message = .ok () := by
    cases outcome : validateSubscribeResponse requestId identity message with
    | ok => rfl
    | error =>
      rw [outcome] at unmatched
      cases unmatched
  have installed : Moves permits start
      { (actor.without task) with
        observations :=
          (actor.observations.finish task.observation (resolvedSubscriptionId message)).1
        cache := (actor.cache.applyResolvedResponse identity message now).1 } :=
    moves.tail (.answer task identity message requestId now member requested validated valid
      permitted rfl rfl rfl rfl)
  exact installed.deferUnsubscribes _

variable {result : Except CallError SubscribeControlPlaneOutput} {observation : RouteObservation}

section

variable (moves : Moves permits start actor)

include moves

theorem completeReregister
    (member : PendingRoute.reregister identity requestId observation ∈ actor.tasks)
    (permitted : ReplyPermits permits actor (.reregister identity requestId observation) result)
    (now : Nat) :
    Moves permits start
      ((actor.without (.reregister identity requestId observation)).completeReregister identity
        requestId observation result now) := by
  have checked := moves.checkReply member identity requestId result
  unfold Actor.completeReregister
  simp only
  split
  · exact checked.rejectReply observation result
  next accepted =>
    cases result with
    | error => exact checked
    | ok =>
      simp only [not_or, Bool.not_eq_false, Option.not_isSome_iff_eq_none] at accepted
      exact moves.installReply member rfl permitted
        (Prod.ext rfl (Prod.ext accepted.1 accepted.2)) now

theorem completeSubscribe
    (member : PendingRoute.subscribe identity requestId observation ∈ actor.tasks)
    (permitted : ReplyPermits permits actor (.subscribe identity requestId observation) result)
    (closed : Bool) (now later : Nat) :
    Moves permits start
      ((actor.without (.subscribe identity requestId observation)).completeSubscribe identity
        requestId observation result closed now later).1 := by
  have checked := moves.checkReply member identity requestId result
  unfold Actor.completeSubscribe
  simp only
  split
  · exact checked.rejectReply observation result
  next accepted =>
    cases result with
    | error => exact checked
    | ok =>
      simp only [not_or, Bool.not_eq_false, Option.not_isSome_iff_eq_none] at accepted
      have installed := moves.installReply member rfl permitted
        (Prod.ext rfl (Prod.ext accepted.1 accepted.2.2)) now
      simp only
      split
      next entry hit => exact installed.dispatchEntry (RouteCache.positive_of_lookup hit).1
      · exact installed
      · exact installed

theorem completeWake {entry : PositiveCacheEntry} {request : WakeInstanceRequest}
    (member : PendingRoute.wake entry request observation ∈ actor.tasks)
    (result : Except CallError WakeInstanceResponse) (now : Nat) :
    Moves permits start
      ((actor.without (.wake entry request observation)).completeWake entry request observation
        result now).1 := by
  unfold Actor.completeWake
  simp only
  split
  · exact moves.tail (.finish _ entry.subscriptionId member rfl rfl rfl rfl)
  next valid =>
    rw [Bool.not_eq_false] at valid
    cases result with
    | error => exact moves.tail (.finish _ entry.subscriptionId member rfl rfl rfl rfl)
    | ok =>
      simp only
      split
      next backend _ =>
        exact moves.tail (.wake entry request observation backend now member valid rfl rfl rfl rfl)
      · exact moves.tail (.finish _ entry.subscriptionId member rfl rfl rfl rfl)

end

variable {event : Actor.ActorEvent}

theorem handle_drained (handled : actor.handle event = some next)
    (permitted : ∀ reply ∈ event.reply,
      ReplyPermits permits (actor.drained event) reply.1 reply.2) :
    Moves permits (actor.drained event) next := by
  have stay : Moves permits (actor.drained event) (actor.drained event) := .refl
  cases event with
  | drain =>
    cases handled
    exact stay
  | expire now =>
    cases handled
    exact stay.expire now
  | reregister => exact stay.reregisterNext handled
  | joinReregister _ _ _ _ _ now =>
    obtain ⟨drained, joined, rfl⟩ := Option.map_eq_some_iff.mp handled
    obtain ⟨member, rfl⟩ := Actor.joined_eq_some joined
    exact stay.completeReregister member (permitted _ rfl) now
  | joinSubscribe _ _ _ _ closed _ now later =>
    obtain ⟨drained, joined, rfl⟩ := Option.map_eq_some_iff.mp handled
    obtain ⟨member, rfl⟩ := Actor.joined_eq_some joined
    exact stay.completeSubscribe member (permitted _ rfl) closed now later
  | joinWake _ _ _ result _ now =>
    obtain ⟨drained, joined, rfl⟩ := Option.map_eq_some_iff.mp handled
    obtain ⟨member, rfl⟩ := Actor.joined_eq_some joined
    exact stay.completeWake member result now
  | command identity now refresh =>
    cases handled
    exact stay.handleCommand identity now refresh
  | cleanupFinished =>
    cases handled
    exact stay.release (.refl _) rfl rfl rfl

theorem drained (permitted : BatchPermits permits event.time event.events actor) :
    Moves permits actor (actor.drained event) := by
  unfold Actor.drained
  split
  · exact Moves.drainEvents .refl permitted
  · exact .refl

theorem handle (handled : actor.handle event = some next)
    (permitted : Permits permits actor event) :
    Moves permits actor next :=
  (drained permitted.1).trans (handle_drained handled permitted.2)

end Moves

end Sleepypods.Frontline
