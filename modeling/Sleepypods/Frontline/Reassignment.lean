import Sleepypods.Frontline.Tracking

/-! Wakes against reassigned routes. What a finished wake writes is checked against the cached
answer by generation only, so it depends on which answers were installed for its identity while it
was in flight. -/

set_option autoImplicit false

namespace Sleepypods.Frontline

open Library

def SameRoute (first second : RouteEntry) : Prop :=
  first.instanceId = second.instanceId ∧ first.routeBindingId = second.routeBindingId

instance (first second : RouteEntry) : Decidable (SameRoute first second) :=
  inferInstanceAs (Decidable (_ ∧ _))

theorem SameRoute.refl (entry : RouteEntry) : SameRoute entry entry := ⟨rfl, rfl⟩

theorem SameRoute.symm {first second : RouteEntry} (same : SameRoute first second) :
    SameRoute second first :=
  ⟨same.1.symm, same.2.symm⟩

theorem SameRoute.trans {first second third : RouteEntry} (former : SameRoute first second)
    (latter : SameRoute second third) : SameRoute first third :=
  ⟨former.1.trans latter.1, former.2.trans latter.2⟩

theorem sameRoute_readyRouteEntry (entry : RouteEntry) (backend : ReadyBackend) :
    SameRoute (readyRouteEntry entry backend) entry := ⟨rfl, rfl⟩

/-- An answer for this identity reassigns none of the wakes that are in flight for it and still
valid. -/
def KeepsWakes (actor : Actor) (identity : RouteIdentity) (entry : RouteEntry) : Prop :=
  ∀ task ∈ actor.tasks, ∀ cached ∈ task.wakes,
    cached.requestIdentity = identity →
    actor.observations.isValid task.observation cached.subscriptionId = true →
    SameRoute entry cached.entry

def keepsWakes : Permit where
  resolves actor identity _ entry := KeepsWakes actor identity entry
  updates actor identity _ entry := KeepsWakes actor identity entry
  rotates := True

def KeepsRoutes (event : Actor.ActorEvent) (actor : Actor) : Prop := Permits keepsWakes actor event

instance (actor : Actor) (identity : RouteIdentity) (entry : RouteEntry) :
    Decidable (KeepsWakes actor identity entry) := by
  unfold KeepsWakes
  infer_instance

instance (actor : Actor) (identity : RouteIdentity) (id : SubscriptionId) (entry : RouteEntry) :
    Decidable (keepsWakes.resolves actor identity id entry) :=
  inferInstanceAs (Decidable (KeepsWakes actor identity entry))

instance (actor : Actor) (identity : RouteIdentity) (id : SubscriptionId) (entry : RouteEntry) :
    Decidable (keepsWakes.updates actor identity id entry) :=
  inferInstanceAs (Decidable (KeepsWakes actor identity entry))

instance : Decidable keepsWakes.rotates := .isTrue trivial

instance (event : Actor.ActorEvent) (actor : Actor) : Decidable (KeepsRoutes event actor) := by
  unfold KeepsRoutes
  infer_instance

/-! ### The invariant -/

/-- An answer stands under its own request identity and agrees with the wakes in flight for it. -/
def Agrees (actor : Actor) (identity : RouteIdentity) (positive : PositiveCacheEntry) : Prop :=
  positive.requestIdentity = identity ∧ KeepsWakes actor identity positive.entry

variable {actor : Actor}

theorem KeepsWakes.step {next : Actor} {identity : RouteIdentity} {entry : RouteEntry}
    (keeps : KeepsWakes actor identity entry) (tracked : Tracked actor)
    (change : Bookkeeping actor next) (tasks : next.tasks ⊆ actor.tasks) :
    KeepsWakes next identity entry := by
  intro task member cached wakes asked valid
  exact keeps task (tasks member) cached wakes asked
    (tracked.isValid_before change (tasks member) member valid)

structure WakesAgree (actor : Actor) : Prop where
  tracked : Tracked actor
  agreed : actor.cache.All (Agrees actor)

namespace WakesAgree

variable {actor next : Actor}

theorem start (capacity : Nat) : WakesAgree (.start capacity) where
  tracked := .start capacity
  agreed := fun _ _ found => by cases found

variable (agree : WakesAgree actor)

include agree

section

variable (change : Bookkeeping actor next)

include change

theorem shrink (shrinks : actor.cache.Shrinks next.cache) (tasks : next.tasks ⊆ actor.tasks) :
    WakesAgree next where
  tracked := agree.tracked.bookkeeping change
  agreed := by
    intro identity positive found
    obtain ⟨under, keeps⟩ := agree.agreed identity positive (shrinks identity positive found)
    exact ⟨under, keeps.step agree.tracked change tasks⟩

theorem write (written : next.cache.All (Agrees actor)) (tasks : next.tasks ⊆ actor.tasks) :
    WakesAgree next where
  tracked := agree.tracked.bookkeeping change
  agreed := by
    intro identity positive found
    obtain ⟨under, keeps⟩ := written identity positive found
    exact ⟨under, keeps.step agree.tracked change tasks⟩

theorem rotate (cache : next.cache = actor.cache.rotateSession.1)
    (tasks : next.tasks = actor.tasks) : WakesAgree next := by
  refine agree.write change ?_ (tasks ▸ fun _ member => member)
  rw [cache]
  exact agree.agreed.rotateSession fun identity positive agrees => agrees

theorem begin {task : PendingRoute}
    (cached : ∀ entry ∈ task.wakes, ∃ identity, actor.cache.positive identity = some entry)
    (cache : next.cache = actor.cache) (tasks : next.tasks = actor.tasks ++ [task])
    (observations : next.observations = actor.observations.begin.1) :
    WakesAgree next where
  tracked := agree.tracked.bookkeeping change
  agreed := by
    intro identity positive found
    rw [cache] at found
    obtain ⟨under, keeps⟩ := agree.agreed identity positive found
    refine ⟨under, fun other member entry wakes asked valid => ?_⟩
    rw [tasks] at member
    rcases List.mem_append.mp member with before | new
    · rw [observations] at valid
      exact keeps other before entry wakes asked valid
    · obtain ⟨place, stored⟩ := cached entry (List.mem_singleton.mp new ▸ wakes)
      have same : place = identity := (agree.agreed place entry stored).1.symm.trans asked
      rw [same, found] at stored
      cases stored
      exact .refl _

theorem wake
    {entry : PositiveCacheEntry} {request : WakeInstanceRequest} {observation : RouteObservation}
    {backend : ReadyBackend} {now : Nat}
    (member : PendingRoute.wake entry request observation ∈ actor.tasks)
    (valid : actor.observations.isValid observation entry.subscriptionId = true)
    (cache : next.cache =
      (actor.cache.applyReadyWake entry (readyRouteEntry entry.entry backend) now).1)
    (tasks : next.tasks ⊆ actor.tasks) : WakesAgree next := by
  refine agree.write change ?_ tasks
  rw [cache]
  unfold RouteCache.applyReadyWake
  split
  · exact agree.agreed
  next current stored =>
    split
    · exact agree.agreed
    · refine agree.agreed.refreshPositive fun cached found => ?_
      obtain ⟨under, keeps⟩ := agree.agreed entry.requestIdentity cached found
      have own := keeps _ member entry rfl rfl valid
      refine ⟨under, fun task inFlight other wakes asked otherValid => ?_⟩
      have others := keeps task inFlight other wakes asked otherValid
      exact (sameRoute_readyRouteEntry entry.entry backend).trans (own.symm.trans others)

end

theorem move (move : Move keepsWakes actor next) : WakesAgree next := by
  have change := move.bookkeeping
  cases move with
  | release cache _ tasks =>
    exact agree.shrink change cache (tasks ▸ List.Subset.refl _)
  | lose cache _ tasks =>
    exact agree.shrink change (cache ▸ RouteCache.shrinks_clear _) (tasks ▸ List.Subset.refl _)
  | rotate _ cache _ tasks => exact agree.rotate change cache tasks
  | record _ cache _ tasks =>
    exact agree.shrink change (cache ▸ .refl _) (tasks ▸ List.Subset.refl _)
  | update _ _ permitted cache _ tasks =>
    refine agree.write change ?_ (tasks ▸ List.Subset.refl _)
    rw [cache]
    refine agree.agreed.applyControlPlaneMessage ?_ ?_
    · rintro requestId id matchedIdentity entry ttl sequence rfl
      exact ⟨rfl, permitted⟩
    · rintro id matchedIdentity entry ttl identity cached rfl backed present
      exact ⟨(agree.agreed identity cached present).1, permitted identity backed⟩
  | start _ _ cached cache observations tasks =>
    exact agree.begin change cached cache tasks observations
  | finish _ _ _ cache _ tasks =>
    exact agree.shrink change (cache ▸ .refl _) (tasks ▸ List.erase_subset)
  | answer task identity message requestId now member requested validated valid permitted cache
      observations tasks requests =>
      refine agree.write change ?_ (tasks ▸ List.erase_subset)
      rw [cache]
      refine agree.agreed.applyResolvedResponse ?_ ?_
      · rintro _ id matchedIdentity entry ttl sequence rfl
        exact ⟨rfl, permitted valid _ requested⟩
      · rintro id matchedIdentity entry ttl other cached rfl
        cases validated
  | wake _ _ _ _ _ member valid cache _ tasks =>
    exact agree.wake change member valid cache (tasks ▸ List.erase_subset)

theorem moves (moves : Moves keepsWakes actor next) : WakesAgree next := by
  induction moves with
  | refl => exact agree
  | tail _ move ih => exact ih.move move

end WakesAgree

theorem wakesAgree_of_reachable {capacity : Nat}
    (reached : (actorSystem capacity).ReachableUnder KeepsRoutes actor) : WakesAgree actor := by
  refine reached.invariant ?_ ?_
  · rintro _ rfl
    exact .start capacity
  · intro event before after permitted agree handled
    exact agree.moves (Moves.handle handled permitted)

/-- A finished wake changes the cache only while it is valid, and only under its own identity. -/
theorem positive_completeWake (actor : Actor) (entry : PositiveCacheEntry)
    (request : WakeInstanceRequest) (observation : RouteObservation)
    (result : Except CallError WakeInstanceResponse) (now : Nat) (identity : RouteIdentity) :
    (actor.completeWake entry request observation result now).1.cache.positive identity =
        actor.cache.positive identity ∨
      (identity = entry.requestIdentity ∧
        actor.observations.isValid observation entry.subscriptionId = true) := by
  unfold Actor.completeWake
  simp only
  split
  · exact .inl rfl
  next valid =>
    rw [Bool.not_eq_false] at valid
    split
    · exact .inl rfl
    · split
      next backend _ =>
        by_cases own : identity = entry.requestIdentity
        · exact .inr ⟨own, valid⟩
        · exact .inl (RouteCache.positive_applyReadyWake_of_ne actor.cache own _ now)
      · exact .inl rfl

/-- In a run in which no installed answer reassigns a wake in flight, a finished wake leaves every
cached answer alone that is not the one of its identity, instance and binding. -/
theorem finished_wake_keeps_reassigned_route {capacity : Nat} {actor next : Actor}
    (reached : (actorSystem capacity).ReachableUnder KeepsRoutes actor)
    {entry : PositiveCacheEntry} {request : WakeInstanceRequest} {observation : RouteObservation}
    {result : Except CallError WakeInstanceResponse} {events : List RouteSubscriptionEvent}
    {now : Nat} (keeps : KeepsRoutes (.joinWake entry request observation result events now) actor)
    (finished : (actorSystem capacity).step
      (.joinWake entry request observation result events now) actor next)
    {identity : RouteIdentity} {current : PositiveCacheEntry}
    (cached : (actor.drainEvents events now).cache.positive identity = some current)
    (reassigned :
      ¬ (identity = entry.requestIdentity ∧ SameRoute current.entry entry.entry)) :
    next.cache.positive identity = some current := by
  obtain ⟨drained, joined, rfl⟩ := Option.map_eq_some_iff.mp finished
  obtain ⟨member, rfl⟩ := Actor.joined_eq_some joined
  have moved : Moves keepsWakes actor (actor.drainEvents events now) :=
    Moves.drainEvents .refl keeps.1
  have agree := (wakesAgree_of_reachable reached).moves moved
  rcases positive_completeWake ((actor.drainEvents events now).without _) entry request observation
    result now identity with same | ⟨own, valid⟩
  · exact same.trans cached
  · obtain ⟨_, agrees⟩ := agree.agreed identity current cached
    exact absurd ⟨own, agrees _ member entry rfl own.symm valid⟩ reassigned

/-! A route that moves to another instance while a wake of the old one is in flight. -/

namespace Sample

theorem shop_accepted : ∃ value, normalizeHost value false = .ok "shop.test" := ⟨"shop.test", rfl⟩

def shop : RouteIdentity := .http ⟨.exact, "shop.test", shop_accepted⟩ none

def subscription (value : NonEmptyString) (session : Nat) : SubscriptionId :=
  ⟨value, some session⟩

def cold (binding : RouteBindingId) (id : InstanceId) : RouteEntry where
  routeBindingId := binding
  instanceId := id
  instanceState := .cold
  instanceGeneration := 1
  backend := none
  backendGeneration := none

def oldRoute : RouteEntry := cold ⟨"old", by decide⟩ ⟨"old", by decide⟩

def newRoute : RouteEntry := cold ⟨"new", by decide⟩ ⟨"new", by decide⟩

def resolves (requestId session : Nat) (entry : RouteEntry) : SubscribeControlPlaneOutput :=
  .routeResolved requestId (subscription ⟨"1", Eq.refl false⟩ session) shop entry 100

def oldAnswer (id : Option SubscriptionId) : PositiveCacheEntry where
  subscriptionId := id
  matchedIdentity := shop
  requestIdentity := shop
  entry := oldRoute
  expiresAt := 100
  sequence := 1

def wakeOld : WakeInstanceRequest := ⟨oldRoute.instanceId, 1⟩

def newAnswer (session time : Nat) : PositiveCacheEntry where
  subscriptionId := some (subscription ⟨"1", Eq.refl false⟩ session)
  matchedIdentity := shop
  requestIdentity := shop
  entry := newRoute
  expiresAt := time + 100
  sequence := 2

/-- Resolve the route, lose its stream, and start a registration and a wake on the next one. -/
def crossing : List Actor.ActorEvent :=
  [ .command shop 0 false,
    .joinSubscribe shop 1 ⟨1, 0, 0⟩ (.ok (resolves 1 0 oldRoute)) false [] 0 0,
    .joinWake (oldAnswer (some (subscription ⟨"1", Eq.refl false⟩ 0))) wakeOld ⟨2, 0, 0⟩
      (.error .deadline) [] 1,
    .drain [.streamEnded] 2,
    .reregister 2,
    .command shop 2 false ]

def moved (requestId observation session : Nat) : Actor.ActorEvent :=
  .joinReregister shop requestId ⟨observation, session, 0⟩
    (.ok (resolves requestId session newRoute)) [] 3

def ready : Except CallError WakeInstanceResponse :=
  .ok (.alreadyRunning oldRoute.instanceId 3 ⟨⟨"http://old", by decide⟩, none⟩ (some 2))

def woken : Actor.ActorEvent := .joinWake (oldAnswer none) wakeOld ⟨4, 1, 0⟩ ready [] 4

def overwritten : PositiveCacheEntry :=
  { newAnswer 1 3 with
    entry := readyRouteEntry oldRoute
      { instanceId := oldRoute.instanceId
        instanceGeneration := 3
        backend := ⟨⟨"http://old", by decide⟩, none⟩
        backendGeneration := some 2 }
    expiresAt := 100 }

def answers (actor : Actor) : Option (Option PositiveCacheEntry × Option PositiveCacheEntry) :=
  (actor.handle woken).map fun next =>
    ((actor.drainEvents [] 4).cache.positive shop, next.cache.positive shop)

theorem answers_eq_some {before after : Option PositiveCacheEntry}
    (observed : answers actor = some (before, after)) :
    ∃ next, (actorSystem 8).step woken actor next ∧
      (actor.drainEvents [] 4).cache.positive shop = before ∧
      next.cache.positive shop = after := by
  obtain ⟨next, handled, same⟩ := Option.map_eq_some_iff.mp observed
  cases same
  exact ⟨next, handled, rfl, rfl⟩

end Sample

/-- The registration crosses another end of the stream, so the wake is no longer valid when the
moved route is installed. -/
theorem sample_finished_wake_keeps_reassigned_route :
    ∃ actor next, (actorSystem 8).step Sample.woken actor next ∧
      next.cache.positive Sample.shop = some (Sample.newAnswer 2 3) := by
  have run : ∃ actor, (actorSystem 8).ReachableUnder KeepsRoutes actor ∧
      decide (KeepsRoutes Sample.woken actor ∧
        Sample.answers actor =
          some (some (Sample.newAnswer 2 3), some (Sample.newAnswer 2 3))) = true :=
    TransitionSystem.exists_reachableUnder_of_run (fun _ _ _ handled => handled) rfl
      (Sample.crossing ++ [.drain [.streamEnded] 3, .reregister 3, Sample.moved 3 5 2]) _
      (by decide)
  obtain ⟨actor, reached, observed⟩ := run
  obtain ⟨keeps, answers⟩ := of_decide_eq_true observed
  obtain ⟨next, finished, cached, _⟩ := Sample.answers_eq_some answers
  exact ⟨actor, next, finished,
    finished_wake_keeps_reassigned_route reached keeps finished cached (by decide)⟩

/-- Without another end of the stream the wake is still valid, and its backend replaces the answer
of the moved route. -/
theorem finished_wake_overwrites_reassigned_route :
    ∃ actor next, (actorSystem 8).Reachable (fun _ => True) actor ∧
      (actorSystem 8).step Sample.woken actor next ∧
      (actor.drainEvents [] 4).cache.positive Sample.shop = some (Sample.newAnswer 1 3) ∧
      ¬ SameRoute (Sample.newAnswer 1 3).entry (Sample.oldAnswer none).entry ∧
      next.cache.positive Sample.shop ≠ some (Sample.newAnswer 1 3) := by
  have run : ∃ actor, (actorSystem 8).ReachableUnder (fun _ _ => True) actor ∧
      decide (Sample.answers actor =
        some (some (Sample.newAnswer 1 3), some Sample.overwritten)) = true :=
    TransitionSystem.exists_reachableUnder_of_run (fun _ _ _ handled => handled) rfl
      (Sample.crossing ++ [Sample.moved 2 3 1]) _ (by decide)
  obtain ⟨actor, reached, observed⟩ := run
  obtain ⟨next, finished, before, after⟩ := Sample.answers_eq_some (of_decide_eq_true observed)
  refine ⟨actor, next, reached.reachable, finished, before, by decide, ?_⟩
  rw [after]
  decide

end Sleepypods.Frontline
