import Sleepypods.Frontline.Subscription

/-! What cache operations can do to the answers cached: most only drop some, and each write is
described by the one answer it writes. -/

set_option autoImplicit false

namespace Sleepypods.Frontline

open Library

namespace RouteCache

def Shrinks (before after : RouteCache) : Prop :=
  ∀ identity entry, after.positive identity = some entry → before.positive identity = some entry

theorem Shrinks.refl (cache : RouteCache) : Shrinks cache cache := fun _ _ found => found

theorem Shrinks.trans {first second third : RouteCache} (former : Shrinks first second)
    (latter : Shrinks second third) : Shrinks first third :=
  fun identity entry found => former identity entry (latter identity entry found)

/-- Every cached answer, with the identity it is cached for, satisfies a condition. -/
def All (holds : RouteIdentity → PositiveCacheEntry → Prop) (cache : RouteCache) : Prop :=
  ∀ identity entry, cache.positive identity = some entry → holds identity entry

variable {holds : RouteIdentity → PositiveCacheEntry → Prop}

theorem All.shrink {before after : RouteCache} (all : All holds before)
    (shrinks : Shrinks before after) : All holds after :=
  fun identity entry found => all identity entry (shrinks identity entry found)

/-! ### Removals -/

section

variable (cache : RouteCache)

include cache

theorem positive_removePositive (identity other : RouteIdentity) :
    (cache.removePositive identity).positive other =
      if other = identity then none else cache.positive other := by
  unfold removePositive positive
  split
  next absent =>
    split
    next same => exact same ▸ absent
    · rfl
  · rw [Table.find?_erase, Function.update_apply]

theorem shrinks_removePositive (identity : RouteIdentity) :
    Shrinks cache (cache.removePositive identity) := by
  intro other entry found
  rw [positive_removePositive] at found
  split at found
  · cases found
  · exact found

theorem shrinks_removePositiveBySubscription (id : SubscriptionId) :
    Shrinks cache (cache.removePositiveBySubscription id) := by
  unfold removePositiveBySubscription
  split
  · exact shrinks_removePositive cache _
  · exact .refl cache

theorem positive_removeNegative (identity other : RouteIdentity) :
    (cache.removeNegative identity).positive other = cache.positive other := by
  unfold removeNegative
  split <;> rfl

theorem shrinks_removeNegative (identity : RouteIdentity) :
    Shrinks cache (cache.removeNegative identity) :=
  fun other _ found => (positive_removeNegative cache identity other).symm.trans found

theorem shrinks_clear : Shrinks cache cache.clear := by
  intro _ _ found
  cases found

end

theorem shrinks_expirePositives (now remaining : Nat) (cache : RouteCache) :
    Shrinks cache (expirePositives now remaining cache).1 := by
  fun_induction expirePositives now remaining cache
  case case3 removed ih =>
    rw [removed] at ih
    exact (shrinks_removePositive _ _).trans ih
  all_goals exact .refl _

theorem shrinks_expireNegatives (now remaining : Nat) (cache : RouteCache) :
    Shrinks cache (expireNegatives now remaining cache) := by
  fun_induction expireNegatives now remaining cache
  case case3 ih => exact (shrinks_removeNegative _ _).trans ih
  all_goals exact .refl _

theorem shrinks_expireLimited (cache : RouteCache) (now limit : Nat) :
    Shrinks cache (cache.expireLimited now limit).1 :=
  (shrinks_expirePositives now limit cache).trans (shrinks_expireNegatives now _ _)

theorem shrinks_evictPositives (fuel : Nat) (cache : RouteCache) :
    Shrinks cache (evictPositives fuel cache).1 := by
  fun_induction evictPositives fuel cache
  case case2 evicted ih =>
    rw [evicted] at ih
    exact (shrinks_removePositive _ _).trans ih
  all_goals exact .refl _

theorem shrinks_evictNegatives (fuel : Nat) (cache : RouteCache) :
    Shrinks cache (evictNegatives fuel cache) := by
  fun_induction evictNegatives fuel cache
  case case2 ih => exact (shrinks_removeNegative _ _).trans ih
  all_goals exact .refl _

theorem shrinks_indexNegative (cache : RouteCache) (negative : NegativeCacheEntry) :
    Shrinks cache (cache.indexNegative negative) := fun _ _ found => found

theorem shrinks_insertNegative (cache : RouteCache) (request : RouteIdentity) (ttl now : Nat) :
    Shrinks cache (cache.insertNegative request ttl now).1 := by
  unfold insertNegative
  simp only
  have expired := shrinks_expireLimited cache now 64
  generalize cache.expireLimited now 64 = rest at expired ⊢
  have removed := expired.trans (shrinks_removePositive rest.1 request)
  have forgotten := removed.trans (shrinks_removeNegative _ request)
  have indexed := forgotten.trans (shrinks_indexNegative _ (.new request ttl now))
  exact indexed.trans (shrinks_evictNegatives _ _)

/-! ### Writes -/

theorem positive_indexPositive (cache : RouteCache) (request : RouteIdentity)
    (positive : PositiveCacheEntry) :
    (cache.indexPositive request positive).positive =
      Function.update cache.positive request
        (some { positive with sequence := cache.sequence + 1 }) := by
  funext other
  simp only [indexPositive, RouteCache.positive, Table.find?_insert]
  rfl

variable {cache : RouteCache} {identity request : RouteIdentity} {now : Nat}

theorem positive_insertResolved {positive entry : PositiveCacheEntry}
    (found : (cache.insertResolved request positive now).1.positive identity = some entry) :
    cache.positive identity = some entry ∨
      (identity = request ∧
        ∃ sequence, entry = { positive with requestIdentity := request, sequence := sequence }) := by
  have expired := shrinks_expireLimited cache now 64
  unfold insertResolved at found
  simp only at found
  split at found
  · refine .inl (expired identity entry ?_)
    split at found
    · exact shrinks_removePositive _ _ identity entry found
    · exact found
  · have indexed := shrinks_evictPositives _ _ identity entry found
    rw [positive_indexPositive, Function.update_apply] at indexed
    split at indexed
    next same => exact .inr ⟨same, _, (Option.some.inj indexed).symm⟩
    · refine .inl (expired identity entry ?_)
      rw [positive_removeNegative] at indexed
      refine shrinks_removePositive _ request identity entry ?_
      split at indexed
      · exact shrinks_removePositiveBySubscription _ _ identity entry indexed
      · exact indexed

variable {now : Nat} {cache : RouteCache} {holds : RouteIdentity → PositiveCacheEntry → Prop}

theorem All.insertResolved (all : All holds cache)
    {positive : PositiveCacheEntry} (new : ∀ sequence,
      holds request { positive with requestIdentity := request, sequence := sequence }) :
    All holds (cache.insertResolved request positive now).1 := by
  intro identity entry found
  rcases positive_insertResolved found with kept | ⟨rfl, sequence, rfl⟩
  · exact all identity entry kept
  · exact new sequence

theorem All.rotateSession (all : All holds cache)
    (forgets : ∀ identity entry, holds identity entry →
      holds identity { entry with subscriptionId := none }) : All holds cache.rotateSession.1 := by
  intro identity entry found
  simp only [RouteCache.rotateSession, positive, Table.find?_mapRows] at found
  obtain ⟨old, stored, rfl⟩ := Option.map_eq_some_iff.mp found
  exact forgets identity old (all identity old stored)

variable {matchedIdentity other : RouteIdentity}

theorem positive_applyReadyWake_of_ne (cache : RouteCache) {cached : PositiveCacheEntry}
    (different : other ≠ cached.requestIdentity) (ready : RouteEntry) (now : Nat) :
    (cache.applyReadyWake cached ready now).1.positive other = cache.positive other := by
  unfold applyReadyWake
  split
  · rfl
  · split
    · rfl
    · unfold refreshPositive
      split
      · rfl
      · simp only [positive, Table.find?_insert, Function.update_of_ne different]

theorem All.refreshPositive (all : All holds cache)
    {entry : RouteEntry} {ttl : Nat} (new : ∀ cached, cache.positive identity = some cached →
      holds identity
        { cached with
          matchedIdentity := matchedIdentity, entry := entry, expiresAt := now + ttl }) :
    All holds (cache.refreshPositive identity matchedIdentity entry ttl now) := by
  intro other found stored
  unfold RouteCache.refreshPositive at stored
  split at stored
  · exact all other found stored
  next cached present =>
    simp only [positive, Table.find?_insert, Function.update_apply] at stored
    split at stored
    next same =>
      cases stored
      exact same ▸ new cached present
    · exact all other found stored

variable {message : SubscribeControlPlaneOutput}

/-- What a message other than a reply writes: a pushed answer, or an update of the answer its
subscription backs. -/
theorem All.applyControlPlaneMessage (all : All holds cache)
    (resolved : ∀ requestId id matchedIdentity entry ttl sequence,
      message = .routeResolved requestId id matchedIdentity entry ttl →
      holds matchedIdentity
        { PositiveCacheEntry.new id matchedIdentity entry ttl now with sequence := sequence })
    (updated : ∀ id matchedIdentity entry ttl identity cached,
      message = .routeUpdated id matchedIdentity entry ttl →
      cache.bySubscription.find? id = some identity → cache.positive identity = some cached →
      holds identity
        { cached with
          matchedIdentity := matchedIdentity, entry := entry, expiresAt := now + ttl }) :
    All holds (cache.applyControlPlaneMessage message now).1 := by
  cases message with
  | routeResolved =>
    exact all.insertResolved fun sequence => resolved _ _ _ _ _ sequence rfl
  | routeMiss _ requestIdentity ttl => exact all.shrink (shrinks_insertNegative cache requestIdentity ttl now)
  | routeUpdated =>
    simp only [RouteCache.applyControlPlaneMessage, applyUpdate]
    split
    · exact all
    · split
      · exact all
      · unfold replaceSubscription
        split
        next identity backed =>
          exact all.refreshPositive fun cached present => updated _ _ _ _ _ _ rfl backed present
        · exact all
  | routeInvalidated id =>
    exact all.shrink (shrinks_removePositiveBySubscription cache id)

/-- A reply writes the answer it resolved, under the identity that was asked for. -/
theorem All.applyResolvedResponse (all : All holds cache)
    (resolved : ∀ requestId id matchedIdentity entry ttl sequence,
      message = .routeResolved requestId id matchedIdentity entry ttl →
      holds identity
        { PositiveCacheEntry.new id matchedIdentity entry ttl now with
          requestIdentity := identity, sequence := sequence })
    (updated : ∀ id matchedIdentity entry ttl other cached,
      message = .routeUpdated id matchedIdentity entry ttl →
      cache.bySubscription.find? id = some other → cache.positive other = some cached →
      holds other
        { cached with
          matchedIdentity := matchedIdentity, entry := entry, expiresAt := now + ttl }) :
    All holds (cache.applyResolvedResponse identity message now).1 := by
  cases message with
  | routeResolved =>
    exact all.insertResolved fun sequence => resolved _ _ _ _ _ sequence rfl
  | routeMiss _ requestIdentity ttl => exact all.shrink (shrinks_insertNegative cache requestIdentity ttl now)
  | routeUpdated =>
    exact all.applyControlPlaneMessage (fun _ _ _ _ _ _ other => by cases other) updated
  | routeInvalidated id =>
    exact all.shrink (shrinks_removePositiveBySubscription cache id)

theorem positive_of_lookup {entry : PositiveCacheEntry}
    (hit : cache.lookup identity now = .positive entry) :
    cache.positive identity = some entry ∧ entry.isExpired now = false := by
  unfold lookup at hit
  split at hit
  next stored =>
    split at hit
    · cases hit
    next unexpired =>
      cases hit
      exact ⟨stored, Bool.not_eq_true _ ▸ unexpired⟩
  · split at hit
    · split at hit <;> cases hit
    · cases hit

end RouteCache

end Sleepypods.Frontline
