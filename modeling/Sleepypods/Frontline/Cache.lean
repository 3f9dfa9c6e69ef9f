import Sleepypods.Api.Route
import Sleepypods.Library.Table

/-! The route answers a frontline keeps: an exact-identity cache with its insertion and expiry
orders, and how two answers for one identity are ordered. Times are nanoseconds. -/

set_option autoImplicit false

namespace Sleepypods.Frontline

open Library

inductive StaleRouteEntry where
  | instanceGeneration (current incoming : Nat)
  | backendGeneration (current incoming : Nat)
  deriving DecidableEq

/-- Generations are ordered within one instance only: an answer that names another instance is
never stale. -/
def staleRouteEntry (current incoming : RouteEntry) : Option StaleRouteEntry :=
  if current.instanceId ≠ incoming.instanceId then none
  else if incoming.instanceGeneration < current.instanceGeneration then
    some (.instanceGeneration current.instanceGeneration incoming.instanceGeneration)
  else
    match current.backendGeneration, incoming.backendGeneration with
    | some current, some incoming =>
      if incoming < current then some (.backendGeneration current incoming) else none
    | _, _ => none

theorem staleRouteEntry_eq_none {current incoming : RouteEntry}
    (generations : current.instanceId = incoming.instanceId →
      current.instanceGeneration ≤ incoming.instanceGeneration)
    (backends : current.instanceId = incoming.instanceId → ∀ first second,
      current.backendGeneration = some first → incoming.backendGeneration = some second →
      first ≤ second) : staleRouteEntry current incoming = none := by
  unfold staleRouteEntry
  split
  · rfl
  next same =>
    rw [not_not] at same
    rw [if_neg (Nat.not_lt.mpr (generations same))]
    split
    next first second firstSome secondSome =>
      exact if_neg (Nat.not_lt.mpr (backends same first second firstSome secondSome))
    · rfl

/-- A subscription as the control plane numbered it, and the local session that received it. -/
structure SubscriptionId where
  value : NonEmptyString
  session : Option Nat
  deriving DecidableEq

def SubscriptionId.withSession (id : SubscriptionId) (session : Nat) : SubscriptionId :=
  { id with session := some session }

structure PositiveCacheEntry where
  /-- None once the stream that issued this answer ended. -/
  subscriptionId : Option SubscriptionId
  matchedIdentity : RouteIdentity
  requestIdentity : RouteIdentity
  entry : RouteEntry
  expiresAt : Nat
  sequence : Nat
  deriving DecidableEq

def PositiveCacheEntry.new (subscriptionId : SubscriptionId) (matchedIdentity : RouteIdentity)
    (entry : RouteEntry) (ttl now : Nat) : PositiveCacheEntry where
  subscriptionId := some subscriptionId
  matchedIdentity := matchedIdentity
  requestIdentity := matchedIdentity
  entry := entry
  expiresAt := now + ttl
  sequence := 0

def PositiveCacheEntry.isExpired (positive : PositiveCacheEntry) (now : Nat) : Bool :=
  decide (positive.expiresAt ≤ now)

structure NegativeCacheEntry where
  requestIdentity : RouteIdentity
  expiresAt : Nat
  sequence : Nat
  deriving DecidableEq

def NegativeCacheEntry.new (requestIdentity : RouteIdentity) (ttl now : Nat) :
    NegativeCacheEntry where
  requestIdentity := requestIdentity
  expiresAt := now + ttl
  sequence := 0

def NegativeCacheEntry.isExpired (negative : NegativeCacheEntry) (now : Nat) : Bool :=
  decide (negative.expiresAt ≤ now)

inductive CacheLookup where
  | positive (entry : PositiveCacheEntry)
  | negative (entry : NegativeCacheEntry)
  | expired
  | absent
  deriving DecidableEq

/-! ### The cache -/

/-- Both halves are keyed by the identity the caller asked for. The orders index the same entries
by insertion sequence and by expiry. -/
structure RouteCache where
  capacity : Nat
  positives : Table RouteIdentity PositiveCacheEntry
  bySubscription : Table SubscriptionId RouteIdentity
  positiveOrder : Table Nat RouteIdentity
  positiveExpiry : Table (Nat × Nat) RouteIdentity
  negatives : Table RouteIdentity NegativeCacheEntry
  negativeOrder : Table Nat RouteIdentity
  negativeExpiry : Table (Nat × Nat) RouteIdentity
  sequence : Nat

def expiresBefore (left right : Nat × Nat) : Bool :=
  decide (left.1 < right.1) || (decide (left.1 = right.1) && decide (left.2 < right.2))

def insertedBefore (left right : Nat) : Bool := decide (left < right)

namespace RouteCache

def new (capacity : Nat) : RouteCache where
  capacity := capacity
  positives := .empty
  bySubscription := .empty
  positiveOrder := .empty
  positiveExpiry := .empty
  negatives := .empty
  negativeOrder := .empty
  negativeExpiry := .empty
  sequence := 0

def clear (cache : RouteCache) : RouteCache := new cache.capacity

def lookup (cache : RouteCache) (identity : RouteIdentity) (now : Nat) : CacheLookup :=
  match cache.positives.find? identity with
  | some entry => if entry.isExpired now then .expired else .positive entry
  | none =>
    match cache.negatives.find? identity with
    | some entry => if entry.isExpired now then .expired else .negative entry
    | none => .absent

/-- The answer cached for an identity, whether or not a live stream backs it. -/
def positive (cache : RouteCache) (identity : RouteIdentity) : Option PositiveCacheEntry :=
  cache.positives.find? identity

def removePositive (cache : RouteCache) (identity : RouteIdentity) : RouteCache :=
  match cache.positives.find? identity with
  | none => cache
  | some removed =>
    { cache with
      positives := cache.positives.erase identity
      bySubscription :=
        match removed.subscriptionId with
        | some id => cache.bySubscription.erase id
        | none => cache.bySubscription
      positiveOrder := cache.positiveOrder.erase removed.sequence
      positiveExpiry := cache.positiveExpiry.erase (removed.expiresAt, removed.sequence) }

/-- `remove_positive` and `released_id`: the id that the removed answer held. -/
def releasedId (cache : RouteCache) (identity : RouteIdentity) : Option SubscriptionId :=
  (cache.positives.find? identity).bind PositiveCacheEntry.subscriptionId

def removePositiveBySubscription (cache : RouteCache) (id : SubscriptionId) : RouteCache :=
  match cache.bySubscription.find? id with
  | some identity => cache.removePositive identity
  | none => cache

def removeNegative (cache : RouteCache) (identity : RouteIdentity) : RouteCache :=
  match cache.negatives.find? identity with
  | none => cache
  | some removed =>
    { cache with
      negatives := cache.negatives.erase identity
      negativeOrder := cache.negativeOrder.erase removed.sequence
      negativeExpiry := cache.negativeExpiry.erase (removed.expiresAt, removed.sequence) }

/-- Evict expired answers in expiry order, at most `remaining` of them. -/
def expirePositives (now : Nat) :
    Nat → RouteCache → RouteCache × List SubscriptionId × Nat
  | 0, cache => (cache, [], 0)
  | remaining + 1, cache =>
    match cache.positiveExpiry.first? expiresBefore with
    | some ((expires, _), identity) =>
      if now < expires then (cache, [], remaining + 1)
      else
        let (rest, released, left) :=
          expirePositives now remaining (cache.removePositive identity)
        (rest, (cache.releasedId identity).toList ++ released, left)
    | none => (cache, [], remaining + 1)

def expireNegatives (now : Nat) : Nat → RouteCache → RouteCache
  | 0, cache => cache
  | remaining + 1, cache =>
    match cache.negativeExpiry.first? expiresBefore with
    | some ((expires, _), identity) =>
      if now < expires then cache
      else expireNegatives now remaining (cache.removeNegative identity)
    | none => cache

def expireLimited (cache : RouteCache) (now limit : Nat) : RouteCache × List SubscriptionId :=
  let (cache, released, remaining) := expirePositives now limit cache
  (expireNegatives now remaining cache, released)

def hasExpired (cache : RouteCache) (now : Nat) : Bool :=
  ((cache.positiveExpiry.first? expiresBefore).any fun entry => decide (entry.1.1 ≤ now)) ||
    (cache.negativeExpiry.first? expiresBefore).any fun entry => decide (entry.1.1 ≤ now)

def indexPositive (cache : RouteCache) (request : RouteIdentity) (positive : PositiveCacheEntry) :
    RouteCache :=
  let sequence := cache.sequence + 1
  { cache with
    sequence := sequence
    bySubscription :=
      match positive.subscriptionId with
      | some id => cache.bySubscription.insert id request
      | none => cache.bySubscription
    positiveOrder := cache.positiveOrder.insert sequence request
    positiveExpiry := cache.positiveExpiry.insert (positive.expiresAt, sequence) request
    positives := cache.positives.insert request { positive with sequence := sequence } }

/-- Evict in insertion order while over capacity; each round removes one answer. -/
def evictPositives : Nat → RouteCache → RouteCache × List SubscriptionId
  | 0, cache => (cache, [])
  | fuel + 1, cache =>
    if cache.capacity < cache.positives.size then
      match cache.positiveOrder.first? insertedBefore with
      | some (_, identity) =>
        let (rest, released) := evictPositives fuel (cache.removePositive identity)
        (rest, (cache.releasedId identity).toList ++ released)
      | none => (cache, [])
    else (cache, [])

def evictNegatives : Nat → RouteCache → RouteCache
  | 0, cache => cache
  | fuel + 1, cache =>
    if cache.capacity < cache.negatives.size then
      match cache.negativeOrder.first? insertedBefore with
      | some (_, identity) => evictNegatives fuel (cache.removeNegative identity)
      | none => cache
    else cache

/-- Install an answer for the queried identity, unless the cached answer is newer. -/
def insertResolved (cache : RouteCache) (request : RouteIdentity) (positive : PositiveCacheEntry)
    (now : Nat) : RouteCache × List SubscriptionId :=
  let (cache, expired) := cache.expireLimited now 64
  match (cache.positives.find? request).filter fun existing =>
      (staleRouteEntry existing.entry positive.entry).isSome with
  | some existing =>
    -- A rotated answer gets one attempt to register again; a rejected one is dropped.
    (if existing.subscriptionId.isNone then cache.removePositive request else cache,
      expired ++ positive.subscriptionId.toList)
  | none =>
    let released := (cache.releasedId request).filter fun id =>
      decide (some id ≠ positive.subscriptionId)
    let cache := cache.removePositive request
    let cache :=
      match positive.subscriptionId with
      | some id => cache.removePositiveBySubscription id
      | none => cache
    let cache := cache.removeNegative request
    let cache := cache.indexPositive request { positive with requestIdentity := request }
    let (cache, evicted) := evictPositives cache.positives.size cache
    (cache, expired ++ released.toList ++ evicted)

def insertPositive (cache : RouteCache) (subscriptionId : SubscriptionId) (identity : RouteIdentity)
    (entry : RouteEntry) (ttl now : Nat) : RouteCache × List SubscriptionId :=
  cache.insertResolved identity (.new subscriptionId identity entry ttl now) now

/-- The stream behind every subscription ended: keep the answers, forget the ids, and report what
has to be registered again. -/
def rotateSession (cache : RouteCache) : RouteCache × List RouteIdentity :=
  ({ cache with
      bySubscription := .empty
      positives := cache.positives.mapRows fun _ entry => { entry with subscriptionId := none } },
    cache.positives.entries.map Prod.fst)

def indexNegative (cache : RouteCache) (negative : NegativeCacheEntry) : RouteCache :=
  let sequence := cache.sequence + 1
  { cache with
    sequence := sequence
    negativeOrder := cache.negativeOrder.insert sequence negative.requestIdentity
    negativeExpiry :=
      cache.negativeExpiry.insert (negative.expiresAt, sequence) negative.requestIdentity
    negatives :=
      cache.negatives.insert negative.requestIdentity { negative with sequence := sequence } }

def insertNegative (cache : RouteCache) (request : RouteIdentity) (ttl now : Nat) :
    RouteCache × List SubscriptionId :=
  let (cache, expired) := cache.expireLimited now 64
  let released := cache.releasedId request
  let cache := (cache.removePositive request).removeNegative request
  let cache := cache.indexNegative (.new request ttl now)
  (evictNegatives cache.negatives.size cache, expired ++ released.toList)

def needsReregistration (cache : RouteCache) (identity : RouteIdentity) (now : Nat) : Bool :=
  (cache.positives.find? identity).any fun entry =>
    entry.subscriptionId.isNone && !entry.isExpired now

def invalidateSubscription (cache : RouteCache) (id : SubscriptionId) : RouteCache :=
  cache.removePositiveBySubscription id

def invalidateRequest (cache : RouteCache) (identity : RouteIdentity) :
    RouteCache × Option SubscriptionId :=
  (cache.removePositive identity, cache.releasedId identity)

/-- Update an answer in place, keeping its insertion position and its subscription. -/
def refreshPositive (cache : RouteCache) (identity matchedIdentity : RouteIdentity)
    (entry : RouteEntry) (ttl now : Nat) : RouteCache :=
  match cache.positives.find? identity with
  | none => cache
  | some cached =>
    { cache with
      positives := cache.positives.insert identity
        { cached with matchedIdentity := matchedIdentity, entry := entry, expiresAt := now + ttl }
      positiveExpiry :=
        (cache.positiveExpiry.erase (cached.expiresAt, cached.sequence)).insert
          (now + ttl, cached.sequence) identity }

def replaceSubscription (cache : RouteCache) (id : SubscriptionId)
    (matchedIdentity : RouteIdentity) (entry : RouteEntry) (ttl now : Nat) : RouteCache :=
  match cache.bySubscription.find? id with
  | some identity => cache.refreshPositive identity matchedIdentity entry ttl now
  | none => cache

def positiveBySubscription (cache : RouteCache) (id : SubscriptionId) :
    Option PositiveCacheEntry :=
  (cache.bySubscription.find? id).bind cache.positives.find?

end RouteCache

end Sleepypods.Frontline
