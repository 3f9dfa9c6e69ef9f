import Sleepypods.Frontline.CacheIndex

/-! Runs of the route cache: whatever operations are applied, with whatever times, the cache stays
represented and within its capacity, evicts in insertion order, and its expiry index answers for
its entries. -/

set_option autoImplicit false

namespace Sleepypods.Frontline

open Library

namespace RouteCache

variable {cache after : RouteCache} {answers : List (RouteIdentity × PositiveCacheEntry)}
  {refusals : List (RouteIdentity × NegativeCacheEntry)} {released : List SubscriptionId}
  {request : RouteIdentity} {positive : PositiveCacheEntry} {now : Nat}

/-! ### Operations -/

/-- A public operation that writes. `expire` is `expireLimited` with the largest limit. -/
inductive Write where
  | insertPositive (subscriptionId : SubscriptionId) (identity : RouteIdentity) (entry : RouteEntry)
      (ttl now : Nat)
  | insertResolved (request : RouteIdentity) (positive : PositiveCacheEntry) (now : Nat)
  | insertNegative (request : RouteIdentity) (ttl now : Nat)
  | rotateSession
  | expireLimited (now limit : Nat)
  | invalidateSubscription (id : SubscriptionId)
  | invalidateRequest (identity : RouteIdentity)
  | replaceSubscription (id : SubscriptionId) (matchedIdentity : RouteIdentity) (entry : RouteEntry)
      (ttl now : Nat)
  | refreshPositive (identity matchedIdentity : RouteIdentity) (entry : RouteEntry) (ttl now : Nat)
  | clear

def apply (cache : RouteCache) : Write → RouteCache
  | .insertPositive id identity entry ttl now => (cache.insertPositive id identity entry ttl now).1
  | .insertResolved request positive now => (cache.insertResolved request positive now).1
  | .insertNegative request ttl now => (cache.insertNegative request ttl now).1
  | .rotateSession => cache.rotateSession.1
  | .expireLimited now limit => (cache.expireLimited now limit).1
  | .invalidateSubscription id => cache.invalidateSubscription id
  | .invalidateRequest identity => (cache.invalidateRequest identity).1
  | .replaceSubscription id matchedIdentity entry ttl now =>
    cache.replaceSubscription id matchedIdentity entry ttl now
  | .refreshPositive identity matchedIdentity entry ttl now =>
    cache.refreshPositive identity matchedIdentity entry ttl now
  | .clear => cache.clear

def run (capacity : Nat) (writes : List Write) : RouteCache := writes.foldl apply (new capacity)

structure Sound (limit : Nat) (cache : RouteCache) : Prop where
  represented : Represented cache
  capacity : cache.capacity = limit
  positives : cache.positives.size ≤ limit
  negatives : cache.negatives.size ≤ limit

theorem sound_new (capacity : Nat) : Sound capacity (new capacity) where
  represented := ⟨.empty 0, .empty 0, .empty, fun _ => .inl rfl⟩
  capacity := rfl
  positives := Nat.zero_le _
  negatives := Nat.zero_le _

section steps

variable {capacity : Nat}

variable (sound : Sound capacity cache)

include sound

theorem Sound.expels (expels : Expels cache answers refusals after) :
    Sound capacity after where
  represented := expels.represented
  capacity := expels.capacity.trans sound.capacity
  positives := by
    have size := expels.positives.size
    have fits := sound.positives
    omega
  negatives := by
    have size := expels.negatives.size
    have fits := sound.negatives
    omega

theorem Sound.installs (installs : Installs cache request positive now after released) :
    Sound capacity after := by
  cases installs with
  | stale expires _ _ drops => exact (sound.expels expires).expels drops
  | fresh expires _ clears _ _ evicts fits =>
    have vacant := (sound.expels expires).expels clears
    refine ⟨evicts.represented, evicts.capacity.trans vacant.capacity, sound.capacity ▸ fits, ?_⟩
    have size := evicts.negatives.size
    have few := vacant.negatives
    simp only [RouteCache.indexPositive] at size
    omega

theorem Sound.insertNegative (request : RouteIdentity) (ttl now : Nat) :
    Sound capacity (cache.insertNegative request ttl now).1 := by
  obtain ⟨_, _, current, _, expels, -, -, evicts, fits, -⟩ :=
    sound.represented.insertNegative request ttl now
  have vacant := sound.expels expels
  refine ⟨evicts.represented, evicts.capacity.trans vacant.capacity, ?_, sound.capacity ▸ fits⟩
  have size := evicts.positives.size
  have few := vacant.positives
  simp only [RouteCache.indexNegative] at size
  omega

theorem Sound.refreshPositive (identity matchedIdentity : RouteIdentity) (entry : RouteEntry)
    (ttl now : Nat) :
    Sound capacity (cache.refreshPositive identity matchedIdentity entry ttl now) := by
  have represented := sound.represented.refreshPositive identity matchedIdentity entry ttl now
  unfold RouteCache.refreshPositive at represented ⊢
  split
  · exact sound
  next cached found =>
    rw [found] at represented
    refine ⟨represented, sound.capacity, ?_, sound.negatives⟩
    rw [Table.size_insert_of_some found]
    exact sound.positives

theorem Sound.apply (write : Write) : Sound capacity (cache.apply write) := by
  cases write with
  | insertPositive id identity entry ttl now =>
    exact sound.installs (sound.represented.insertResolved identity _ now)
  | insertResolved request positive now =>
    exact sound.installs (sound.represented.insertResolved request positive now)
  | insertNegative request ttl now => exact sound.insertNegative request ttl now
  | rotateSession =>
    refine ⟨sound.represented.rotateSession, sound.capacity, ?_, sound.negatives⟩
    exact Nat.le_trans (Nat.le_of_eq (Table.size_mapRows _ _)) sound.positives
  | expireLimited now limit =>
    obtain ⟨_, _, expels, -⟩ := sound.represented.expireLimited now limit
    exact sound.expels expels
  | invalidateSubscription id =>
    obtain ⟨_, expels, -⟩ := sound.represented.removePositiveBySubscription id
    exact sound.expels expels
  | invalidateRequest identity => exact sound.expels (sound.represented.removePositive identity)
  | replaceSubscription id matchedIdentity entry ttl now =>
    have same : cache.apply (.replaceSubscription id matchedIdentity entry ttl now) =
      cache.replaceSubscription id matchedIdentity entry ttl now := rfl
    rw [same]
    unfold RouteCache.replaceSubscription
    split
    · exact sound.refreshPositive _ _ _ _ _
    · exact sound
  | refreshPositive identity matchedIdentity entry ttl now =>
    exact sound.refreshPositive identity matchedIdentity entry ttl now
  | clear =>
    unfold RouteCache.apply RouteCache.clear
    rw [sound.capacity]
    exact sound_new capacity

end steps

theorem sound_run (capacity : Nat) (writes : List Write) : Sound capacity (run capacity writes) :=
  List.foldlRecOn writes apply (sound_new capacity) fun _ sound write _ => sound.apply write

def SomeExpired (cache : RouteCache) (now : Nat) : Prop :=
  (∃ identity entry, cache.positives.find? identity = some entry ∧ entry.isExpired now = true) ∨
    ∃ identity entry, cache.negatives.find? identity = some entry ∧ entry.isExpired now = true

def Loses (before after : RouteCache) : Prop :=
  (∃ identity, (before.positives.find? identity).isSome ∧ after.positives.find? identity = none) ∨
    ∃ identity, (before.negatives.find? identity).isSome ∧ after.negatives.find? identity = none

theorem Represented.hasExpired_iff (represented : Represented cache) (now : Nat) :
    cache.hasExpired now = true ↔ cache.SomeExpired now := by
  rw [hasExpired, Bool.or_eq_true, due_iff represented.positives, due_iff represented.negatives]
  simp only [SomeExpired, PositiveCacheEntry.isExpired, NegativeCacheEntry.isExpired,
    decide_eq_true_iff]

theorem Represented.someExpired_iff (represented : Represented cache) (now limit : Nat) :
    cache.SomeExpired now ↔ Loses cache (cache.expireLimited now (limit + 1)).1 := by
  obtain ⟨answers, refusals, expels, -, expired, lapsed, progress⟩ :=
    represented.expireLimited now (limit + 1)
  constructor
  · intro some
    cases progress ((represented.hasExpired_iff now).mpr some) (Nat.succ_pos limit) with
    | inl nonempty =>
      obtain ⟨⟨identity, entry⟩, member⟩ := List.exists_mem_of_ne_nil _ nonempty
      exact .inl ⟨identity, expels.positives.found member ▸ rfl, expels.positives.gone member⟩
    | inr nonempty =>
      obtain ⟨⟨identity, entry⟩, member⟩ := List.exists_mem_of_ne_nil _ nonempty
      exact .inr ⟨identity, expels.negatives.found member ▸ rfl, expels.negatives.gone member⟩
  · intro loses
    cases loses with
    | inl positive =>
      obtain ⟨identity, held, gone⟩ := positive
      obtain ⟨entry, found⟩ := Option.isSome_iff_exists.mp held
      exact .inl ⟨identity, entry, found, expired _ (expels.positives.lost found gone)⟩
    | inr negative =>
      obtain ⟨identity, held, gone⟩ := negative
      obtain ⟨entry, found⟩ := Option.isSome_iff_exists.mp held
      exact .inr ⟨identity, entry, found, lapsed _ (expels.negatives.lost found gone)⟩

/-! ### Insertion order -/

section order

variable {ρ : Type}

/-- What leaves a half, beyond the rows that are excused, was inserted before all it keeps. -/
def EvictsOldest (sequence : ρ → Nat) (excused : RouteIdentity → ρ → Prop)
    (before after : Table RouteIdentity ρ) : Prop :=
  ∀ identity row, before.find? identity = some row → after.find? identity = none →
    ¬ excused identity row → ∀ other kept, after.find? other = some kept →
      sequence row < sequence kept

/-- Every row was there with its number, or has a number above all earlier ones. -/
def NumbersInOrder (sequence : ρ → Nat) (before after : Table RouteIdentity ρ) : Prop :=
  ∀ identity row, after.find? identity = some row →
    (∃ old, before.find? identity = some old ∧ sequence old = sequence row) ∨
      ∀ other old, before.find? other = some old → sequence old < sequence row

/-- An insertion changes no other row, and numbers the row that it adds above all earlier ones. -/
structure InsertsNewest (sequence : ρ → Nat) (request : RouteIdentity)
    (before after : Table RouteIdentity ρ) : Prop where
  others : ∀ identity row, after.find? identity = some row → identity ≠ request →
    before.find? identity = some row
  newest : ∀ row, after.find? request = some row → before.find? request = some row ∨
    ∀ other old, before.find? other = some old → sequence old < sequence row

variable {sequence : ρ → Nat} {before after : Table RouteIdentity ρ}

/-- An insertion after rows were taken out, and before others are. -/
theorem InsertsNewest.of_update {current : RouteIdentity → Option ρ} {added : ρ}
    (stored : ∀ identity row, after.find? identity = some row →
      Function.update current request (some added) identity = some row)
    (kept : ∀ identity row, current identity = some row → before.find? identity = some row)
    (above : ∀ other old, before.find? other = some old → sequence old < sequence added) :
    InsertsNewest sequence request before after := by
  constructor
  · intro identity row found elsewhere
    have there := stored identity row found
    rw [Function.update_of_ne elsewhere] at there
    exact kept identity row there
  · intro row found
    have there := stored request row found
    rw [Function.update_self] at there
    cases there
    exact .inr above

theorem InsertsNewest.numbersInOrder
    (inserts : InsertsNewest sequence request before after) :
    NumbersInOrder sequence before after := by
  intro identity row found
  by_cases same : identity = request
  · subst same
    exact (inserts.newest row found).imp (fun kept => ⟨row, kept, rfl⟩) id
  · exact .inl ⟨row, inserts.others identity row found same, rfl⟩

theorem numbersInOrder_of_kept
    (kept : ∀ identity row, after.find? identity = some row → before.find? identity = some row) :
    NumbersInOrder sequence before after :=
  fun identity row found => .inl ⟨row, kept identity row found, rfl⟩

end order

/-- The answers an insertion takes out whatever their age: expired ones, the one it replaces, and
the one that holds the incoming subscription. -/
def Replaced (request : RouteIdentity) (id : Option SubscriptionId) (now : Nat)
    (identity : RouteIdentity) (entry : PositiveCacheEntry) : Prop :=
  entry.isExpired now = true ∨ identity = request ∨
    (entry.subscriptionId.isSome ∧ entry.subscriptionId = id)

theorem Installs.evictsOldest (installs : Installs cache request positive now after released) :
    EvictsOldest PositiveCacheEntry.sequence (Replaced request positive.subscriptionId now)
      cache.positives after.positives := by
  intro identity entry found gone spared other kept remains
  cases installs with
  | stale expires expiredAll held drops same =>
    -- A refused answer evicts nothing.
    have live := expires.positives.remains found fun member => spared (.inl (expiredAll _ member))
    have dropped := drops.positives.lost live gone
    rw [same] at dropped
    split at dropped
    · cases List.mem_singleton.mp dropped
      exact absurd (.inr (.inl rfl)) spared
    · cases dropped
  | fresh expires expiredAll clears holds absent evicts fits older =>
    have live := expires.positives.remains found fun member => spared (.inl (expiredAll _ member))
    have elsewhere : identity ≠ request := fun same => spared (.inr (.inl same))
    have vacant := clears.positives.remains live (by
      intro member
      cases List.mem_append.mp member with
      | inl replaced =>
        obtain ⟨_, _, same⟩ := List.mem_map.mp replaced
        cases same
        exact elsewhere rfl
      | inr holder => exact spared (.inr (.inr (holds _ holder))))
    refine older _ (evicts.positives.lost ?_ gone) other kept remains
    rw [← vacant]
    exact congrFun (positive_indexPositive _ request _) identity |>.trans
      (Function.update_of_ne elsewhere _ _)

theorem Installs.insertsNewest (represented : Represented cache)
    (installs : Installs cache request positive now after released) :
    InsertsNewest PositiveCacheEntry.sequence request cache.positives after.positives := by
  cases installs with
  | stale expires _ _ drops =>
    have kept : ∀ identity row, after.positives.find? identity = some row →
        cache.positives.find? identity = some row :=
      fun _ _ found => expires.positives.kept (drops.positives.kept found)
    exact ⟨fun identity row found _ => kept identity row found,
      fun row found => .inl (kept request row found)⟩
  | fresh expires _ clears _ _ evicts =>
    refine .of_update (fun identity row found => (congrFun (positive_indexPositive _ request _)
      identity).symm.trans (evicts.positives.kept found))
      (fun _ _ stored => expires.positives.kept (clears.positives.kept stored)) ?_
    intro other old held
    have numbered := represented.positives.numbered other old held
    have same := clears.sequence.trans expires.sequence
    simp only [same]
    omega

theorem Represented.insertNegative_evictsOldest (represented : Represented cache)
    (request : RouteIdentity) (ttl now : Nat) :
    EvictsOldest NegativeCacheEntry.sequence
      (fun identity entry => entry.isExpired now = true ∨ identity = request)
      cache.negatives (cache.insertNegative request ttl now).1.negatives := by
  obtain ⟨_, _, _, _, expels, excused, -, evicts, -, older⟩ :=
    represented.insertNegative request ttl now
  intro identity entry found gone spared other kept remains
  have elsewhere : identity ≠ request := fun same => spared (.inr same)
  have vacant := expels.negatives.remains found fun member => spared (excused _ member)
  refine older _ (evicts.negatives.lost ?_ gone) other kept remains
  rw [← vacant]
  exact congrFun (Table.find?_insert _ _ _) identity |>.trans (Function.update_of_ne elsewhere _ _)

theorem Represented.insertNegative_insertsNewest (represented : Represented cache)
    (request : RouteIdentity) (ttl now : Nat) :
    InsertsNewest NegativeCacheEntry.sequence request cache.negatives
      (cache.insertNegative request ttl now).1.negatives := by
  obtain ⟨_, _, current, _, expels, -, -, evicts, -⟩ := represented.insertNegative request ttl now
  refine .of_update (fun identity row found => (congrFun (Table.find?_insert current.negatives request
    { NegativeCacheEntry.new request ttl now with sequence := current.sequence + 1 })
      identity).symm.trans (evicts.negatives.kept found))
    (fun _ _ => expels.negatives.kept) ?_
  intro other old held
  have numbered := represented.negatives.numbered other old held
  simp only [expels.sequence]
  omega

theorem Installs.negatives_kept (installs : Installs cache request positive now after released)
    (identity : RouteIdentity) (row : NegativeCacheEntry)
    (found : after.negatives.find? identity = some row) :
    cache.negatives.find? identity = some row := by
  cases installs with
  | stale expires _ _ drops => exact expires.negatives.kept (drops.negatives.kept found)
  | fresh expires _ clears _ _ evicts =>
    exact expires.negatives.kept (clears.negatives.kept (evicts.negatives.kept found))

def Numbers (cache after : RouteCache) : Prop :=
  NumbersInOrder PositiveCacheEntry.sequence cache.positives after.positives ∧
    NumbersInOrder NegativeCacheEntry.sequence cache.negatives after.negatives

theorem Expels.numbersInOrder (expels : Expels cache answers refusals after) :
    Numbers cache after :=
  ⟨numbersInOrder_of_kept fun _ _ => expels.positives.kept,
    numbersInOrder_of_kept fun _ _ => expels.negatives.kept⟩

theorem numbersInOrder_refreshPositive (cache : RouteCache)
    (identity matchedIdentity : RouteIdentity) (entry : RouteEntry) (ttl now : Nat) :
    Numbers cache (cache.refreshPositive identity matchedIdentity entry ttl now) := by
  unfold RouteCache.refreshPositive
  split
  · exact ⟨numbersInOrder_of_kept fun _ _ found => found,
      numbersInOrder_of_kept fun _ _ found => found⟩
  next cached held =>
    refine ⟨?_, numbersInOrder_of_kept fun _ _ found => found⟩
    intro other row found
    left
    simp only [Table.find?_insert, Function.update_apply] at found
    split at found
    next same =>
      cases found
      exact ⟨cached, same ▸ held, rfl⟩
    · exact ⟨row, found, rfl⟩

/-- No operation renumbers an entry, and each gives a new one a number above all earlier ones. -/
theorem Represented.apply_numbersInOrder (represented : Represented cache) (write : Write) :
    Numbers cache (cache.apply write) := by
  have installed : ∀ {request positive now after released},
      Installs cache request positive now after released → Numbers cache after :=
    fun installs => ⟨(installs.insertsNewest represented).numbersInOrder,
      numbersInOrder_of_kept installs.negatives_kept⟩
  cases write with
  | insertPositive id identity entry ttl now =>
    exact installed (represented.insertResolved identity _ now)
  | insertResolved request positive now =>
    exact installed (represented.insertResolved request positive now)
  | insertNegative request ttl now =>
    obtain ⟨_, _, _, _, expels, -, -, evicts, -⟩ := represented.insertNegative request ttl now
    exact ⟨numbersInOrder_of_kept fun _ _ found =>
        expels.positives.kept (evicts.positives.kept found),
      (represented.insertNegative_insertsNewest request ttl now).numbersInOrder⟩
  | rotateSession =>
    refine ⟨?_, numbersInOrder_of_kept fun _ _ found => found⟩
    intro identity row found
    left
    obtain ⟨old, held, rfl⟩ := Option.map_eq_some_iff.mp
      ((Table.find?_mapRows _ _ _).symm.trans found)
    exact ⟨old, held, rfl⟩
  | expireLimited now limit =>
    obtain ⟨_, _, expels, -⟩ := represented.expireLimited now limit
    exact expels.numbersInOrder
  | invalidateSubscription id =>
    obtain ⟨_, expels, -⟩ := represented.removePositiveBySubscription id
    exact expels.numbersInOrder
  | invalidateRequest identity => exact (represented.removePositive identity).numbersInOrder
  | replaceSubscription id matchedIdentity entry ttl now =>
    have same : cache.apply (.replaceSubscription id matchedIdentity entry ttl now) =
      cache.replaceSubscription id matchedIdentity entry ttl now := rfl
    rw [same]
    unfold RouteCache.replaceSubscription
    split
    · exact numbersInOrder_refreshPositive cache _ _ _ _ _
    · exact (Expels.refl represented).numbersInOrder
  | refreshPositive identity matchedIdentity entry ttl now =>
    exact numbersInOrder_refreshPositive cache _ _ _ _ _
  | clear =>
    constructor
    all_goals
      intro identity row found
      cases found

/-- Both halves evict in insertion order, which is the order of the numbers. -/
structure InsertionOrdered (cache : RouteCache) : Prop where
  numbers : ∀ write,
    NumbersInOrder PositiveCacheEntry.sequence cache.positives (cache.apply write).positives ∧
      NumbersInOrder NegativeCacheEntry.sequence cache.negatives (cache.apply write).negatives
  positives : ∀ request positive now,
    InsertsNewest PositiveCacheEntry.sequence request cache.positives
        (cache.insertResolved request positive now).1.positives ∧
      EvictsOldest PositiveCacheEntry.sequence (Replaced request positive.subscriptionId now)
        cache.positives (cache.insertResolved request positive now).1.positives
  negatives : ∀ request ttl now,
    InsertsNewest NegativeCacheEntry.sequence request cache.negatives
        (cache.insertNegative request ttl now).1.negatives ∧
      EvictsOldest NegativeCacheEntry.sequence
        (fun identity entry => entry.isExpired now = true ∨ identity = request)
        cache.negatives (cache.insertNegative request ttl now).1.negatives

theorem Represented.insertionOrdered (represented : Represented cache) : InsertionOrdered cache where
  numbers := represented.apply_numbersInOrder
  positives request positive now :=
    ⟨(represented.insertResolved request positive now).insertsNewest represented,
      (represented.insertResolved request positive now).evictsOldest⟩
  negatives request ttl now :=
    ⟨represented.insertNegative_insertsNewest request ttl now,
      represented.insertNegative_evictsOldest request ttl now⟩

/-- After any operations, at any times: the indexes list exactly the entries, both halves fit the
capacity and evict in insertion order, and the expiry indexes answer for all entries. -/
theorem indexes_follow_entries (capacity : Nat) (writes : List Write) :
    Sound capacity (run capacity writes) ∧ InsertionOrdered (run capacity writes) ∧
      ∀ now,
        ((run capacity writes).hasExpired now = true ↔ (run capacity writes).SomeExpired now) ∧
        ∀ limit, (run capacity writes).SomeExpired now ↔
          Loses (run capacity writes) ((run capacity writes).expireLimited now (limit + 1)).1 := by
  have sound := sound_run capacity writes
  have represented := sound.represented
  refine ⟨sound, represented.insertionOrdered, ?_⟩
  intro now
  exact ⟨represented.hasExpired_iff now, represented.someExpired_iff now⟩

end RouteCache

end Sleepypods.Frontline
