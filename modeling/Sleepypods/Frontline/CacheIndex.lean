import Sleepypods.Frontline.CacheProperties
import Sleepypods.Library.Shelf

/-! The representation of the route cache: its orders and its subscription map index exactly the
entries it holds, through every operation. -/

set_option autoImplicit false

namespace Sleepypods.Frontline

open Library

/-! ### The orders -/

theorem expiresBefore_iff {left right : Nat × Nat} : expiresBefore left right = true ↔
    left.1 < right.1 ∨ (left.1 = right.1 ∧ left.2 < right.2) := by
  simp only [expiresBefore, Bool.or_eq_true, Bool.and_eq_true, decide_eq_true_iff]

theorem expiresBefore_irrefl (place : Nat × Nat) : expiresBefore place place = false := by
  apply Bool.eq_false_iff.mpr
  rw [ne_eq, expiresBefore_iff]
  omega

theorem expiresBefore_trans (first second third : Nat × Nat)
    (below : expiresBefore first second = true) (above : expiresBefore second third = true) :
    expiresBefore first third = true := by
  rw [expiresBefore_iff] at below above ⊢
  omega

section shelves

variable {ρ : Type} {number expiresAt : ρ → Nat} {order : Table Nat RouteIdentity}
  {expiry : Table (Nat × Nat) RouteIdentity} {rows : Table RouteIdentity ρ} {last : Nat}

variable (shelved : Shelved number expiresAt order expiry rows last)

include shelved

theorem exists_oldest {capacity : Nat} (full : capacity < rows.size) :
    ∃ sequence identity row, order.first? insertedBefore = some (sequence, identity) ∧
      rows.find? identity = some row ∧
      ∀ other held, rows.find? other = some held → other ≠ identity → number row < number held := by
  obtain ⟨someone, one, held⟩ := Table.exists_of_size_pos (Nat.lt_of_le_of_lt (Nat.zero_le _) full)
  have listed := (shelved.order (number one) someone).mpr ⟨one, held, rfl⟩
  obtain ⟨⟨sequence, identity⟩, first⟩ := @Table.first?_isSome _ _ _ _ _ insertedBefore _ listed
  obtain ⟨row, found, same⟩ := (shelved.order sequence identity).mp (Table.find?_of_first? first)
  cases same
  refine ⟨_, identity, row, first, found, ?_⟩
  intro other held stored different
  have listed := (shelved.order (number held) other).mpr ⟨held, stored, rfl⟩
  have notBefore := Table.first?_least (by simp [insertedBefore])
    (by simpa [insertedBefore] using fun _ _ _ => Nat.lt_trans) first listed
  refine Nat.lt_of_le_of_ne (Nat.not_lt.mp (of_decide_eq_false notBefore)) ?_
  intro tied
  exact different (shelved.order.key_unique stored rfl found (congrArg some tied))

/-- An order by expiry answers for all rows: its first place is due exactly when some row is. -/
theorem due_iff (now : Nat) :
    ((expiry.first? expiresBefore).any fun entry => decide (entry.1.1 ≤ now)) = true ↔
      ∃ identity row, rows.find? identity = some row ∧ expiresAt row ≤ now := by
  constructor
  · intro due
    obtain ⟨⟨⟨expires, sequence⟩, identity⟩, first, passed⟩ := (Option.any_eq_true _ _).mp due
    obtain ⟨row, found, same⟩ := (shelved.expiry _ identity).mp (Table.find?_of_first? first)
    cases same
    exact ⟨identity, row, found, of_decide_eq_true passed⟩
  · intro ⟨identity, row, found, passed⟩
    have listed := (shelved.expiry (expiresAt row, number row) identity).mpr ⟨row, found, rfl⟩
    obtain ⟨⟨⟨expires, sequence⟩, first⟩, isFirst⟩ :=
      @Table.first?_isSome _ _ _ _ _ expiresBefore _ listed
    have least := Table.first?_least expiresBefore_irrefl expiresBefore_trans isFirst listed
    rw [isFirst]
    apply decide_eq_true
    have notBefore := Bool.eq_false_iff.mp least
    rw [ne_eq, expiresBefore_iff] at notBefore
    simp only at notBefore ⊢
    omega

end shelves

namespace RouteCache

/-- Every index lists exactly the entries of its half, and no identity is in both halves. -/
structure Represented (cache : RouteCache) : Prop where
  positives : Shelved PositiveCacheEntry.sequence PositiveCacheEntry.expiresAt cache.positiveOrder
    cache.positiveExpiry cache.positives cache.sequence
  negatives : Shelved NegativeCacheEntry.sequence NegativeCacheEntry.expiresAt cache.negativeOrder
    cache.negativeExpiry cache.negatives cache.sequence
  bySubscription : Indexes cache.bySubscription cache.positives PositiveCacheEntry.subscriptionId
  exclusive : ∀ identity,
    cache.positives.find? identity = none ∨ cache.negatives.find? identity = none

variable {cache after : RouteCache} {request : RouteIdentity}

/-! ### Taking entries out -/

structure Expels (before : RouteCache) (answers : List (RouteIdentity × PositiveCacheEntry))
    (refusals : List (RouteIdentity × NegativeCacheEntry)) (after : RouteCache) : Prop where
  represented : Represented after
  capacity : after.capacity = before.capacity
  sequence : after.sequence = before.sequence
  positives : before.positives.Takes answers after.positives
  negatives : before.negatives.Takes refusals after.negatives

theorem Expels.refl (represented : Represented cache) : Expels cache [] [] cache :=
  ⟨represented, rfl, rfl, .refl _, .refl _⟩

theorem Expels.trans {first second third : RouteCache}
    {answers later : List (RouteIdentity × PositiveCacheEntry)}
    {refusals further : List (RouteIdentity × NegativeCacheEntry)}
    (former : Expels first answers refusals second) (latter : Expels second later further third) :
    Expels first (answers ++ later) (refusals ++ further) third where
  represented := latter.represented
  capacity := latter.capacity.trans former.capacity
  sequence := latter.sequence.trans former.sequence
  positives := former.positives.trans latter.positives
  negatives := former.negatives.trans latter.negatives

section

variable (represented : Represented cache)

include represented

theorem expels_removePositive {identity : RouteIdentity} {entry : PositiveCacheEntry}
    (found : cache.positives.find? identity = some entry) :
    Expels cache [(identity, entry)] [] (cache.removePositive identity) := by
  have takes := Table.Takes.erase found
  unfold RouteCache.removePositive
  rw [found]
  refine ⟨⟨represented.positives.erase found, represented.negatives, ?_, ?_⟩, rfl, rfl, takes, .refl _⟩
  · dsimp only
    cases held : entry.subscriptionId with
    | none => exact represented.bySubscription.erase_unplaced found held
    | some => exact represented.bySubscription.erase found held
  · intro other
    refine (represented.exclusive other).imp_left ?_
    intro absent
    simp only [Table.find?_erase, Function.update_apply, absent, ite_self]

theorem expels_removeNegative {identity : RouteIdentity} {entry : NegativeCacheEntry}
    (found : cache.negatives.find? identity = some entry) :
    Expels cache [] [(identity, entry)] (cache.removeNegative identity) := by
  have takes := Table.Takes.erase found
  unfold RouteCache.removeNegative
  rw [found]
  refine ⟨⟨represented.positives, represented.negatives.erase found, represented.bySubscription, ?_⟩,
    rfl, rfl, .refl _, takes⟩
  intro other
  refine (represented.exclusive other).imp_right ?_
  intro absent
  simp only [Table.find?_erase, Function.update_apply, absent, ite_self]

def answersOf (cache : RouteCache) (identity : RouteIdentity) :
    List (RouteIdentity × PositiveCacheEntry) :=
  (cache.positives.find? identity).toList.map fun entry => (identity, entry)

theorem Represented.removePositive (identity : RouteIdentity) :
    Expels cache (cache.answersOf identity) [] (cache.removePositive identity) := by
  cases found : cache.positives.find? identity with
  | none =>
    unfold answersOf RouteCache.removePositive
    rw [found]
    exact .refl represented
  | some entry =>
    unfold answersOf
    rw [found]
    exact expels_removePositive represented found

theorem Represented.removeNegative (identity : RouteIdentity) :
    ∃ refusals, Expels cache [] refusals (cache.removeNegative identity) ∧
      (∀ refusal ∈ refusals, refusal.1 = identity) ∧
      (cache.removeNegative identity).negatives.find? identity = none := by
  cases found : cache.negatives.find? identity with
  | none =>
    unfold RouteCache.removeNegative
    rw [found]
    exact ⟨[], .refl represented, List.forall_mem_nil _, found⟩
  | some entry =>
    have removed := expels_removeNegative represented found
    exact ⟨_, removed, List.forall_mem_singleton.mpr rfl,
      removed.negatives.gone (List.mem_singleton.mpr rfl)⟩

end

theorem Expels.vacant {more : List (RouteIdentity × PositiveCacheEntry)}
    {refusals : List (RouteIdentity × NegativeCacheEntry)}
    (expels : Expels cache (cache.answersOf request ++ more) refusals after) :
    after.positives.find? request = none := by
  apply Option.eq_none_iff_forall_ne_some.mpr
  intro entry found
  have taken : (request, entry) ∈ cache.answersOf request ++ more := by
    rw [answersOf, expels.positives.kept found]
    exact List.mem_cons_self
  cases (expels.positives.gone taken).symm.trans found

def idsOf (answers : List (RouteIdentity × PositiveCacheEntry)) : List SubscriptionId :=
  answers.filterMap fun answer => answer.2.subscriptionId

theorem idsOf_answersOf (cache : RouteCache) (identity : RouteIdentity) :
    idsOf (cache.answersOf identity) = (cache.releasedId identity).toList := by
  unfold idsOf answersOf releasedId
  cases cache.positives.find? identity with
  | none => rfl
  | some entry =>
    simp only [Option.toList_some, List.map_cons, List.map_nil, Option.bind_some,
      List.filterMap_cons, List.filterMap_nil]
    cases entry.subscriptionId <;> rfl

def isDue (expiry : Table (Nat × Nat) RouteIdentity) (now : Nat) : Bool :=
  (expiry.first? expiresBefore).any fun entry => decide (entry.1.1 ≤ now)

theorem Represented.expirePositives (now : Nat) :
    ∀ (remaining : Nat) {cache : RouteCache}, Represented cache → ∃ answers,
      Expels cache answers [] (RouteCache.expirePositives now remaining cache).1 ∧
        (RouteCache.expirePositives now remaining cache).2.1 = idsOf answers ∧
        (∀ answer ∈ answers, answer.2.isExpired now = true) ∧
        (isDue cache.positiveExpiry now = true → 0 < remaining → answers ≠ []) ∧
        (isDue cache.positiveExpiry now = false →
          RouteCache.expirePositives now remaining cache = (cache, [], remaining)) := by
  intro remaining
  induction remaining with
  | zero =>
    exact fun represented => ⟨[], .refl represented, rfl, List.forall_mem_nil _,
      fun _ none => absurd none (Nat.lt_irrefl 0), fun _ => rfl⟩
  | succ remaining ih =>
    intro cache represented
    unfold RouteCache.expirePositives isDue
    cases first : cache.positiveExpiry.first? expiresBefore with
    | none => exact ⟨[], .refl represented, rfl, List.forall_mem_nil _, by simp, fun _ => rfl⟩
    | some place =>
      obtain ⟨⟨expires, sequence⟩, identity⟩ := place
      by_cases later : now < expires
      · simp only [if_pos later]
        refine ⟨[], .refl represented, rfl, List.forall_mem_nil _, ?_, fun _ => trivial⟩
        intro due
        exact absurd (of_decide_eq_true due) (Nat.not_le.mpr later)
      · obtain ⟨entry, found, same⟩ :=
          (represented.positives.expiry _ identity).mp (Table.find?_of_first? first)
        cases same
        have removed := expels_removePositive represented found
        obtain ⟨answers, expels, told, expired, -⟩ := ih removed.represented
        have released := idsOf_answersOf cache identity
        rw [answersOf, found] at released
        simp only [if_neg later]
        refine ⟨_, removed.trans expels, ?_, ?_, fun _ _ => List.cons_ne_nil _ _, ?_⟩
        · rw [told, ← released]
          exact (List.filterMap_append).symm
        · exact List.forall_mem_cons.mpr ⟨decide_eq_true (Nat.not_lt.mp later), expired⟩
        · intro idle
          exact absurd (Nat.not_lt.mp later) (of_decide_eq_false idle)

theorem Represented.expireNegatives (now : Nat) :
    ∀ (remaining : Nat) {cache : RouteCache}, Represented cache → ∃ refusals,
      Expels cache [] refusals (RouteCache.expireNegatives now remaining cache) ∧
        (∀ refusal ∈ refusals, refusal.2.isExpired now = true) ∧
        (isDue cache.negativeExpiry now = true → 0 < remaining → refusals ≠ []) := by
  intro remaining
  induction remaining with
  | zero =>
    exact fun represented => ⟨[], .refl represented, List.forall_mem_nil _,
      fun _ none => absurd none (Nat.lt_irrefl 0)⟩
  | succ remaining ih =>
    intro cache represented
    unfold RouteCache.expireNegatives isDue
    cases first : cache.negativeExpiry.first? expiresBefore with
    | none => exact ⟨[], .refl represented, List.forall_mem_nil _, by simp⟩
    | some place =>
      obtain ⟨⟨expires, sequence⟩, identity⟩ := place
      by_cases later : now < expires
      · simp only [if_pos later]
        refine ⟨[], .refl represented, List.forall_mem_nil _, ?_⟩
        intro due
        exact absurd (of_decide_eq_true due) (Nat.not_le.mpr later)
      · obtain ⟨entry, found, same⟩ :=
          (represented.negatives.expiry _ identity).mp (Table.find?_of_first? first)
        cases same
        have removed := expels_removeNegative represented found
        obtain ⟨refusals, expels, expired, -⟩ := ih removed.represented
        simp only [if_neg later]
        exact ⟨_, removed.trans expels,
          List.forall_mem_cons.mpr ⟨decide_eq_true (Nat.not_lt.mp later), expired⟩,
          fun _ _ => List.cons_ne_nil _ _⟩

/-- Expiry takes out expired entries, and some if there are any and it may. -/
theorem Represented.expireLimited (represented : Represented cache) (now limit : Nat) :
    ∃ answers refusals, Expels cache answers refusals (cache.expireLimited now limit).1 ∧
      (cache.expireLimited now limit).2 = idsOf answers ∧
      (∀ answer ∈ answers, answer.2.isExpired now = true) ∧
      (∀ refusal ∈ refusals, refusal.2.isExpired now = true) ∧
      (cache.hasExpired now = true → 0 < limit → answers ≠ [] ∨ refusals ≠ []) := by
  obtain ⟨answers, expels, told, expired, progress, idle⟩ :=
    represented.expirePositives now limit
  obtain ⟨refusals, refuses, lapsed, further⟩ := expels.represented.expireNegatives now
    (RouteCache.expirePositives now limit cache).2.2
  refine ⟨answers, refusals, ?_, told, expired, lapsed, ?_⟩
  · have both := expels.trans refuses
    rw [List.append_nil] at both
    exact both
  · intro due allowed
    cases positive : isDue cache.positiveExpiry now with
    | true => exact .inl (progress positive allowed)
    | false =>
      right
      have negative : isDue cache.negativeExpiry now = true := by
        unfold hasExpired at due
        exact (Bool.or_eq_true _ _ ▸ due).resolve_left (Bool.eq_false_iff.mp positive)
      rw [idle positive] at further
      exact further negative allowed

theorem Represented.evictPositives :
    ∀ (fuel : Nat) {cache : RouteCache}, Represented cache → cache.positives.size ≤ fuel →
      ∃ answers, Expels cache answers [] (RouteCache.evictPositives fuel cache).1 ∧
        (RouteCache.evictPositives fuel cache).2 = idsOf answers ∧
        (RouteCache.evictPositives fuel cache).1.positives.size ≤ cache.capacity ∧
        ∀ answer ∈ answers, ∀ other kept,
          (RouteCache.evictPositives fuel cache).1.positives.find? other = some kept →
          answer.2.sequence < kept.sequence := by
  intro fuel
  induction fuel with
  | zero =>
    intro cache represented few
    exact ⟨[], .refl represented, rfl, Nat.le_trans few (Nat.zero_le _), List.forall_mem_nil _⟩
  | succ fuel ih =>
    intro cache represented few
    unfold RouteCache.evictPositives
    by_cases full : cache.capacity < cache.positives.size
    · obtain ⟨sequence, identity, entry, first, found, oldest⟩ :=
        exists_oldest represented.positives full
      have removed := expels_removePositive represented found
      have size := removed.positives.size
      simp only [List.length_singleton] at size
      obtain ⟨answers, expels, told, fits, older⟩ := ih removed.represented (by omega)
      have released := idsOf_answersOf cache identity
      rw [answersOf, found] at released
      simp only [if_pos full, first]
      refine ⟨_, removed.trans expels, ?_, removed.capacity ▸ fits, ?_⟩
      · rw [told, ← released]
        exact (List.filterMap_append).symm
      · refine List.forall_mem_cons.mpr ⟨fun other kept stays => ?_, older⟩
        obtain ⟨still, different⟩ := removed.positives.spared (expels.positives.kept stays)
        exact oldest other kept still different
    · simp only [if_neg full]
      exact ⟨[], .refl represented, rfl, Nat.not_lt.mp full, List.forall_mem_nil _⟩

theorem Represented.evictNegatives :
    ∀ (fuel : Nat) {cache : RouteCache}, Represented cache → cache.negatives.size ≤ fuel →
      ∃ refusals, Expels cache [] refusals (RouteCache.evictNegatives fuel cache) ∧
        (RouteCache.evictNegatives fuel cache).negatives.size ≤ cache.capacity ∧
        ∀ refusal ∈ refusals, ∀ other kept,
          (RouteCache.evictNegatives fuel cache).negatives.find? other = some kept →
          refusal.2.sequence < kept.sequence := by
  intro fuel
  induction fuel with
  | zero =>
    intro cache represented few
    exact ⟨[], .refl represented, Nat.le_trans few (Nat.zero_le _), List.forall_mem_nil _⟩
  | succ fuel ih =>
    intro cache represented few
    unfold RouteCache.evictNegatives
    by_cases full : cache.capacity < cache.negatives.size
    · obtain ⟨sequence, identity, entry, first, found, oldest⟩ :=
        exists_oldest represented.negatives full
      have removed := expels_removeNegative represented found
      have size := removed.negatives.size
      simp only [List.length_singleton] at size
      obtain ⟨refusals, expels, fits, older⟩ := ih removed.represented (by omega)
      simp only [if_pos full, first]
      refine ⟨_, removed.trans expels, removed.capacity ▸ fits, ?_⟩
      refine List.forall_mem_cons.mpr ⟨fun other kept stays => ?_, older⟩
      obtain ⟨still, different⟩ := removed.negatives.spared (expels.negatives.kept stays)
      exact oldest other kept still different
    · simp only [if_neg full]
      exact ⟨[], .refl represented, Nat.not_lt.mp full, List.forall_mem_nil _⟩

/-! ### Inserting -/

section

variable (represented : Represented cache)

include represented

theorem Represented.indexPositive {positive : PositiveCacheEntry}
    (absent : cache.positives.find? request = none)
    (unrefused : cache.negatives.find? request = none)
    (unheld : ∀ id, positive.subscriptionId = some id → cache.bySubscription.find? id = none) :
    Represented (cache.indexPositive request positive) := by
  refine ⟨represented.positives.insert absent { positive with sequence := cache.sequence + 1 } rfl,
    represented.negatives.advance, ?_, ?_⟩
  · unfold RouteCache.indexPositive
    cases held : positive.subscriptionId with
    | none => exact represented.bySubscription.insert_unplaced absent rfl
    | some id => exact represented.bySubscription.insert absent rfl (unheld id held)
  · intro identity
    simp only [RouteCache.indexPositive, Table.find?_insert, Function.update_apply]
    split
    next same => exact .inr (same ▸ unrefused)
    · exact represented.exclusive identity

theorem Represented.indexNegative {negative : NegativeCacheEntry}
    (absent : cache.negatives.find? negative.requestIdentity = none)
    (unanswered : cache.positives.find? negative.requestIdentity = none) :
    Represented (cache.indexNegative negative) := by
  refine ⟨represented.positives.advance,
    represented.negatives.insert absent { negative with sequence := cache.sequence + 1 } rfl,
    represented.bySubscription, ?_⟩
  intro identity
  simp only [RouteCache.indexNegative, Table.find?_insert, Function.update_apply]
  split
  next same => exact .inl (same ▸ unanswered)
  · exact represented.exclusive identity

theorem Represented.removePositiveBySubscription (id : SubscriptionId) :
    ∃ holders, Expels cache holders [] (cache.removePositiveBySubscription id) ∧
      (∀ holder ∈ holders, holder.2.subscriptionId = some id) ∧
      (cache.removePositiveBySubscription id).bySubscription.find? id = none := by
  unfold RouteCache.removePositiveBySubscription
  cases backed : cache.bySubscription.find? id with
  | none => exact ⟨[], .refl represented, List.forall_mem_nil _, backed⟩
  | some identity =>
    obtain ⟨entry, found, holds⟩ := (represented.bySubscription id identity).mp backed
    have removed := expels_removePositive represented found
    refine ⟨_, removed, List.forall_mem_singleton.mpr holds, ?_⟩
    apply removed.represented.bySubscription.find?_eq_none
    intro other held stored same
    -- Only the removed answer held the subscription.
    obtain ⟨there, different⟩ := removed.positives.spared stored
    exact different (represented.bySubscription.key_unique there same found holds)

def cleared (cache : RouteCache) (request : RouteIdentity) (id : Option SubscriptionId) : RouteCache :=
  (match id with
    | some id => (cache.removePositive request).removePositiveBySubscription id
    | none => cache.removePositive request).removeNegative request

theorem Represented.cleared (request : RouteIdentity) (id : Option SubscriptionId) :
    ∃ holders refusals,
      Expels cache (cache.answersOf request ++ holders) refusals (cache.cleared request id) ∧
        (∀ holder ∈ holders, holder.2.subscriptionId.isSome = true ∧ holder.2.subscriptionId = id) ∧
        (∀ refusal ∈ refusals, refusal.1 = request) ∧
        ∀ positive : PositiveCacheEntry, positive.subscriptionId = id →
          Represented ((cache.cleared request id).indexPositive request positive) := by
  have removed := represented.removePositive request
  obtain ⟨current, holders, expels, holds, free, same⟩ : ∃ current holders,
      Expels (cache.removePositive request) holders [] current ∧
        (∀ holder ∈ holders, holder.2.subscriptionId.isSome = true ∧ holder.2.subscriptionId = id) ∧
        (∀ held, id = some held → current.bySubscription.find? held = none) ∧
        cache.cleared request id = current.removeNegative request := by
    cases id with
    | none => exact ⟨_, [], .refl removed.represented, List.forall_mem_nil _, nofun, rfl⟩
    | some id =>
      obtain ⟨holders, expels, holds, free⟩ :=
        removed.represented.removePositiveBySubscription id
      refine ⟨_, holders, expels, fun holder member => ?_, fun held same => ?_, rfl⟩
      · rw [holds holder member]
        exact ⟨rfl, rfl⟩
      · cases same
        exact free
  obtain ⟨refusals, refuses, refused, unrefused⟩ := expels.represented.removeNegative request
  have all := (removed.trans expels).trans refuses
  simp only [List.append_nil, List.nil_append] at all
  rw [same]
  refine ⟨holders, refusals, all, holds, refused, ?_⟩
  intro positive given
  apply all.represented.indexPositive
  · exact all.vacant
  · exact unrefused
  · intro held holding
    apply all.represented.bySubscription.find?_eq_none
    intro other entry found same
    have backed := (expels.represented.bySubscription held other).mpr
      ⟨entry, refuses.positives.kept found, same⟩
    cases (free held (given.symm.trans holding)).symm.trans backed

end

/-- What an insertion does: it expires, and then refuses a stale answer or replaces what was there
and evicts down to the capacity. -/
inductive Installs (cache : RouteCache) (request : RouteIdentity) (positive : PositiveCacheEntry)
    (now : Nat) : RouteCache → List SubscriptionId → Prop where
  | stale {expired dropped : List (RouteIdentity × PositiveCacheEntry)}
      {lapsed : List (RouteIdentity × NegativeCacheEntry)} {current after : RouteCache}
      {existing : PositiveCacheEntry} (expires : Expels cache expired lapsed current)
      (expiredAll : ∀ answer ∈ expired, answer.2.isExpired now = true)
      (found : current.positives.find? request = some existing)
      (drops : Expels current dropped [] after)
      (same : dropped = if existing.subscriptionId.isNone then [(request, existing)] else []) :
      Installs cache request positive now after (idsOf expired ++ positive.subscriptionId.toList)
  | fresh {expired holders evicted : List (RouteIdentity × PositiveCacheEntry)}
      {lapsed refusals : List (RouteIdentity × NegativeCacheEntry)}
      {current vacant after : RouteCache} (expires : Expels cache expired lapsed current)
      (expiredAll : ∀ answer ∈ expired, answer.2.isExpired now = true)
      (clears : Expels current (current.answersOf request ++ holders) refusals vacant)
      (holds : ∀ holder ∈ holders,
        holder.2.subscriptionId.isSome = true ∧ holder.2.subscriptionId = positive.subscriptionId)
      (absent : vacant.positives.find? request = none)
      (evicts : Expels
        (vacant.indexPositive request { positive with requestIdentity := request }) evicted [] after)
      (fits : after.positives.size ≤ cache.capacity)
      (older : ∀ answer ∈ evicted, ∀ other kept, after.positives.find? other = some kept →
        answer.2.sequence < kept.sequence) :
      Installs cache request positive now after
        (idsOf expired ++ ((current.releasedId request).filter fun id =>
          decide (some id ≠ positive.subscriptionId)).toList ++ idsOf evicted)

variable (represented : Represented cache)

include represented

theorem Represented.insertResolved (request : RouteIdentity) (positive : PositiveCacheEntry)
    (now : Nat) :
    Installs cache request positive now (cache.insertResolved request positive now).1
      (cache.insertResolved request positive now).2 := by
  obtain ⟨expired, lapsed, expires, told, expiredAll, -⟩ := represented.expireLimited now 64
  unfold RouteCache.insertResolved
  simp only
  generalize (cache.expireLimited now 64).1 = current at *
  rw [told]
  split
  next existing stale =>
    have found := (Option.filter_eq_some_iff.mp stale).1
    refine .stale expires expiredAll found ?_ rfl
    split
    · exact expels_removePositive expires.represented found
    · exact .refl expires.represented
  · obtain ⟨holders, refusals, clears, holds, -, indexed⟩ :=
      expires.represented.cleared request positive.subscriptionId
    obtain ⟨evicted, evicts, gone, fits, older⟩ := Represented.evictPositives _
      (indexed { positive with requestIdentity := request } rfl) (Nat.le_refl _)
    have result := Installs.fresh expires expiredAll clears holds clears.vacant evicts
      (Nat.le_trans fits (Nat.le_of_eq (clears.capacity.trans expires.capacity))) older
    rw [← gone] at result
    exact result

theorem Represented.insertNegative (request : RouteIdentity) (ttl now : Nat) :
    ∃ answers refusals current evicted,
      Expels cache answers refusals current ∧
        (∀ refusal ∈ refusals, refusal.2.isExpired now = true ∨ refusal.1 = request) ∧
        (cache.insertNegative request ttl now).2 = idsOf answers ∧
        Expels (current.indexNegative (.new request ttl now)) [] evicted
          (cache.insertNegative request ttl now).1 ∧
        (cache.insertNegative request ttl now).1.negatives.size ≤ cache.capacity ∧
        ∀ refusal ∈ evicted, ∀ other kept,
          (cache.insertNegative request ttl now).1.negatives.find? other = some kept →
          refusal.2.sequence < kept.sequence := by
  obtain ⟨expired, lapsed, expires, told, -, lapsedAll, -⟩ := represented.expireLimited now 64
  unfold RouteCache.insertNegative
  simp only
  generalize (cache.expireLimited now 64).1 = current at *
  have removed := expires.represented.removePositive request
  obtain ⟨refusals, refuses, refused, unrefused⟩ := removed.represented.removeNegative request
  have all := (expires.trans removed).trans refuses
  simp only [List.append_nil] at all
  obtain ⟨evicted, evicts, fits, older⟩ := Represented.evictNegatives _
    (@Represented.indexNegative _ refuses.represented (.new request ttl now) unrefused
      (removed.trans refuses).vacant)
    (Nat.le_refl _)
  refine ⟨_, _, _, evicted, all, ?_, ?_, evicts, ?_, older⟩
  · intro refusal member
    cases List.mem_append.mp member with
    | inl early => exact .inl (lapsedAll refusal early)
    | inr late => exact .inr (refused refusal late)
  · rw [told, ← idsOf_answersOf]
    exact List.filterMap_append.symm
  · exact Nat.le_trans fits (Nat.le_of_eq all.capacity)

theorem Represented.rotateSession : Represented cache.rotateSession.1 := by
  refine ⟨represented.positives.mapRows (fun _ entry => { entry with subscriptionId := none })
    (fun _ _ => rfl) fun _ _ => rfl, represented.negatives, .forget fun _ _ => rfl, ?_⟩
  intro identity
  refine (represented.exclusive identity).imp_left ?_
  intro absent
  simp only [RouteCache.rotateSession, Table.find?_mapRows, absent, Option.map_none]

theorem Represented.refreshPositive (identity matchedIdentity : RouteIdentity) (entry : RouteEntry)
    (ttl now : Nat) :
    Represented (cache.refreshPositive identity matchedIdentity entry ttl now) := by
  unfold RouteCache.refreshPositive
  split
  · exact represented
  next cached found =>
    refine ⟨represented.positives.refresh found
      { cached with matchedIdentity := matchedIdentity, entry := entry, expiresAt := now + ttl } rfl,
      represented.negatives, represented.bySubscription.rewrite found rfl, ?_⟩
    intro other
    simp only [Table.find?_insert, Function.update_apply]
    split
    next same =>
      have present := represented.exclusive other
      rw [same, found] at present
      exact .inr (same ▸ present.resolve_left (by simp))
    · exact represented.exclusive other

end RouteCache

end Sleepypods.Frontline
