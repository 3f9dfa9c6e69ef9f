import Sleepypods.Frontline.CacheRuns

/-! No subscription is forgotten and none is given up while an answer depends on it: what the cache
held and was given is what it holds and reports for release. -/

set_option autoImplicit false

namespace Sleepypods.Frontline

open Library

namespace RouteCache

variable {cache after : RouteCache} {answers : List (RouteIdentity × PositiveCacheEntry)}
  {refusals : List (RouteIdentity × NegativeCacheEntry)} {id : SubscriptionId}
  {request : RouteIdentity} {positive : PositiveCacheEntry} {now : Nat}

def held (cache : RouteCache) : Multiset SubscriptionId := idsOf cache.positives.entries

theorem mem_held : id ∈ cache.held ↔
    ∃ identity entry, cache.positive identity = some entry ∧ entry.subscriptionId = some id := by
  unfold held idsOf
  rw [Multiset.mem_coe, List.mem_filterMap]
  constructor
  · intro ⟨⟨identity, entry⟩, member, holds⟩
    exact ⟨identity, entry, Table.find?_eq_some.mpr member, holds⟩
  · intro ⟨identity, entry, found, holds⟩
    exact ⟨(identity, entry), Table.find?_eq_some.mp found, holds⟩

theorem Expels.held (expels : Expels cache answers refusals after) :
    cache.held = after.held + idsOf answers := by
  unfold RouteCache.held idsOf
  rw [add_comm, Multiset.coe_add, Multiset.coe_eq_coe, ← List.filterMap_append]
  exact expels.positives.filterMap _

theorem held_indexPositive (holds : positive.subscriptionId = some id)
    (absent : cache.positives.find? request = none) :
    (cache.indexPositive request positive).held = cache.held + {id} := by
  unfold held idsOf RouteCache.indexPositive
  rw [Table.entries_insert absent, List.filterMap_append, ← Multiset.coe_add]
  simp only [List.filterMap_cons, holds, List.filterMap_nil]
  rfl

/-- The subscription that a replaced answer releases is another one than the incoming. -/
theorem filter_releasedId (unheld : id ∉ cache.held) :
    ((cache.releasedId request).filter fun released => decide (some released ≠ some id)) =
      cache.releasedId request := by
  cases holds : cache.releasedId request with
  | none => rfl
  | some released =>
    obtain ⟨entry, found, same⟩ := Option.bind_eq_some_iff.mp holds
    apply Option.filter_eq_some_iff.mpr
    refine ⟨rfl, decide_eq_true ?_⟩
    intro equal
    cases equal
    exact unheld (mem_held.mpr ⟨request, entry, found, same⟩)

/-! ### The balance -/

theorem Represented.nodup_held (represented : Represented cache) : cache.held.Nodup := by
  unfold held idsOf
  rw [Multiset.coe_nodup]
  unfold List.Nodup
  rw [List.pairwise_filterMap]
  have distinct : cache.positives.entries.Pairwise fun left right => left.1 ≠ right.1 :=
    List.pairwise_map.mp cache.positives.keysNodup
  refine distinct.imp_of_mem ?_
  intro left right leftInside rightInside differ first firstHeld second secondHeld same
  subst same
  exact differ (represented.bySubscription.key_unique (Table.find?_eq_some.mpr leftInside) firstHeld
    (Table.find?_eq_some.mpr rightInside) secondHeld)

/-- What was held and what came in is held or reported, and nothing is both. -/
structure Conserves (before after : RouteCache) (incoming reported : List SubscriptionId) : Prop where
  balance : before.held + incoming = after.held + reported
  separate : ∀ id ∈ after.held, id ∉ reported

theorem Conserves.of_nodup {incoming reported : List SubscriptionId}
    (distinct : (cache.held + incoming).Nodup)
    (balance : cache.held + incoming = after.held + reported) :
    Conserves cache after incoming reported := by
  refine ⟨balance, ?_⟩
  intro id inside told
  rw [balance] at distinct
  exact Multiset.disjoint_left.mp (Multiset.nodup_add.mp distinct).2.2 inside
    (Multiset.mem_coe.mpr told)

theorem Conserves.of_releases (represented : Represented cache) {reported : List SubscriptionId}
    (releases : cache.held = after.held + reported) : Conserves cache after [] reported := by
  apply Conserves.of_nodup
  · rw [Multiset.coe_nil, add_zero]
    exact represented.nodup_held
  · rw [Multiset.coe_nil, add_zero]
    exact releases

variable {released : List SubscriptionId}

theorem Installs.held (installs : Installs cache request positive now after released)
    (holds : positive.subscriptionId = some id) (unheld : id ∉ cache.held) :
    cache.held + {id} = after.held + released := by
  have free : ∀ {current : RouteCache} {expired lapsed}, Expels cache expired lapsed current →
      id ∉ current.held := by
    intro current expired lapsed expires inside
    rw [expires.held] at unheld
    exact unheld (Multiset.mem_add.mpr (.inl inside))
  cases installs with
  | @stale expired dropped lapsed current _ existing expires expiredAll found drops same =>
    have nothing : idsOf dropped = [] := by
      rw [same]
      split
      next forgotten => simp [idsOf, Option.isNone_iff_eq_none.mp forgotten]
      · rfl
    rw [expires.held, drops.held, nothing, holds, ← Multiset.coe_add]
    simp only [Multiset.coe_nil, add_zero, Option.toList_some, Multiset.coe_singleton]
    abel
  | @fresh expired holders evicted lapsed refusals current vacant _ expires expiredAll clears others
      absent evicts =>
    have alone : holders = [] := by
      apply List.eq_nil_iff_forall_not_mem.mpr
      intro holder member
      have taken := clears.positives.found (List.mem_append_right _ member)
      exact free expires (mem_held.mpr ⟨holder.1, holder.2, taken,
        (others holder member).2.trans holds⟩)
    have indexed := @held_indexPositive vacant id request { positive with requestIdentity := request }
      holds absent
    have balance := evicts.held
    rw [indexed] at balance
    rw [alone, List.append_nil] at clears
    rw [expires.held, clears.held, idsOf_answersOf, holds, filter_releasedId (free expires),
      ← Multiset.coe_add, ← Multiset.coe_add]
    calc
      _ = (vacant.held + {id}) +
          ((idsOf expired : Multiset SubscriptionId) + (current.releasedId request).toList) := by abel
      _ = _ := by
        rw [balance]
        abel

theorem Installs.conserves (represented : Represented cache)
    (installs : Installs cache request positive now after released)
    (holds : positive.subscriptionId = some id) (unheld : id ∉ cache.held) :
    Conserves cache after [id] released := by
  apply Conserves.of_nodup
  · apply Multiset.nodup_add.mpr
    refine ⟨represented.nodup_held, List.nodup_singleton id, ?_⟩
    apply Multiset.disjoint_left.mpr
    intro other inside incoming
    cases List.mem_singleton.mp (Multiset.mem_coe.mp incoming)
    exact unheld inside
  · exact installs.held holds unheld

/-- An insertion that brings a subscription leaves the identity with one, or without an answer. -/
theorem Installs.isSome (installs : Installs cache request positive now after released)
    (brings : positive.subscriptionId.isSome = true) {entry : PositiveCacheEntry}
    (found : after.positives.find? request = some entry) : entry.subscriptionId.isSome = true := by
  cases installs with
  | stale expires expiredAll held drops same =>
    cases held.symm.trans (drops.positives.kept found)
    cases registered : entry.subscriptionId with
    | some => rfl
    | none =>
      rw [registered, Option.isNone_none, if_pos rfl] at same
      cases (drops.positives.gone (same ▸ List.mem_singleton.mpr rfl)).symm.trans found
  | fresh expires expiredAll clears others absent evicts =>
    have stored := (congrFun (positive_indexPositive _ request _) request).symm.trans
      (evicts.positives.kept found)
    rw [Function.update_self] at stored
    cases stored
    exact brings

/-- In every reachable cache, a request's answer, a refusal, an expiry and an invalidation account
for every subscription, and an identity that was given a subscription keeps one. -/
theorem subscriptions_are_conserved (capacity : Nat) (writes : List Write) :
    (∀ request positive now id, positive.subscriptionId = some id →
        id ∉ (run capacity writes).held →
        Conserves (run capacity writes)
            ((run capacity writes).insertResolved request positive now).1 [id]
            ((run capacity writes).insertResolved request positive now).2 ∧
          ∀ entry,
            ((run capacity writes).insertResolved request positive now).1.positive request =
              some entry → entry.subscriptionId ≠ none) ∧
      (∀ request ttl now, Conserves (run capacity writes)
        ((run capacity writes).insertNegative request ttl now).1 []
        ((run capacity writes).insertNegative request ttl now).2) ∧
      (∀ now limit, Conserves (run capacity writes)
        ((run capacity writes).expireLimited now limit).1 []
        ((run capacity writes).expireLimited now limit).2) ∧
      ∀ identity, Conserves (run capacity writes)
        ((run capacity writes).invalidateRequest identity).1 []
        ((run capacity writes).invalidateRequest identity).2.toList := by
  have represented := (sound_run capacity writes).represented
  generalize run capacity writes = cache at represented
  refine ⟨?_, ?_, ?_, ?_⟩
  · intro request positive now id holds unheld
    have installs := represented.insertResolved request positive now
    refine ⟨installs.conserves represented holds unheld, ?_⟩
    intro entry found
    exact Option.isSome_iff_ne_none.mp (installs.isSome (holds ▸ rfl) found)
  · intro request ttl now
    obtain ⟨_, _, current, _, expels, -, told, evicts, -⟩ :=
      represented.insertNegative request ttl now
    have same : current.held = (cache.insertNegative request ttl now).1.held :=
      evicts.held.trans (add_zero _)
    apply Conserves.of_releases represented
    rw [expels.held, told, same]
  · intro now limit
    obtain ⟨_, _, expels, told, -⟩ := represented.expireLimited now limit
    exact .of_releases represented (told ▸ expels.held)
  · intro identity
    have expels := represented.removePositive identity
    exact .of_releases represented (idsOf_answersOf cache identity ▸ expels.held)

namespace Sample

def shop : RouteIdentity := .sni ⟨.exact, "shop.test", "shop.test", by decide⟩

def blog : RouteIdentity := .sni ⟨.exact, "blog.test", "blog.test", by decide⟩

def first : SubscriptionId := ⟨⟨"1", by decide⟩, some 0⟩

def second : SubscriptionId := ⟨⟨"2", by decide⟩, some 0⟩

def route : RouteEntry where
  routeBindingId := ⟨⟨"route", by decide⟩⟩
  instanceId := ⟨"web", by decide⟩
  instanceState := .cold
  instanceGeneration := 1
  backend := none
  backendGeneration := none

def fill : List Write := [.insertPositive first shop route 100 0]

end Sample

open Sample in
/-- The second answer evicts the first, whose subscription is reported. -/
theorem sample_subscriptions_are_conserved :
    ((run 1 fill).insertResolved blog (.new second blog route 100 1) 1).2 = [first] ∧
      Conserves (run 1 fill) ((run 1 fill).insertResolved blog (.new second blog route 100 1) 1).1
        [second] ((run 1 fill).insertResolved blog (.new second blog route 100 1) 1).2 := by
  refine ⟨by decide +kernel, ?_⟩
  exact ((subscriptions_are_conserved 1 fill).1 blog (.new second blog route 100 1) 1 second rfl
    (by decide +kernel)).1

end RouteCache

end Sleepypods.Frontline
