import Sleepypods.Proxy.RouteEvents
import Sleepypods.Store.Selection

/-! Precision of invalidations: an event about a binding invalidates a recorded answer exactly when
the event changes which binding the request resolves to. -/

set_option autoImplicit false

namespace Sleepypods.Proxy

open Store

theorem hostScore_lt_trans {first second third : HostScore} (below : first < second)
    (higher : second < third) : first < third := by
  cases first with
  | exact => cases below
  | suffix =>
    cases third with
    | exact => exact trivial
    | suffix =>
      cases second with
      | exact => cases higher
      | suffix => exact Nat.lt_trans below higher

theorem hostScore_lt_irrefl (score : HostScore) : ¬ score < score := by
  cases score with
  | exact => exact id
  | suffix size => exact Nat.lt_irrefl size

theorem score_lt_trans {first second third : RouteMatchScore} (below : first < second)
    (higher : second < third) : first < third := by
  cases below with
  | inl hostBelow =>
    cases higher with
    | inl hostHigher => exact .inl (hostScore_lt_trans hostBelow hostHigher)
    | inr tied => exact .inl (tied.1 ▸ hostBelow)
  | inr tied =>
    cases higher with
    | inl hostHigher => exact .inl (tied.1 ▸ hostHigher)
    | inr both => exact .inr ⟨tied.1.trans both.1, Nat.lt_trans tied.2 both.2⟩

theorem score_lt_irrefl (score : RouteMatchScore) : ¬ score < score := by
  intro below
  cases below with
  | inl host => exact hostScore_lt_irrefl _ host
  | inr path => exact Nat.lt_irrefl _ path.2

/-! ### Bindings -/

/-- Bindings that may stand side by side: no two share an id or an identity, and each has the
protocol its identity calls for. -/
structure BindingSet where
  records : List RouteBindingRecord
  idsNodup : (records.map RouteBindingRecord.id).Nodup
  identitiesNodup : (records.map RouteBindingRecord.identity).Nodup
  paired : ∀ record ∈ records, record.protocol = protocolForRouteIdentity record.identity

variable {score : RouteMatchScore}

namespace BindingSet

variable {bindings : BindingSet} {request : RouteIdentity} {record other : RouteBindingRecord}

/-- The binding is further: it shares neither id nor identity with one that is there. -/
structure Further (bindings : BindingSet) (record : RouteBindingRecord) : Prop where
  id : ∀ present ∈ bindings.records, present.id ≠ record.id
  identity : ∀ present ∈ bindings.records, present.identity ≠ record.identity
  paired : record.protocol = protocolForRouteIdentity record.identity

def insert (bindings : BindingSet) (record : RouteBindingRecord) (further : bindings.Further record) :
    BindingSet where
  records := record :: bindings.records
  idsNodup := by
    rw [List.map_cons, List.nodup_cons]
    refine ⟨?_, bindings.idsNodup⟩
    intro used
    obtain ⟨present, member, same⟩ := List.mem_map.mp used
    exact further.id present member same
  identitiesNodup := by
    rw [List.map_cons, List.nodup_cons]
    refine ⟨?_, bindings.identitiesNodup⟩
    intro used
    obtain ⟨present, member, same⟩ := List.mem_map.mp used
    exact further.identity present member same
  paired := List.forall_mem_cons.mpr ⟨further.paired, bindings.paired⟩

def remove (bindings : BindingSet) (id : RouteBindingId) : BindingSet where
  records := bindings.records.filter fun record => decide (record.id ≠ id)
  idsNodup := bindings.idsNodup.sublist (List.filter_sublist.map _)
  identitiesNodup := bindings.identitiesNodup.sublist (List.filter_sublist.map _)
  paired := fun record member => bindings.paired record (List.mem_of_mem_filter member)

def outscores (request first second : RouteIdentity) : Bool :=
  match routeMatchScore first request, routeMatchScore second request with
  | some higher, some lower => decide (lower < higher)
  | _, _ => false

def leads (bindings : BindingSet) (request : RouteIdentity) (record : RouteBindingRecord) : Bool :=
  (routeMatchScore record.identity request).isSome &&
    !bindings.records.any fun other => outscores request other.identity record.identity

def best (bindings : BindingSet) (request : RouteIdentity) : Option RouteBindingRecord :=
  bindings.records.find? (bindings.leads request)

structure IsBest (bindings : BindingSet) (request : RouteIdentity) (record : RouteBindingRecord)
    (score : RouteMatchScore) : Prop where
  member : record ∈ bindings.records
  scored : routeMatchScore record.identity request = some score
  highest : ∀ other ∈ bindings.records, ∀ higher,
    routeMatchScore other.identity request = some higher → ¬ score < higher

theorem eq_of_id_eq (member : record ∈ bindings.records) (otherMember : other ∈ bindings.records)
    (same : record.id = other.id) : record = other :=
  List.inj_on_of_nodup_map bindings.idsNodup member otherMember same

theorem outscores_eq_true {first second : RouteIdentity}
    (scored : routeMatchScore second request = some score) :
    outscores request first second = true ↔
      ∃ higher, routeMatchScore first request = some higher ∧ score < higher := by
  rw [outscores, scored]
  cases routeMatchScore first request with
  | none => simp only [Bool.false_eq_true, reduceCtorEq, false_and, exists_false]
  | some => simp only [decide_eq_true_iff, Option.some.injEq, exists_eq_left']

theorem IsBest.unique {otherScore : RouteMatchScore} (isBest : bindings.IsBest request record score)
    (otherBest : bindings.IsBest request other otherScore) : record = other := by
  have tied : score = otherScore := RouteMatchScore.eq_of_not_lt
    (isBest.highest other otherBest.member otherScore otherBest.scored)
    (otherBest.highest record isBest.member score isBest.scored)
  have scored : routeMatchScore other.identity request = some score := tied ▸ otherBest.scored
  exact List.inj_on_of_nodup_map bindings.identitiesNodup isBest.member otherBest.member
    (identity_eq_of_score_eq isBest.scored scored)

theorem leads_eq_true (member : record ∈ bindings.records) :
    bindings.leads request record = true ↔ ∃ score, bindings.IsBest request record score := by
  unfold leads
  cases scored : routeMatchScore record.identity request with
  | none =>
    refine iff_of_false Bool.false_ne_true ?_
    intro ⟨score, isBest⟩
    cases scored.symm.trans isBest.scored
  | some score =>
    rw [Option.isSome_some, Bool.true_and, Bool.not_eq_true', List.any_eq_false]
    constructor
    · intro none
      refine ⟨score, member, scored, ?_⟩
      intro other otherMember higher otherScored above
      exact none other otherMember ((outscores_eq_true scored).mpr ⟨higher, otherScored, above⟩)
    · intro ⟨_, isBest⟩ other otherMember beaten
      cases scored.symm.trans isBest.scored
      obtain ⟨higher, otherScored, above⟩ := (outscores_eq_true scored).mp beaten
      exact isBest.highest other otherMember higher otherScored above

theorem best_eq_some :
    bindings.best request = some record ↔ ∃ score, bindings.IsBest request record score := by
  constructor
  · intro found
    exact (leads_eq_true (List.mem_of_find?_eq_some found)).mp (List.find?_some found)
  · intro ⟨score, isBest⟩
    cases found : bindings.best request with
    | none =>
      have passed := List.find?_eq_none.mp found record isBest.member
      exact absurd ((leads_eq_true isBest.member).mpr ⟨score, isBest⟩) passed
    | some =>
      obtain ⟨_, otherBest⟩ :=
        (leads_eq_true (List.mem_of_find?_eq_some found)).mp (List.find?_some found)
      rw [isBest.unique otherBest]

theorem best_insert_ne_iff (isBest : bindings.IsBest request record score)
    (further : bindings.Further other) :
    (bindings.insert other further).best request ≠ bindings.best request ↔
      ∃ higher, routeMatchScore other.identity request = some higher ∧ score < higher := by
  have resolved : bindings.best request = some record := best_eq_some.mpr ⟨score, isBest⟩
  rw [resolved]
  constructor
  · intro changed
    by_contra notAbove
    apply changed
    refine best_eq_some.mpr ⟨score, List.mem_cons_of_mem _ isBest.member, isBest.scored, ?_⟩
    intro candidate member higher scored above
    cases List.mem_cons.mp member with
    | inl added => exact notAbove ⟨higher, added ▸ scored, above⟩
    | inr present => exact isBest.highest candidate present higher scored above
  · intro ⟨higher, scored, above⟩ unchanged
    have takesOver : (bindings.insert other further).IsBest request other higher := by
      refine ⟨List.mem_cons_self, scored, ?_⟩
      intro candidate member top candidateScored evenHigher
      cases List.mem_cons.mp member with
      | inl added =>
        subst added
        cases scored.symm.trans candidateScored
        exact score_lt_irrefl _ evenHigher
      | inr present =>
        exact isBest.highest candidate present top candidateScored
          (score_lt_trans above evenHigher)
    have same := (best_eq_some.mpr ⟨higher, takesOver⟩).symm.trans unchanged
    exact further.id record isBest.member (congrArg RouteBindingRecord.id (Option.some.inj same).symm)

/-- Removing a binding changes the resolution exactly when the request resolved to it. -/
theorem best_remove_ne_iff (isBest : bindings.IsBest request record score)
    {removed : RouteBindingRecord} (member : removed ∈ bindings.records) :
    (bindings.remove removed.id).best request ≠ bindings.best request ↔ removed = record := by
  have resolved : bindings.best request = some record := best_eq_some.mpr ⟨score, isBest⟩
  rw [resolved]
  constructor
  · intro changed
    by_contra different
    apply changed
    have kept : record ∈ (bindings.remove removed.id).records := by
      apply List.mem_filter.mpr
      refine ⟨isBest.member, decide_eq_true ?_⟩
      intro same
      exact different (eq_of_id_eq member isBest.member same.symm)
    refine best_eq_some.mpr ⟨score, kept, isBest.scored, ?_⟩
    intro candidate candidateMember
    exact isBest.highest candidate (List.mem_of_mem_filter candidateMember)
  · rintro rfl unchanged
    obtain ⟨_, stillBest⟩ := best_eq_some.mp unchanged
    exact of_decide_eq_true (List.mem_filter.mp stillBest.member).2 rfl

end BindingSet

/-! ### Events -/

def insertedEvent (record : RouteBindingRecord) : RouteBindingChange :=
  .route record.id false (some record.identity) (some record.protocol)

/-- The subscription that a stream records of a request that resolved to a binding. -/
def subscriptionTo (request : RouteIdentity) (record : RouteBindingRecord) (entry : RouteEntry) :
    ActiveRouteSubscription :=
  .of request record.identity { entry with
    routeBindingId := record.id
    instanceId := record.instanceId }

variable {bindings : BindingSet} {request : RouteIdentity} {record : RouteBindingRecord}

theorem protocol_eq_of_scores {first second : RouteIdentity} {other : RouteMatchScore}
    (scored : routeMatchScore first request = some score)
    (otherScored : routeMatchScore second request = some other) :
    protocolForRouteIdentity first = protocolForRouteIdentity second := by
  cases request with
  | http =>
    cases first with
    | http host path =>
      cases second with
      | http => rfl
      | sni => cases otherScored
    | sni => cases scored
  | sni =>
    cases first with
    | http => cases scored
    | sni host =>
      cases second with
      | http => cases otherScored
      | sni => rfl

theorem invalidated_by_insert_iff {entry : RouteEntry}
    (isBest : bindings.IsBest request record score) {added : RouteBindingRecord}
    (further : bindings.Further added) :
    subscriptionInvalidatedByEvent (subscriptionTo request record entry) (insertedEvent added) =
        true ↔
      ∃ higher, routeMatchScore added.identity request = some higher ∧ score < higher := by
  have otherBinding : record.id ≠ added.id := further.id record isBest.member
  have cached := isBest.scored
  simp only [subscriptionInvalidatedByEvent, insertedEvent, subscriptionTo,
    ActiveRouteSubscription.of, if_neg otherBinding, further.paired, Bool.false_eq_true, if_false]
  cases scored : routeMatchScore added.identity request with
  | none =>
    refine iff_of_false ?_ nofun
    by_cases same : protocolForRouteIdentity record.identity =
        protocolForRouteIdentity added.identity
    · simp [same]
    · simp [same]
  | some =>
    have same := protocol_eq_of_scores cached scored
    simp only [same, ne_eq, not_true_eq_false, if_false, cached, decide_eq_true_iff,
      Option.some.injEq, exists_eq_left']

theorem invalidated_by_removal_iff {entry : RouteEntry}
    (isBest : bindings.IsBest request record score) {removed : RouteBindingRecord}
    (member : removed ∈ bindings.records) (identity : Option RouteIdentity)
    (protocol : Option ProtocolRoute) :
    subscriptionInvalidatedByEvent (subscriptionTo request record entry)
        (.route removed.id true identity protocol) = true ↔ removed = record := by
  simp only [subscriptionInvalidatedByEvent, subscriptionTo, ActiveRouteSubscription.of, if_true]
  constructor
  · intro invalidated
    split at invalidated
    next same => exact BindingSet.eq_of_id_eq member isBest.member same.symm
    · cases invalidated
  · rintro rfl
    rw [if_pos rfl]

theorem invalidation_is_precise (bindings : BindingSet) (request : RouteIdentity)
    (record : RouteBindingRecord) (entry : RouteEntry)
    (resolved : bindings.best request = some record) :
    (∀ (added : RouteBindingRecord) (further : bindings.Further added),
      subscriptionInvalidatedByEvent (subscriptionTo request record entry) (insertedEvent added) =
          true ↔
        (bindings.insert added further).best request ≠ bindings.best request) ∧
    ∀ removed ∈ bindings.records, ∀ (identity : Option RouteIdentity)
      (protocol : Option ProtocolRoute),
      (subscriptionInvalidatedByEvent (subscriptionTo request record entry)
          (.route removed.id true identity protocol) = true ↔ removed = record) ∧
        (removed = record ↔
          (bindings.remove removed.id).best request ≠ bindings.best request) := by
  obtain ⟨score, isBest⟩ := BindingSet.best_eq_some.mp resolved
  constructor
  · intro added further
    rw [invalidated_by_insert_iff isBest further, BindingSet.best_insert_ne_iff isBest further]
  · intro removed member identity protocol
    constructor
    · exact invalidated_by_removal_iff isBest member identity protocol
    · exact (BindingSet.best_remove_ne_iff isBest member).symm

namespace Sample

def subtree : RouteBindingRecord where
  id := ⟨⟨"subtree", rfl⟩⟩
  instanceId := Store.Sample.web
  identity := Store.Sample.wildcard
  protocol := .http

def leaf : RouteBindingRecord where
  id := ⟨⟨"leaf", rfl⟩⟩
  instanceId := Store.Sample.web
  identity := Store.Sample.eastShop none
  protocol := .http

def subtreeOnly : BindingSet where
  records := [subtree]
  idsNodup := by decide
  identitiesNodup := by decide
  paired := by decide

theorem leaf_further : subtreeOnly.Further leaf where
  id := by decide
  identity := by decide
  paired := by decide

def subtreeEntry : RouteEntry where
  routeBindingId := subtree.id
  instanceId := subtree.instanceId
  instanceState := .cold
  instanceGeneration := 1
  backend := none
  backendGeneration := none

end Sample

theorem sample_invalidation_is_precise :
    Sample.subtreeOnly.best Sample.leaf.identity = some Sample.subtree ∧
      subscriptionInvalidatedByEvent
        (subscriptionTo Sample.leaf.identity Sample.subtree Sample.subtreeEntry)
        (insertedEvent Sample.leaf) = true ∧
      (Sample.subtreeOnly.insert Sample.leaf Sample.leaf_further).best Sample.leaf.identity ≠
        Sample.subtreeOnly.best Sample.leaf.identity := by
  have resolved : Sample.subtreeOnly.best Sample.leaf.identity = some Sample.subtree := by decide
  have precise := invalidation_is_precise Sample.subtreeOnly Sample.leaf.identity Sample.subtree
    Sample.subtreeEntry resolved
  have invalidated : subscriptionInvalidatedByEvent
      (subscriptionTo Sample.leaf.identity Sample.subtree Sample.subtreeEntry)
      (insertedEvent Sample.leaf) = true := by
    decide
  exact ⟨resolved, invalidated, (precise.1 Sample.leaf Sample.leaf_further).mp invalidated⟩

end Sleepypods.Proxy
