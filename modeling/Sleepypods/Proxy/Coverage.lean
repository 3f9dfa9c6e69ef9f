import Sleepypods.Proxy.RouteEvents
import Sleepypods.Store.Outbox
import Sleepypods.Store.Resolution

/-! Every change of a route answer is announced: a transaction after which a request is answered
differently appends an event that invalidates the old answer. -/

set_option autoImplicit false

namespace Sleepypods.Proxy

open Library RetainedLog RouteIdentity
open Store

theorem trimEndMatches_sublist (strips : Char → Bool) (text : List Char) :
    (trimEndMatches strips text).Sublist text := by
  have reversed := (List.dropWhile_sublist strips (l := text.reverse)).reverse
  rwa [List.reverse_reverse] at reversed

theorem stripWildcard_sublist (host : List Char) : (stripWildcard host).Sublist host := by
  unfold stripWildcard
  split
  · exact (List.sublist_cons_self _ _).trans (List.sublist_cons_self _ _)
  · exact List.Sublist.refl _

theorem normalizeHost_size {value host : String} {wildcard : Bool}
    (normalized : normalizeHost value wildcard = .ok host) :
    host.utf8ByteSize ≤ value.utf8ByteSize := by
  have folded : host = String.ofList (foldHost value wildcard) := by
    unfold normalizeHost at normalized
    simp only at normalized
    repeat' split at normalized
    all_goals cases normalized
    rfl
  have trimmed : (trimEndMatches (· == '.') (trimText value.toList)).Sublist value.toList :=
    ((trimEndMatches_sublist _ _).trans (trimEndMatches_sublist _ _)).trans
      (List.dropWhile_sublist _)
  have bound : (String.ofList ((trimEndMatches (· == '.') (trimText value.toList)).map
      Char.toLower)).utf8ByteSize ≤ value.utf8ByteSize := by
    have shorter := utf8ByteSize_le_of_sublist trimmed
    rw [String.ofList_toList] at shorter
    rw [utf8ByteSize_map_toLower]
    exact shorter
  rw [folded]
  unfold foldHost
  simp only
  split
  · exact Nat.le_trans (utf8ByteSize_le_of_sublist (stripWildcard_sublist _)) bound
  · exact bound

theorem RouteHost.new_ok {kind : RouteHostKind} {value : String} {host : RouteHost}
    (built : RouteHost.new kind value = .ok host) :
    host.kind = kind ∧ normalizeHost value kind.isWildcard = .ok host.host := by
  unfold RouteHost.new at built
  split at built
  next text normalized =>
    cases built
    exact ⟨rfl, normalized⟩
  · cases built

def AtMost (left right : RouteMatchScore) : Prop := left = right ∨ left < right

theorem HostScore.lt_trans {first second third : HostScore} (less : first < second)
    (more : second < third) : first < third := by
  cases second with
  | exact => cases more
  | suffix =>
    cases first with
    | exact => cases less
    | suffix =>
      cases third with
      | exact => exact trivial
      | suffix => exact Nat.lt_trans less more

theorem AtMost.lt_of_lt {first second third : RouteMatchScore} (atMost : AtMost first second)
    (less : second < third) : first < third := by
  rcases atMost with rfl | below
  · exact less
  · rcases below with host | ⟨sameHost, path⟩
    · rcases less with higher | ⟨same, _⟩
      · exact .inl (HostScore.lt_trans host higher)
      · exact .inl (same ▸ host)
    · rcases less with higher | ⟨same, more⟩
      · exact .inl (sameHost ▸ higher)
      · exact .inr ⟨sameHost.trans same, Nat.lt_trans path more⟩

/-! ### Received identities -/

theorem PathPrefix.new_value (path : PathPrefix) : PathPrefix.new path.value = some path := by
  unfold PathPrefix.new
  rw [dif_pos path.absolute]

variable {identity received request : RouteIdentity}

variable {row : RouteBindingRow} {id : RouteBindingId}

theorem received_of_decode {record : RouteBindingRecord} (stores : row.Stores identity)
    (decoded : row.decode id = .ok record) :
    identity.received = .ok record.identity := by
  obtain ⟨found, parsed, same⟩ := Fallible.bind_eq_ok.mp decoded
  cases same
  rw [stores] at parsed
  cases identity with
  | http _ path =>
    simp only [routeBindingRow, routeIdentityFromParts, host, identityKindOf,
      pathText] at parsed
    simp only [received]
    split at parsed
    · cases parsed
    next again built =>
      rw [built]
      cases path with
      | none =>
        cases parsed
        rfl
      | some =>
        simp only [Option.map_some, PathPrefix.new_value] at parsed
        cases parsed
        rfl
  | sni =>
    simp only [routeBindingRow, routeIdentityFromParts, host, identityKindOf] at parsed
    simp only [received]
    split at parsed
    · cases parsed
    next again built =>
      rw [built]
      cases parsed
      rfl

theorem publishDurable_inserted (stores : row.Stores identity)
    (accepted : identity.received = .ok received) :
    publishDurable (row.change false id) =
      .ok (.route id false (some received) (some (protocolForRouteIdentity received))) := by
  rw [stores]
  cases identity with
  | http _ path =>
    obtain ⟨again, built, rfl⟩ := Fallible.map_eq_ok.mp accepted
    simp only [RouteBindingRow.change, routeBindingRow, publishDurable, host, built,
      identityKindOf, pathText]
    cases path with
    | none => rfl
    | some => simp only [Option.map_some, PathPrefix.new_value, protocolForRouteIdentity]
  | sni =>
    obtain ⟨again, built, rfl⟩ := Fallible.map_eq_ok.mp accepted
    simp only [RouteBindingRow.change, routeBindingRow, publishDurable, host, built,
      identityKindOf, protocolForRouteIdentity]

theorem protocol_received (accepted : identity.received = .ok received) :
    protocolForRouteIdentity received = protocolForRouteIdentity identity := by
  cases identity with
  | http | sni =>
    obtain ⟨again, _, rfl⟩ := Fallible.map_eq_ok.mp accepted
    rfl

variable {score : RouteMatchScore}

theorem protocol_of_score (scored : routeMatchScore identity request = some score) :
    protocolForRouteIdentity identity = protocolForRouteIdentity request := by
  cases identity <;> cases request <;> first | rfl | cases scored

theorem hostScore_received {binding again lookup : RouteHost} {score cached : HostScore}
    (built : RouteHost.new binding.kind binding.host = .ok again)
    (scored : hostScore binding lookup = some score) (hit : hostScore again lookup = some cached) :
    cached = score ∨ cached < score := by
  obtain ⟨kind, normalized⟩ := RouteHost.new_ok built
  rcases hostScore_eq_some scored with ⟨_, _, rfl⟩ | ⟨wild, _, rfl⟩
  · rcases hostScore_eq_some hit with ⟨_, _, rfl⟩ | ⟨_, _, rfl⟩
    · exact .inl rfl
    · exact .inr trivial
  · rcases hostScore_eq_some hit with ⟨exact, _, _⟩ | ⟨_, _, rfl⟩
    · rw [kind, wild] at exact
      cases exact
    · rcases Nat.lt_or_eq_of_le (normalizeHost_size normalized) with shorter | same
      · exact .inr shorter
      · exact .inl (congrArg _ same)

/-- A received identity never matches with a higher score than the one that was sent. -/
theorem score_received {cached : RouteMatchScore} (accepted : identity.received = .ok received)
    (scored : routeMatchScore identity request = some score)
    (hit : routeMatchScore received request = some cached) : AtMost cached score := by
  cases identity with
  | http =>
    obtain ⟨again, built, rfl⟩ := Fallible.map_eq_ok.mp accepted
    cases request with
    | sni => cases scored
    | http =>
      obtain ⟨hostScore, hosted, scored⟩ := Option.bind_eq_some_iff.mp scored
      obtain ⟨pathScore, routed, rfl⟩ := Option.map_eq_some_iff.mp scored
      obtain ⟨cachedHost, cachedHosted, hit⟩ := Option.bind_eq_some_iff.mp hit
      obtain ⟨cachedPath, cachedRouted, rfl⟩ := Option.map_eq_some_iff.mp hit
      cases routed.symm.trans cachedRouted
      rcases hostScore_received built hosted cachedHosted with rfl | less
      · exact .inl rfl
      · exact .inr (.inl less)
  | sni =>
    obtain ⟨again, built, rfl⟩ := Fallible.map_eq_ok.mp accepted
    cases request with
    | http => cases scored
    | sni =>
      obtain ⟨hostScore, hosted, rfl⟩ := Option.map_eq_some_iff.mp scored
      obtain ⟨cachedHost, cachedHosted, rfl⟩ := Option.map_eq_some_iff.mp hit
      rcases hostScore_received built hosted cachedHosted with rfl | less
      · exact .inl rfl
      · exact .inr (.inl less)

/-! ### Announced changes -/

def Announces (changes : List RouteChange) (subscription : ActiveRouteSubscription) : Prop :=
  ∃ change ∈ changes, ∃ event, publishDurable change = .ok event ∧
    subscriptionInvalidatedByEvent subscription event = true

namespace Announces

variable {changes more : List RouteChange} {subscription : ActiveRouteSubscription}

theorem mono (announces : Announces changes subscription) (within : changes ⊆ more) :
    Announces more subscription := by
  obtain ⟨change, member, published⟩ := announces
  exact ⟨change, within member, published⟩

theorem lifecycle (member : RouteChange.lifecycle subscription.instanceId ∈ changes) :
    Announces changes subscription :=
  ⟨_, member, _, rfl, decide_eq_true rfl⟩

theorem removed (row : RouteBindingRow)
    (member : row.change true subscription.routeBindingId ∈ changes) :
    Announces changes subscription :=
  ⟨_, member, _, rfl, if_pos rfl⟩

theorem inserted (stores : row.Stores identity) (stable : identity.received = .ok identity)
    (protocol : subscription.protocol = protocolForRouteIdentity identity)
    (scored : routeMatchScore identity subscription.requestIdentity = some score)
    (better : ∀ cached, routeMatchScore subscription.matchedIdentity subscription.requestIdentity =
      some cached → cached < score) : Announces [row.change false id] subscription := by
  refine ⟨_, List.mem_singleton_self _, _, publishDurable_inserted stores stable, ?_⟩
  simp only [subscriptionInvalidatedByEvent, Bool.false_eq_true, if_false, protocol, ne_eq,
    not_true_eq_false, scored]
  split
  · rfl
  · split
    · rfl
    next cached hit => exact decide_eq_true (better cached hit)

end Announces

def Covered (db after : Database) (changes : List RouteChange) : Prop :=
  ∀ request matchedIdentity entry, resolveRoute db request = .ok (.resolved matchedIdentity entry) →
    resolveRoute after request = .ok (.resolved matchedIdentity entry) ∨
      Announces changes (.of request.identity matchedIdentity entry)

namespace Covered

variable {db middle after : Database} {changes more : List RouteChange}

theorem trans (first : Covered db middle changes) (second : Covered middle after more) :
    Covered db after (changes ++ more) := by
  intro request matchedIdentity entry resolved
  rcases first request matchedIdentity entry resolved with same | announced
  · rcases second request matchedIdentity entry same with same | announced
    · exact .inl same
    · exact .inr (announced.mono (List.subset_append_right _ _))
  · exact .inr (announced.mono (List.subset_append_left _ _))

theorem of_answers (each : ∀ request id row owner matchedIdentity entry,
      Answers db request id row owner matchedIdentity entry →
      (∃ owner', Answers after request id row owner' matchedIdentity entry) ∨
        Announces changes (.of request.identity matchedIdentity entry)) :
    Covered db after changes := by
  intro request matchedIdentity entry resolved
  obtain ⟨id, row, owner, answers⟩ := answers_of_resolved resolved
  rcases each request id row owner matchedIdentity entry answers with ⟨owner', same⟩ | announced
  · exact .inl same.resolved
  · exact .inr announced

theorem of_same (bindings : after.routeBindings = db.routeBindings)
    (instances : after.instances = db.instances)
    (materializations : after.materializations = db.materializations) : Covered db after changes := by
  intro request matchedIdentity entry resolved
  refine .inl ?_
  unfold resolveRoute selectedBinding readyMaterialization at resolved ⊢
  rw [bindings, instances, materializations]
  exact resolved

theorem of_instances (keyed : WorkKeyed db) {id : InstanceId} {row : InstanceRow}
    (bindings : after.routeBindings = db.routeBindings)
    (instances : after.instances = db.instances.insert id row)
    (materializations : after.materializations = db.materializations)
    (kept : ∀ old, db.instances.find? id = some old → .lifecycle id ∉ changes →
      row.state = old.state ∧ row.generation = old.generation) : Covered db after changes := by
  refine of_answers fun request bindingId binding owner matchedIdentity entry answers => ?_
  by_cases announced : .lifecycle binding.instanceId ∈ changes
  · refine .inr (Announces.lifecycle ?_)
    rw [ActiveRouteSubscription.of, answers.instanceId]
    exact announced
  · refine .inl ?_
    have selected : selectedBinding after request.identity = some (bindingId, binding) :=
      (selectedBinding_congr bindings _).trans answers.selected
    have ready := (readyBackend_eq (keyed.keep materializations) binding.instanceId
      owner.generation request.target).trans
        ((congrArg _ (routeWork_congr materializations)).trans (readyBackend_eq keyed ..).symm)
    by_cases same : binding.instanceId = id
    · rw [same] at announced
      obtain ⟨state, generation⟩ := kept owner (same ▸ answers.owned) announced
      refine ⟨row, answers.transfer selected ?_ state generation ready⟩
      rw [instances, same, Table.find?_insert, Function.update_self]
    · refine ⟨owner, answers.transfer selected ?_ rfl rfl ready⟩
      rw [instances, Table.find?_insert, Function.update_of_ne same]
      exact answers.owned

theorem of_work (keyed : WorkKeyed db) (afterKeyed : WorkKeyed after)
    (bindings : after.routeBindings = db.routeBindings) (instances : after.instances = db.instances)
    (kept : ∀ instanceId target, .lifecycle instanceId ∉ changes →
      routeWork after instanceId target = routeWork db instanceId target) :
    Covered db after changes := by
  refine of_answers fun request bindingId binding owner matchedIdentity entry answers => ?_
  by_cases announced : .lifecycle binding.instanceId ∈ changes
  · refine .inr (Announces.lifecycle ?_)
    rw [ActiveRouteSubscription.of, answers.instanceId]
    exact announced
  · refine .inl ⟨owner, answers.transfer ((selectedBinding_congr bindings _).trans answers.selected)
      (instances ▸ answers.owned) rfl rfl ?_⟩
    rw [readyBackend_eq keyed, readyBackend_eq afterKeyed, kept _ _ announced]

theorem of_deleted (keyed : WorkKeyed db) (afterKeyed : WorkKeyed after)
    (deleted : RouteBindingId → RouteBindingRow → Bool)
    (bindings : after.routeBindings = db.routeBindings.filterRows fun id row => !deleted id row)
    (listed : ∀ id row, db.routeBindings.find? id = some row → deleted id row = true →
      row.change true id ∈ changes)
    (instances : ∀ id row, db.routeBindings.find? id = some row → deleted id row = false →
      after.instances.find? row.instanceId = db.instances.find? row.instanceId)
    (kept : ∀ id row target, db.routeBindings.find? id = some row → deleted id row = false →
      routeWork after row.instanceId target = routeWork db row.instanceId target) :
    Covered db after changes := by
  refine of_answers fun request bindingId binding owner matchedIdentity entry answers => ?_
  have found := (mem_candidates.mp (selectedBinding_eq_some.mp answers.selected).1).1
  cases gone : deleted bindingId binding with
  | true =>
    refine .inr (Announces.removed binding ?_)
    rw [ActiveRouteSubscription.of, answers.routeBindingId]
    exact listed bindingId binding found gone
  | false =>
    have stays : after.routeBindings.find? bindingId = some binding := by
      rw [bindings, Table.find?_filterRows, found, Option.filter, gone]
      rfl
    have fewer : ∀ other otherRow, after.routeBindings.find? other = some otherRow →
        db.routeBindings.find? other = some otherRow := by
      intro other otherRow stored
      rw [bindings, Table.find?_filterRows] at stored
      exact (Option.filter_eq_some_iff.mp stored).1
    refine .inl ⟨owner, answers.transfer (selectedBinding_shrink answers.selected stays fewer)
      ((instances bindingId binding found gone).trans answers.owned) rfl rfl ?_⟩
    rw [readyBackend_eq keyed, readyBackend_eq afterKeyed, kept bindingId binding _ found gone]

theorem of_inserted (stored : BindingsStored db) (keyed : WorkKeyed db) {instanceId : InstanceId}
    {spec : RouteBindingSpec} (stable : spec.identity.received = .ok spec.identity)
    (absent : db.routeBindings.find? id = none)
    (unique : ∀ other otherRow, db.routeBindings.find? other = some otherRow →
      otherRow.identityKey ≠ (routeBindingRow instanceId spec.identity spec.protocol).identityKey)
    (bindings : after.routeBindings = db.routeBindings.insert id (routeBindingRow instanceId
      spec.identity spec.protocol)) (instances : after.instances = db.instances)
    (materializations : after.materializations = db.materializations) :
    Covered db after [(routeBindingRow instanceId spec.identity spec.protocol).change false id] := by
  refine of_answers fun request bindingId binding owner matchedIdentity entry answers => ?_
  obtain ⟨found, matched⟩ := mem_candidates.mp (selectedBinding_eq_some.mp answers.selected).1
  obtain ⟨identity, stores⟩ := stored.stored bindingId binding found
  rw [matches_eq stores] at matched
  obtain ⟨score, scored⟩ := Option.isSome_iff_exists.mp matched
  have newStores : (routeBindingRow instanceId spec.identity spec.protocol).Stores spec.identity := rfl
  by_cases better : ∃ newScore, routeMatchScore spec.identity request.identity = some newScore ∧
      score < newScore
  · obtain ⟨newScore, newScored, better⟩ := better
    have received : identity.received = .ok matchedIdentity :=
      received_of_decode stores answers.decoded
    refine .inr (Announces.inserted newStores stable ?_ newScored fun cached hit => ?_)
    · calc protocolForRouteIdentity matchedIdentity
          = protocolForRouteIdentity identity := protocol_received received
        _ = protocolForRouteIdentity request.identity := protocol_of_score scored
        _ = protocolForRouteIdentity spec.identity := (protocol_of_score newScored).symm
    · exact (score_received received scored hit).lt_of_lt better
  · -- The new binding does not match, or matches below the selected one: a tie would be its key.
    have behind : (routeBindingRow instanceId spec.identity spec.protocol).matches
        request.identity = true →
        outranks binding.rank (routeBindingRow instanceId spec.identity spec.protocol).rank := by
      intro newMatched
      rw [matches_eq newStores] at newMatched
      obtain ⟨newScore, newScored⟩ := Option.isSome_iff_exists.mp newMatched
      refine (outranks_iff stores newStores scored newScored).mpr ?_
      by_contra notBelow
      have tied := RouteMatchScore.eq_of_not_lt notBelow fun above =>
        better ⟨newScore, newScored, above⟩
      rw [tied] at newScored
      have same := identity_eq_of_score_eq scored newScored
      refine unique bindingId binding found ?_
      rw [stores, same]
      rfl
    refine .inl ⟨owner, answers.transfer
      (selectedBinding_insert answers.selected absent bindings behind)
      (instances ▸ answers.owned) rfl rfl ?_⟩
    rw [readyBackend_eq keyed, readyBackend_eq (keyed.keep materializations),
      routeWork_congr materializations]

end Covered

variable {session : Session} {bindings : List RouteBindingSpec} {db after : Database}

theorem statement_covered (stored : BindingsStored db) (keyed : WorkKeyed db)
    (stable : ∀ spec ∈ bindings, spec.identity.received = .ok spec.identity)
    (statement : Statement session bindings db after) :
    ∃ changes, after.outbox.history = db.outbox.history ++ changes ∧ Covered db after changes := by
  have afterKeyed := keyed.statement statement
  cases statement with
  | insertInstance _ _ _ insert =>
    obtain ⟨absent, _, rfl⟩ := insertInstance_ok insert
    refine ⟨_, history_append .., .of_instances keyed rfl rfl rfl ?_⟩
    intro old found
    rw [absent] at found
    cases found
  | updateInstance _ _ _ _ found updated =>
    obtain ⟨_, rfl⟩ := updateInstance_ok updated
    refine ⟨_, history_append .., .of_instances keyed rfl rfl rfl ?_⟩
    intro current stored silent
    rw [found] at stored
    cases stored
    by_contra changed
    refine silent ?_
    rw [if_pos fun same => changed (Prod.mk.inj same)]
    exact List.mem_singleton_self _
  | insertRouteBinding _ _ spec listed _ inserted =>
    obtain ⟨absent, unique, _, rfl⟩ := insertRouteBinding_ok inserted
    exact ⟨_, history_append ..,
      .of_inserted stored keyed (stable spec listed) absent unique rfl rfl rfl⟩
  | deleteRouteBindings selects deleted =>
    obtain ⟨records, rfl⟩ := deleteRouteBindings_ok deleted
    refine ⟨_, history_append ..,
      .of_deleted keyed afterKeyed selects rfl ?_ (fun _ _ _ _ => rfl) fun _ _ _ _ _ => rfl⟩
    intro id row found selected
    exact List.mem_map.mpr
      ⟨(id, row), List.mem_filter.mpr ⟨Table.find?_eq_some.mp found, selected⟩, rfl⟩
  | insertMaterialization _ inserted =>
    obtain ⟨absent, _, objects, keys, rfl⟩ := insertMaterialization_ok inserted
    refine ⟨_, history_append .., .of_work keyed afterKeyed rfl rfl ?_⟩
    intro instanceId target silent
    refine routeWork_insert_other (fun same => silent ?_) (fun old found => ?_) rfl
    · rw [same]
      exact List.mem_singleton_self _
    · rw [absent] at found
      cases found
  | updateMaterialization id old assigned found owned targeted updated =>
    obtain ⟨objects, keys, rfl⟩ := updateMaterialization_ok updated
    refine ⟨_, history_append .., .of_work keyed afterKeyed rfl rfl ?_⟩
    intro instanceId target silent
    refine routeWork_rewrite fun other => ?_
    by_cases same : other = id
    · subst same
      refine ⟨fun _ => beforeUpdate session old assigned, ?_, fun row stored => ?_⟩
      · rw [Table.find?_insert, Function.update_self, found]
        rfl
      · cases found.symm.trans stored
        refine ⟨owned, fun own => routeColumns_of_not_visible owned targeted ?_⟩
        by_contra visible
        refine silent ?_
        rw [if_pos (Bool.not_eq_false _ ▸ visible), own]
        exact List.mem_singleton_self _
    · refine ⟨fun row => row, ?_, fun _ _ => ⟨rfl, fun _ => rfl⟩⟩
      rw [Table.find?_insert, Function.update_of_ne same, Option.map_id']
  | updateMaterializations selects _ owned targeted updated =>
    obtain ⟨objects, keys, rfl⟩ := updateMaterializations_ok updated
    refine ⟨_, history_append .., .of_work keyed afterKeyed rfl rfl ?_⟩
    intro instanceId target silent
    refine routeWork_rewrite fun id => ⟨_, Table.find?_mapRows .., fun row found => ?_⟩
    by_cases selected : selects id row = true
    · rw [if_pos selected]
      refine ⟨owned row, fun own => routeColumns_of_not_visible (owned row) (targeted row) ?_⟩
      by_contra visible
      refine silent ?_
      rw [← own]
      refine List.mem_map_of_mem (List.mem_dedup.mpr (List.mem_map.mpr ⟨(id, row), ?_, rfl⟩))
      exact List.mem_filter.mpr
        ⟨List.mem_filter.mpr ⟨Table.find?_eq_some.mp found, selected⟩, Bool.not_eq_false _ ▸ visible⟩
    · rw [if_neg selected]
      exact ⟨rfl, fun _ => rfl⟩
  | deleteInstanceRow id deleted =>
    obtain ⟨_, records, objects, keys, more, rfl⟩ := deleteInstanceRow_ok deleted
    have history : ((db.outbox.append session.now outboxRetention (removedBindings db id)).append
        session.now outboxRetention more).history =
        db.outbox.history ++ (removedBindings db id ++ more) := by
      rw [history_append, history_append, List.append_assoc]
    refine ⟨_, history,
      .of_deleted keyed afterKeyed (fun _ row => decide (row.instanceId = id)) rfl ?_ ?_ ?_⟩
    · intro binding row found owned
      refine List.mem_append_left _ (List.mem_map.mpr ⟨(binding, row), ?_, rfl⟩)
      exact List.mem_filter.mpr ⟨Table.find?_eq_some.mp found, owned⟩
    · intro binding row _ other
      rw [Table.find?_erase, Function.update_of_ne (of_decide_eq_false other)]
    · intro binding row target _ other
      exact routeWork_filter_other (of_decide_eq_false other) rfl
  | recordRouteChanges changes recorded =>
    rw [recordRouteChanges_ok recorded]
    exact ⟨changes, history_append .., .of_same rfl rfl rfl⟩
  | pruneOutbox _ pruned =>
    rw [pruned]
    exact ⟨[], (List.append_nil _).symm, .of_same rfl rfl rfl⟩
  | keep _ _ _ kept =>
    rw [kept]
    exact ⟨[], (List.append_nil _).symm, .of_same rfl rfl rfl⟩

theorem statements_covered (stored : BindingsStored db) (keyed : WorkKeyed db)
    (stable : ∀ spec ∈ bindings, spec.identity.received = .ok spec.identity)
    (statements : Statements session bindings db after) :
    ∃ changes, after.outbox.history = db.outbox.history ++ changes ∧ Covered db after changes := by
  induction statements with
  | refl => exact ⟨[], (List.append_nil _).symm, .of_same rfl rfl rfl⟩
  | tail before statement ih =>
    obtain ⟨changes, history, covered⟩ := ih
    have storedThere := Statements.preserves (fun _ _ stored => stored.statement) before stored
    have keyedThere := Statements.preserves (fun _ _ keyed => keyed.statement) before keyed
    obtain ⟨more, added, coveredThere⟩ :=
      statement_covered storedThere keyedThere stable statement
    exact ⟨changes ++ more, by rw [added, history, List.append_assoc], covered.trans coveredThere⟩

/-- The identities of the bindings that a transaction creates are received as they were sent. -/
def receivesItsBindings (op : Op) : Prop :=
  ∀ spec ∈ op.bindings, spec.identity.received = .ok spec.identity

theorem changed_answers_are_announced
    (reachable : storeSystem.Reachable (fun _ => True) db) {op : Op}
    (stable : receivesItsBindings op) (committed : commit session op db = .ok after)
    {request : ResolveRouteRequest} {matchedIdentity : RouteIdentity} {entry : RouteEntry}
    (resolved : resolveRoute db request = .ok (.resolved matchedIdentity entry))
    (changed : resolveRoute after request ≠ .ok (.resolved matchedIdentity entry)) :
    ∃ appended, after.outbox.history = db.outbox.history ++ appended ∧
      ∃ change ∈ appended, ∃ event, publishDurable change = .ok event ∧
        subscriptionInvalidatedByEvent (.of request.identity matchedIdentity entry) event = true := by
  obtain ⟨appended, history, covered⟩ := statements_covered (.of_reachable reachable)
    (.of_reachable reachable) stable (Statements.commit committed)
  rcases covered request matchedIdentity entry resolved with same | announced
  · exact absurd same changed
  · exact ⟨appended, history, announced⟩

/-! A host whose trailing dot hid white space is received as another host. -/

namespace Sample

open Store.Sample

def spaced (path : Option PathPrefix) : RouteIdentity :=
  .http ⟨.exact, "a.b. ", "a.b. .", by decide⟩ path

def asked (identity : RouteIdentity) : ResolveRouteRequest := ⟨identity, target⟩

def narrower : PathPrefix := ⟨"/x", by decide⟩

def takes (session : Session) (op : Op) (request : ResolveRouteRequest) (db : Database) :
    Option (Database × RouteIdentity × RouteEntry) :=
  match commit session op db, resolveRoute db request with
  | .ok after, .ok (.resolved matchedIdentity entry) =>
    if (resolveRoute after request).toOption ≠ some (.resolved matchedIdentity entry) then
      some (after, matchedIdentity, entry)
    else none
  | _, _ => none

theorem takes_eq_some {session : Session} {op : Op} {request : ResolveRouteRequest}
    {db after : Database} {matchedIdentity : RouteIdentity} {entry : RouteEntry}
    (taken : takes session op request db = some (after, matchedIdentity, entry)) :
    commit session op db = .ok after ∧
      resolveRoute db request = .ok (.resolved matchedIdentity entry) ∧
      resolveRoute after request ≠ .ok (.resolved matchedIdentity entry) := by
  unfold takes at taken
  split at taken
  next committed resolved =>
    obtain ⟨changed, same⟩ := Option.ite_none_right_eq_some.mp taken
    cases same
    refine ⟨committed, resolved, fun same => changed ?_⟩
    rw [same]
    rfl
  · cases taken

def silent (request : ResolveRouteRequest) (db : Database) :
    Database × RouteIdentity × RouteEntry → Bool
  | (after, matchedIdentity, entry) =>
    (after.outbox.history.drop db.outbox.history.length).all fun change =>
      (publishDurable change).toOption.all fun event =>
        !subscriptionInvalidatedByEvent (.of request.identity matchedIdentity entry) event

end Sample

theorem received_binding_takes_an_answer_silently :
    ∃ db session op after request matchedIdentity entry,
      storeSystem.Reachable (fun _ => True) db ∧ commit session op db = .ok after ∧
      resolveRoute db request = .ok (.resolved matchedIdentity entry) ∧
      resolveRoute after request ≠ .ok (.resolved matchedIdentity entry) ∧
      ∀ appended, after.outbox.history = db.outbox.history ++ appended →
        ∀ change ∈ appended, ∀ event, publishDurable change = .ok event →
          subscriptionInvalidatedByEvent (.of request.identity matchedIdentity entry) event =
            false := by
  let narrow := Sample.spaced (some Sample.narrower)
  obtain ⟨db, reachable, taken⟩ := exists_reachable_of_runOps
    [(Store.Sample.session 0, Store.Sample.createWeb),
      (Store.Sample.session 1, Store.Sample.bind "wide" (by decide) (Sample.spaced none))]
    (fun db => (Sample.takes (Store.Sample.session 2)
      (Store.Sample.bind "narrow" (by decide) narrow) (Sample.asked narrow) db).any
        (Sample.silent (Sample.asked narrow) db)) (fun _ _ => trivial) (by decide)
  obtain ⟨⟨after, matchedIdentity, entry⟩, answer, silent⟩ := (Option.any_eq_true _ _).mp taken
  obtain ⟨committed, resolved, changed⟩ := Sample.takes_eq_some answer
  refine ⟨db, _, _, after, _, matchedIdentity, entry, reachable, committed, resolved, changed, ?_⟩
  intro appended history change member event published
  have quiet := List.all_eq_true.mp silent change (by rw [history, List.drop_left]; exact member)
  rw [published] at quiet
  exact Bool.not_eq_true' _ ▸ quiet

theorem sample_changed_answers_are_announced :
    ∃ (db after : Database) (matchedIdentity : RouteIdentity) (entry : RouteEntry),
      ∃ appended,
      resolveRoute db (Sample.asked (Store.Sample.eastShop none)) =
        .ok (.resolved matchedIdentity entry) ∧
      after.outbox.history = db.outbox.history ++ appended ∧
      ∃ change ∈ appended, ∃ event, publishDurable change = .ok event ∧
        subscriptionInvalidatedByEvent
          (.of (Store.Sample.eastShop none) matchedIdentity entry) event = true := by
  obtain ⟨db, reachable, taken⟩ := exists_reachable_of_runOps
    [(Store.Sample.session 0, Store.Sample.createWeb),
      (Store.Sample.session 1, Store.Sample.bind "wildcard" (by decide) Store.Sample.wildcard)]
    (fun db => (Sample.takes (Store.Sample.session 2)
      (Store.Sample.bind "exact" (by decide) (Store.Sample.eastShop none))
      (Sample.asked (Store.Sample.eastShop none)) db).isSome) (fun _ _ => trivial) (by decide)
  obtain ⟨⟨after, matchedIdentity, entry⟩, taken⟩ := Option.isSome_iff_exists.mp taken
  obtain ⟨committed, resolved, changed⟩ := Sample.takes_eq_some taken
  have stable : receivesItsBindings
      (Store.Sample.bind "exact" (by decide) (Store.Sample.eastShop none)) := by
    intro spec listed
    rw [List.mem_singleton.mp listed]
    rfl
  obtain ⟨appended, history, announced⟩ :=
    changed_answers_are_announced reachable stable committed resolved changed
  exact ⟨db, after, matchedIdentity, entry, appended, resolved, history, announced⟩

end Sleepypods.Proxy
