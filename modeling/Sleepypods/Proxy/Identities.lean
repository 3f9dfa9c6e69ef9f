import Sleepypods.Api.Normalization
import Sleepypods.Proxy.RouteEvents
import Sleepypods.Store.Resolution
import Sleepypods.Store.Selection

/-! Route identities across the store and the wire. A stored row, an outbox payload and a protobuf
message carry the normalized host, and each decoder runs the host's constructor on it again. -/

set_option autoImplicit false

namespace Sleepypods.Proxy

open Library Store Fallible

/-! ### Decoders -/

def protocolOf : RouteIdentity → ProtocolRoute
  | .http _ _ => .http
  | .sni _ => .tlsSni

/-- Every decoder returns the identity it is given: the wire's, the store's and the outbox's. -/
structure Survives (identity : RouteIdentity) : Prop where
  received : identity.received = .ok identity
  stored : ∀ id instanceId protocol, (routeBindingRow instanceId identity protocol).decode id =
    .ok ⟨id, instanceId, identity, protocol⟩
  announced : ∀ id instanceId protocol,
    publishDurable ((routeBindingRow instanceId identity protocol).change false id) =
      .ok (.route id false (some identity) (some (protocolOf identity)))

section decoders

variable {identity : RouteIdentity}

theorem received_eq_self (trimmed : identity.host.Trimmed) : identity.received = .ok identity := by
  cases identity with
  | http host | sni host =>
    have same := host.new_host_eq_self.mpr trimmed
    simp only [RouteIdentity.received, same, Except.map]

theorem trimmed_of_received (received : identity.received = .ok identity) :
    identity.host.Trimmed := by
  cases identity with
  | http host | sni host =>
    obtain ⟨result, rebuilt, same⟩ := map_eq_ok.mp received
    cases same
    exact host.new_host_eq_self.mp rebuilt

section

variable (trimmed : identity.host.Trimmed)

include trimmed

theorem routeIdentityFromParts_eq_self :
    routeIdentityFromParts (identityKindOf identity) identity.host.kind identity.host.host
      identity.pathText = .ok identity := by
  have same := identity.host.new_host_eq_self.mpr trimmed
  unfold routeIdentityFromParts
  rw [same]
  cases identity with
  | http _ path =>
    cases path with
    | none => rfl
    | some => simp [identityKindOf, RouteIdentity.pathText, PathPrefix.new_value,
        RouteIdentity.host]
  | sni => rfl

theorem decode_routeBindingRow (id : RouteBindingId) (instanceId : InstanceId)
    (protocol : ProtocolRoute) :
    (routeBindingRow instanceId identity protocol).decode id =
      .ok ⟨id, instanceId, identity, protocol⟩ := by
  have parts := routeIdentityFromParts_eq_self trimmed
  rw [RouteBindingRow.decode, bind_eq_ok]
  exact ⟨identity, parts, rfl⟩

theorem publishDurable_routeBindingRow (id : RouteBindingId) (instanceId : InstanceId)
    (protocol : ProtocolRoute) :
    publishDurable ((routeBindingRow instanceId identity protocol).change false id) =
      .ok (.route id false (some identity) (some (protocolOf identity))) := by
  have same := identity.host.new_host_eq_self.mpr trimmed
  simp only [RouteBindingRow.change, routeBindingRow, publishDurable, same]
  cases identity with
  | http _ path =>
    cases path with
    | none => rfl
    | some => simp [identityKindOf, RouteIdentity.pathText, PathPrefix.new_value, protocolOf,
        RouteIdentity.host]
  | sni => rfl

end

theorem survives_iff : Survives identity ↔ identity.host.Trimmed := by
  constructor
  · intro survives
    exact trimmed_of_received survives.received
  · intro trimmed
    exact ⟨received_eq_self trimmed, decode_routeBindingRow trimmed,
      publishDurable_routeBindingRow trimmed⟩

end decoders

/-! ### Stored bindings -/

variable {db after : Database} {row : RouteBindingRow}

/-- A binding found after a statement was there before, or is one the transaction creates. -/
theorem binding_of_statement {session : Session} {bindings : List RouteBindingSpec}
    (statement : Statement session bindings db after) {id : RouteBindingId}
    (found : after.routeBindings.find? id = some row) :
    db.routeBindings.find? id = some row ∨
      ∃ spec ∈ bindings, row.Stores spec.identity := by
  cases statement with
  | insertInstance _ _ _ insert =>
    obtain ⟨_, _, rfl⟩ := insertInstance_ok insert
    exact .inl found
  | updateInstance _ _ _ _ _ updated =>
    obtain ⟨_, rfl⟩ := updateInstance_ok updated
    exact .inl found
  | insertRouteBinding _ _ spec listed _ inserted =>
    obtain ⟨_, _, _, rfl⟩ := insertRouteBinding_ok inserted
    rw [Table.find?_insert, Function.update_apply] at found
    split at found
    · cases found
      exact .inr ⟨spec, listed, rfl⟩
    · exact .inl found
  | deleteRouteBindings _ deleted =>
    obtain ⟨records, rfl⟩ := deleteRouteBindings_ok deleted
    rw [Table.find?_filterRows] at found
    exact .inl (Option.filter_eq_some_iff.mp found).1
  | insertMaterialization _ inserted =>
    obtain ⟨_, _, objects, keys, rfl⟩ := insertMaterialization_ok inserted
    exact .inl found
  | updateMaterialization _ _ _ _ _ _ updated =>
    obtain ⟨objects, keys, rfl⟩ := updateMaterialization_ok updated
    exact .inl found
  | updateMaterializations _ _ _ _ updated =>
    obtain ⟨objects, keys, rfl⟩ := updateMaterializations_ok updated
    exact .inl found
  | deleteInstanceRow _ deleted =>
    obtain ⟨_, records, objects, keys, more, rfl⟩ := deleteInstanceRow_ok deleted
    rw [Table.find?_filterRows] at found
    exact .inl (Option.filter_eq_some_iff.mp found).1
  | recordRouteChanges _ recorded =>
    rw [recordRouteChanges_ok recorded] at found
    exact .inl found
  | pruneOutbox _ pruned =>
    rw [pruned] at found
    exact .inl found
  | keep _ _ _ kept =>
    rw [kept] at found
    exact .inl found

def bindsTrimmed (label : Session × Op) : Prop :=
  ∀ spec ∈ label.2.bindings, spec.identity.host.Trimmed

instance : DecidablePred bindsTrimmed := fun label =>
  inferInstanceAs (Decidable (∀ spec ∈ label.2.bindings, spec.identity.host.Trimmed))

def BindingsSurvive (db : Database) : Prop :=
  ∀ id row, db.routeBindings.find? id = some row →
    ∃ identity : RouteIdentity, row.Stores identity ∧ identity.host.Trimmed

theorem bindingsSurvive_of_reachable (reachable : storeSystem.Reachable bindsTrimmed db) :
    BindingsSurvive db := by
  apply reachable.invariant
  · rintro _ rfl id row found
    cases found
  · intro label db next trimmed survive committed
    have statements : Statements label.1 label.2.bindings db next := Statements.commit committed
    refine statements.preserves (fun db after survive statement => ?_) survive
    intro id row found
    rcases binding_of_statement statement found with before | ⟨spec, listed, stores⟩
    · exact survive id row before
    · exact ⟨spec.identity, stores, trimmed spec listed⟩

theorem decode_of_stores {identity : RouteIdentity} (stores : row.Stores identity)
    (trimmed : identity.host.Trimmed) (id : RouteBindingId) :
    row.decode id = .ok ⟨id, row.instanceId, identity, row.protocol⟩ := by
  have decoded := decode_routeBindingRow trimmed id row.instanceId row.protocol
  rwa [← stores] at decoded

theorem decode_id {id : RouteBindingId} {record : RouteBindingRecord}
    (decoded : row.decode id = .ok record) : record.id = id := by
  rw [RouteBindingRow.decode_eq decoded]

/-- What creation returns, replayed or not, is decoded from the row under its id. -/
theorem created_is_stored {session : Session} {request : CreateRouteBindingRequest}
    {created : RouteBindingRecord}
    (accepted : createRouteBinding session request db = .ok (created, after)) :
    ∃ row, after.routeBindings.find? created.id = some row ∧
      row.decode created.id = .ok created := by
  simp only [createRouteBinding, bind_eq_ok] at accepted
  obtain ⟨_, _, rest⟩ := accepted
  split at rest
  · simp only [bind_eq_ok, orError_eq_ok, pure_eq_ok, Prod.exists,
      Prod.mk.injEq] at rest
    obtain ⟨_, _, id, row, selected, existing, decoded, rfl, rfl⟩ := rest
    rw [decode_id decoded]
    exact ⟨row, (Table.select?_eq_some selected).1, decoded⟩
  · simp only [bind_eq_ok, pure_eq_ok, Prod.mk.injEq] at rest
    obtain ⟨recorded, _, inserted, insert, record, decoded, rfl, rfl⟩ := rest
    obtain ⟨_, _, _, rfl⟩ := insertRouteBinding_ok insert
    rw [decode_id decoded]
    refine ⟨_, ?_, decoded⟩
    rw [Table.find?_insert, Function.update_self]

/-- The identity of a returned binding is the one the route query matches and answers with. -/
def Matched (db : Database) (record : RouteBindingRecord) : Prop :=
  ∃ row, db.routeBindings.find? record.id = some row ∧
    (∀ lookup, row.matches lookup = (routeMatchScore record.identity lookup).isSome) ∧
    ∀ lookup target matchedIdentity entry,
      resolveRoute db ⟨lookup, target⟩ = .ok (.resolved matchedIdentity entry) →
      entry.routeBindingId = record.id → matchedIdentity = record.identity

theorem matched_of_stored (survive : BindingsSurvive db) {record : RouteBindingRecord}
    (found : db.routeBindings.find? record.id = some row)
    (decoded : row.decode record.id = .ok record) : Matched db record := by
  obtain ⟨identity, stores, trimmed⟩ := survive record.id row found
  have same : record.identity = identity := by
    rw [decode_of_stores stores trimmed] at decoded
    rw [← Except.ok.inj decoded]
  refine ⟨row, found, fun lookup => ?_, fun lookup target matchedIdentity entry resolved own => ?_⟩
  · rw [same]
    exact matches_eq stores lookup
  · obtain ⟨id, other, owner, answers⟩ := answers_of_resolved resolved
    have there := (mem_candidates.mp (selectedBinding_eq_some.mp answers.selected).1).1
    rw [← answers.routeBindingId, own, found] at there
    cases there
    have answered := answers.decoded
    rw [← answers.routeBindingId, own, decoded] at answered
    rw [Except.ok.inj answered]

/-- An identity survives storage and wire exactly when its host has no white space at its ends. In
every run that only binds such hosts, what creation returns is what the route query matches, and no
two bindings decode to one identity. -/
theorem identities_survive_storage_and_wire (identity : RouteIdentity) {db : Database}
    (reachable : storeSystem.Reachable bindsTrimmed db) :
    (Survives identity ↔ identity.host.Trimmed) ∧
      (∀ session request created after, bindsTrimmed (session, .createRouteBinding request) →
        createRouteBinding session request db = .ok (created, after) → Matched after created) ∧
      (∀ left right leftRow rightRow leftRecord rightRecord,
        db.routeBindings.find? left = some leftRow → db.routeBindings.find? right = some rightRow →
        leftRow.decode left = .ok leftRecord → rightRow.decode right = .ok rightRecord →
        leftRecord.identity = rightRecord.identity → left = right) := by
  refine ⟨survives_iff, ?_, ?_⟩
  · intro session request created after trimmed accepted
    have committed : commit session (.createRouteBinding request) db = .ok after := by
      simp only [commit, accepted]
      rfl
    have stepped : storeSystem.step (session, .createRouteBinding request) db after := committed
    have survive := bindingsSurvive_of_reachable (reachable.step trimmed stepped)
    obtain ⟨row, found, decoded⟩ := created_is_stored accepted
    exact matched_of_stored survive found decoded
  · intro left right leftRow rightRow leftRecord rightRecord leftFound rightFound leftDecoded
      rightDecoded same
    have survive := bindingsSurvive_of_reachable reachable
    obtain ⟨leftIdentity, leftStores, leftTrimmed⟩ := survive left leftRow leftFound
    obtain ⟨rightIdentity, rightStores, rightTrimmed⟩ := survive right rightRow rightFound
    rw [decode_of_stores leftStores leftTrimmed] at leftDecoded
    rw [decode_of_stores rightStores rightTrimmed] at rightDecoded
    cases leftDecoded
    cases rightDecoded
    cases same
    exact (BindingsStored.of_reachable reachable).distinct left right leftRow rightRow leftIdentity
      leftFound rightFound leftStores rightStores

/-! Two bindings whose hosts differ in the white space that the trailing dot hid. -/

namespace Sample

open Store.Sample

def spacedIdentity : RouteIdentity := .http ⟨.exact, "a.b ", "a.b .", by decide⟩ none

def plainIdentity : RouteIdentity := .http ⟨.exact, "a.b", "a.b", by decide⟩ none

def bothBound : List (Session × Op) :=
  [ (session 0, createWeb),
    (session 1, bind "plain" (by decide) plainIdentity),
    (session 2, bind "spaced" (by decide) spacedIdentity) ]

end Sample

/-- A host that ends in white space is received as another host, and its binding decodes to the
identity of another binding. -/
theorem spaced_host_is_lost : ¬ Survives Sample.spacedIdentity ∧
    Sample.spacedIdentity.received = .ok Sample.plainIdentity ∧
    ∃ db, storeSystem.Reachable (fun _ => True) db ∧ db.routeBindings.entries.map (fun entry =>
      (entry.1.value, (entry.2.decode entry.1).toOption.map RouteBindingRecord.identity)) =
        [("plain", some Sample.plainIdentity), ("spaced", some Sample.plainIdentity)] := by
  refine ⟨fun survives => ?_, by decide, ?_⟩
  · exact absurd survives.received (by decide)
  · obtain ⟨db, reachable, decoded⟩ := exists_reachable_of_runOps Sample.bothBound
      (fun db => decide (db.routeBindings.entries.map (fun entry =>
        (entry.1.value, (entry.2.decode entry.1).toOption.map RouteBindingRecord.identity)) =
          [("plain", some Sample.plainIdentity), ("spaced", some Sample.plainIdentity)]))
      (fun _ _ => trivial) (by decide)
    exact ⟨db, reachable, of_decide_eq_true decoded⟩

theorem plain_host_survives : ∃ db, storeSystem.Reachable bindsTrimmed db ∧
    db.routeBindings.entries.length = 1 ∧
    (Survives Sample.plainIdentity ↔ Sample.plainIdentity.host.Trimmed) := by
  have run : ∃ db, storeSystem.Reachable bindsTrimmed db ∧
      decide (db.routeBindings.entries.length = 1) = true :=
    exists_reachable_of_runOps (Sample.bothBound.take 2) _ (by decide) (by decide)
  obtain ⟨db, reachable, bound⟩ := run
  exact ⟨db, reachable, of_decide_eq_true bound,
    (identities_survive_storage_and_wire Sample.plainIdentity reachable).1⟩

end Sleepypods.Proxy
