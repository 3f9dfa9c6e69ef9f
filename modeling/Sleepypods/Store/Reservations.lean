import Sleepypods.Library.Reservation
import Sleepypods.Store.Transactions

/-! The reservation tables are exactly what the live materializations claim, at every statement of
every transaction. So no two of them share an object or an exclusivity key. -/

set_option autoImplicit false

namespace Sleepypods.Store

open Library Library.Fallible MaterializationRow

abbrev Rows := MaterializationId → Option MaterializationRow

def claims {κ : Type} (rows : Rows) (identities : MaterializationRow → List κ)
    (owner : MaterializationId) (key : κ) : Prop :=
  ∃ row, rows owner = some row ∧ row.state ≠ .deleted ∧ key ∈ identities row

structure Exact (rows : Rows) (db : Database) : Prop where
  objects : Reserves db.objectReservations (claims rows objectIdentities)
  keys : Reserves db.keyReservations (claims rows keyIdentities)

variable {row : MaterializationRow}

theorem mem_objectIdentities {key : ObjectReservation} :
    key ∈ row.objectIdentities ↔
      ∃ ref ∈ row.renderedObjects, objectReservation row.target.clusterId ref = key := by
  rw [objectIdentities, List.mem_insertionSort, List.mem_dedup, List.mem_map]

theorem mem_keyIdentities {key : KeyReservation} :
    key ∈ row.keyIdentities ↔ ∃ held ∈ row.exclusivityKeys, keyReservation row.target held = key := by
  rw [keyIdentities, List.mem_insertionSort, List.mem_dedup, List.mem_map]

section Claims

variable {κ : Type} {rows : Rows} {identities : MaterializationRow → List κ}
  {id owner : MaterializationId} {new : MaterializationRow} {key : κ}

theorem claims_update_of_ne (other : owner ≠ id) :
    claims (Function.update rows id (some new)) identities owner key ↔
      claims rows identities owner key := by
  unfold claims
  rw [Function.update_of_ne other]

theorem claims_update_self :
    claims (Function.update rows id (some new)) identities id key ↔
      new.state ≠ .deleted ∧ key ∈ identities new := by
  unfold claims
  rw [Function.update_self]
  constructor
  · rintro ⟨row, same, live, member⟩
    cases same
    exact ⟨live, member⟩
  · rintro ⟨live, member⟩
    exact ⟨new, rfl, live, member⟩

theorem claims_deleted (deleted : new.state = .deleted) :
    (decide (owner ≠ id) = true ∧ claims rows identities owner key) ↔
      claims (Function.update rows id (some new)) identities owner key := by
  by_cases same : owner = id
  · subst same
    rw [claims_update_self]
    simp [deleted]
  · rw [claims_update_of_ne same]
    simp [same]

theorem claims_live (live : new.state ≠ .deleted) :
    ((owner = id ∧ key ∈ identities new) ∨
        (decide (owner ≠ id) = true ∧ claims rows identities owner key)) ↔
      claims (Function.update rows id (some new)) identities owner key := by
  by_cases same : owner = id
  · subst same
    rw [claims_update_self]
    simp [live]
  · rw [claims_update_of_ne same]
    simp [same]

theorem claims_same {old : MaterializationRow} (current : rows id = some old)
    (state : new.state = old.state) (kept : identities new = identities old) :
    claims rows identities owner key ↔
      claims (Function.update rows id (some new)) identities owner key := by
  by_cases same : owner = id
  · subst same
    rw [claims_update_self, state, kept]
    unfold claims
    rw [current]
    simp
  · rw [claims_update_of_ne same]

end Claims

/-! ### The reservation trigger -/

variable {id : MaterializationId}

theorem foldlM_reserveObject {keys : List ObjectReservation} {db after : Database}
    (folded : keys.foldlM (reserveObject id row) db = .ok after) :
    ∃ table, reserveAll id keys db.objectReservations = some table ∧
      after = { db with objectReservations := table } := by
  induction keys generalizing db with
  | nil =>
    cases folded
    exact ⟨_, rfl, rfl⟩
  | cons _ _ ih =>
    simp only [List.foldlM_cons, bind_eq_ok] at folded
    obtain ⟨next, reserved, folded⟩ := folded
    unfold reserveObject at reserved
    split at reserved
    · cases reserved
    next free =>
      cases reserved
      obtain ⟨table, reservedRest, same⟩ := ih folded
      refine ⟨table, Option.bind_eq_some_iff.mpr ⟨_, ?_, reservedRest⟩, same⟩
      rw [reserve, free]

theorem foldlM_reserveKey {keys : List KeyReservation} {db after : Database}
    (folded : keys.foldlM (reserveKey id) db = .ok after) :
    ∃ table, reserveAll id keys db.keyReservations = some table ∧
      after = { db with keyReservations := table } := by
  induction keys generalizing db with
  | nil =>
    cases folded
    exact ⟨_, rfl, rfl⟩
  | cons _ _ ih =>
    simp only [List.foldlM_cons, bind_eq_ok] at folded
    obtain ⟨next, reserved, folded⟩ := folded
    unfold reserveKey at reserved
    split at reserved
    · cases reserved
    next free =>
      cases reserved
      obtain ⟨table, reservedRest, same⟩ := ih folded
      refine ⟨table, Option.bind_eq_some_iff.mpr ⟨_, ?_, reservedRest⟩, same⟩
      rw [reserve, free]

variable {new : MaterializationRow}

theorem identities_same {old : MaterializationRow} (same : sameReservations old new = true) :
    new.state = old.state ∧ new.objectIdentities = old.objectIdentities ∧
      new.keyIdentities = old.keyIdentities := by
  simp only [sameReservations, Bool.and_eq_true, decide_eq_true_eq] at same
  obtain ⟨⟨⟨⟨state, objects⟩, keys⟩, cluster⟩, namespaced⟩ := same
  have key : keyReservation new.target = keyReservation old.target := by
    funext held
    rw [keyReservation, keyReservation, cluster, namespaced]
  refine ⟨state, ?_, ?_⟩
  · rw [objectIdentities, objects, cluster]
    rfl
  · rw [keyIdentities, keys, key]
    rfl

variable {db : Database} {old : Option MaterializationRow}

/-- The trigger brings the reservations up to date with the row that was written. -/
theorem Exact.sync {rows : Rows} {after : Database} (exact : Exact rows db)
    (current : ∀ row, old = some row → rows id = some row)
    (synced : syncReservations id old new db = .ok after) :
    Exact (Function.update rows id (some new)) after := by
  unfold syncReservations at synced
  split at synced
  next unchanged =>
    cases synced
    cases old with
    | none => cases unchanged
    | some old =>
      obtain ⟨state, objects, keys⟩ := identities_same unchanged
      exact ⟨exact.objects.congr fun _ _ => claims_same (current old rfl) state objects,
        exact.keys.congr fun _ _ => claims_same (current old rfl) state keys⟩
  · split at synced
    next deleted =>
      cases synced
      exact ⟨(exact.objects.drop _).congr fun _ _ => claims_deleted deleted,
        (exact.keys.drop _).congr fun _ _ => claims_deleted deleted⟩
    next live =>
      obtain ⟨middle, objects, keys⟩ := bind_eq_ok.mp synced
      obtain ⟨objectTable, objectsReserved, rfl⟩ := foldlM_reserveObject objects
      obtain ⟨keyTable, keysReserved, rfl⟩ := foldlM_reserveKey keys
      exact ⟨((exact.objects.drop _).reserveAll objectsReserved).congr fun _ _ => claims_live live,
        ((exact.keys.drop _).reserveAll keysReserved).congr fun _ _ => claims_live live⟩

theorem Exact.syncAll {rewrite : MaterializationRow → MaterializationRow}
    {updated : List (MaterializationId × MaterializationRow)} {rows : Rows}
    {db after : Database} (distinct : (updated.map Prod.fst).Nodup)
    (stored : ∀ entry ∈ updated, rows entry.1 = some entry.2) (exact : Exact rows db)
    (folded : updated.foldlM (fun db entry =>
      syncReservations entry.1 (some entry.2) (rewrite entry.2) db) db = .ok after) :
    Exact (fun id => if id ∈ updated.map Prod.fst then (rows id).map rewrite else rows id) after := by
  induction updated generalizing rows db with
  | nil =>
    cases folded
    exact exact
  | cons entry rest ih =>
    simp only [List.foldlM_cons, bind_eq_ok] at folded
    obtain ⟨next, synced, folded⟩ := folded
    obtain ⟨fresh, distinct⟩ := List.nodup_cons.mp distinct
    have here := stored entry List.mem_cons_self
    have first := exact.sync (fun row same => by cases same; exact here) synced
    have later : ∀ other ∈ rest,
        Function.update rows entry.1 (some (rewrite entry.2)) other.1 = some other.2 := by
      intro other member
      have different : other.1 ≠ entry.1 := fun same =>
        fresh (same ▸ List.mem_map_of_mem member)
      rw [Function.update_of_ne different]
      exact stored other (List.mem_cons_of_mem _ member)
    convert ih distinct later first folded using 1
    funext id
    by_cases same : id = entry.1
    · subst same
      simp only [List.map_cons, List.mem_cons_self, if_true, fresh, if_false, Function.update_self,
        here, Option.map_some]
    · simp only [List.map_cons, List.mem_cons, same, false_or, Function.update_of_ne same]

/-! ### Statements and transactions -/

def Reserved (db : Database) : Prop := Exact db.materializations.find? db

variable {session : Session}

namespace Reserved

variable {db after : Database}

theorem keep (reserved : Reserved db) (rows : after.materializations = db.materializations)
    (objects : after.objectReservations = db.objectReservations)
    (keys : after.keyReservations = db.keyReservations) : Reserved after := by
  refine ⟨?_, ?_⟩
  · rw [rows, objects]
    exact reserved.objects
  · rw [rows, keys]
    exact reserved.keys

theorem write (reserved : Reserved db) {id : MaterializationId} {new : MaterializationRow}
    {changes : List RouteChange} {synced : Database}
    (current : ∀ row, old = some row → db.materializations.find? id = some row)
    (sync : syncReservations id old new
      { db with materializations := db.materializations.insert id new } = .ok synced)
    (recorded : recordRouteChanges session changes synced = .ok after) : Reserved after := by
  obtain ⟨objects, keys, same⟩ := syncReservations_only (.refl _) sync
  have before : Exact db.materializations.find?
      { db with materializations := db.materializations.insert id new } :=
    ⟨reserved.objects, reserved.keys⟩
  have exact := before.sync current sync
  rw [recordRouteChanges_ok recorded]
  rw [← Table.find?_insert] at exact
  subst same
  exact ⟨exact.objects, exact.keys⟩

theorem find?_rewritten (selects : MaterializationId → MaterializationRow → Bool)
    (rewrite : MaterializationRow → MaterializationRow)
    (table : Table MaterializationId MaterializationRow) :
    (table.mapRows fun id row => if selects id row then rewrite row else row).find? =
      fun id => if id ∈ (table.entries.filter fun entry => selects entry.1 entry.2).map Prod.fst then
        (table.find? id).map rewrite else table.find? id := by
  funext id
  rw [Table.find?_mapRows]
  cases found : table.find? id with
  | none => simp only [Option.map_none, ite_self]
  | some row =>
    have listed : id ∈ (table.entries.filter fun entry => selects entry.1 entry.2).map Prod.fst ↔
        selects id row = true := by
      rw [List.mem_map]
      constructor
      · rintro ⟨⟨other, otherRow⟩, member, rfl⟩
        obtain ⟨there, selected⟩ := List.mem_filter.mp member
        rw [Table.find?_eq_some.mpr there] at found
        cases found
        exact selected
      · intro selected
        exact ⟨(id, row), List.mem_filter.mpr ⟨Table.find?_eq_some.mp found, selected⟩, rfl⟩
    simp only [listed, Option.map_some]
    split <;> rfl

theorem writeAll (reserved : Reserved db) (selects : MaterializationId → MaterializationRow → Bool)
    (rewrite : MaterializationRow → MaterializationRow) {changes : List RouteChange}
    {synced : Database}
    (sync : (db.materializations.entries.filter fun entry => selects entry.1 entry.2).foldlM
      (fun db entry => syncReservations entry.1 (some entry.2) (rewrite entry.2) db)
      { db with
        materializations := db.materializations.mapRows fun id row =>
          if selects id row then rewrite row else row } = .ok synced)
    (recorded : recordRouteChanges session changes synced = .ok after) : Reserved after := by
  obtain ⟨objects, keys, same⟩ :=
    foldlM_preserves (fun _ _ _ => syncReservations_only) _ _ _ (.refl _) sync
  have distinct : ((db.materializations.entries.filter fun entry =>
      selects entry.1 entry.2).map Prod.fst).Nodup :=
    db.materializations.keysNodup.sublist (List.filter_sublist.map _)
  have stored : ∀ entry ∈ db.materializations.entries.filter fun entry => selects entry.1 entry.2,
      db.materializations.find? entry.1 = some entry.2 :=
    fun entry member => Table.find?_eq_some.mpr (List.mem_filter.mp member).1
  have before : Exact db.materializations.find?
      { db with
        materializations := db.materializations.mapRows fun id row =>
          if selects id row then rewrite row else row } :=
    ⟨reserved.objects, reserved.keys⟩
  have exact := Exact.syncAll distinct stored before sync
  rw [← find?_rewritten] at exact
  rw [recordRouteChanges_ok recorded]
  subst same
  exact ⟨exact.objects, exact.keys⟩

theorem deleteMaterializationsOf (reserved : Reserved db) {instanceId : InstanceId}
    (deleted : Store.deleteMaterializationsOf session instanceId db = .ok after) :
    Reserved after := by
  simp only [Store.deleteMaterializationsOf, bind_eq_ok, require_eq_ok, exists_const] at deleted
  obtain ⟨_, recorded⟩ := deleted
  rw [recordRouteChanges_ok recorded]
  have owns : ∀ owner row, db.materializations.find? owner = some row →
      (((db.materializations.entries.filter fun entry =>
        decide (entry.2.instanceId = instanceId)).any fun entry => decide (entry.1 = owner)) = true ↔
          row.instanceId = instanceId) := by
    intro owner row found
    rw [List.any_eq_true]
    constructor
    · rintro ⟨⟨other, otherRow⟩, member, same⟩
      obtain ⟨there, owned⟩ := List.mem_filter.mp member
      cases of_decide_eq_true same
      rw [Table.find?_eq_some.mpr there] at found
      cases found
      exact of_decide_eq_true owned
    · intro owned
      exact ⟨(owner, row), List.mem_filter.mpr
        ⟨Table.find?_eq_some.mp found, decide_eq_true owned⟩, decide_eq_true rfl⟩
  have remaining : ∀ {κ : Type} (identities : MaterializationRow → List κ) owner key,
      ((!((db.materializations.entries.filter fun entry =>
        decide (entry.2.instanceId = instanceId)).any fun entry => decide (entry.1 = owner))) = true ∧
          claims db.materializations.find? identities owner key) ↔
        claims (db.materializations.filterRows fun _ row =>
          decide (row.instanceId ≠ instanceId)).find? identities owner key := by
    intro κ identities owner key
    constructor
    · rintro ⟨kept, row, found, live, member⟩
      refine ⟨row, ?_, live, member⟩
      rw [Table.find?_filterRows, Option.filter_eq_some_iff]
      refine ⟨found, decide_eq_true fun owned => ?_⟩
      rw [(owns owner row found).mpr owned] at kept
      cases kept
    · rintro ⟨row, found, live, member⟩
      rw [Table.find?_filterRows, Option.filter_eq_some_iff] at found
      refine ⟨?_, row, found.1, live, member⟩
      rw [Bool.not_eq_true', ← Bool.not_eq_true]
      exact fun owned => of_decide_eq_true found.2 ((owns owner row found.1).mp owned)
  exact ⟨(reserved.objects.drop _).congr (remaining _), (reserved.keys.drop _).congr (remaining _)⟩

theorem statement {bindings : List RouteBindingSpec} (reserved : Reserved db)
    (statement : Statement session bindings db after) : Reserved after := by
  cases statement with
  | insertInstance _ _ _ insert =>
    obtain ⟨_, _, rfl⟩ := insertInstance_ok insert
    exact reserved.keep rfl rfl rfl
  | updateInstance _ _ _ _ _ updated =>
    obtain ⟨_, rfl⟩ := updateInstance_ok updated
    exact reserved.keep rfl rfl rfl
  | insertRouteBinding _ _ _ _ _ inserted =>
    obtain ⟨_, _, _, rfl⟩ := insertRouteBinding_ok inserted
    exact reserved.keep rfl rfl rfl
  | deleteRouteBindings _ deleted =>
    obtain ⟨records, rfl⟩ := deleteRouteBindings_ok deleted
    exact reserved.keep rfl rfl rfl
  | insertMaterialization _ inserted =>
    simp only [Store.insertMaterialization, bind_eq_ok, require_eq_ok, exists_const] at inserted
    obtain ⟨_, _, _, synced, sync, recorded⟩ := inserted
    exact reserved.write (fun _ none => by cases none) sync recorded
  | updateMaterialization _ _ _ found _ _ updated =>
    simp only [Store.updateMaterialization, bind_eq_ok, require_eq_ok, exists_const] at updated
    obtain ⟨_, synced, sync, recorded⟩ := updated
    exact reserved.write (fun _ same => by cases same; exact found) sync recorded
  | updateMaterializations selects assign _ _ updated =>
    simp only [Store.updateMaterializations, bind_eq_ok, require_eq_ok, exists_const] at updated
    obtain ⟨_, synced, sync, recorded⟩ := updated
    exact reserved.writeAll selects (fun row => beforeUpdate session row (assign row)) sync recorded
  | deleteInstanceRow _ deleted =>
    simp only [Store.deleteInstanceRow, bind_eq_ok, pure_eq_ok] at deleted
    obtain ⟨unbound, unbinding, cleared, work, rfl⟩ := deleted
    obtain ⟨records, same⟩ := deleteRouteBindings_ok unbinding
    have before : Reserved unbound := by
      rw [same]
      exact reserved.keep rfl rfl rfl
    exact (before.deleteMaterializationsOf work).keep rfl rfl rfl
  | recordRouteChanges _ recorded =>
    rw [recordRouteChanges_ok recorded]
    exact reserved.keep rfl rfl rfl
  | pruneOutbox _ pruned =>
    rw [pruned]
    exact reserved.keep rfl rfl rfl
  | keep _ _ _ kept =>
    rw [kept]
    exact reserved.keep rfl rfl rfl

theorem empty : Reserved .empty where
  objects := fun _ _ => ⟨fun stored => (by cases stored), fun ⟨_, stored, _⟩ => (by cases stored)⟩
  keys := fun _ _ => ⟨fun stored => (by cases stored), fun ⟨_, stored, _⟩ => (by cases stored)⟩

theorem of_reachable {allowed : Session × Op → Prop}
    (reachable : storeSystem.Reachable allowed db) : Reserved db :=
  reachable_of_statements empty (fun _ _ _ _ reserved => reserved.statement) reachable

end Reserved

/-! ### Exclusivity -/

/-- Two projections name one object of a cluster, or one exclusivity key of a target. -/
def Shares (left right : MaterializationRow) : Prop :=
  (∃ key, key ∈ left.objectIdentities ∧ key ∈ right.objectIdentities) ∨
    ∃ key, key ∈ left.keyIdentities ∧ key ∈ right.keyIdentities

def NoClash (db : Database) : Prop :=
  ∀ left right leftRow rightRow, left ≠ right → db.materializations.find? left = some leftRow →
    db.materializations.find? right = some rightRow → leftRow.state ≠ .deleted →
    rightRow.state ≠ .deleted → ¬ Shares leftRow rightRow

theorem Reserved.noClash (reserved : Reserved db) : NoClash db := by
  intro left right leftRow rightRow different leftFound rightFound leftLive rightLive shares
  rcases shares with ⟨key, leftNames, rightNames⟩ | ⟨key, leftNames, rightNames⟩
  · exact different (reserved.objects.exclusive ⟨leftRow, leftFound, leftLive, leftNames⟩
      ⟨rightRow, rightFound, rightLive, rightNames⟩)
  · exact different (reserved.keys.exclusive ⟨leftRow, leftFound, leftLive, leftNames⟩
      ⟨rightRow, rightFound, rightLive, rightNames⟩)

theorem Reserved.refuses (reserved : Reserved db) {other : MaterializationId}
    {otherRow : MaterializationRow} (different : id ≠ other)
    (found : db.materializations.find? other = some otherRow) (live : row.state ≠ .deleted)
    (otherLive : otherRow.state ≠ .deleted) (shares : Shares row otherRow) :
    (∀ after, insertMaterialization session id row db ≠ .ok after) ∧
      ∀ old assigned after, db.materializations.find? id = some old →
        beforeUpdate session old assigned = row →
        updateMaterialization session id old assigned db ≠ .ok after := by
  have clashes : ∀ after, Reserved after →
      after.materializations = db.materializations.insert id row → False := by
    intro after reservedAfter written
    refine reservedAfter.noClash id other row otherRow different ?_ ?_ live otherLive shares
    · rw [written, Table.find?_insert, Function.update_self]
    · rw [written, Table.find?_insert, Function.update_of_ne different.symm]
      exact found
  constructor
  · intro after inserted
    obtain ⟨_, _, objects, keys, same⟩ := insertMaterialization_ok inserted
    simp only [Store.insertMaterialization, bind_eq_ok, require_eq_ok, exists_const] at inserted
    obtain ⟨_, _, _, synced, sync, recorded⟩ := inserted
    refine clashes after (reserved.write (fun _ none => (by cases none)) sync recorded) ?_
    rw [same]
  · intro old assigned after stored assigns updated
    obtain ⟨objects, keys, same⟩ := updateMaterialization_ok updated
    simp only [Store.updateMaterialization, bind_eq_ok, require_eq_ok, exists_const] at updated
    obtain ⟨_, synced, sync, recorded⟩ := updated
    refine clashes after (reserved.write (fun _ current => (by cases current; exact stored)) sync
      recorded) ?_
    rw [same, assigns]

/-- The database after an operation was tried: a failed one is rolled back. -/
def attempt (session : Session) (op : Op) (db : Database) : Database :=
  match commit session op db with
  | .ok after => after
  | .error _ => db

theorem reservations_are_exact {db : Database}
    (reachable : storeSystem.Reachable (fun _ => True) db) :
    (∀ key owner, db.objectReservations.find? key = some owner ↔
      ∃ row, db.materializations.find? owner = some row ∧ row.state ≠ .deleted ∧
        ∃ ref ∈ row.renderedObjects, objectReservation row.target.clusterId ref = key) ∧
    (∀ key owner, db.keyReservations.find? key = some owner ↔
      ∃ row, db.materializations.find? owner = some row ∧ row.state ≠ .deleted ∧
        ∃ held ∈ row.exclusivityKeys, keyReservation row.target held = key) ∧
    NoClash db ∧
    -- No operation commits a clash, and one that fails changes nothing.
    (∀ session op, NoClash (attempt session op db)) ∧
    (∀ session op error, commit session op db = .error error → attempt session op db = db) ∧
    -- Within a transaction, a write that would clash fails, and the transaction with it.
    ∀ session bindings middle, Statements session bindings db middle →
      NoClash middle ∧
      ∀ id other row otherRow, id ≠ other → middle.materializations.find? other = some otherRow →
        row.state ≠ .deleted → otherRow.state ≠ .deleted → Shares row otherRow →
        (∀ after, insertMaterialization session id row middle ≠ .ok after) ∧
        ∀ old assigned after, middle.materializations.find? id = some old →
          beforeUpdate session old assigned = row →
          updateMaterialization session id old assigned middle ≠ .ok after := by
  have reserved : Reserved db := .of_reachable reachable
  refine ⟨fun key owner => ?_, fun key owner => ?_, reserved.noClash, fun session op => ?_,
    fun session op error failed => ?_, fun session bindings middle statements => ?_⟩
  · rw [reserved.objects key owner]
    simp only [claims, mem_objectIdentities]
  · rw [reserved.keys key owner]
    simp only [claims, mem_keyIdentities]
  · unfold attempt
    split
    next after committed =>
      have stepped : storeSystem.step (session, op) db after := committed
      exact (Reserved.of_reachable (reachable.step trivial stepped)).noClash
    · exact reserved.noClash
  · rw [attempt, failed]
  · have within : Reserved middle :=
      Statements.preserves (fun _ _ reserved => reserved.statement) statements reserved
    exact ⟨within.noClash, fun id other row otherRow different found live otherLive shares =>
      within.refuses different found live otherLive shares⟩

/-! Work with an object of its own. -/

namespace Sample

def podWake : Op :=
  .acceptWake { expectedGeneration := 0
                pending := { (wakeRequest 0 1).pending with renderedObjects := [pod, pod] } }

def namesPod (row : MaterializationRow) : Bool :=
  decide (row.state ≠ .deleted) && decide (row.renderedObjects = [pod, pod]) &&
    decide (row.target = target)

end Sample

theorem sample_reservations_are_exact :
    ∃ db, NoClash db ∧
      db.objectReservations.find? (objectReservation "east" Sample.pod) = some Sample.work := by
  obtain ⟨db, reachable, claimed⟩ := exists_reachable_of_runOps
    [(Sample.session 0, Sample.createWeb), (Sample.session 1, Sample.podWake)]
    (fun db => (db.materializations.find? Sample.work).any Sample.namesPod) (fun _ _ => trivial)
    (by decide)
  obtain ⟨objects, _, noClash, _⟩ := reservations_are_exact reachable
  refine ⟨db, noClash, (objects _ _).mpr ?_⟩
  cases found : db.materializations.find? Sample.work with
  | none =>
    rw [found] at claimed
    cases claimed
  | some row =>
    rw [found] at claimed
    simp only [Option.any_some, Sample.namesPod, Bool.and_eq_true, decide_eq_true_eq] at claimed
    obtain ⟨⟨live, rendered⟩, target⟩ := claimed
    refine ⟨row, rfl, live, Sample.pod, ?_, ?_⟩
    · rw [rendered]
      exact List.mem_cons_self
    · rw [target]
      rfl

end Sleepypods.Store
