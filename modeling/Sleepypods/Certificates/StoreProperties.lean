import Sleepypods.Certificates.Store

/-! What the certificate operations do to the revisions and to the view of each hostname. -/

set_option autoImplicit false

namespace Sleepypods.Certificates

open Library Library.Fallible
open Store (StoreError StoreResult bigintBound bigintOutOfRange)

variable {env : CertificateEnv} {db after later : CertificateDb} {hostname : TlsHostname}
  {id : CertificateId}

/-! ### What each operation commits -/

@[simp]
theorem invalid_eq_ok {α : Type} {result : Except String α} {value : α} :
    invalid result = .ok value ↔ result = .ok value := by
  cases result <;> simp [invalid, Except.mapError]

variable {material : CertificateMaterial} {row : CertificateRow}

theorem activeCertificate_eq_ok :
    activeCertificate row = .ok material ↔ row.content = .active material := by
  unfold activeCertificate
  cases row.content <;> simp

theorem openBundle_chain {sealer : CertificateSealer} {version : Nat} {bundle : CertificateBundle}
    (opened : openBundle env sealer id version material = .ok bundle) :
    bundle.chainDer = material.chainDer := by
  simp only [openBundle, bind_eq_ok, invalid_eq_ok] at opened
  obtain ⟨key, -, created⟩ := opened
  unfold CertificateBundle.new at created
  split at created
  · cases created
    rfl
  · cases created

/-- The database in which a certificate has a new row and its bound views a new revision. -/
def CertificateDb.withBoundViews (db : CertificateDb) (id : CertificateId) (row : CertificateRow)
    (remove : Bool) : CertificateDb where
  revision := db.revision + 1
  certificates := db.certificates.insert id row
  bindings := db.bindings.mapRows fun _ binding => binding.updated id remove (db.revision + 1)

def CertificateDb.withBinding (db : CertificateDb) (hostname : TlsHostname)
    (certificateId : Option CertificateId) : CertificateDb where
  revision := db.revision + 1
  certificates := db.certificates
  bindings := db.bindings.insert hostname ⟨certificateId, db.revision + 1, db.revision + 1⟩

def CertificateDb.Active (db : CertificateDb) (id : CertificateId) : Prop :=
  ∃ version sealingRevision material,
    db.certificates.find? id = some ⟨version, sealingRevision, .active material⟩

inductive Mutation (db : CertificateDb) : CertificateDb → Prop where
  | published (id : CertificateId) (version sealingRevision : Nat)
      (material : CertificateMaterial)
      (unretired : ∀ row, db.certificates.find? id = some row → row.content ≠ .deleted) :
      Mutation db (db.withBoundViews id ⟨version, sealingRevision, .active material⟩ false)
  | bound (hostname : TlsHostname) (certificateId : Option CertificateId)
      (active : ∀ id, certificateId = some id → db.Active id) :
      Mutation db (db.withBinding hostname certificateId)
  | removed (id : CertificateId) (version sealingRevision : Nat) (active : db.Active id) :
      Mutation db (db.withBoundViews id ⟨version, sealingRevision, .deleted⟩ true)
  | resealed (id : CertificateId) (version oldSealing newSealing : Nat)
      (material : CertificateMaterial) (sealed : SealedPrivateKey)
      (found : db.certificates.find? id = some ⟨version, oldSealing, .active material⟩) :
      Mutation db { db with
        certificates := db.certificates.insert id
          ⟨version, newSealing, .active { material with sealed := sealed }⟩ }
  | read : Mutation db db

theorem updateBoundViews_insert {remove : Bool} (updated : updateBoundViews id remove
      { db with certificates := db.certificates.insert id row } = .ok after) :
    after = db.withBoundViews id row remove := by
  simp only [updateBoundViews, advanceRevision, bind_eq_ok, pure_eq_ok] at updated
  obtain ⟨middle, ⟨-, -, rfl⟩, -, -, rfl⟩ := updated
  rfl

variable {nonce : Bytes} {metadata : CertificateMetadata} {observedAt : Int}
  {request : PublishCertificateRequest}

theorem publish_eq_ok (published : publish env observedAt nonce request db = .ok (metadata, after)) :
    (∀ row, db.certificates.find? request.id = some row → row.content ≠ .deleted) ∧
      ∃ version sealingRevision material,
        after = db.withBoundViews request.id ⟨version, sealingRevision, .active material⟩ false := by
  simp only [publish, bind_eq_ok, pure_eq_ok, require_eq_ok] at published
  obtain ⟨-, -, -, unretired, -, -, version, -, sealingRevision, -, sealer, -, validated, -,
    -, -, sealed, -, -, -, written, updated, same⟩ := published
  cases same
  refine ⟨fun row found retired => unretired ?_, _, _, _, updateBoundViews_insert updated⟩
  simp [found, retired]

theorem checkBindable_eq_ok (bindable : checkBindable env observedAt hostname id db = .ok ()) : db.Active id := by
  simp only [checkBindable, bind_eq_ok, orError_eq_ok, activeCertificate_eq_ok] at bindable
  obtain ⟨row, found, material, content, -⟩ := bindable
  refine ⟨row.version, row.sealingRevision, material, ?_⟩
  rw [← content]
  exact found

theorem setBinding_eq_ok {request : SetTlsBindingRequest} {binding : TlsBinding}
    (bound : setBinding env observedAt request db = .ok (binding, after)) :
    (∀ id, request.certificateId = some id → db.Active id) ∧
      after = db.withBinding request.hostname request.certificateId := by
  simp only [setBinding, bind_eq_ok, pure_eq_ok] at bound
  obtain ⟨-, -, ⟨⟩, checked, middle, advanced, same⟩ := bound
  simp only [advanceRevision, bind_eq_ok, pure_eq_ok] at advanced
  obtain ⟨-, -, rfl⟩ := advanced
  cases same
  refine ⟨fun id wanted => ?_, rfl⟩
  rw [wanted] at checked
  exact checkBindable_eq_ok checked

theorem remove_eq_ok {request : RemoveCertificateRequest}
    (removed : remove request db = .ok (metadata, after)) :
    db.Active request.id ∧ ∃ version sealingRevision,
      after = db.withBoundViews request.id ⟨version, sealingRevision, .deleted⟩ true := by
  simp only [remove, bind_eq_ok, pure_eq_ok, orError_eq_ok, activeCertificate_eq_ok] at removed
  obtain ⟨row, found, -, -, material, content, version, -, sealingRevision, -, written, updated,
    same⟩ := removed
  cases same
  refine ⟨⟨row.version, row.sealingRevision, material, ?_⟩, _, _, updateBoundViews_insert updated⟩
  rw [← content]
  exact found

theorem reencrypt_eq_ok {request : ReencryptCertificateRequest}
    (resealed : reencrypt env nonce request db = .ok (metadata, after)) :
    ∃ version oldSealing newSealing material sealed,
      db.certificates.find? request.id = some ⟨version, oldSealing, .active material⟩ ∧
      after = { db with
        certificates := db.certificates.insert request.id
          ⟨version, newSealing, .active { material with sealed := sealed }⟩ } := by
  simp only [reencrypt, bind_eq_ok, pure_eq_ok, orError_eq_ok, activeCertificate_eq_ok]
    at resealed
  obtain ⟨row, found, -, -, -, -, material, content, sealer, -, bundle, -, sealed, -, revision, -,
    -, -, same⟩ := resealed
  cases same
  refine ⟨row.version, row.sealingRevision, revision, material, sealed, ?_, rfl⟩
  rw [← content]
  exact found

theorem commit_mutation {op : CertificateOp} (committed : commit env op db = .ok after) :
    Mutation db after := by
  cases op with
  | publish =>
    obtain ⟨metadata, published⟩ := map_snd_eq_ok.mp committed
    obtain ⟨unretired, version, sealingRevision, material, rfl⟩ := publish_eq_ok published
    exact .published _ _ _ _ unretired
  | setBinding =>
    obtain ⟨binding, bound⟩ := map_snd_eq_ok.mp committed
    obtain ⟨active, rfl⟩ := setBinding_eq_ok bound
    exact .bound _ _ active
  | remove =>
    obtain ⟨metadata, removed⟩ := map_snd_eq_ok.mp committed
    obtain ⟨active, version, sealingRevision, rfl⟩ := remove_eq_ok removed
    exact .removed _ _ _ active
  | reencrypt =>
    obtain ⟨metadata, resealed⟩ := map_snd_eq_ok.mp committed
    obtain ⟨version, oldSealing, newSealing, material, sealed, found, rfl⟩ :=
      reencrypt_eq_ok resealed
    exact .resealed _ _ _ _ _ _ found
  | resolve =>
    obtain ⟨resolution, -, rfl⟩ := map_eq_ok.mp committed
    exact .read

def CertificateContent.chain : CertificateContent → Option (List Bytes)
  | .active material => some material.chainDer
  | .deleted => none

/-- What the store serves for a hostname: certificate id, version and chain. -/
def served (db : CertificateDb) (hostname : TlsHostname) :
    Option (CertificateId × Nat × List Bytes) :=
  (getBinding db hostname).certificateId.bind fun id =>
    (db.certificates.find? id).bind fun row =>
      row.content.chain.map fun chain => (id, row.version, chain)

/-- What a resolve told its caller: an unchanged answer leaves the chain to the cached view. -/
def TlsCertificateValue.Reports :
    TlsCertificateValue → Option (CertificateId × Nat × List Bytes) → Prop
  | .found metadata bundle, view =>
    view = some (metadata.id, metadata.version, bundle.chainDer)
  | .unchanged metadata, view => ∃ chain, view = some (metadata.id, metadata.version, chain)
  | .missing, view => view = none

theorem resolveBound_reports {request : ResolveTlsCertificateRequest} {viewRevision : Nat}
    {value : TlsCertificateValue}
    (resolved : resolveBound env observedAt request viewRevision id row = .ok value) :
    ∃ material, row.content = .active material ∧
      value.Reports (some (id, row.version, material.chainDer)) := by
  obtain ⟨version, sealingRevision, content⟩ := row
  cases content with
  | deleted => cases resolved
  | active material =>
    simp only [resolveBound, bind_eq_ok, pure_eq_ok] at resolved
    obtain ⟨_, ⟨⟩, sealer, -, bundle, opened, -, -, -, -, rfl⟩ := resolved
    refine ⟨material, rfl, ?_⟩
    split
    · exact ⟨_, rfl⟩
    · rw [← openBundle_chain opened]
      rfl

theorem resolve_reports {request : ResolveTlsCertificateRequest}
    {resolution : TlsCertificateResolution}
    (resolved : resolve env observedAt request db = .ok resolution) :
    resolution.viewRevision = (getBinding db request.hostname).revision ∧
      resolution.value.Reports (served db request.hostname) := by
  obtain ⟨value, answered, rfl⟩ := map_eq_ok.mp resolved
  refine ⟨rfl, ?_⟩
  unfold served
  cases bound : (getBinding db request.hostname).certificateId with
  | none =>
    simp only [bound, Option.bind_none] at answered
    cases answered
    rfl
  | some id =>
    cases found : db.certificates.find? id with
    | none =>
      simp only [bound, Option.bind_some, found, Option.map_none] at answered
      cases answered
      simp [found, TlsCertificateValue.Reports]
    | some =>
      simp only [bound, Option.bind_some, found, Option.map_some] at answered
      obtain ⟨material, content, reports⟩ := resolveBound_reports answered
      simpa [found, content, CertificateContent.chain] using reports

/-! ### Revisions stay ordered and bindings stay live -/

structure Ordered (db : CertificateDb) : Prop where
  revision_pos : ∀ hostname row, db.bindings.find? hostname = some row → 0 < row.revision
  revision_le : ∀ hostname row, db.bindings.find? hostname = some row →
    row.revision ≤ db.revision
  invalidating_le : ∀ hostname row, db.bindings.find? hostname = some row →
    row.lastInvalidatingRevision ≤ row.revision
  active : ∀ hostname row id, db.bindings.find? hostname = some row →
    row.certificateId = some id → db.Active id

theorem Ordered.empty : Ordered .empty where
  revision_pos _ _ found := by cases found
  revision_le _ _ found := by cases found
  invalidating_le _ _ found := by cases found
  active _ _ _ found := by cases found

/-- A row of the updated bindings comes from a row that is kept or gets the new revision. -/
theorem updated_cases {remove : Bool} {certificate : CertificateRow} {row : HostnameBindingRow}
    (found : (db.withBoundViews id certificate remove).bindings.find? hostname = some row) :
    ∃ old, db.bindings.find? hostname = some old ∧
      (old.certificateId ≠ some id ∧ row = old ∨
        old.certificateId = some id ∧ row = ⟨if remove then none else some id, db.revision + 1,
          if remove then db.revision + 1 else old.lastInvalidatingRevision⟩) := by
  simp only [CertificateDb.withBoundViews, Table.find?_mapRows, Option.map_eq_some_iff] at found
  obtain ⟨old, stored, rfl⟩ := found
  refine ⟨old, stored, ?_⟩
  unfold HostnameBindingRow.updated
  split
  next bound => exact .inr ⟨bound, by rw [bound]⟩
  next other => exact .inl ⟨other, rfl⟩

variable {bindings : Table TlsHostname HostnameBindingRow}

theorem Active.insert {other : CertificateId} {revision : Nat} (active : db.Active other)
    (kept : other = id → ∃ version sealing material, row = ⟨version, sealing, .active material⟩) :
    CertificateDb.Active ⟨revision, db.certificates.insert id row, bindings⟩ other := by
  obtain ⟨version, sealingRevision, material, found⟩ := active
  by_cases same : other = id
  · obtain ⟨version, sealingRevision, material, rfl⟩ := kept same
    exact ⟨version, sealingRevision, material, by simp [same]⟩
  · exact ⟨version, sealingRevision, material, by simp [same, found]⟩

/-- The update of the bound views keeps the order; what is removed must be unbound by it. -/
theorem Ordered.withBoundViews {remove : Bool} (ordered : Ordered db)
    (content : remove = false → ∃ version sealing material,
      row = ⟨version, sealing, .active material⟩) : Ordered (db.withBoundViews id row remove) where
  revision_pos hostname binding found := by
    obtain ⟨old, stored, ⟨-, rfl⟩ | ⟨-, rfl⟩⟩ := updated_cases found
    · exact ordered.revision_pos hostname _ stored
    · exact Nat.succ_pos _
  revision_le hostname binding found := by
    obtain ⟨old, stored, ⟨-, rfl⟩ | ⟨-, rfl⟩⟩ := updated_cases found
    · exact Nat.le_succ_of_le (ordered.revision_le hostname _ stored)
    · exact Nat.le_refl _
  invalidating_le hostname binding found := by
    obtain ⟨old, stored, ⟨-, rfl⟩ | ⟨-, rfl⟩⟩ := updated_cases found
    · exact ordered.invalidating_le hostname _ stored
    · have invalidating := ordered.invalidating_le hostname old stored
      have revision := ordered.revision_le hostname old stored
      cases remove
      · exact Nat.le_succ_of_le (invalidating.trans revision)
      · exact Nat.le_refl _
  active hostname binding other found bound := by
    obtain ⟨old, stored, ⟨different, rfl⟩ | ⟨same, rfl⟩⟩ := updated_cases found
    · refine Active.insert (ordered.active hostname _ other stored bound) fun equal => ?_
      exact absurd (equal ▸ bound) different
    · cases remove
      · refine Active.insert (ordered.active hostname old other stored ?_) fun _ => content rfl
        exact same.trans bound
      · cases bound

theorem Ordered.withBinding {certificateId : Option CertificateId} (ordered : Ordered db)
    (active : ∀ id, certificateId = some id → db.Active id) :
    Ordered (db.withBinding hostname certificateId) := by
  have rows : ∀ other row, (db.withBinding hostname certificateId).bindings.find? other = some row →
      row = ⟨certificateId, db.revision + 1, db.revision + 1⟩ ∨
        db.bindings.find? other = some row := by
    intro other row found
    simp only [CertificateDb.withBinding, Table.find?_insert, Function.update_apply] at found
    split at found
    · exact .inl (Option.some.inj found).symm
    · exact .inr found
  constructor
  · intro other row found
    obtain rfl | stored := rows other row found
    · exact Nat.succ_pos _
    · exact ordered.revision_pos other row stored
  · intro other row found
    obtain rfl | stored := rows other row found
    · exact Nat.le_refl _
    · exact Nat.le_succ_of_le (ordered.revision_le other row stored)
  · intro other row found
    obtain rfl | stored := rows other row found
    · exact Nat.le_refl _
    · exact ordered.invalidating_le other row stored
  · intro other row id found bound
    obtain rfl | stored := rows other row found
    · exact active id bound
    · exact ordered.active other row id stored bound

theorem Ordered.mutation (ordered : Ordered db) (mutation : Mutation db after) :
    Ordered after := by
  cases mutation with
  | published _ version sealingRevision material =>
    exact ordered.withBoundViews fun _ => ⟨version, sealingRevision, material, rfl⟩
  | bound _ _ active => exact ordered.withBinding active
  | removed => exact ordered.withBoundViews nofun
  | resealed =>
    refine ⟨ordered.revision_pos, ordered.revision_le, ordered.invalidating_le, ?_⟩
    intro hostname row other stored bound
    exact Active.insert (ordered.active hostname row other stored bound) fun _ => ⟨_, _, _, rfl⟩
  | read => exact ordered

/-! ### Views move only with their revision -/

def ViewKept (hostname : TlsHostname) (db after : CertificateDb) : Prop :=
  getBinding after hostname = getBinding db hostname ∧ served after hostname = served db hostname ∨
    (getBinding db hostname).revision < (getBinding after hostname).revision

theorem ViewKept.trans (first : ViewKept hostname db after) (second : ViewKept hostname after later) :
    ViewKept hostname db later := by
  rcases first with ⟨sameBinding, sameServed⟩ | advanced
  · rcases second with ⟨binding, view⟩ | later
    · exact .inl ⟨binding.trans sameBinding, view.trans sameServed⟩
    · exact .inr (sameBinding ▸ later)
  · rcases second with ⟨binding, -⟩ | later
    · exact .inr (binding ▸ advanced)
    · exact .inr (advanced.trans later)

theorem ViewKept.revision_le (kept : ViewKept hostname db after) :
    (getBinding db hostname).revision ≤ (getBinding after hostname).revision := by
  rcases kept with ⟨same, -⟩ | advanced
  · rw [same]
  · exact advanced.le

theorem getBinding_of_find {row : HostnameBindingRow}
    (found : db.bindings.find? hostname = some row) :
    getBinding db hostname =
      ⟨hostname, row.certificateId, row.revision, row.lastInvalidatingRevision⟩ := by
  simp only [getBinding, found]

theorem getBinding_of_none (missing : db.bindings.find? hostname = none) :
    getBinding db hostname = ⟨hostname, none, 0, 0⟩ := by
  simp only [getBinding, missing]

theorem find_of_bound (bound : (getBinding db hostname).certificateId = some id) :
    ∃ row, db.bindings.find? hostname = some row ∧ row.certificateId = some id := by
  cases found : db.bindings.find? hostname with
  | none =>
    rw [getBinding_of_none found] at bound
    cases bound
  | some row =>
    rw [getBinding_of_find found] at bound
    exact ⟨row, rfl, bound⟩

theorem Ordered.binding_le (ordered : Ordered db) (hostname : TlsHostname) :
    (getBinding db hostname).revision ≤ db.revision ∧
      (getBinding db hostname).lastInvalidatingRevision ≤ (getBinding db hostname).revision := by
  cases found : db.bindings.find? hostname with
  | none =>
    rw [getBinding_of_none found]
    exact ⟨Nat.zero_le _, Nat.le_refl _⟩
  | some row =>
    rw [getBinding_of_find found]
    exact ⟨ordered.revision_le hostname row found, ordered.invalidating_le hostname row found⟩

theorem served_congr (same : getBinding after hostname = getBinding db hostname)
    (kept : ∀ id, (getBinding db hostname).certificateId = some id →
      (after.certificates.find? id).map (fun row => (row.version, row.content.chain)) =
        (db.certificates.find? id).map (fun row => (row.version, row.content.chain))) :
    served after hostname = served db hostname := by
  unfold served
  rw [same]
  refine Option.bind_congr fun id bound => ?_
  have view := kept id bound
  cases old : db.certificates.find? id <;> cases new : after.certificates.find? id <;> simp_all

theorem getBinding_withBoundViews {remove : Bool} :
    ((getBinding db hostname).certificateId = some id →
      getBinding (db.withBoundViews id row remove) hostname =
        ⟨hostname, if remove then none else some id, db.revision + 1,
          if remove then db.revision + 1
          else (getBinding db hostname).lastInvalidatingRevision⟩) ∧
    ((getBinding db hostname).certificateId ≠ some id →
      getBinding (db.withBoundViews id row remove) hostname = getBinding db hostname) := by
  simp only [getBinding, CertificateDb.withBoundViews, Table.find?_mapRows]
  cases db.bindings.find? hostname with
  | none => simp
  | some binding =>
    constructor
    · intro bound
      simp_all [HostnameBindingRow.updated]
    · intro other
      simp_all [HostnameBindingRow.updated]

theorem getBinding_withBinding_self {certificateId : Option CertificateId} :
    getBinding (db.withBinding hostname certificateId) hostname =
      ⟨hostname, certificateId, db.revision + 1, db.revision + 1⟩ := by
  simp [getBinding, CertificateDb.withBinding]

theorem Ordered.viewKept_withBoundViews {remove : Bool} (ordered : Ordered db) : ViewKept hostname db (db.withBoundViews id row remove) := by
  by_cases bound : (getBinding db hostname).certificateId = some id
  · right
    rw [getBinding_withBoundViews.1 bound]
    exact Nat.lt_succ_of_le (ordered.binding_le hostname).1
  · left
    have same : getBinding (db.withBoundViews id row remove) hostname = getBinding db hostname :=
      getBinding_withBoundViews.2 bound
    refine ⟨same, served_congr same fun other stored => ?_⟩
    have different : other ≠ id := fun equal => bound (equal ▸ stored)
    simp [CertificateDb.withBoundViews, different]

theorem served_resealed {version oldSealing newSealing : Nat} {sealed : SealedPrivateKey}
    (found : db.certificates.find? id = some ⟨version, oldSealing, .active material⟩) :
    served { db with
      certificates := db.certificates.insert id
        ⟨version, newSealing, .active { material with sealed := sealed }⟩ } hostname =
      served db hostname := by
  refine served_congr rfl fun other _ => ?_
  by_cases same : other = id
  · subst same
    simp [found, CertificateContent.chain]
  · simp [same]

theorem Ordered.viewKept (ordered : Ordered db) (mutation : Mutation db after)
    (hostname : TlsHostname) : ViewKept hostname db after := by
  cases mutation with
  | published | removed => exact ordered.viewKept_withBoundViews
  | bound other certificateId =>
    by_cases same : hostname = other
    · subst same
      right
      rw [getBinding_withBinding_self]
      exact Nat.lt_succ_of_le (ordered.binding_le hostname).1
    · left
      have kept : getBinding (db.withBinding other certificateId) hostname =
          getBinding db hostname := by
        simp [getBinding, CertificateDb.withBinding, same]
      exact ⟨kept, served_congr kept fun _ _ => rfl⟩
  | resealed _ _ _ _ _ _ found =>
    exact .inl ⟨rfl, served_resealed found⟩
  | read => exact .inl ⟨rfl, rfl⟩

def Retired (db : CertificateDb) (id : CertificateId) : Prop :=
  ∃ version sealingRevision, db.certificates.find? id = some ⟨version, sealingRevision, .deleted⟩

theorem Retired.not_active (retired : Retired db id) : ¬db.Active id := by
  rintro ⟨version, sealingRevision, material, found⟩
  obtain ⟨_, _, stored⟩ := retired
  rw [stored] at found
  cases found

theorem Retired.insert {other : CertificateId} {revision : Nat} (retired : Retired db id)
    (different : id ≠ other) :
    Retired ⟨revision, db.certificates.insert other row, bindings⟩ id := by
  obtain ⟨version, sealingRevision, found⟩ := retired
  exact ⟨version, sealingRevision, by simp [different, found]⟩

theorem Retired.mutation (retired : Retired db id) (mutation : Mutation db after) :
    Retired after id := by
  cases mutation with
  | published _ _ _ _ unretired =>
    refine retired.insert fun same => ?_
    obtain ⟨version, sealingRevision, found⟩ := retired
    exact unretired _ (same ▸ found) rfl
  | bound => exact retired
  | removed _ _ _ active =>
    exact retired.insert fun same => retired.not_active (same ▸ active)
  | resealed _ version oldSealing _ material _ found =>
    exact retired.insert fun same =>
      retired.not_active ⟨version, oldSealing, material, same ▸ found⟩
  | read => exact retired

theorem Retired.publish (retired : Retired db request.id) :
    ∃ error, publish env observedAt nonce request db = .error error := by
  cases published : Certificates.publish env observedAt nonce request db with
  | error error => exact ⟨error, rfl⟩
  | ok =>
    obtain ⟨version, sealingRevision, found⟩ := retired
    exact absurd rfl ((publish_eq_ok published).1 _ found)

/-! ### Whole runs -/

theorem Ordered.of_reachable (reachable : certificateSystem.Reachable (fun _ => True) db) :
    Ordered db :=
  reachable.invariant (fun _ initial => initial ▸ Ordered.empty)
    fun _ _ _ _ ordered committed => ordered.mutation (commit_mutation committed)

theorem Ordered.viewKept_of_path (ordered : Ordered db)
    (path : certificateSystem.Path (fun _ => True) db later) (hostname : TlsHostname) :
    ViewKept hostname db later := by
  have step : ∀ label state next, True → Ordered state ∧ ViewKept hostname db state →
      certificateSystem.step label state next → Ordered next ∧ ViewKept hostname db next := by
    rintro label state next - ⟨held, kept⟩ committed
    have mutation := commit_mutation committed
    exact ⟨held.mutation mutation, kept.trans (held.viewKept mutation hostname)⟩
  exact (path.preserves step ⟨ordered, .inl ⟨rfl, rfl⟩⟩).2

theorem Retired.of_path (retired : Retired db id)
    (path : certificateSystem.Path (fun _ => True) db later) : Retired later id := by
  have step : ∀ label state next, True → Retired state id →
      certificateSystem.step label state next → Retired next id :=
    fun _ _ _ _ held committed => held.mutation (commit_mutation committed)
  exact path.preserves step retired

def CertificateOp.advances : CertificateOp → Bool
  | .publish .. | .setBinding .. | .remove .. => true
  | .reencrypt .. | .resolve .. => false

theorem commit_advances {op : CertificateOp} (advances : op.advances = true)
    (committed : commit env op db = .ok after) : db.revision < after.revision := by
  cases op with
  | publish =>
    obtain ⟨⟨metadata, _⟩, published, rfl⟩ := map_eq_ok.mp committed
    obtain ⟨-, version, sealingRevision, material, rfl⟩ := publish_eq_ok published
    exact Nat.lt_succ_self _
  | setBinding =>
    obtain ⟨⟨binding, _⟩, bound, rfl⟩ := map_eq_ok.mp committed
    obtain ⟨-, rfl⟩ := setBinding_eq_ok bound
    exact Nat.lt_succ_self _
  | remove =>
    obtain ⟨⟨metadata, _⟩, removed, rfl⟩ := map_eq_ok.mp committed
    obtain ⟨-, version, sealingRevision, rfl⟩ := remove_eq_ok removed
    exact Nat.lt_succ_self _
  | reencrypt | resolve => cases advances

theorem reachable_attempt (reachable : certificateSystem.Reachable (fun _ => True) db)
    (env : CertificateEnv) (op : CertificateOp) :
    certificateSystem.Reachable (fun _ => True) (attempt env op db) := by
  unfold attempt
  split
  next after committed =>
    have stepped : certificateSystem.step (env, op) db after := committed
    exact reachable.step trivial stepped
  next error failed => exact reachable

/-- In every state that the operations reach, whatever processes run them. -/
theorem certificate_revisions_are_sound
    (reachable : certificateSystem.Reachable (fun _ => True) db) :
    -- the global revision and the views only move forward
    (∀ env op after, commit env op db = .ok after →
      (op.advances = true → db.revision < after.revision) ∧
        ∀ hostname, (getBinding db hostname).revision ≤ (getBinding after hostname).revision) ∧
    (∀ hostname, (getBinding db hostname).lastInvalidatingRevision ≤
      (getBinding db hostname).revision) ∧
    -- a rotation advances the bound views and leaves their invalidating revision
    (∀ env observedAt nonce request metadata after,
      publish env observedAt nonce request db = .ok (metadata, after) →
      ∀ hostname, (getBinding db hostname).certificateId = some request.id →
        (getBinding db hostname).revision < (getBinding after hostname).revision ∧
          (getBinding after hostname).lastInvalidatingRevision =
            (getBinding db hostname).lastInvalidatingRevision) ∧
    -- binding, unbinding and removal advance both
    (∀ env observedAt request binding after,
      setBinding env observedAt request db = .ok (binding, after) →
        (getBinding db request.hostname).revision < (getBinding after request.hostname).revision ∧
          (getBinding db request.hostname).lastInvalidatingRevision <
            (getBinding after request.hostname).lastInvalidatingRevision) ∧
    (∀ request metadata after, remove request db = .ok (metadata, after) →
      ∀ hostname, (getBinding db hostname).certificateId = some request.id →
        (getBinding db hostname).revision < (getBinding after hostname).revision ∧
          (getBinding db hostname).lastInvalidatingRevision <
            (getBinding after hostname).lastInvalidatingRevision) ∧
    -- bindings reference active certificates, and a retired id stays retired
    (∀ hostname id, (getBinding db hostname).certificateId = some id → db.Active id) ∧
    (∀ id, Retired db id → ∀ later, certificateSystem.Path (fun _ => True) db later →
      ∀ env observedAt nonce request, request.id = id →
        ∃ error, publish env observedAt nonce request later = .error error) ∧
    -- resolves with one view revision report one view
    (∀ later, certificateSystem.Path (fun _ => True) db later →
      ∀ env env' observedAt observedAt' request request' first second,
        resolve env observedAt request db = .ok first →
        resolve env' observedAt' request' later = .ok second →
        request'.hostname = request.hostname → first.viewRevision = second.viewRevision →
        ∃ view, first.value.Reports view ∧ second.value.Reports view) ∧
    -- re-encryption changes no view
    (∀ env nonce request metadata after,
      reencrypt env nonce request db = .ok (metadata, after) →
      ∀ hostname, getBinding after hostname = getBinding db hostname ∧
        served after hostname = served db hostname) ∧
    -- a failed operation changes nothing
    (∀ env op error, commit env op db = .error error → attempt env op db = db) := by
  have ordered := Ordered.of_reachable reachable
  have invalidating_le : ∀ hostname,
      (getBinding db hostname).lastInvalidatingRevision < db.revision + 1 := fun hostname =>
    Nat.lt_succ_of_le ((ordered.binding_le hostname).2.trans (ordered.binding_le hostname).1)
  have revision_le : ∀ hostname, (getBinding db hostname).revision < db.revision + 1 :=
    fun hostname => Nat.lt_succ_of_le (ordered.binding_le hostname).1
  refine ⟨?_, fun hostname => (ordered.binding_le hostname).2, ?_, ?_, ?_, ?_, ?_, ?_, ?_, ?_⟩
  · intro env op after committed
    exact ⟨fun advances => commit_advances advances committed, fun hostname =>
      (ordered.viewKept (commit_mutation committed) hostname).revision_le⟩
  · intro env observedAt nonce request metadata after published hostname bound
    obtain ⟨-, version, sealingRevision, material, rfl⟩ := publish_eq_ok published
    rw [getBinding_withBoundViews.1 bound]
    exact ⟨revision_le hostname, rfl⟩
  · intro env observedAt request binding after bound
    obtain ⟨-, rfl⟩ := setBinding_eq_ok bound
    rw [getBinding_withBinding_self]
    exact ⟨revision_le _, invalidating_le _⟩
  · intro request metadata after removed hostname bound
    obtain ⟨-, version, sealingRevision, rfl⟩ := remove_eq_ok removed
    rw [getBinding_withBoundViews.1 bound]
    exact ⟨revision_le hostname, invalidating_le hostname⟩
  · intro hostname id bound
    obtain ⟨row, found, same⟩ := find_of_bound bound
    exact ordered.active hostname row id found same
  · intro id retired later path env observedAt nonce request same
    subst same
    exact (retired.of_path path).publish
  · intro later path env env' observedAt observedAt' request request' first second resolved
      again same revisions
    obtain ⟨firstRevision, firstReports⟩ := resolve_reports resolved
    obtain ⟨secondRevision, secondReports⟩ := resolve_reports again
    rw [same] at secondRevision secondReports
    refine ⟨_, firstReports, ?_⟩
    rcases ordered.viewKept_of_path path request.hostname with ⟨-, view⟩ | advanced
    · exact view ▸ secondReports
    · rw [← firstRevision, revisions, secondRevision] at advanced
      exact absurd advanced (Nat.lt_irrefl _)
  · intro env nonce request metadata after resealed hostname
    obtain ⟨version, oldSealing, newSealing, material, sealed, found, rfl⟩ :=
      reencrypt_eq_ok resealed
    exact ⟨rfl, served_resealed found⟩
  · intro env op error failed
    simp [attempt, failed]

namespace Sample

def keyed : CertificateEnv where
  checks :=
    { validateCertificate := fun _ _ => .ok ⟨0, 1000, ["app.test"], List.replicate 32 0⟩
      validateHostname := fun _ _ => .ok () }
  sha256 := fun bytes => bytes
  sealer := some
    { sealKey := fun _ _ _ key nonce => .ok ⟨1, "primary", nonce, key ++ List.replicate 16 0⟩
      openSealed := fun _ _ _ sealed => .ok (sealed.ciphertext.take 1) }

def certificateId : CertificateId := ⟨"app", by decide⟩

theorem host_accepted : ∃ text, normalizeTlsHostname text = some "app.test" := ⟨"app.test", rfl⟩

def host : TlsHostname := ⟨"app.test", host_accepted⟩

def publishAt (version : Nat) (chain : UInt8) : CertificateOp :=
  .publish 10 (List.replicate 12 0) ⟨certificateId, version, ⟨[[chain]], [7], rfl⟩⟩

def rotated : CertificateDb :=
  attempt keyed (publishAt 1 2)
    (attempt keyed (.setBinding 10 ⟨host, 0, some certificateId⟩) (attempt keyed (publishAt 0 1) .empty))

theorem rotated_reachable : certificateSystem.Reachable (fun _ => True) rotated :=
  reachable_attempt (reachable_attempt (reachable_attempt (.init rfl) _ _) _ _) _ _

end Sample

theorem sample_certificate_revisions_are_sound :
    getBinding Sample.rotated Sample.host = ⟨Sample.host, some Sample.certificateId, 3, 2⟩ ∧
      Sample.rotated.Active Sample.certificateId :=
  ⟨by decide, (certificate_revisions_are_sound Sample.rotated_reachable).2.2.2.2.2.1
    Sample.host Sample.certificateId (by decide)⟩

end Sleepypods.Certificates
