import Sleepypods.Certificates.Resources
import Sleepypods.Library.Fallible
import Sleepypods.Library.Table
import Sleepypods.Library.Transition
import Sleepypods.Store.Database

/-! The certificate tables of the control plane. Every mutation is one transaction under the lock
of the global revision row. -/

set_option autoImplicit false

namespace Sleepypods.Certificates

open Library Library.Fallible
open Store (StoreError StoreResult bigintBound bigintOutOfRange)

structure SealedPrivateKey where
  formatVersion : Nat
  keyId : String
  nonce : Bytes
  ciphertext : Bytes
  deriving DecidableEq

/-- Authenticated encryption of private keys; the nonce is drawn at random. -/
structure CertificateSealer where
  sealKey : CertificateId → Nat → Bytes → Bytes → Bytes → Except String SealedPrivateKey
  openSealed : CertificateId → Nat → Bytes → SealedPrivateKey → Except String Bytes

structure CertificateEnv where
  checks : CertificateChecks
  sha256 : Bytes → Bytes
  sealer : Option CertificateSealer

def toBeBytes (value : Nat) : Bytes :=
  (List.range 8).reverse.map fun index => UInt8.ofNat (value / 256 ^ index)

def CertificateEnv.chainDigest (env : CertificateEnv) (chain : List Bytes) : Bytes :=
  env.sha256 (chain.flatMap fun cert => toBeBytes cert.length ++ cert)

structure CertificateMaterial where
  notBeforeUnixMillis : Int
  notAfterUnixMillis : Int
  dnsNames : List String
  leafSha256 : Bytes
  chainDer : List Bytes
  sealed : SealedPrivateKey
  deriving DecidableEq

/-- A deleted certificate keeps its versions and nothing else. -/
inductive CertificateContent where
  | active (material : CertificateMaterial)
  | deleted
  deriving DecidableEq

structure CertificateRow where
  version : Nat
  sealingRevision : Nat
  content : CertificateContent
  deriving DecidableEq

def CertificateContent.state : CertificateContent → CertificateState
  | .active _ => .active
  | .deleted => .deleted

structure HostnameBindingRow where
  certificateId : Option CertificateId
  revision : Nat
  lastInvalidatingRevision : Nat
  deriving DecidableEq

structure CertificateDb where
  revision : Nat
  certificates : Table CertificateId CertificateRow
  bindings : Table TlsHostname HostnameBindingRow

def CertificateDb.empty : CertificateDb := ⟨0, .empty, .empty⟩

/-- The `CHECK` on the columns of an active certificate. -/
def CertificateMaterial.fits (material : CertificateMaterial) : Bool :=
  decide (1 ≤ material.chainDer.length) && decide (material.chainDer.length ≤ 16) &&
    material.chainDer.all (fun entry => !entry.isEmpty) &&
    decide ((material.chainDer.map List.length).sum + material.sealed.ciphertext.length ≤
      131072 + 16) &&
    decide (material.leafSha256.length = 32) && decide (material.sealed.formatVersion = 1) &&
    decide (1 ≤ material.sealed.keyId.length) && decide (material.sealed.keyId.length ≤ 64) &&
    decide (material.sealed.nonce.length = 12) &&
    decide (17 ≤ material.sealed.ciphertext.length) &&
    decide (material.sealed.ciphertext.length ≤ 131088) &&
    decide (1 ≤ material.dnsNames.length) && decide (material.dnsNames.length ≤ 100) &&
    decide (material.notBeforeUnixMillis < material.notAfterUnixMillis)

def checkViolation : StoreError := .invalidArgument "Postgres check constraint failed: certificates"

structure PublishCertificateRequest where
  id : CertificateId
  expectedVersion : Nat
  bundle : CertificateBundle

structure RemoveCertificateRequest where
  id : CertificateId
  expectedVersion : Nat

structure SetTlsBindingRequest where
  hostname : TlsHostname
  expectedRevision : Nat
  certificateId : Option CertificateId

structure ReencryptCertificateRequest where
  id : CertificateId
  expectedVersion : Nat
  expectedSealingRevision : Nat

structure ResolveTlsCertificateRequest where
  hostname : TlsHostname
  knownViewRevision : Option Nat

inductive TlsCertificateValue where
  | found (metadata : CertificateMetadata) (bundle : CertificateBundle)
  | unchanged (metadata : CertificateMetadata)
  | missing

structure TlsCertificateResolution where
  hostname : TlsHostname
  viewRevision : Nat
  observedAtUnixMillis : Int
  value : TlsCertificateValue

structure TlsBinding where
  hostname : TlsHostname
  certificateId : Option CertificateId
  revision : Nat
  lastInvalidatingRevision : Nat
  deriving DecidableEq

/-! ### Operations -/

def invalid {α : Type} (result : Except String α) : StoreResult α :=
  result.mapError StoreError.invalidArgument

def internal {α : Type} (result : Except String α) : StoreResult α :=
  result.mapError StoreError.internal

def nextRevision (value : Nat) : StoreResult Nat := do
  require (value + 1 < revisionBound)
    (.invalidArgument "certificate revision exceeds its durable range")
  return value + 1

def checkRevision (expected actual : Nat) : StoreResult Unit :=
  require (expected = actual) (.generationConflict expected actual)

def CertificateRow.metadata (id : CertificateId) (row : CertificateRow) : CertificateMetadata :=
  match row.content with
  | .active material =>
    { id := id, version := row.version, state := .active
      notBeforeUnixMillis := material.notBeforeUnixMillis
      notAfterUnixMillis := material.notAfterUnixMillis
      dnsNames := material.dnsNames, leafSha256 := material.leafSha256
      sealingKeyId := some material.sealed.keyId, sealingRevision := row.sealingRevision }
  | .deleted =>
    { id := id, version := row.version, state := .deleted
      notBeforeUnixMillis := 0, notAfterUnixMillis := 0, dnsNames := [], leafSha256 := []
      sealingKeyId := none, sealingRevision := row.sealingRevision }

def keyring (env : CertificateEnv) : StoreResult CertificateSealer :=
  orError env.sealer (.internal "certificate sealing keys are not configured")

def openBundle (env : CertificateEnv) (sealer : CertificateSealer) (id : CertificateId)
    (version : Nat) (material : CertificateMaterial) : StoreResult CertificateBundle := do
  let key ← internal
    (sealer.openSealed id version (env.chainDigest material.chainDer) material.sealed)
  invalid (CertificateBundle.new material.chainDer key)

def activeCertificate (row : CertificateRow) : StoreResult CertificateMaterial :=
  match row.content with
  | .active material => .ok material
  | .deleted => .error (.notFound "active certificate")

def advanceRevision (db : CertificateDb) : StoreResult CertificateDb := do
  require (db.revision + 1 < bigintBound) bigintOutOfRange
  return { db with revision := db.revision + 1 }

def boundTo (db : CertificateDb) (id : CertificateId) : List TlsHostname :=
  (db.bindings.entries.filter fun entry => decide (entry.2.certificateId = some id)).map Prod.fst

def HostnameBindingRow.updated (id : CertificateId) (remove : Bool) (revision : Nat)
    (row : HostnameBindingRow) : HostnameBindingRow :=
  if row.certificateId = some id then
    { certificateId := if remove then none else row.certificateId
      revision := revision
      lastInvalidatingRevision := if remove then revision else row.lastInvalidatingRevision }
  else row

def updateBoundViews (id : CertificateId) (remove : Bool) (db : CertificateDb) :
    StoreResult CertificateDb := do
  let db ← advanceRevision db
  require ((boundTo db id).length ≤ maxCertificateBindings)
    (.internal "certificate binding inventory exceeds its bound")
  return { db with
    bindings := db.bindings.mapRows fun _ row => row.updated id remove db.revision }

def publish (env : CertificateEnv) (observedAt : Int) (nonce : Bytes)
    (request : PublishCertificateRequest) (db : CertificateDb) :
    StoreResult (CertificateMetadata × CertificateDb) := do
  let old := db.certificates.find? request.id
  checkRevision request.expectedVersion ((old.map CertificateRow.version).getD 0)
  require (¬old.any fun row => decide (row.content = .deleted))
    (.alreadyExists "retired certificate ID")
  let hosts := (boundTo db request.id).take 1025
  require (hosts.length ≤ maxCertificateBindings)
    (.internal "certificate binding inventory exceeds its bound")
  let version ← nextRevision request.expectedVersion
  let sealingRevision ← nextRevision ((old.map CertificateRow.sealingRevision).getD 0)
  let sealer ← keyring env
  let validated ← invalid (env.checks.validateCertificate request.bundle observedAt)
  hosts.forM fun hostname => invalid (env.checks.validateHostname request.bundle.chainDer hostname)
  let sealed ← internal (sealer.sealKey request.id version (env.chainDigest request.bundle.chainDer)
    request.bundle.privateKeyPkcs8Der nonce)
  let material : CertificateMaterial :=
    { notBeforeUnixMillis := validated.notBeforeUnixMillis
      notAfterUnixMillis := validated.notAfterUnixMillis
      dnsNames := validated.dnsNames
      leafSha256 := validated.leafSha256
      chainDer := request.bundle.chainDer
      sealed := sealed }
  require (material.fits = true) checkViolation
  let row : CertificateRow := ⟨version, sealingRevision, .active material⟩
  let db ← updateBoundViews request.id false
    { db with certificates := db.certificates.insert request.id row }
  return (row.metadata request.id, db)

def getBinding (db : CertificateDb) (hostname : TlsHostname) : TlsBinding :=
  match db.bindings.find? hostname with
  | some row => ⟨hostname, row.certificateId, row.revision, row.lastInvalidatingRevision⟩
  | none => ⟨hostname, none, 0, 0⟩

def checkBindable (env : CertificateEnv) (observedAt : Int) (hostname : TlsHostname)
    (id : CertificateId) (db : CertificateDb) : StoreResult Unit := do
  let row ← orError (db.certificates.find? id) (.notFound "certificate")
  let material ← activeCertificate row
  let sealer ← keyring env
  let bundle ← openBundle env sealer id row.version material
  let _ ← invalid (env.checks.validateCertificate bundle observedAt)
  invalid (env.checks.validateHostname bundle.chainDer hostname)
  require (((boundTo db id).filter fun bound => decide (bound ≠ hostname)).length <
      maxCertificateBindings)
    (.invalidArgument "certificate exceeds its 1024 binding bound")

def setBinding (env : CertificateEnv) (observedAt : Int) (request : SetTlsBindingRequest)
    (db : CertificateDb) : StoreResult (TlsBinding × CertificateDb) := do
  checkRevision request.expectedRevision (getBinding db request.hostname).revision
  request.certificateId.forM fun id => checkBindable env observedAt request.hostname id db
  let db ← advanceRevision db
  let row : HostnameBindingRow := ⟨request.certificateId, db.revision, db.revision⟩
  return (⟨request.hostname, request.certificateId, db.revision, db.revision⟩,
    { db with bindings := db.bindings.insert request.hostname row })

def remove (request : RemoveCertificateRequest) (db : CertificateDb) :
    StoreResult (CertificateMetadata × CertificateDb) := do
  let row ← orError (db.certificates.find? request.id) (.notFound "certificate")
  checkRevision request.expectedVersion row.version
  let _ ← activeCertificate row
  let version ← nextRevision row.version
  let sealingRevision ← nextRevision row.sealingRevision
  let removed : CertificateRow := ⟨version, sealingRevision, .deleted⟩
  let db ← updateBoundViews request.id true
    { db with certificates := db.certificates.insert request.id removed }
  return (removed.metadata request.id, db)

/-- The active certificate under a binding, opened and checked at the time of the read. -/
def resolveBound (env : CertificateEnv) (observedAt : Int) (request : ResolveTlsCertificateRequest)
    (viewRevision : Nat) (id : CertificateId) (row : CertificateRow) :
    StoreResult TlsCertificateValue := do
  let material ← match row.content with
    | .active material => .ok material
    | .deleted => .error (.internal "TLS binding references a removed certificate")
  let sealer ← keyring env
  let bundle ← openBundle env sealer id row.version material
  let _ ← invalid (env.checks.validateCertificate bundle observedAt)
  invalid (env.checks.validateHostname bundle.chainDer request.hostname)
  return if request.knownViewRevision = some viewRevision then .unchanged (row.metadata id)
    else .found (row.metadata id) bundle

/-- `resolve`: one statement reads the binding and its certificate. -/
def resolve (env : CertificateEnv) (observedAt : Int) (request : ResolveTlsCertificateRequest)
    (db : CertificateDb) : StoreResult TlsCertificateResolution :=
  let binding := getBinding db request.hostname
  let certificate := binding.certificateId.bind fun id =>
    (db.certificates.find? id).map fun row => (id, row)
  let value := match certificate with
    | some (id, row) => resolveBound env observedAt request binding.revision id row
    | none => .ok .missing
  value.map fun value => ⟨request.hostname, binding.revision, observedAt, value⟩

def reencrypt (env : CertificateEnv) (nonce : Bytes) (request : ReencryptCertificateRequest)
    (db : CertificateDb) : StoreResult (CertificateMetadata × CertificateDb) := do
  let row ← orError (db.certificates.find? request.id) (.notFound "certificate")
  checkRevision request.expectedVersion row.version
  checkRevision request.expectedSealingRevision row.sealingRevision
  let material ← activeCertificate row
  let sealer ← keyring env
  let bundle ← openBundle env sealer request.id row.version material
  let sealed ← internal (sealer.sealKey request.id row.version (env.chainDigest bundle.chainDer)
    bundle.privateKeyPkcs8Der nonce)
  let sealingRevision ← nextRevision row.sealingRevision
  let resealed := { material with sealed := sealed }
  require (resealed.fits = true) checkViolation
  let updated : CertificateRow := ⟨row.version, sealingRevision, .active resealed⟩
  return (updated.metadata request.id,
    { db with certificates := db.certificates.insert request.id updated })

/-- `snapshot`: the bindings of the hostnames a frontline watches, when the revision is news. -/
def snapshot (hostnames : List TlsHostname) (knownRevision : Option Nat) (db : CertificateDb) :
    StoreResult (Option (Nat × List TlsBinding)) := do
  require (hostnames.length ≤ maxCertificateBindings)
    (.invalidArgument "TLS interests exceed 1024 hosts")
  return if knownRevision = some db.revision then none
    else some (db.revision, hostnames.map (getBinding db))

inductive CertificateOp where
  | publish (observedAt : Int) (nonce : Bytes) (request : PublishCertificateRequest)
  | setBinding (observedAt : Int) (request : SetTlsBindingRequest)
  | remove (request : RemoveCertificateRequest)
  | reencrypt (nonce : Bytes) (request : ReencryptCertificateRequest)
  | resolve (observedAt : Int) (request : ResolveTlsCertificateRequest)

def commit (env : CertificateEnv) (op : CertificateOp) (db : CertificateDb) :
    StoreResult CertificateDb :=
  match op with
  | .publish observedAt nonce request => Prod.snd <$> publish env observedAt nonce request db
  | .setBinding observedAt request => Prod.snd <$> setBinding env observedAt request db
  | .remove request => Prod.snd <$> remove request db
  | .reencrypt nonce request => Prod.snd <$> reencrypt env nonce request db
  | .resolve observedAt request => (fun _ => db) <$> resolve env observedAt request db

/-- The database after an operation was tried: a failed one is rolled back. -/
def attempt (env : CertificateEnv) (op : CertificateOp) (db : CertificateDb) : CertificateDb :=
  match commit env op db with
  | .ok after => after
  | .error _ => db

/-- Each operation runs in some process, with that process's keys. -/
def certificateSystem : TransitionSystem CertificateDb (CertificateEnv × CertificateOp) where
  initial db := db = .empty
  step label db next := commit label.1 label.2 db = .ok next

end Sleepypods.Certificates
