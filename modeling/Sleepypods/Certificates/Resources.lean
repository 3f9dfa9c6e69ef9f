import Sleepypods.Api.Ids

/-! Certificate resources: ids, exact hostnames, bundles and metadata, and the checks on key
material, which are independent of the store. -/

set_option autoImplicit false

namespace Sleepypods.Certificates

abbrev Bytes := List UInt8

def maxCertificateBundleBytes : Nat := 128 * 1024

def maxCertificateChainEntries : Nat := 16

def maxCertificateBindings : Nat := 1024

def isCertificateId (value : String) : Bool :=
  !value.toList.isEmpty && decide (value.utf8ByteSize ≤ 128) &&
    value.toList.all fun c => isAlphanumericChar c || c == '.' || c == '_' || c == '-'

structure CertificateId where
  value : String
  accepted : isCertificateId value = true
  deriving DecidableEq

def CertificateId.new (value : String) : Option CertificateId :=
  if accepted : isCertificateId value = true then some ⟨value, accepted⟩ else none

def isDigitChar (c : Char) : Bool := decide ('0' ≤ c) && decide (c ≤ '9')

def isHostLabel (label : List Char) : Bool :=
  !label.isEmpty && decide (label.length ≤ 63) && label.head?.any isAlphanumericChar &&
    label.getLast?.any isAlphanumericChar && label.all fun c => isAlphanumericChar c || c == '-'

def stripFinalDot (text : List Char) : List Char :=
  if text.getLast? = some '.' then text.dropLast else text

/-- `TlsHostname::new`. An IP address is refused by its colons or by its numeric last label. -/
def normalizeTlsHostname (text : String) : Option String :=
  let value := stripFinalDot text.toList
  let labels := value.splitOn '.'
  if value.isEmpty || decide (253 < (String.ofList value).utf8ByteSize) ||
      labels.getLast?.any (fun label => label.all isDigitChar) || !labels.all isHostLabel then none
  else some (String.ofList (value.map Char.toLower))

structure TlsHostname where
  value : String
  accepted : ∃ text, normalizeTlsHostname text = some value

instance : DecidableEq TlsHostname := fun left right =>
  decidable_of_iff (left.value = right.value) (by
    cases left
    cases right
    simp)

def TlsHostname.new (text : String) : Option TlsHostname :=
  match normalized : normalizeTlsHostname text with
  | some value => some ⟨value, text, normalized⟩
  | none => none

/-- One above the largest durable revision. -/
def revisionBound : Nat := 2 ^ 63

def bundleBounded (chainDer : List Bytes) (privateKeyPkcs8Der : Bytes) : Bool :=
  !chainDer.isEmpty && decide (chainDer.length ≤ maxCertificateChainEntries) &&
    chainDer.all (fun entry => !entry.isEmpty) && !privateKeyPkcs8Der.isEmpty &&
    decide (privateKeyPkcs8Der.length + (chainDer.map List.length).sum ≤ maxCertificateBundleBytes)

structure CertificateBundle where
  chainDer : List Bytes
  privateKeyPkcs8Der : Bytes
  bounded : bundleBounded chainDer privateKeyPkcs8Der = true
  deriving DecidableEq

def invalidBundle : String := "certificate bundle exceeds its nonempty 128KiB/16-entry bounds"

def CertificateBundle.new (chainDer : List Bytes) (privateKeyPkcs8Der : Bytes) :
    Except String CertificateBundle :=
  if bounded : bundleBounded chainDer privateKeyPkcs8Der = true then
    .ok ⟨chainDer, privateKeyPkcs8Der, bounded⟩
  else .error invalidBundle

inductive CertificateState where
  | active
  | deleted
  deriving DecidableEq

structure CertificateMetadata where
  id : CertificateId
  version : Nat
  state : CertificateState
  notBeforeUnixMillis : Int
  notAfterUnixMillis : Int
  dnsNames : List String
  leafSha256 : Bytes
  sealingKeyId : Option String
  sealingRevision : Nat
  deriving DecidableEq

structure ValidatedCertificate where
  notBeforeUnixMillis : Int
  notAfterUnixMillis : Int
  dnsNames : List String
  leafSha256 : Bytes
  deriving DecidableEq

/-- `validate_certificate` and `validate_hostname`: chain, key and name checks at a given time. -/
structure CertificateChecks where
  validateCertificate : CertificateBundle → Int → Except String ValidatedCertificate
  validateHostname : List Bytes → TlsHostname → Except String Unit

end Sleepypods.Certificates
