import Sleepypods.Certificates.Store

/-! The sealing of private keys for the store, over an authenticated cipher that is a parameter.
The associated data of an envelope encodes the certificate, its version, the sealing key and the
chain. -/

set_option autoImplicit false

namespace Sleepypods.Certificates

open Library Library.Fallible

/-! ### Associated data -/

def beBytes (width value : Nat) : Bytes :=
  (List.range width).reverse.map fun index => UInt8.ofNat (value / 256 ^ index)

@[simp]
theorem beBytes_length (width value : Nat) : (beBytes width value).length = width := by
  simp [beBytes]

theorem beBytes_succ (width value : Nat) :
    beBytes (width + 1) value = UInt8.ofNat (value / 256 ^ width) :: beBytes width value := by
  simp [beBytes, List.range_succ]

theorem mod_eq_of_beBytes_eq {width value other : Nat}
    (same : beBytes width value = beBytes width other) :
    value % 256 ^ width = other % 256 ^ width := by
  induction width with
  | zero => simp [Nat.mod_one]
  | succ width ih =>
    rw [beBytes_succ, beBytes_succ, List.cons.injEq] at same
    have digit := congrArg UInt8.toNat same.1
    simp only [UInt8.toNat_ofNat', Nat.reducePow] at digit
    rw [Nat.mod_pow_succ, Nat.mod_pow_succ, ih same.2, digit]

/-- A part behind its length, which is taken `as u32`. -/
def framed (part : Bytes) : Bytes := beBytes 4 part.length ++ part

theorem framed_append_inj {part other rest rest' : Bytes} (bounded : part.length < 256 ^ 4)
    (bounded' : other.length < 256 ^ 4) (same : framed part ++ rest = framed other ++ rest') :
    part = other ∧ rest = rest' := by
  simp only [framed, List.append_assoc] at same
  obtain ⟨lengths, parts⟩ := List.append_inj same (by simp)
  have length := mod_eq_of_beBytes_eq lengths
  rw [Nat.mod_eq_of_lt bounded, Nat.mod_eq_of_lt bounded'] at length
  exact List.append_inj parts length

def stringBytes (text : String) : Bytes := text.toByteArray.data.toList

@[simp]
theorem stringBytes_length (text : String) : (stringBytes text).length = text.utf8ByteSize :=
  String.size_toByteArray

theorem stringBytes_inj {text other : String} :
    stringBytes text = stringBytes other ↔ text = other := by
  rw [stringBytes, stringBytes, Array.toList_inj, ← ByteArray.ext_iff, String.toByteArray_inj]

def formatVersion : Nat := 1

def associatedData (id : CertificateId) (version : Nat) (chainDigest : Bytes) (keyId : String) :
    Bytes :=
  stringBytes "sleepypods-certificate-private-key" ++ UInt8.ofNat formatVersion ::
    (toBeBytes version ++
      [stringBytes id.value, stringBytes keyId, chainDigest].flatMap framed)

structure CertificateRevision where
  value : Nat
  accepted : value < revisionBound

/-- `validate_key_id`. -/
def isSealingKeyId (id : String) : Bool :=
  !id.toList.isEmpty && decide (id.utf8ByteSize ≤ 64) &&
    id.toList.all fun c => isAlphanumericChar c || c == '.' || c == '_' || c == '-'

structure SealingKeyId where
  value : String
  accepted : isSealingKeyId value = true

/-- What an envelope is sealed under. -/
structure SealedIdentity where
  id : CertificateId
  version : CertificateRevision
  keyId : SealingKeyId
  chainDigest : Bytes

def SealedIdentity.associatedData (identity : SealedIdentity) : Bytes :=
  Certificates.associatedData identity.id identity.version.value identity.chainDigest
    identity.keyId.value

theorem SealedIdentity.associatedData_inj {identity other : SealedIdentity}
    (same : identity.associatedData = other.associatedData) : identity = other := by
  obtain ⟨⟨id, certificate⟩, ⟨version, durable⟩, ⟨keyId, accepted⟩, digest⟩ := identity
  obtain ⟨⟨id', certificate'⟩, ⟨version', durable'⟩, ⟨keyId', accepted'⟩, digest'⟩ := other
  simp only [associatedData, Certificates.associatedData, List.append_cancel_left_eq,
    List.cons.injEq, true_and, List.flatMap_cons, List.flatMap_nil, List.append_nil] at same
  simp only [isCertificateId, isSealingKeyId, Bool.and_eq_true, decide_eq_true_eq]
    at certificate certificate' accepted accepted'
  obtain ⟨versions, same⟩ := List.append_inj same (by simp [toBeBytes])
  have version_eq := mod_eq_of_beBytes_eq (by exact versions)
  obtain ⟨ids, same⟩ := framed_append_inj (by simp; omega) (by simp; omega) same
  obtain ⟨keys, same⟩ := framed_append_inj (by simp; omega) (by simp; omega) same
  have digests := (List.append_inj same (by simp)).2
  simp only [revisionBound] at durable durable'
  have version_eq : version = version' := by omega
  simp_all [stringBytes_inj]

/-! ### Envelopes -/

/-- The cipher. Both operations take a key, a nonce and associated data. -/
structure Aead (Key : Type) where
  sealInPlace : Key → Bytes → Bytes → Bytes → Option Bytes
  openInPlace : Key → Bytes → Bytes → Bytes → Option Bytes

/-- A ciphertext is opened under its own associated data only. -/
structure Aead.Ideal {Key : Type} (aead : Aead Key) : Prop where
  opens {key nonce data plaintext ciphertext} :
    aead.sealInPlace key nonce data plaintext = some ciphertext →
      aead.openInPlace key nonce data ciphertext = some plaintext
  binds {key nonce data plaintext ciphertext key' nonce' data' opened} :
    aead.sealInPlace key nonce data plaintext = some ciphertext →
      aead.openInPlace key' nonce' data' ciphertext = some opened → data' = data ∧ opened = plaintext

structure SealingKey (Key : Type) where
  id : SealingKeyId
  bytes : Key

variable {Key : Type}

def keyOf (keys : List (SealingKey Key)) (id : String) : Option (SealingKey Key) :=
  keys.find? fun key => decide (key.id.value = id)

/-- The keys of a `CertificateSealer`. -/
structure Keyring (Key : Type) where
  activeId : String
  keys : List (SealingKey Key)
  active : SealingKey Key
  available : keyOf keys activeId = some active

namespace Keyring

def new (activeId : String) (keys : List (SealingKey Key)) : Except String (Keyring Key) := do
  require (isSealingKeyId activeId = true) "sealing key ID requires 1–64 ASCII identifier characters"
  require (1 ≤ keys.length ∧ keys.length ≤ 8) "sealing keyring requires 1–8 keys"
  require (keys.map (·.id.value)).Nodup "duplicate sealing key ID"
  match available : keyOf keys activeId with
  | some active => return ⟨activeId, keys, active, available⟩
  | none => throw "active sealing key is unavailable"

variable (aead : Aead Key) (keyring : Keyring Key)

def sealKey (id : CertificateId) (version : Nat) (chainDigest plaintext nonce : Bytes) :
    Except String SealedPrivateKey := do
  let data := associatedData id version chainDigest keyring.activeId
  let ciphertext ← orError (aead.sealInPlace keyring.active.bytes nonce data plaintext)
    "certificate sealing failed"
  return ⟨formatVersion, keyring.activeId, nonce, ciphertext⟩

def openSealed (id : CertificateId) (version : Nat) (chainDigest : Bytes)
    (envelope : SealedPrivateKey) : Except String Bytes := do
  require (envelope.formatVersion = formatVersion) "unsupported certificate sealing envelope"
  let key ← orError (keyOf keyring.keys envelope.keyId) "certificate sealing key is unavailable"
  let data := associatedData id version chainDigest envelope.keyId
  orError (aead.openInPlace key.bytes envelope.nonce data envelope.ciphertext)
    "certificate sealing authentication failed"

/-- The sealer that the store is configured with. -/
def sealer : CertificateSealer := ⟨keyring.sealKey aead, keyring.openSealed aead⟩

variable {aead keyring}

theorem keyOf_id {keys : List (SealingKey Key)} {id : String} {key : SealingKey Key}
    (found : keyOf keys id = some key) : key.id.value = id := by
  simpa using List.find?_some found

theorem openSealed_iff {id : CertificateId} {version : Nat} {chainDigest opened : Bytes}
    {envelope : SealedPrivateKey} :
    keyring.openSealed aead id version chainDigest envelope = .ok opened ↔
      envelope.formatVersion = formatVersion ∧ ∃ key, keyOf keyring.keys envelope.keyId = some key ∧
        aead.openInPlace key.bytes envelope.nonce
          (associatedData id version chainDigest envelope.keyId) envelope.ciphertext = some opened := by
  simp [openSealed]

end Keyring

/-- Different identities have different associated data, so an envelope opens to the key it was
made of under its own identity, and to nothing under another one, whichever keyring opens it and
also when the key id that it names is changed. -/
theorem sealed_key_is_bound {aead : Aead Key} (ideal : aead.Ideal) :
    (∀ identity other : SealedIdentity, identity.associatedData = other.associatedData →
      identity = other) ∧
    ∀ (keyring : Keyring Key) (id : CertificateId) (version : CertificateRevision)
      (chainDigest plaintext nonce : Bytes) (envelope : SealedPrivateKey),
      (keyring.sealer aead).sealKey id version.value chainDigest plaintext nonce = .ok envelope →
      (keyring.sealer aead).openSealed id version.value chainDigest envelope = .ok plaintext ∧
      ∀ (opener : Keyring Key) (id' : CertificateId) (version' : CertificateRevision)
        (chainDigest' : Bytes) (moved : SealedPrivateKey) (opened : Bytes),
        moved.ciphertext = envelope.ciphertext →
        (opener.sealer aead).openSealed id' version'.value chainDigest' moved = .ok opened →
        id' = id ∧ version' = version ∧ chainDigest' = chainDigest ∧
          moved.keyId = envelope.keyId ∧ opened = plaintext := by
  refine ⟨fun _ _ => SealedIdentity.associatedData_inj, ?_⟩
  intro keyring id version chainDigest plaintext nonce envelope sealed
  simp only [Keyring.sealer, Keyring.sealKey, bind_eq_ok, orError_eq_ok, pure_eq_ok] at sealed
  obtain ⟨ciphertext, made, rfl⟩ := sealed
  refine ⟨Keyring.openSealed_iff.mpr ⟨rfl, _, keyring.available, ideal.opens made⟩, ?_⟩
  intro opener id' version' chainDigest' moved opened same opens
  obtain ⟨-, key, found, unsealed⟩ := Keyring.openSealed_iff.mp opens
  rw [same] at unsealed
  obtain ⟨data, rfl⟩ := ideal.binds made unsealed
  have active := Keyring.keyOf_id keyring.available
  have named := Keyring.keyOf_id found
  rw [← active, ← named] at data
  have bound := @SealedIdentity.associatedData_inj ⟨id', version', key.id, chainDigest'⟩
    ⟨id, version, keyring.active.id, chainDigest⟩ data
  simp only [SealedIdentity.mk.injEq] at bound
  obtain ⟨rfl, rfl, keys, rfl⟩ := bound
  exact ⟨rfl, rfl, rfl, by rw [← named, keys, active], rfl⟩

/-- A cipher that shows the associated data in front of the plaintext. -/
def frameCipher : Aead Unit where
  sealInPlace _ _ data plaintext :=
    if data.length < 256 ^ 4 then some (framed data ++ plaintext) else none
  openInPlace _ _ data ciphertext :=
    if data.length < 256 ^ 4 ∧ framed data <+: ciphertext then
      some (ciphertext.drop (framed data).length)
    else none

theorem frameCipher_ideal : frameCipher.Ideal where
  opens sealed := by
    simp only [frameCipher, Option.ite_none_right_eq_some, Option.some.injEq] at sealed ⊢
    obtain ⟨bounded, rfl⟩ := sealed
    simpa using bounded
  binds sealed opened := by
    simp only [frameCipher, Option.ite_none_right_eq_some, Option.some.injEq] at sealed opened
    obtain ⟨bounded, rfl⟩ := sealed
    obtain ⟨⟨bounded', rest, same⟩, rfl⟩ := opened
    obtain ⟨rfl, rfl⟩ := framed_append_inj bounded' bounded same
    simp

def sampleKeyring : Keyring Unit := ⟨"a", [⟨⟨"a", rfl⟩, ()⟩], ⟨⟨"a", rfl⟩, ()⟩, rfl⟩

theorem moved_sample_stays_sealed :
    let sealer := sampleKeyring.sealer frameCipher
    let envelope : SealedPrivateKey :=
      ⟨1, "a", [0], framed (associatedData ⟨"web", rfl⟩ 4 [7] "a") ++ [1, 2]⟩
    sealer.sealKey ⟨"web", rfl⟩ 4 [7] [1, 2] [0] = .ok envelope ∧
      ∀ opened, sealer.openSealed ⟨"web", rfl⟩ 5 [7] envelope ≠ .ok opened := by
  intro sealer envelope
  have made : sealer.sealKey ⟨"web", rfl⟩ 4 [7] [1, 2] [0] = .ok envelope := rfl
  refine ⟨made, fun opened unsealed => ?_⟩
  have bound := (sealed_key_is_bound frameCipher_ideal).2 sampleKeyring ⟨"web", rfl⟩ ⟨4, by decide⟩
    [7] [1, 2] [0] envelope made
  have moved := bound.2 sampleKeyring ⟨"web", rfl⟩ ⟨5, by decide⟩ [7] envelope opened rfl unsealed
  simp at moved

end Sleepypods.Certificates
