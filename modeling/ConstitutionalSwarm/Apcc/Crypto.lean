import ConstitutionalSwarm.Apcc.Failure
import ConstitutionalSwarm.Data.BigEndian

/-!
This module contains the SHA-256 and Ed25519 primitives of the protocol, over an arbitrary platform
that provides the hash function, the signature check and Unicode normalization.
-/

namespace Apcc

/--
What the standard library and the cryptography package provide. Nothing is assumed of the hash but
the size of its digests.
-/
class Platform where
  sha256 : Bytes → Bytes
  length_sha256 (value : Bytes) : (sha256 value).length = 32
  /-- `Ed25519PublicKey.from_public_bytes(key).verify(signature, message)` does not raise. -/
  ed25519Verify (publicKey signature message : Bytes) : Bool
  /-- `unicodedata.normalize("NFC", value) == value`. -/
  isNFC (value : String) : Bool

variable [Platform]

def b64uDecode (value : String) (expectedLength : Option Nat) : Py Bytes :=
  match Base64.decode value with
  | some decoded =>
    if expectedLength.all (decoded.length = ·) then .ok decoded
    else .error (.valueError "unexpected decoded length")
  | none => .error (.valueError "invalid base64url")

def sha256Digest (value : Bytes) : String :=
  Base64.encode (Platform.sha256 value)

inductive Domain where
  | proposal
  | policy
  | authority
  | commit
  | authorityStatus
  | authorityObservation
  | controllerLaunch
  deriving DecidableEq

def Domain.bytes : Domain → Bytes
  | .proposal => "APCC-PROPOSAL-V1".encodeUTF8
  | .policy => "APCC-POLICY-V1".encodeUTF8
  | .authority => "APCC-AUTHORITY-V1".encodeUTF8
  | .commit => "APCC-COMMIT-V1".encodeUTF8
  | .authorityStatus => "APCC-AUTHORITY-STATUS-V1".encodeUTF8
  | .authorityObservation => "APCC-B6-AUTHORITY-OBSERVATION-V1".encodeUTF8
  | .controllerLaunch => "APCC-B6-CONTROLLER-LAUNCH-V1".encodeUTF8

def domains : List Bytes :=
  [Domain.proposal, .policy, .authority, .commit, .authorityStatus, .authorityObservation,
    .controllerLaunch].map Domain.bytes

def domainPreimage (domain payload : Bytes) : Py Bytes := do
  raiseIf (domain ∉ domains) (.valueError "unknown APCC signature domain")
  return domain ++ 0 :: payload

def verifyDetached (publicKey : Bytes) (domain : Domain) (payload : Bytes) (signatureB64u : String)
    : Bool :=
  publicKey.length = 32 &&
    match b64uDecode signatureB64u (some 64), domainPreimage domain.bytes payload with
    | .ok signature, .ok message => Platform.ed25519Verify publicKey signature message
    | _, _ => false

def isPlainIdChar (c : Char) : Bool :=
  c.isAlphanum || c = '.' || c = '_' || c = ':' || c = '-'

def isPlainId (s : String) : Bool :=
  match s.toList with
  | [] => false
  | c :: rest =>
    c.isAlphanum && rest.all isPlainIdChar && rest.length ≤ 127 &&
      !(((c :: rest).zip rest).contains ('.', '.'))

end Apcc

namespace Apcc.Sample

-- Two entries of the trust log have one length and differ in the digit of their sequence number.
scoped instance platform : Platform where
  sha256 value := List.replicate 23 0 ++ value.getD 153 0 :: BigEndian.bytes 8 value.length
  length_sha256 value := by simp
  ed25519Verify _ _ _ := true
  isNFC _ := true

theorem fields_eq_of_sha256Digest (h : sha256Digest a = sha256Digest b)
    : a.getD 153 0 = b.getD 153 0 ∧ BigEndian.bytes 8 a.length = BigEndian.bytes 8 b.length := by
  have hbytes := congrArg Base64.decode h
  rw [sha256Digest, sha256Digest, Base64.decode_encode, Base64.decode_encode, Option.some.injEq]
    at hbytes
  exact List.cons.inj (List.append_cancel_left hbytes)

theorem length_eq_of_sha256Digest (h : sha256Digest a = sha256Digest b)
    (ha : a.length < 2 ^ 64) (hb : b.length < 2 ^ 64) : a.length = b.length :=
  (BigEndian.bytes_inj ha hb).mp (fields_eq_of_sha256Digest h).2

end Apcc.Sample
