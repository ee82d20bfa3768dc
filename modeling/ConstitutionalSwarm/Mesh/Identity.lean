import ConstitutionalSwarm.Apcc.Crypto
import ConstitutionalSwarm.Data.Assoc
import ConstitutionalSwarm.Data.Hex
import ConstitutionalSwarm.Data.PyValue

namespace Mesh

open Raising

@[ext]
structure PublicKey where
  raw : Bytes
  length_raw : raw.length = 32

instance : DecidableEq PublicKey := fun _ _ => decidable_of_iff _ PublicKey.ext_iff.symm

@[ext]
structure PrivateKey where
  seed : Bytes
  length_seed : seed.length = 32

instance : DecidableEq PrivateKey := fun _ _ => decidable_of_iff _ PrivateKey.ext_iff.symm

class Platform extends Apcc.Platform where
  /-- `unicodedata.normalize("NFKC", value)`. -/
  nfkc (value : String) : String
  /-- `unicodedata.category(c) == "Cf"`. -/
  isFormat (c : Char) : Bool
  strip (value : String) : String
  casefold (value : String) : String
  /-- `repr(value)` of a finite float. -/
  floatRepr (value : ℚ) : String
  /-- `format(value, ".17g")` of a finite float. -/
  floatG17 (value : ℚ) : String
  publicKey (key : PrivateKey) : PublicKey
  sign (key : PrivateKey) (message : Bytes) : Bytes
  length_sign (key : PrivateKey) (message : Bytes) : (sign key message).length = 64

variable [Platform]

def normalizeVoterId (value : String) : Py String :=
  let visible := (Platform.nfkc value).toList.filter fun c => !Platform.isFormat c
  let normalized := Platform.casefold (Platform.strip (String.ofList visible))
  if normalized = "" then .error (.valueError "voter_id must not be empty after normalization")
  else .ok normalized

def hexOf (value : String) (length : Nat) (name : String) : Py String :=
  if Hex.isCanonical length value then .ok value
  else .error (.valueError (name ++ " must be canonical lowercase hex"))

inductive KeyInput where
  | key (value : PublicKey)
  | bytes (value : Bytes)
  | text (value : String)

def publicKeyFromRaw (raw : Bytes) : Py PublicKey :=
  if h : raw.length = 32 then .ok ⟨raw, h⟩
  else .error (.valueError "public key must contain exactly 32 Ed25519 bytes")

def publicKeyFrom : KeyInput → Py PublicKey
  | .key value => .ok value
  | .bytes value => publicKeyFromRaw value
  | .text value => do
    let value ← hexOf value 64 "public key"
    publicKeyFromRaw ((Hex.decode value).getD [])

def contentHash (content : String) : String :=
  String.ofList ((Hex.encode (Apcc.Platform.sha256 content.encodeUTF8)).toList.take 32)

variable (r : Registry) (voterId : String) (key : PublicKey)

def keyIdForPublicKey : String :=
  Hex.encode (Apcc.Platform.sha256 key.raw)

def PublicKey.verifies (signature : String) (message : Bytes) : Bool :=
  match Hex.decode signature with
  | some raw => Apcc.Platform.ed25519Verify key.raw raw message
  | none => false

structure Grant where
  identity : String
  keyId : String
  key : PublicKey
  roles : Finset String
  deriving DecidableEq

def votingRoles : Finset String :=
  {"voter", "validator"}

def normalizeRole (role : String) : String :=
  Platform.casefold (Platform.strip role)

def crossesAuthorityBoundary (existing grant : Grant) : Bool :=
  ("assigner" ∈ existing.roles && !Disjoint grant.roles votingRoles) ||
    ("assigner" ∈ grant.roles && !Disjoint existing.roles votingRoles)

def checkGrant (taken : List Grant) (grant : Grant) : Py Unit := do
  let normalized ← normalizeVoterId grant.identity
  raiseIf (grant.identity ≠ normalized)
    (.valueError "vote signer identity must use its canonical normalized form")
  raiseIf (grant.keyId ≠ keyIdForPublicKey grant.key)
    (.valueError "vote signer key ID must equal the public-key fingerprint")
  raiseIf (grant.roles = ∅ ∨
      ∃ role ∈ grant.roles, Platform.strip role = "" ∨ role ≠ normalizeRole role)
    (.valueError "vote signer roles must be non-empty canonical strings")
  raiseIf ("assigner" ∈ grant.roles ∧ ¬Disjoint grant.roles votingRoles)
    (.valueError "assigner and voter/validator roles are mutually exclusive")
  raiseIf (taken.any (·.identity = grant.identity))
    (.valueError "vote signer identities must be unique")
  match taken.find? (·.key = grant.key) with
  | none => return ()
  | some existing =>
    raiseIf (crossesAuthorityBoundary existing grant)
      (.valueError "assigner key must not be used by a voter/validator identity")
    throw (.valueError "vote signer public keys must be unique")

def takeGrant (taken : List Grant) (grant : Grant) : Py (List Grant) := do
  checkGrant taken grant
  return taken ++ [grant]

def validateRegistryGrants (grants : List Grant) : Py (List Grant) :=
  grants.foldlM takeGrant []

/-- `VoteSignerRegistry`: the grants by identity and the identities by key. -/
structure Registry where
  identities : List (String × Grant)
  keys : List (String × String)
  deriving DecidableEq

namespace Registry

def empty : Registry :=
  ⟨[], []⟩

def grants : List Grant :=
  r.identities.map Prod.snd

def sameDict {α β : Type} [DecidableEq α] [DecidableEq β] (a b : List (α × β)) : Bool :=
  a.all (fun e => b.lookup e.1 = some e.2) && b.all (fun e => a.lookup e.1 = some e.2)

def validateTrustRoot : Py Unit := do
  let validated ← validateRegistryGrants r.grants
  ensure (sameDict r.identities (validated.map fun grant => (grant.identity, grant)))
    (.valueError "vote signer identity index does not match registry grants")
  ensure (sameDict r.keys (validated.map fun grant => (grant.keyId, grant.identity)))
    (.valueError "vote signer key index does not match registry grants")

def authorize (keyId role : String) : Py PublicKey := do
  let identity ← normalizeVoterId voterId
  let _ ← hexOf keyId 64 "key_id"
  match r.identities.lookup identity with
  | none => throw (.valueError "vote signer identity and key are not authorized")
  | some grant =>
    raiseIf (grant.keyId ≠ keyId)
      (.valueError "vote signer identity and key are not authorized")
    ensure (normalizeRole role ∈ grant.roles)
      (.valueError ("vote signer is not authorized for role " ++ normalizeRole role))
    return grant.key

def publicKeyForIdentity (identity : String) : Py (Option PublicKey) := do
  let normalized ← normalizeVoterId identity
  return (r.identities.lookup normalized).map Grant.key

def candidateGrant (roles : List String) : Py Grant := do
  raiseIf (roles.any fun role => Platform.strip role = "")
    (.valueError "signer roles must be non-empty strings")
  let identity ← normalizeVoterId voterId
  raiseIf (roles = []) (.valueError "signer roles must not be empty")
  return ⟨identity, keyIdForPublicKey key, key, (roles.map normalizeRole).toFinset⟩

def validateCandidate (candidate : Grant) : Py Unit := do
  let grants := r.grants.map fun grant =>
    if grant.identity = candidate.identity then candidate else grant
  let _ ← validateRegistryGrants <|
    if (r.identities.lookup candidate.identity).isSome then grants else grants ++ [candidate]

def install (candidate : Grant) : Registry where
  identities := Assoc.set candidate.identity candidate r.identities
  keys := Assoc.set candidate.keyId candidate.identity r.keys

def requireOwner (candidate : Grant) : Py Unit :=
  raiseIf ((r.keys.lookup candidate.keyId).any (· ≠ candidate.identity))
    (.valueError "public key is already registered to another voter identity")

def register (roles : List String)
    : Py Registry := do
  let candidate ← candidateGrant voterId key roles
  raiseIf ((r.identities.lookup candidate.identity).any fun old =>
      old.keyId ≠ candidate.keyId || old.roles ≠ candidate.roles)
    (.valueError "voter identity is already registered")
  requireOwner r candidate
  validateCandidate r candidate
  return r.install candidate

def replace (roles : List String)
    : Py Registry := do
  let candidate ← candidateGrant voterId key roles
  requireOwner r candidate
  validateCandidate r candidate
  let keys :=
    match r.identities.lookup candidate.identity with
    | some old => if old.keyId ≠ candidate.keyId then Assoc.erase old.keyId r.keys else r.keys
    | none => r.keys
  return { r with keys }.install candidate

def unregister : Py Registry := do
  let identity ← normalizeVoterId voterId
  match r.identities.lookup identity with
  | none => return r
  | some grant =>
    return ⟨Assoc.erase identity r.identities, Assoc.erase grant.keyId r.keys⟩

end Registry

structure FrozenRegistry where
  registry : Registry
  validated : registry.validateTrustRoot = .ok ()

end Mesh

namespace Mesh.Sample

scoped instance platform : Platform where
  sha256 value := (value ++ List.replicate 32 0).take 32
  length_sha256 value := by simp
  ed25519Verify _ _ _ := true
  isNFC _ := true
  nfkc value := value
  isFormat _ := false
  strip value := value
  casefold value := value
  floatRepr _ := "0.0"
  floatG17 _ := "0"
  publicKey key := ⟨key.seed, key.length_seed⟩
  sign _ _ := List.replicate 64 0
  length_sign _ _ := List.length_replicate

@[simp]
theorem normalizeVoterId_eq (h : name ≠ "") : normalizeVoterId name = .ok name := by
  simp [normalizeVoterId, Platform.nfkc, Platform.isFormat, Platform.strip, Platform.casefold, h]

@[simp]
theorem normalizeRole_eq (role : String) : normalizeRole role = role := rfl

@[simp]
theorem strip_eq (value : String) : Platform.strip value = value := rfl

theorem length_seed (byte : UInt8) : (List.replicate 32 byte).length = 32 :=
  List.length_replicate

def privateKey (byte : UInt8) : PrivateKey :=
  ⟨List.replicate 32 byte, length_seed byte⟩

def publicKey (byte : UInt8) : PublicKey :=
  Platform.publicKey (privateKey byte)

theorem keyIdForPublicKey_eq (key : PublicKey) : keyIdForPublicKey key = Hex.encode key.raw := by
  rw [keyIdForPublicKey]
  congr 1
  change (key.raw ++ List.replicate 32 0).take 32 = key.raw
  rw [List.take_append_of_le_length (by rw [key.length_raw]), ← key.length_raw, List.take_length]

theorem publicKey_injective : Function.Injective publicKey := by
  intro a b h
  have hraw : List.replicate 32 a = List.replicate 32 b := congrArg PublicKey.raw h
  exact (List.replicate_inj.mp hraw).2.resolve_left nofun

@[simp]
theorem keyIdForPublicKey_inj
    : keyIdForPublicKey a = keyIdForPublicKey b ↔ a = b := by
  rw [keyIdForPublicKey_eq, keyIdForPublicKey_eq, Hex.encode_injective.eq_iff]
  constructor
  . intro h
    cases a
    cases b
    simp_all
  . rintro rfl
    rfl

def grant (identity : String) (byte : UInt8) (roles : Finset String) : Grant :=
  ⟨identity, keyIdForPublicKey (publicKey byte), publicKey byte, roles⟩

def registryOf (grants : List Grant) : Registry where
  identities := grants.map fun grant => (grant.identity, grant)
  keys := grants.map fun grant => (grant.keyId, grant.identity)

def registry : Registry :=
  registryOf [grant "a" 1 {"assigner"}, grant "x" 3 {"voter"}, grant "y" 4 {"voter"},
    grant "z" 5 {"voter"}]

theorem validateTrustRoot_registry : registry.validateTrustRoot = .ok () := by
  simp [registry, registryOf, grant, Registry.validateTrustRoot, Registry.grants,
    validateRegistryGrants, takeGrant, checkGrant, votingRoles, Registry.sameDict, Apcc.raiseIf,
    publicKey_injective.eq_iff, Assoc.lookup_cons]

end Mesh.Sample
