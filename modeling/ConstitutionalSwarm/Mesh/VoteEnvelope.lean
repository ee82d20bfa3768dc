import ConstitutionalSwarm.Mesh.Identity
import ConstitutionalSwarm.Data.JsonLemmas

namespace Mesh

open Raising
open PyValue (Dict sortTexts)

variable [Platform]

def canonicalAssignedPeers (peers : List String) : Py (List String) := do
  let normalized ← peers.mapM normalizeVoterId
  raiseIf (normalized = []) (.valueError "assigned_peers must not be empty")
  raiseIf (¬normalized.Nodup)
    (.valueError "assigned_peers must contain distinct voter identities")
  return sortTexts normalized

def rosterPayload (roster : List String) : Bytes :=
  "constitutional-swarm.assigned-peers.v1\x00".encodeUTF8 ++
    (Json.dumps false (.arr (roster.map .str))).encodeUTF8

def canonicalAssignedPeersHash (peers : List String) : Py String := do
  let roster ← canonicalAssignedPeers peers
  return Hex.encode (Apcc.Platform.sha256 (rosterPayload roster))

structure Binding where
  taskId : String
  assignmentId : String
  producerId : String
  artifactId : String
  contentHash : String
  constitutionalHash : String
  deriving DecidableEq

def Binding.entries (b : Binding) : List (String × String) :=
  [("task_id", b.taskId), ("assignment_id", b.assignmentId), ("producer_id", b.producerId),
    ("artifact_id", b.artifactId), ("content_hash", b.contentHash),
    ("constitutional_hash", b.constitutionalHash)]

def Binding.require (kind : String) (actual expected : Binding) : Py Unit :=
  (actual.entries.zip expected.entries).forM fun (a, e) =>
    raiseIf (a.2 ≠ e.2) (.valueError (kind ++ " " ++ a.1 ++ " binding does not match"))

def requireTexts (entries : List (String × String)) : Py Unit :=
  entries.forM fun e => raiseIf (e.2 = "") (.valueError (e.1 ++ " must be a non-empty string"))

def hasFields (data : Dict) (names : List String) : Bool :=
  data.all (fun e => e.1 ∈ names) && names.all fun name => (data.lookup name).isSome

def textField (data : Dict) (name : String) : Py String :=
  match data.lookup name with
  | some (.str s) => .ok s
  | _ => .error (.typeError (name ++ " must be a string"))

def intField (error : PyError) (data : Dict) (name : String) : Py Int :=
  match data.lookup name with
  | some (.int i) => .ok i
  | _ => .error error

def floatField (error : PyError) (data : Dict) (name : String) : Py PyFloat :=
  match data.lookup name with
  | some (.float f) => .ok f
  | _ => .error error

inductive Input (α : Type) where
  | object (value : α)
  | mapping (data : Dict)

structure AssignmentFields where
  protocolVersion : Int
  taskId : String
  assignmentId : String
  assignerId : String
  keyId : String
  producerId : String
  artifactId : String
  contentHash : String
  constitutionalHash : String
  assignedPeers : List String
  quorum : Int
  selectionSeed : String
  issuedAt : PyFloat
  signature : String
  deriving DecidableEq

variable (item : AssignmentFields)

def AssignmentFields.binding : Binding :=
  ⟨item.taskId, item.assignmentId, item.producerId, item.artifactId, item.contentHash,
    item.constitutionalHash⟩

def validateAssignment : Py Unit := do
  raiseIf (item.protocolVersion ≠ 1)
    (.valueError "unsupported signed assignment protocol version")
  let assigner ← normalizeVoterId item.assignerId
  raiseIf (item.assignerId ≠ assigner)
    (.valueError "assigner_id must use its canonical normalized form")
  let _ ← hexOf item.keyId 64 "key_id"
  requireTexts [("task_id", item.taskId), ("assignment_id", item.assignmentId),
    ("producer_id", item.producerId), ("artifact_id", item.artifactId),
    ("content_hash", item.contentHash), ("constitutional_hash", item.constitutionalHash),
    ("selection_seed", item.selectionSeed)]
  let canonicalPeers ← canonicalAssignedPeers item.assignedPeers
  raiseIf (item.assignedPeers ≠ canonicalPeers)
    (.valueError "assigned_peers must be normalized and sorted")
  let producer ← normalizeVoterId item.producerId
  raiseIf (item.producerId ≠ producer)
    (.valueError "producer_id must use its canonical normalized form")
  raiseIf (item.producerId ∈ canonicalPeers)
    (.valueError "producer_id must not be included in assigned_peers")
  raiseIf (item.assignerId ∈ canonicalPeers)
    (.valueError "assigner_id must not be included in assigned_peers")
  ensure (1 ≤ item.quorum ∧ item.quorum ≤ canonicalPeers.length)
    (.valueError "quorum must be within the assigned electorate")
  raiseIf (item.quorum ≤ (canonicalPeers.length / 2 : ℕ))
    (.valueError "quorum must be a strict majority of assigned_peers")
  ensure item.issuedAt.isFinite (.valueError "issued_at must be a finite float")
  let _ ← hexOf item.signature 128 "signature"

/-- The class validates itself when it is constructed, so every object of it is valid. -/
structure SignedAssignment extends AssignmentFields where
  valid : validateAssignment toAssignmentFields = .ok ()
  deriving DecidableEq

def SignedAssignment.ofFields (fields : AssignmentFields) : Py SignedAssignment :=
  match h : validateAssignment fields with
  | .ok () => .ok ⟨fields, h⟩
  | .error e => .error e

def AssignmentFields.unsignedDict : Dict :=
  [("protocol_version", .int item.protocolVersion), ("task_id", .str item.taskId),
    ("assignment_id", .str item.assignmentId), ("assigner_id", .str item.assignerId),
    ("key_id", .str item.keyId), ("producer_id", .str item.producerId),
    ("artifact_id", .str item.artifactId), ("content_hash", .str item.contentHash),
    ("constitutional_hash", .str item.constitutionalHash),
    ("assigned_peers", .list (item.assignedPeers.map .str)), ("quorum", .int item.quorum),
    ("selection_seed", .str item.selectionSeed), ("issued_at", .float item.issuedAt)]

def signedAssignmentToDict : Dict :=
  item.unsignedDict ++ [("signature", .str item.signature)]

def assignmentFieldNames : List String :=
  ["protocol_version", "task_id", "assignment_id", "assigner_id", "key_id", "producer_id",
    "artifact_id", "content_hash", "constitutional_hash", "assigned_peers", "quorum",
    "selection_seed", "issued_at", "signature"]

def peersField (data : Dict) : Py (List String) :=
  let error := Apcc.PyError.typeError "assigned_peers must be a sequence of strings"
  match data.lookup "assigned_peers" with
  | some (.list elems) => elems.mapM fun
    | .str peer => .ok peer
    | _ => .error error
  | _ => .error error

def signedAssignmentFromDict (data : Dict) : Py SignedAssignment := do
  ensure (hasFields data assignmentFieldNames)
    (.valueError "signed assignment schema fields mismatch")
  let assignedPeers ← peersField data
  let taskId ← textField data "task_id"
  let assignmentId ← textField data "assignment_id"
  let assignerId ← textField data "assigner_id"
  let keyId ← textField data "key_id"
  let producerId ← textField data "producer_id"
  let artifactId ← textField data "artifact_id"
  let contentHash ← textField data "content_hash"
  let constitutionalHash ← textField data "constitutional_hash"
  let selectionSeed ← textField data "selection_seed"
  let signature ← textField data "signature"
  let error := Apcc.PyError.typeError "invalid signed assignment scalar type"
  let protocolVersion ← intField error data "protocol_version"
  let quorum ← intField error data "quorum"
  let issuedAt ← floatField error data "issued_at"
  SignedAssignment.ofFields
    { protocolVersion, taskId, assignmentId, assignerId, keyId, producerId, artifactId, contentHash,
      constitutionalHash, assignedPeers, quorum, selectionSeed, issuedAt, signature }

def assignmentOf : Input SignedAssignment → Py SignedAssignment
  | .object item => .ok item
  | .mapping data => signedAssignmentFromDict data

def canonicalJson (data : Dict) : Bytes :=
  (PyValue.dumps false Platform.floatRepr (.dict data)).encodeUTF8

def canonicalSignedAssignmentBytes (includeSignature : Bool) : Bytes :=
  "constitutional-swarm.signed-assignment.v1\x00".encodeUTF8 ++
    canonicalJson (if includeSignature then signedAssignmentToDict item else item.unsignedDict)

def signedAssignmentDigest : String :=
  Hex.encode (Apcc.Platform.sha256
    ("constitutional-swarm.signed-assignment-digest.v1\x00".encodeUTF8 ++
      canonicalSignedAssignmentBytes item true))

variable (key : PrivateKey)

def signAssignment (binding : Binding) (assignerId : String) (assignedPeers : List String)
    (quorum : Int) (selectionSeed : String) (issuedAt : PyFloat)
    : Py SignedAssignment := do
  let assignerId ← normalizeVoterId assignerId
  let producerId ← normalizeVoterId binding.producerId
  let assignedPeers ← canonicalAssignedPeers assignedPeers
  let unsigned ← SignedAssignment.ofFields
    { protocolVersion := 1, taskId := binding.taskId, assignmentId := binding.assignmentId,
      assignerId, keyId := keyIdForPublicKey (Platform.publicKey key), producerId,
      artifactId := binding.artifactId, contentHash := binding.contentHash,
      constitutionalHash := binding.constitutionalHash, assignedPeers, quorum, selectionSeed,
      issuedAt, signature := String.ofList (List.replicate 128 '0') }
  SignedAssignment.ofFields { unsigned.toAssignmentFields with
    signature := Hex.encode
      (Platform.sign key (canonicalSignedAssignmentBytes unsigned.toAssignmentFields false)) }

def producerKeyMatches (registry : Registry) (producerId : String) (assignerKey : PublicKey)
    : Py Bool := do
  let producerKey ← registry.publicKeyForIdentity producerId
  return producerKey = some assignerKey

def requirePinnedAssigner : Option String → Py Unit
  | none => .ok ()
  | some expected => do
    let expected ← normalizeVoterId expected
    raiseIf (item.assignerId ≠ expected) (.valueError
      "signed assignment assigner identity does not match the pinned assigner")

def requirePinnedAssignerKey : Option String → Py Unit
  | none => .ok ()
  | some expected => do
    let expected ← hexOf expected 64 "expected_assigner_key_id"
    raiseIf (item.keyId ≠ expected) (.valueError
      "signed assignment assigner key does not match the pinned assigner key")

def verifySignedAssignment (assignment : Input SignedAssignment) (registry : Registry)
    (binding : Binding) (expectedAssignerId expectedAssignerKeyId : Option String)
    : Py (SignedAssignment × PublicKey) := do
  let item ← assignmentOf assignment
  requirePinnedAssigner item.toAssignmentFields expectedAssignerId
  requirePinnedAssignerKey item.toAssignmentFields expectedAssignerKeyId
  registry.validateTrustRoot
  let key ← registry.authorize item.assignerId item.keyId "assigner"
  let producer ← normalizeVoterId item.producerId
  raiseIf (item.assignerId = producer) (.valueError
    "signed assignment assigner identity must differ from producer identity")
  let matchesProducer ← producerKeyMatches registry item.producerId key
  raiseIf matchesProducer
    (.valueError "signed assignment assigner and producer keys must differ")
  Binding.require "signed assignment" item.binding binding
  ensure (key.verifies item.signature
      (canonicalSignedAssignmentBytes item.toAssignmentFields false))
    (.valueError "signed assignment signature is invalid")
  return (item, key)

inductive EvidenceMode where
  | independent
  | singleOperatorDev
  deriving DecidableEq

def EvidenceMode.value : EvidenceMode → String
  | .independent => "independent"
  | .singleOperatorDev => "single_operator_dev"

def EvidenceMode.ofValue (error : PyError) (value : String) : Py EvidenceMode :=
  if value = "independent" then .ok .independent
  else if value = "single_operator_dev" then .ok .singleOperatorDev
  else .error error

inductive Decision where
  | approved
  | denied
  deriving DecidableEq

def Decision.value : Decision → String
  | .approved => "approved"
  | .denied => "denied"

def Decision.ofValue (value : String) : Py Decision :=
  if value = "approved" then .ok .approved
  else if value = "denied" then .ok .denied
  else .error (.valueError "invalid decision")

structure Electorate where
  assignedPeersHash : String
  assignedPeerCount : Int
  quorum : Int
  evidenceMode : EvidenceMode
  deriving DecidableEq

structure EnvelopeFields where
  protocolVersion : Int
  voterId : String
  keyId : String
  binding : Binding
  electorate : Electorate
  decision : Decision
  reason : String
  nonce : String
  issuedAt : PyFloat
  signature : String
  assignmentDigest : String
  deriving DecidableEq

def validateEnvelope (item : EnvelopeFields) : Py Unit := do
  ensure (item.protocolVersion = 2 ∨ item.protocolVersion = 3)
    (.valueError "unsupported vote envelope protocol version")
  let voter ← normalizeVoterId item.voterId
  raiseIf (item.voterId ≠ voter)
    (.valueError "voter_id must use its canonical normalized form")
  let _ ← hexOf item.keyId 64 "key_id"
  let _ ← hexOf item.electorate.assignedPeersHash 64 "assigned_peers_hash"
  raiseIf (item.electorate.assignedPeerCount < 1)
    (.valueError "assigned_peer_count must be a positive integer")
  ensure (1 ≤ item.electorate.quorum ∧
      item.electorate.quorum ≤ item.electorate.assignedPeerCount)
    (.valueError "quorum must be within the assigned electorate")
  raiseIf (item.electorate.quorum ≤ item.electorate.assignedPeerCount / 2)
    (.valueError "quorum must be a strict majority of assigned_peer_count")
  requireTexts (item.binding.entries ++ [("nonce", item.nonce)])
  ensure item.issuedAt.isFinite (.valueError "issued_at must be a finite float")
  let _ ← hexOf item.signature 128 "signature"
  if item.protocolVersion = 3 then
    let _ ← hexOf item.assignmentDigest 64 "assignment_digest"
  else
    raiseIf (item.assignmentDigest ≠ "")
      (.valueError "legacy vote envelope must not contain assignment_digest")

structure VoteEnvelope extends EnvelopeFields where
  valid : validateEnvelope toEnvelopeFields = .ok ()
  deriving DecidableEq

def VoteEnvelope.approved (item : VoteEnvelope) : Bool :=
  item.decision = .approved

def VoteEnvelope.ofFields (fields : EnvelopeFields) : Py VoteEnvelope :=
  match h : validateEnvelope fields with
  | .ok () => .ok ⟨fields, h⟩
  | .error e => .error e

def envelopeFieldNames (protocolVersion : Option PyValue) : List String :=
  ["protocol_version", "voter_id", "key_id", "task_id", "assignment_id", "producer_id",
    "artifact_id", "content_hash", "constitutional_hash", "assigned_peers_hash",
    "assigned_peer_count", "quorum", "evidence_mode", "decision", "reason", "nonce", "issued_at"] ++
    (if protocolVersion.any (·.eqInt 3) then ["assignment_digest"] else []) ++ ["signature"]

def EnvelopeFields.unsignedDict (item : EnvelopeFields) : Dict :=
  [("protocol_version", .int item.protocolVersion), ("voter_id", .str item.voterId),
    ("key_id", .str item.keyId)] ++
  item.binding.entries.map (fun e => (e.1, .str e.2)) ++
  [("assigned_peers_hash", .str item.electorate.assignedPeersHash),
    ("assigned_peer_count", .int item.electorate.assignedPeerCount),
    ("quorum", .int item.electorate.quorum),
    ("evidence_mode", .str item.electorate.evidenceMode.value),
    ("decision", .str item.decision.value), ("reason", .str item.reason),
    ("nonce", .str item.nonce), ("issued_at", .float item.issuedAt)] ++
  if item.protocolVersion = 3 then [("assignment_digest", .str item.assignmentDigest)] else []

def voteEnvelopeToDict (item : EnvelopeFields) : Dict :=
  item.unsignedDict ++ [("signature", .str item.signature)]

def bindingOfDict (data : Dict) : Py Binding := do
  let taskId ← textField data "task_id"
  let assignmentId ← textField data "assignment_id"
  let producerId ← textField data "producer_id"
  let artifactId ← textField data "artifact_id"
  let contentHash ← textField data "content_hash"
  let constitutionalHash ← textField data "constitutional_hash"
  return { taskId, assignmentId, producerId, artifactId, contentHash, constitutionalHash }

def voteEnvelopeFromDict (data : Dict) : Py VoteEnvelope := do
  let names := envelopeFieldNames (data.lookup "protocol_version")
  ensure (hasFields data names) (.valueError "vote envelope schema fields mismatch")
  let voterId ← textField data "voter_id"
  let keyId ← textField data "key_id"
  let binding ← bindingOfDict data
  let assignedPeersHash ← textField data "assigned_peers_hash"
  let evidenceMode ← textField data "evidence_mode"
  let decision ← textField data "decision"
  let reason ← textField data "reason"
  let nonce ← textField data "nonce"
  let assignmentDigest ←
    if "assignment_digest" ∈ names then textField data "assignment_digest" else pure ""
  let signature ← textField data "signature"
  let error := Apcc.PyError.typeError "invalid vote envelope scalar type"
  let protocolVersion ← intField error data "protocol_version"
  let issuedAt ← floatField error data "issued_at"
  let assignedPeerCount ← intField error data "assigned_peer_count"
  let quorum ← intField error data "quorum"
  let evidenceMode ← EvidenceMode.ofValue
    (.valueError "invalid vote envelope evidence_mode") evidenceMode
  let decision ← Decision.ofValue decision
  VoteEnvelope.ofFields
    { protocolVersion, voterId, keyId, binding,
      electorate := { assignedPeersHash, assignedPeerCount, quorum, evidenceMode },
      decision, reason, nonce, issuedAt, signature, assignmentDigest }

def envelopeOf : Input VoteEnvelope → Py VoteEnvelope
  | .object item => .ok item
  | .mapping data => voteEnvelopeFromDict data

def canonicalVoteEnvelopeBytes (item : EnvelopeFields) (includeSignature : Bool) : Bytes :=
  (if item.protocolVersion = 3 then "constitutional-swarm.vote-envelope.v3\x00".encodeUTF8
    else "constitutional-swarm.vote-envelope.v2\x00".encodeUTF8) ++
  canonicalJson (if includeSignature then voteEnvelopeToDict item else item.unsignedDict)

def voteEnvelopeHash (item : EnvelopeFields) : String :=
  Hex.encode (Apcc.Platform.sha256 (canonicalVoteEnvelopeBytes item true))

def unsignedVote (voterId : String) (binding : Binding) (decision : Decision)
    (reason nonce : String) (issuedAt : PyFloat) (electorate : Electorate)
    (assignmentDigest : String) : EnvelopeFields where
  protocolVersion := 3
  voterId := voterId
  keyId := keyIdForPublicKey (Platform.publicKey key)
  binding := binding
  electorate := electorate
  decision := decision
  reason := reason
  nonce := nonce
  issuedAt := issuedAt
  signature := String.ofList (List.replicate 128 '0')
  assignmentDigest := assignmentDigest

def EnvelopeFields.signedWith (item : EnvelopeFields) : EnvelopeFields :=
  { item with signature := Hex.encode (Platform.sign key (canonicalVoteEnvelopeBytes item false)) }

def signVoteEnvelope (voterId : String) (binding : Binding) (decision : Decision)
    (reason nonce : String) (issuedAt : PyFloat) (assignedPeers : List String) (quorum : Int)
    (evidenceMode : EvidenceMode) (assignmentDigest : String) : Py VoteEnvelope := do
  let roster ← canonicalAssignedPeers assignedPeers
  let voterId ← normalizeVoterId voterId
  let assignedPeersHash ← canonicalAssignedPeersHash roster
  let unsigned ← VoteEnvelope.ofFields (unsignedVote key voterId binding decision reason nonce
    issuedAt { assignedPeersHash, assignedPeerCount := roster.length, quorum, evidenceMode }
    assignmentDigest)
  VoteEnvelope.ofFields (unsigned.toEnvelopeFields.signedWith key)

def verifyVoteEnvelope (item : VoteEnvelope) (registry : Registry) (binding : Binding)
    (requiredRole : String) (expectedAssignmentDigest : Option String) : Py PublicKey := do
  let key ← registry.authorize item.voterId item.keyId requiredRole
  Binding.require "vote envelope" item.binding binding
  raiseIf (expectedAssignmentDigest.any (item.assignmentDigest ≠ ·))
    (.valueError "vote envelope assignment digest does not match")
  ensure (key.verifies item.signature (canonicalVoteEnvelopeBytes item.toEnvelopeFields false))
    (.valueError "vote envelope signature is invalid")
  return key

def commonElectorate : List VoteEnvelope → Py Electorate
  | [] => .error (.valueError "signed vote envelope evidence is required")
  | first :: rest => do
    raiseIf (rest.any (·.electorate ≠ first.electorate))
      (.valueError "vote envelopes disagree on assigned electorate metadata")
    return first.electorate

def requireExpectedPeers (electorate : Electorate) : Option (List String) → Py Unit
  | none => .ok ()
  | some peers => do
    let expected ← canonicalAssignedPeers peers
    let hash ← canonicalAssignedPeersHash expected
    raiseIf (expected.length ≠ electorate.assignedPeerCount ∨
        hash ≠ electorate.assignedPeersHash)
      (.valueError "vote envelope assigned electorate does not match expected peers")

def verifyVoteEnvelopes (decoded : List VoteEnvelope) (registry : Registry) (binding : Binding)
    (requiredRole : String) (expectedAssignedPeers : Option (List String))
    (expectedQuorum : Option Int) (requireIndependent : Bool)
    : Py (List (VoteEnvelope × PublicKey)) := do
  raiseIf (¬(decoded.map (·.voterId)).Nodup)
    (.valueError "vote envelopes must contain distinct voter identities")
  raiseIf (¬(decoded.map (·.keyId)).Nodup)
    (.valueError "duplicate signer key in vote envelopes")
  let electorate ← commonElectorate decoded
  raiseIf (decoded.length ≠ electorate.assignedPeerCount)
    (.valueError "vote envelopes do not contain the complete assigned electorate")
  let actual ← canonicalAssignedPeersHash (decoded.map (·.voterId))
  raiseIf (actual ≠ electorate.assignedPeersHash)
    (.valueError "vote envelope voter set does not match assigned_peers_hash")
  requireExpectedPeers electorate expectedAssignedPeers
  raiseIf (expectedQuorum.any (electorate.quorum ≠ ·))
    (.valueError "vote envelope quorum does not match expected quorum")
  raiseIf (requireIndependent ∧ electorate.evidenceMode ≠ .independent)
    (.valueError "independent vote evidence is required")
  let producer ← normalizeVoterId binding.producerId
  raiseIf (decoded.any (·.voterId = producer))
    (.valueError "producer identity cannot submit a validation vote")
  decoded.mapM fun item => do
    let key ← verifyVoteEnvelope item registry binding requiredRole none
    return (item, key)

/-- The keyword arguments of `verify_assignment_vote_envelopes`, with its defaults. -/
structure VerifyOptions where
  requireIndependent : Bool := true
  requiredRole : String := "voter"
  expectedAssignedPeers : Option (List String) := none
  expectedQuorum : Option Int := none
  assignerTrustRoot : Option FrozenRegistry := none
  expectedAssignerId : Option String := none
  expectedAssignerKeyId : Option String := none

def verifyAssignmentAuthority (signedAssignment : Input SignedAssignment) (registry : Registry)
    (binding : Binding) (options : VerifyOptions) : Py (SignedAssignment × PublicKey) :=
  match options.assignerTrustRoot with
  | none =>
    verifySignedAssignment signedAssignment registry binding options.expectedAssignerId
      options.expectedAssignerKeyId
  | some root => do
    registry.validateTrustRoot
    let (assignment, key) ← verifySignedAssignment signedAssignment root.registry binding
      options.expectedAssignerId options.expectedAssignerKeyId
    let matchesProducer ← producerKeyMatches registry assignment.producerId key
    raiseIf matchesProducer
      (.valueError "signed assignment assigner and producer keys must differ")
    return (assignment, key)

def requireExpectedElectorate (assignment : AssignmentFields) : Option (List String) → Py Unit
  | none => .ok ()
  | some peers => do
    let expected ← canonicalAssignedPeers peers
    raiseIf (expected ≠ assignment.assignedPeers)
      (.valueError "signed assignment electorate does not match expected peers")

def verifyAssignmentVoteEnvelopes (signedAssignment : Input SignedAssignment)
    (envelopes : List (Input VoteEnvelope)) (registry : Registry) (binding : Binding)
    (options : VerifyOptions) : Py (List VoteEnvelope) := do
  let (assignment, assignerKey) ←
    verifyAssignmentAuthority signedAssignment registry binding options
  let decoded ← envelopes.mapM envelopeOf
  raiseIf (decoded.any (·.protocolVersion ≠ 3))
    (.valueError "proof-grade vote evidence requires protocol version 3")
  raiseIf (decoded.any (·.assignmentDigest ≠ signedAssignmentDigest assignment.toAssignmentFields))
    (.valueError "vote envelope assignment digest does not match")
  requireExpectedElectorate assignment.toAssignmentFields options.expectedAssignedPeers
  raiseIf (options.expectedQuorum.any (· ≠ assignment.quorum))
    (.valueError "signed assignment quorum does not match expected quorum")
  let verified ← verifyVoteEnvelopes decoded registry binding options.requiredRole
    (some assignment.assignedPeers) (some assignment.quorum) options.requireIndependent
  raiseIf (verified.any fun (item, key) => item.keyId = assignment.keyId || key = assignerKey)
    (.valueError "assigner key must not be used by a voter identity")
  return verified.map Prod.fst

end Mesh
