import ConstitutionalSwarm.Mesh.Evidence
import ConstitutionalSwarm.Data.ReplayCache
import ConstitutionalSwarm.Data.Transition
import Mathlib.Algebra.Order.Ring.Rat

namespace Mesh

open Raising
open PyValue (Dict sortTexts)

variable [Platform]

structure RemoteVoteRequest where
  assignmentId : String
  voterId : String
  producerId : String
  artifactId : String
  content : String
  contentHash : String
  constitutionalHash : String
  voterPublicKey : String
  nonce : String
  timestamp : ℚ
  requestSignerPublicKey : String
  requestSignature : String
  taskId : String
  assignedPeers : List String
  quorum : Int
  evidenceMode : EvidenceMode
  protocolVersion : Int
  signedAssignment : Option SignedAssignment

variable (peer : Peer) (intact : Bool) (request : RemoteVoteRequest)

namespace RemoteVoteRequest

def binding : Binding where
  taskId := if request.taskId = "" then request.artifactId else request.taskId
  assignmentId := request.assignmentId
  producerId := request.producerId
  artifactId := request.artifactId
  contentHash := request.contentHash
  constitutionalHash := request.constitutionalHash

def payloadDict (canonicalPeers : List String) (authority : SignedAssignment) : Dict :=
  [("artifact_id", .str request.artifactId), ("assignment_id", .str request.assignmentId),
    ("constitutional_hash", .str request.constitutionalHash), ("content", .str request.content),
    ("content_hash", .str request.contentHash), ("nonce", .str request.nonce),
    ("producer_id", .str request.producerId), ("protocol_version", .int request.protocolVersion),
    ("assigned_peers", .list (canonicalPeers.map .str)), ("quorum", .int request.quorum),
    ("evidence_mode", .str request.evidenceMode.value),
    ("timestamp", .str (Platform.floatG17 request.timestamp)),
    ("task_id", .str request.binding.taskId), ("voter_id", .str request.voterId),
    ("voter_public_key", .str request.voterPublicKey),
    ("signed_assignment", .dict (signedAssignmentToDict authority.toAssignmentFields)),
    ("assignment_digest", .str (signedAssignmentDigest authority.toAssignmentFields))]

def buildPayload : Py Bytes := do
  let normalized ← request.assignedPeers.mapM normalizeVoterId
  let canonicalPeers := sortTexts normalized
  raiseIf (canonicalPeers = [] ∨ ¬canonicalPeers.Nodup)
    (.valueError "remote vote request requires distinct assigned peers")
  let voter ← normalizeVoterId request.voterId
  ensure (voter ∈ canonicalPeers)
    (.valueError "remote vote request voter is not in assigned_peers")
  ensure (1 ≤ request.quorum ∧ request.quorum ≤ canonicalPeers.length)
    (.valueError "remote vote request quorum is outside the electorate")
  raiseIf (request.quorum ≤ (canonicalPeers.length / 2 : ℕ))
    (.valueError "remote vote request quorum must be a strict majority")
  match request.signedAssignment with
  | none => throw (.valueError "remote vote request requires signed assignment")
  | some authority =>
    raiseIf (authority.binding ≠ request.binding ∨ authority.assignedPeers ≠ canonicalPeers ∨
        authority.quorum ≠ request.quorum)
      (.valueError "remote vote request signed assignment bindings mismatch")
    return "constitutional-swarm.remote-vote-request.v3\x00".encodeUTF8 ++
      (PyValue.dumps true Platform.floatRepr
        (.dict (request.payloadDict canonicalPeers authority))).encodeUTF8

def hasValidSignature : Bool :=
  let verified : Py Bool := do
    let key ← publicKeyFrom (.text request.requestSignerPublicKey)
    let payload ← request.buildPayload
    return key.verifies request.requestSignature payload
  match verified with
  | .ok valid => valid
  | .error _ => false

def verify (replayWindowSeconds now : ℚ) : Py Unit := do
  raiseIf (request.protocolVersion ≠ 3)
    (.valueError "Remote vote request uses an unsupported protocol version")
  raiseIf (replayWindowSeconds ≤ 0)
    (.valueError "Remote vote replay window must be positive")
  raiseIf (request.nonce = "") (.valueError "Remote vote request is missing nonce")
  raiseIf (replayWindowSeconds < |now - request.timestamp|)
    (.valueError "Remote vote request timestamp is outside replay window")
  ensure request.hasValidSignature (.valueError "Remote vote request signature is invalid")

end RemoteVoteRequest

structure Verdict where
  valid : Bool
  violations : List String
  constitutionalHash : String

/-- `LocalRemotePeer`, without the nonce caches that its calls share. -/
structure Peer where
  agentId : String
  privateKey : PrivateKey
  constitutionalHash : String
  trustedRequestSigners : List String
  trustedAssigners : FrozenRegistry
  replayWindowSeconds : ℚ
  validate : String → Py Verdict

variable (now : ℚ)

namespace Peer

def maxNoncesPerSigner : ℕ :=
  10000

def publicKeyHex : String :=
  Hex.encode (Platform.publicKey peer.privateKey).raw

def assertConstitutionUnchanged : Py Unit :=
  ensure intact (.runtimeError "Remote peer constitution changed after initialization")

def requireSignedAssignment : Py SignedAssignment :=
  match request.signedAssignment with
  | none => .error (.valueError "Remote vote request is missing its signed assignment")
  | some signed => do
    let (assignment, _) ← verifySignedAssignment (.object signed) peer.trustedAssigners.registry
      request.binding none none
    return assignment

def checkRequest : Py SignedAssignment := do
  raiseIf (request.voterId ≠ peer.agentId) (.valueError
    ("Vote request intended for " ++ request.voterId ++ ", but peer is " ++ peer.agentId))
  raiseIf (request.voterPublicKey ≠ peer.publicKeyHex)
    (.valueError "Vote request public key does not match remote peer identity")
  assertConstitutionUnchanged intact
  raiseIf (request.constitutionalHash ≠ peer.constitutionalHash) (.valueError
    "Remote vote request constitutional hash does not match local constitution")
  let assignment ← peer.requireSignedAssignment request
  ensure (peer.agentId ∈ assignment.assignedPeers)
    (.valueError "Remote peer is not a member of the signed assignment")
  raiseIf (request.assignedPeers ≠ assignment.assignedPeers)
    (.valueError "Remote vote request electorate does not match signed assignment")
  raiseIf (request.quorum ≠ assignment.quorum)
    (.valueError "Remote vote request quorum does not match signed assignment")
  ensure (request.requestSignerPublicKey ∈ peer.trustedRequestSigners)
    (.valueError "Remote vote request signer is not trusted")
  return assignment

def verifyRequest : Py SignedAssignment := do
  let assignment ← peer.checkRequest intact request
  request.verify peer.replayWindowSeconds now
  return assignment

def expiresAt : ℚ :=
  max now request.timestamp + peer.replayWindowSeconds

def refusalError : ReplayCache.Refusal → PyError
  | .replayed => .mesh .remoteVoteReplay ("Remote vote request nonce '" ++ request.nonce ++
      "' was already used inside the replay window")
  | .full => .mesh .remoteVoteReplay "Remote vote request nonce capacity reached for signer"

abbrev NonceCaches := List (String × List (String × ℚ))

def cacheOf (caches : NonceCaches) (signer : String) : List (String × ℚ) :=
  (caches.lookup signer).getD []

def admitRequestNonce (caches : NonceCaches) (request : RemoteVoteRequest) (now : ℚ)
    : NonceCaches × Option ReplayCache.Refusal :=
  let (cache, refusal) := ReplayCache.accept maxNoncesPerSigner
    (cacheOf caches request.requestSignerPublicKey) request.nonce now (peer.expiresAt request now)
  (Assoc.set request.requestSignerPublicKey cache caches, refusal)

def answer (assignment : SignedAssignment) : Py VoteEnvelope := do
  raiseIf (contentHash request.content ≠ request.contentHash)
    (.valueError "Remote vote request content does not match content hash")
  let result ← peer.validate request.content
  assertConstitutionUnchanged intact
  raiseIf (result.constitutionalHash ≠ peer.constitutionalHash)
    (.runtimeError "Remote peer validator used an unexpected constitution")
  signVoteEnvelope peer.privateKey request.voterId
    { request.binding with constitutionalHash := peer.constitutionalHash }
    (if result.valid then .approved else .denied)
    (if result.valid then "constitutional check passed"
      else "; ".intercalate result.violations)
    request.nonce (.finite request.timestamp) request.assignedPeers request.quorum
    request.evidenceMode (signedAssignmentDigest assignment.toAssignmentFields)

inductive Phase where
  | verified (now : ℚ) (assignment : SignedAssignment)
  | refused (error : PyError)
  | admitted (now : ℚ) (assignment : SignedAssignment)
  | failed (now : ℚ) (error : PyError)
  | returned (now : ℚ) (envelope : VoteEnvelope)

def Phase.admittedAt : Phase → Option ℚ
  | .verified _ _ | .refused _ => none
  | .admitted now _ | .failed now _ | .returned now _ => some now

structure Call where
  request : RemoteVoteRequest
  phase : Phase

structure State where
  clock : ℚ
  caches : NonceCaches
  calls : List Call
  /-- The signers and clock readings of the lock sections, for stating their order. -/
  sections : List (String × ℚ)

def init (clock : ℚ) : State :=
  ⟨clock, [], [], []⟩

inductive Action where
  | tick (now : ℚ)
  | verify (request : RemoteVoteRequest) (intact : Bool)
  | accept (call : ℕ)
  | answer (call : ℕ) (intact : Bool)

def newCall : Call where
  request := request
  phase :=
    match peer.verifyRequest intact request now with
    | .ok assignment => .verified now assignment
    | .error e => .refused e

def settledPhase (assignment : SignedAssignment)
    : Option ReplayCache.Refusal → Phase
  | none => .admitted now assignment
  | some refusal => .refused (refusalError request refusal)

def answeredPhase (assignment : SignedAssignment) : Phase :=
  match peer.answer intact request assignment with
  | .ok envelope => .returned now envelope
  | .error e => .failed now e

def step (s : State) : Action → Except Unit State
  | .tick now => if s.clock ≤ now then .ok { s with clock := now } else .error ()
  | .verify request intact =>
    .ok { s with calls := s.calls ++ [peer.newCall intact request s.clock] }
  | .accept i =>
    match s.calls[i]? with
    | some ⟨request, .verified now assignment⟩ =>
      let (caches, refusal) := peer.admitRequestNonce s.caches request now
      .ok { s with
        caches
        calls := s.calls.set i ⟨request, settledPhase request now assignment refusal⟩
        sections := s.sections ++ [(request.requestSignerPublicKey, now)] }
    | _ => .error ()
  | .answer i intact =>
    match s.calls[i]? with
    | some ⟨request, .admitted now assignment⟩ =>
      .ok { s with
        calls := s.calls.set i ⟨request, peer.answeredPhase intact request now assignment⟩ }
    | _ => .error ()

end Peer

end Mesh
