import ConstitutionalSwarm.Mesh.SettlementStore
import Mathlib.Algebra.Order.Ring.Rat

namespace Mesh

open Raising
open PyValue (Dict)

variable [Platform]

structure Config where
  constitutionalHash : String
  peersPerValidation : Nat
  quorum : Int
  evidenceMode : EvidenceMode
  assignerId : String
  rootId : String
  assignerKey : PrivateKey
  receiptKey : PrivateKey
  riskScoring : Bool
  maxPendingAssignments : Int
  maxSettledResults : Nat

structure ValidationVote where
  voterId : String
  approved : Bool
  reason : String
  signature : String
  timestamp : PyFloat
  deriving DecidableEq

inductive QuarantineCause where
  | malformed
  | hashTagMismatch
  | evidenceRejected
  deriving DecidableEq

structure State where
  registry : Registry
  agents : List String
  privateKeys : List (String × PrivateKey)
  assignments : List (String × PeerAssignment)
  pendingAssignments : Int
  votes : List (String × List ValidationVote)
  voteEnvelopes : List (String × List VoteEnvelope)
  signedEnvelopes : List (String × VoteEnvelope)
  finalResults : List (String × MeshResult)
  quarantined : List (String × QuarantineCause)
  halted : Bool
  store : SettlementStore

variable (c : Config) (s : State) (assignmentId : String)

variable (assignment : PeerAssignment) (agentId voterId : String)

namespace State

def votesOn : List ValidationVote :=
  (s.votes.lookup assignmentId).getD []

def envelopesOn : List VoteEnvelope :=
  (s.voteEnvelopes.lookup assignmentId).getD []

def putAssignment : State :=
  let previous := s.assignments.lookup assignment.assignmentId
  { s with
    assignments := Assoc.set assignment.assignmentId assignment s.assignments
    pendingAssignments := s.pendingAssignments -
      (if previous.any (!·.isRecovered) then 1 else 0) + if assignment.isRecovered then 0 else 1 }

def popAssignment : State :=
  let previous := s.assignments.lookup assignmentId
  { s with
    assignments := Assoc.erase assignmentId s.assignments
    pendingAssignments := s.pendingAssignments - if previous.any (!·.isRecovered) then 1 else 0 }

def purgeSignedEnvelopes : State :=
  { s with
    signedEnvelopes := s.signedEnvelopes.filter fun e => e.2.binding.assignmentId ≠ assignmentId }

def evict : State :=
  let s := s.popAssignment assignmentId
  { s with votes := Assoc.erase assignmentId s.votes }.purgeSignedEnvelopes assignmentId

def evictOldest (s : State) : Nat → State
  | 0 => s
  | excess + 1 =>
    match s.finalResults with
    | [] => s
    | (oldest, _) :: rest => ({ s with finalResults := rest }.evict oldest).evictOldest excess

end State

def rememberFinalResult (result : MeshResult)
    : State :=
  let finalResults := Assoc.erase assignmentId s.finalResults ++ [(assignmentId, result)]
  { s with finalResults }.evictOldest (finalResults.length - c.maxSettledResults)

def Config.assignerKeyId : String :=
  keyIdForPublicKey (Platform.publicKey c.assignerKey)

def Config.assignerGrant : Grant :=
  ⟨c.rootId, c.assignerKeyId, Platform.publicKey c.assignerKey, {"assigner"}⟩

def Config.assignerTrustRoot : Registry where
  identities := [(c.rootId, c.assignerGrant)]
  keys := [(c.assignerKeyId, c.rootId)]

def normalizeAgentId : Py String := do
  let normalized ← normalizeVoterId agentId
  raiseIf (normalized = c.assignerId) (.valueError "assignment authority identity is reserved")
  return normalized

def agentRoles : List String :=
  ["voter", "validator"]

def addAgent (agents : List String) (agentId : String) : List String :=
  if agentId ∈ agents then agents else agents ++ [agentId]

def registerRemoteAgent (key : KeyInput)
    : Py State := do
  let agentId ← normalizeAgentId c agentId
  let key ← publicKeyFrom key
  let registry ← s.registry.replace agentId key agentRoles
  return { s with
    registry
    agents := addAgent s.agents agentId
    privateKeys := Assoc.erase agentId s.privateKeys }

def registerLocalSigner (key : PrivateKey)
    : Py State := do
  let agentId ← normalizeAgentId c agentId
  let registry ← s.registry.replace agentId (Platform.publicKey key) agentRoles
  return { s with
    registry
    agents := addAgent s.agents agentId
    privateKeys := Assoc.set agentId key s.privateKeys }

def unregisterAgent : Py State := do
  let agentId ← normalizeAgentId c agentId
  let registry ← s.registry.unregister agentId
  return { s with
    registry
    agents := s.agents.filter (· ≠ agentId)
    privateKeys := Assoc.erase agentId s.privateKeys }

def checkHalted : Py Unit :=
  raiseIf s.halted (.mesh .meshHalted "Mesh is halted — all operations blocked")

def requireCurrentConstitution : Py Unit :=
  raiseIf (assignment.constitutionalHash ≠ c.constitutionalHash) (.mesh .meshSnapshotStale
    ("Assignment " ++ assignment.assignmentId ++ " belongs to a stale constitution"))

def neededPeers (available : Nat) (risk : ℚ) : Nat :=
  let base := min c.peersPerValidation available
  if c.riskScoring ∧ risk ≥ 4 / 5 then available
  else if c.riskScoring ∧ risk ≥ 1 / 2 then min (base + 1) available
  else base

def validateSelectedPeers (selected available : List String) (needed : Nat) : Py Unit := do
  raiseIf (selected.length ≠ needed) (.valueError
    ("peer selection must return exactly " ++ toString needed ++ " peers"))
  selected.forM fun peer =>
    ensure (normalizeVoterId peer = .ok peer)
      (.valueError "peer selection must return canonical peer identities")
  raiseIf (¬selected.Nodup)
    (.valueError "peer selection must return distinct peer identities")
  raiseIf (selected.any (· ∉ available))
    (.valueError "peer selection returned an unavailable or producer identity")

structure ValidationRequest where
  producerId : String
  content : String
  artifactId : String
  taskId : Option String
  risk : Py ℚ
  selectPeers : List String → Nat → Py (List String)
  assignmentId : String
  selectionSeed : String
  issuedAt : ℚ

def signRequest (r : ValidationRequest) (producerId : String) (peers : List String)
    : Py PeerAssignment := do
  let taskId := match r.taskId with
    | some taskId => if taskId = "" then r.artifactId else taskId
    | none => r.artifactId
  let signed ← signAssignment c.assignerKey
    { taskId, assignmentId := r.assignmentId, producerId, artifactId := r.artifactId
      contentHash := contentHash r.content, constitutionalHash := c.constitutionalHash }
    c.assignerId peers (max c.quorum (peers.length / 2 + 1 : ℕ)) r.selectionSeed
    (.finite r.issuedAt)
  let assignedPeersHash ← canonicalAssignedPeersHash signed.assignedPeers
  return {
    assignmentId := r.assignmentId, producerId, artifactId := r.artifactId, content := r.content
    contentHash := contentHash r.content, peers := signed.assignedPeers
    constitutionalHash := c.constitutionalHash, timestamp := .finite r.issuedAt, taskId
    isRecovered := false, assignedPeersHash, assignedPeerCount := signed.assignedPeers.length
    quorum := signed.quorum, evidenceMode := some c.evidenceMode, signedAssignment := some signed }

def requestValidation (r : ValidationRequest)
    : Py (PeerAssignment × State) := do
  let producerId ← normalizeVoterId r.producerId
  checkHalted s
  raiseIf (s.pendingAssignments ≥ c.maxPendingAssignments) (.mesh .meshCapacity
    ("mesh pending assignment capacity " ++ toString c.maxPendingAssignments ++ " reached"))
  ensure (producerId ∈ s.agents) (.keyError ("Producer " ++ producerId ++ " not registered"))
  let available := s.agents.filter (· ≠ producerId)
  let risk ← r.risk
  let needed := neededPeers c available.length risk
  raiseIf (needed < c.quorum) (.mesh .insufficientPeers ("Need " ++ toString c.quorum ++
    " peers for quorum, only " ++ toString needed ++ " available"))
  let peers ← r.selectPeers available needed
  validateSelectedPeers peers available needed
  let assignment ← signRequest c r producerId peers
  let s := s.putAssignment assignment
  return (assignment, { s with votes := Assoc.set assignment.assignmentId [] s.votes })

def assignmentEvidenceMode : Py EvidenceMode := do
  let locallyHeld := assignment.peers.countP fun peer => (s.privateKeys.lookup peer).isSome
  raiseIf (locallyHeld > 1 ∧ c.evidenceMode ≠ .singleOperatorDev) (.valueError
    ("signing for multiple assigned voter identities requires explicit " ++
      "evidence_mode='single_operator_dev'"))
  return assignment.evidenceMode.getD c.evidenceMode

def verifyEnvelopeAssignmentMetadata (envelope : VoteEnvelope) (assignment : PeerAssignment)
    : Py Unit := do
  raiseIf assignment.signedAssignment.isNone
    (.valueError "signed assignment evidence is required")
  let peersHash ← canonicalAssignedPeersHash assignment.peers
  let mode ← assignmentEvidenceMode c s assignment
  raiseIf (envelope.protocolVersion ≠ 3 ∨
      envelope.assignmentDigest ≠ assignment.signedAssignmentDigest ∨
      envelope.electorate ≠
        ⟨peersHash, assignment.peers.length, assignment.effectiveQuorum c.quorum, mode⟩)
    (.valueError "vote envelope electorate metadata does not match assignment")

def openAssignment : Py PeerAssignment := do
  raiseIf (s.finalResults.lookup assignmentId).isSome (.mesh .assignmentSettled
    ("Assignment " ++ assignmentId ++ " is already settled"))
  match s.assignments.lookup assignmentId with
  | none => throw (.keyError ("Assignment " ++ assignmentId ++ " not found"))
  | some assignment =>
    requireCurrentConstitution c assignment
    raiseIf assignment.isRecovered (.mesh .recoveredAssignment
      ("Assignment " ++ assignmentId ++ " is already durably settled"))
    return assignment

def voteTarget : Py PeerAssignment := do
  checkHalted s
  let assignment ← openAssignment c s assignmentId
  ensure (voterId ∈ assignment.peers) (.mesh .unauthorizedVoter
    (voterId ++ " is not assigned to validation " ++ assignmentId))
  ensure (voterId ∈ s.agents)
    (.mesh .unauthorizedVoter (voterId ++ " is not a registered mesh agent"))
  return assignment

def recordVerifiedVote (verified : VoteEnvelope) (now : ℚ) : Py (ValidationVote × State) := do
  let assignmentId := assignment.assignmentId
  let existing := s.votesOn assignmentId
  raiseIf (existing.any (·.voterId = voterId)) (.mesh .duplicateVote
    (voterId ++ " already voted on " ++ assignmentId))
  let vote : ValidationVote :=
    ⟨voterId, verified.approved, verified.reason, verified.signature, .finite now⟩
  return (vote, { s with
    signedEnvelopes := Assoc.erase verified.signature s.signedEnvelopes
    votes := Assoc.set assignmentId (existing ++ [vote]) s.votes
    voteEnvelopes := Assoc.set assignmentId (s.envelopesOn assignmentId ++ [verified])
      s.voteEnvelopes })

def signVote (approved : Bool) (reason nonce : String) (now : ℚ)
    : Py (String × State) := do
  let voterId ← normalizeVoterId voterId
  let assignment ← openAssignment c s assignmentId
  ensure (voterId ∈ assignment.peers) (.mesh .unauthorizedVoter
    (voterId ++ " is not assigned to validation " ++ assignmentId))
  match s.privateKeys.lookup voterId with
  | none => throw (.mesh .unauthorizedVoter (voterId ++ " has no registered vote signing key"))
  | some key =>
    let mode ← assignmentEvidenceMode c s assignment
    let envelope ← signVoteEnvelope key voterId assignment.binding
      (if approved then .approved else .denied) reason nonce (.finite now) assignment.peers
      (assignment.effectiveQuorum c.quorum) mode assignment.signedAssignmentDigest
    raiseIf (s.signedEnvelopes.length ≥ 10000)
      (.mesh .meshCapacity "pending locally signed vote capacity reached")
    return (envelope.signature,
      { s with signedEnvelopes := Assoc.set envelope.signature envelope s.signedEnvelopes })

def verifySubmittedVote (approved : Bool) (reason signature : String) : Py VoteEnvelope := do
  match s.signedEnvelopes.lookup signature with
  | none => throw (.keyError signature)
  | some envelope =>
    let _ ← verifyVoteEnvelope envelope s.registry assignment.binding "voter" none
    verifyEnvelopeAssignmentMetadata c s envelope assignment
    let normalized ← normalizeVoterId voterId
    raiseIf (envelope.voterId ≠ normalized ∨ envelope.approved ≠ approved ∨
        envelope.reason ≠ reason)
      (.valueError "vote envelope does not match submitted vote")
    return envelope

def recordVote (approved : Bool) (reason signature : String) (now : ℚ)
    : Py (ValidationVote × State) := do
  let assignment ← voteTarget c s assignmentId voterId
  match verifySubmittedVote c s assignment voterId approved reason signature with
  | .error _ => throw (.mesh .invalidVoteSignature
      ("Invalid or unsigned vote envelope for " ++ voterId ++ " on " ++ assignmentId))
  | .ok verified => recordVerifiedVote s assignment voterId verified now

def recordVoteEnvelope (envelope : VoteEnvelope) (now : ℚ)
    : Py (ValidationVote × State) := do
  let assignment ← voteTarget c s envelope.binding.assignmentId envelope.voterId
  let digest := assignment.signedAssignmentDigest
  let _ ← verifyVoteEnvelope envelope s.registry assignment.binding "voter"
    (if digest = "" then none else some digest)
  verifyEnvelopeAssignmentMetadata c s envelope assignment
  recordVerifiedVote s assignment envelope.voterId envelope now

def previewResult : Py MeshResult := do
  requireCurrentConstitution c assignment
  let votes := s.votesOn assignment.assignmentId
  let votesFor : Int := votes.countP (·.approved)
  let votesAgainst : Int := votes.countP (!·.approved)
  let pending : Int := assignment.peers.length - votes.length
  let (accepted, rejected) := assignment.settlementOutcomes c.quorum votesFor votesAgainst
  return {
    assignmentId := assignment.assignmentId, accepted, votesFor, votesAgainst
    quorumMet := (accepted || rejected) && pending = 0
    pendingVotes := pending
    constitutionalHash := assignment.constitutionalHash
    proof := none, settled := false, settledAt := none
    voteEnvelopes := s.envelopesOn assignment.assignmentId
    signedAssignment := assignment.signedAssignment }

def serializeAssignment : Py Dict := do
  let assignedPeersHash ← canonicalAssignedPeersHash assignment.peers
  let mode ← assignmentEvidenceMode c s assignment
  return assignmentToDict assignment assignedPeersHash (assignment.effectiveQuorum c.quorum) mode

def buildSettlementRecord (result : MeshResult)
    : Py SettlementRecord := do
  let serialized ← serializeAssignment c s assignment
  return {
    assignment := serialized, result := serializeResult result
    constitutionalHash := .str assignment.constitutionalHash, schemaVersion := 2
    isRecovered := assignment.isRecovered, receiptDigest := none, votes := [] }

structure Frozen where
  final : MeshResult
  votes : List VoteEnvelope
  pendingRecord : SettlementRecord
  settledRecord : SettlementRecord
  recoveredAssignment : PeerAssignment

def freezeResult (preview : MeshResult) (envelopes : List VoteEnvelope) (settledAt : PyFloat)
    : MeshResult :=
  { preview with
    quorumMet := true
    proof := some (buildProof assignment envelopes preview.accepted settledAt)
    settled := true
    settledAt := some settledAt
    signedAssignment := assignment.signedAssignment }

def freezeAssignment (now : ℚ) : Py Frozen := do
  match s.assignments.lookup assignmentId with
  | none => throw (.keyError ("Assignment " ++ assignmentId ++ " not found"))
  | some assignment =>
    requireCurrentConstitution c assignment
    raiseIf assignment.isRecovered (.mesh .recoveredAssignment
      ("Assignment " ++ assignmentId ++ " is already durably settled"))
    let preview ← previewResult c s assignment
    ensure preview.quorumMet (.valueError
      ("Assignment " ++ assignmentId ++ " cannot settle before quorum is reached"))
    let votes := s.envelopesOn assignmentId
    let final := freezeResult assignment preview votes (.finite now)
    let pendingRecord ← buildSettlementRecord c s assignment final
    let recoveredAssignment := { assignment with isRecovered := true }
    let settledRecord ← buildSettlementRecord c s recoveredAssignment final
    return {
      final, votes
      pendingRecord := { pendingRecord with votes := voteDicts votes }
      settledRecord, recoveredAssignment }

def freeze (now : ℚ)
    : Py (MeshResult ⊕ Frozen) :=
  match s.finalResults.lookup assignmentId with
  | some final =>
    if (s.assignments.lookup assignmentId).any (·.isRecovered) then
      .error (.mesh .recoveredAssignment
        ("Assignment " ++ assignmentId ++ " is already durably settled"))
    else .ok (.inl final)
  | none => do
    let frozen ← freezeAssignment c s assignmentId now
    return .inr frozen

def install (final : MeshResult)
    : MeshResult ⊕ State :=
  match s.finalResults.lookup assignmentId with
  | some existing => .inl existing
  | none => .inr (rememberFinalResult c s assignmentId final)

def receiptTrustRegistry (registry : Registry) : TrustedSigners :=
  let grants := (exportTrustGrants c.assignerTrustRoot.grants "assigner").foldl
    (fun signers entry => Assoc.set entry.1 entry.2 signers)
    (exportTrustGrants registry.grants "validator")
  Assoc.set receiptSignerKeyId
    ⟨"mesh-settlement", Hex.encode (Platform.publicKey c.receiptKey).raw, ["settlement"]⟩ grants

section Persist

variable [Interpreter]

def settlementSignature (payload : ReceiptPayload) : SignatureRecord where
  keyId := receiptSignerKeyId
  algorithm := .ed25519
  publicKeyHex := some (Hex.encode (Platform.publicKey c.receiptKey).raw)
  signatureHex := some (Hex.encode (Platform.sign c.receiptKey (payloadCanonicalBytes payload)))

def buildSettlementReceipt (registry : Registry) (completed : SettlementRecord)
    : Py GovernanceReceipt := do
  let unsigned ← receiptFromMeshSettlement completed completed.votes []
    (receiptTrustRegistry c registry) (c.evidenceMode ≠ .singleOperatorDev)
  buildReceipt unsigned.payload [settlementSignature c unsigned.payload]

def persistBound (store : SettlementStore) (assignmentId : String) (bound : SettlementRecord)
    (receipt : GovernanceReceipt) : Py SettlementStore := do
  if store.backend.hasPath then
    if ← store.hasCommittedReceipt assignmentId then store.append bound
    else (store.writeReceipt assignmentId [receipt]).append bound
  else store.append bound

def persistSettlementRecord (registry : Registry) (store : SettlementStore)
    (record : SettlementRecord) (votes : List VoteEnvelope) : Py SettlementStore := do
  let assignmentId ← itemText record.assignment "assignment_id"
  let completed := { record with votes := voteDicts votes }
  match buildSettlementReceipt c registry completed with
  | .error _ => throw (.mesh .settlementPersistence
      ("Settlement " ++ assignmentId ++ " receipt could not be built"))
  | .ok receipt =>
    persistBound store assignmentId { completed with receiptDigest := some receipt.payloadDigest }
      receipt

def finishSettlement (recovered : PeerAssignment) : State :=
  let s := s.putAssignment { recovered with content := "" }
  { s with votes := Assoc.erase assignmentId s.votes }.purgeSignedEnvelopes assignmentId

def settlementFailure : PyError :=
  .mesh .settlementPersistence
    ("Settlement " ++ assignmentId ++ " was frozen in memory but could not be persisted")

def persistFrozen (frozen : Frozen)
    : State × Py MeshResult :=
  match persistSettlementRecord c s.registry s.store frozen.settledRecord frozen.votes with
  | .error _ => (s, .error (settlementFailure assignmentId))
  | .ok store =>
    (finishSettlement { s with store := store.clearPending assignmentId } assignmentId
      frozen.recoveredAssignment, .ok frozen.final)

def settleFrozen (frozen : Frozen)
    : State × Py MeshResult :=
  match s.store.markPending frozen.pendingRecord with
  | .error _ => (s, .error (settlementFailure assignmentId))
  | .ok store =>
    match install c { s with store } assignmentId frozen.final with
    | .inl existing => ({ s with store }, .ok existing)
    | .inr s => persistFrozen c s assignmentId frozen

def settle (now : ℚ) : State × Py MeshResult :=
  match freeze c s assignmentId now with
  | .error e => (s, .error e)
  | .ok (.inl final) => (s, .ok final)
  | .ok (.inr frozen) => settleFrozen c s assignmentId frozen

end Persist

end Mesh
