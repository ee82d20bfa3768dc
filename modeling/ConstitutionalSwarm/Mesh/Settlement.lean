import ConstitutionalSwarm.Mesh.Assignment
import ConstitutionalSwarm.Interpreter

namespace Mesh

open Raising
open PyValue (Dict)

variable [Platform]

def computeVoteEnvelopeRootFromHashes (binding : Binding) (accepted : Bool)
    (envelopeHashes : List String) : String :=
  let payload : Dict :=
    [("accepted", .bool accepted), ("artifact_id", .str binding.artifactId),
      ("assignment_id", .str binding.assignmentId),
      ("constitutional_hash", .str binding.constitutionalHash),
      ("content_hash", .str binding.contentHash),
      ("envelope_hashes", .list (envelopeHashes.map .str)),
      ("producer_id", .str binding.producerId), ("task_id", .str binding.taskId)]
  Hex.encode (Apcc.Platform.sha256
    ("constitutional-swarm.vote-envelope-root.v2\x00".encodeUTF8 ++
      (PyValue.dumps true Platform.floatRepr (.dict payload)).encodeUTF8))

def VoteEnvelope.le (a b : VoteEnvelope) : Bool :=
  a.voterId < b.voterId || (a.voterId = b.voterId && a.keyId ≤ b.keyId)

def sortEnvelopes (envelopes : List VoteEnvelope) : List VoteEnvelope :=
  envelopes.mergeSort VoteEnvelope.le

def envelopeHashes (envelopes : List VoteEnvelope) : List String :=
  envelopes.map fun item => voteEnvelopeHash item.toEnvelopeFields

def computeVoteEnvelopeRoot (binding : Binding) (accepted : Bool) (envelopes : List VoteEnvelope)
    : String :=
  computeVoteEnvelopeRootFromHashes binding accepted (envelopeHashes (sortEnvelopes envelopes))

structure MeshProof where
  binding : Binding
  voteHashes : List String
  rootHash : String
  accepted : Bool
  timestamp : PyFloat
  protocolVersion : Int
  deriving DecidableEq

structure MeshResult where
  assignmentId : String
  accepted : Bool
  votesFor : Int
  votesAgainst : Int
  quorumMet : Bool
  pendingVotes : Int
  constitutionalHash : String
  proof : Option MeshProof
  settled : Bool
  settledAt : Option PyFloat
  voteEnvelopes : List VoteEnvelope
  signedAssignment : Option SignedAssignment
  deriving DecidableEq

def buildProof (assignment : PeerAssignment) (envelopes : List VoteEnvelope) (accepted : Bool)
    (timestamp : PyFloat) : MeshProof :=
  let ordered := sortEnvelopes envelopes
  { binding := assignment.binding
    voteHashes := envelopeHashes ordered
    rootHash := computeVoteEnvelopeRoot assignment.binding accepted ordered
    accepted, timestamp, protocolVersion := 2 }

structure SettlementRecord where
  assignment : Dict
  result : Dict
  constitutionalHash : PyValue
  schemaVersion : Int
  isRecovered : Bool
  receiptDigest : Option String
  votes : List Dict

def serializeSigned : Option SignedAssignment → PyValue
  | some signed => .dict (signedAssignmentToDict signed.toAssignmentFields)
  | none => .none

def serializeTime : Option PyFloat → PyValue
  | some time => .float time
  | none => .none

def assignmentToDict (assignment : PeerAssignment) (assignedPeersHash : String) (quorum : Int)
    (mode : EvidenceMode) : Dict :=
  [("assignment_id", .str assignment.assignmentId), ("task_id", .str assignment.taskId),
    ("producer_id", .str assignment.producerId), ("artifact_id", .str assignment.artifactId),
    ("content_hash", .str assignment.contentHash),
    ("peers", .list (assignment.peers.map .str)),
    ("assigned_peers_hash", .str assignedPeersHash),
    ("assigned_peer_count", .int assignment.peers.length), ("quorum", .int quorum),
    ("evidence_mode", .str mode.value),
    ("constitutional_hash", .str assignment.constitutionalHash),
    ("timestamp", .float assignment.timestamp), ("is_recovered", .bool assignment.isRecovered),
    ("signed_assignment", serializeSigned assignment.signedAssignment)]

def serializeProof : Option MeshProof → PyValue
  | none => .none
  | some proof => .dict
    [("assignment_id", .str proof.binding.assignmentId),
      ("content_hash", .str proof.binding.contentHash),
      ("constitutional_hash", .str proof.binding.constitutionalHash),
      ("vote_hashes", .list (proof.voteHashes.map .str)), ("root_hash", .str proof.rootHash),
      ("accepted", .bool proof.accepted), ("timestamp", .float proof.timestamp),
      ("task_id", .str proof.binding.taskId), ("producer_id", .str proof.binding.producerId),
      ("artifact_id", .str proof.binding.artifactId),
      ("protocol_version", .int proof.protocolVersion)]

def serializeResult (result : MeshResult) : Dict :=
  [("assignment_id", .str result.assignmentId), ("accepted", .bool result.accepted),
    ("votes_for", .int result.votesFor), ("votes_against", .int result.votesAgainst),
    ("quorum_met", .bool result.quorumMet), ("pending_votes", .int result.pendingVotes),
    ("constitutional_hash", .str result.constitutionalHash),
    ("proof", serializeProof result.proof), ("settled", .bool result.settled),
    ("settled_at", serializeTime result.settledAt),
    ("vote_envelopes", .list
      (result.voteEnvelopes.map fun item => .dict (voteEnvelopeToDict item.toEnvelopeFields))),
    ("signed_assignment", serializeSigned result.signedAssignment)]

def voteDicts (votes : List VoteEnvelope) : List Dict :=
  votes.map fun vote => voteEnvelopeToDict vote.toEnvelopeFields

section Reading

variable [Interpreter]

def itemText (data : Dict) (key : String) : Py String := do
  let value ← data.item key
  return value.text

def getText (data : Dict) (key default : String) : String :=
  match data.lookup key with
  | some value => value.text
  | none => default

def getFlag (data : Dict) (key : String) : Bool :=
  ((data.lookup key).map PyValue.truthy).getD false

end Reading

end Mesh
