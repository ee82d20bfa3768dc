import ConstitutionalSwarm.Mesh.VoteEnvelope

namespace Mesh

variable [Platform]

structure PeerAssignment where
  assignmentId : String
  producerId : String
  artifactId : String
  content : String
  contentHash : String
  peers : List String
  constitutionalHash : String
  timestamp : PyFloat
  taskId : String
  isRecovered : Bool
  assignedPeersHash : String
  assignedPeerCount : Int
  quorum : Int
  evidenceMode : Option EvidenceMode
  signedAssignment : Option SignedAssignment
  deriving DecidableEq

namespace PeerAssignment

def signedAssignmentDigest (assignment : PeerAssignment) : String :=
  match assignment.signedAssignment with
  | some signed => Mesh.signedAssignmentDigest signed.toAssignmentFields
  | none => ""

def binding (assignment : PeerAssignment) : Binding where
  taskId := assignment.taskId
  assignmentId := assignment.assignmentId
  producerId := assignment.producerId
  artifactId := assignment.artifactId
  contentHash := assignment.contentHash
  constitutionalHash := assignment.constitutionalHash

def effectiveQuorum (meshQuorum : Int) (assignment : PeerAssignment) : Int :=
  if assignment.quorum ≠ 0 then assignment.quorum
  else max meshQuorum (assignment.peers.length / 2 + 1 : ℕ)

def settlementOutcomes (meshQuorum : Int) (assignment : PeerAssignment)
    (votesFor votesAgainst : Int) : Bool × Bool :=
  let strictMajority : Int := (assignment.peers.length / 2 + 1 : ℕ)
  let quorum := assignment.effectiveQuorum meshQuorum
  (votesFor ≥ quorum && votesFor ≥ strictMajority,
    votesAgainst ≥ quorum && votesAgainst ≥ strictMajority)

theorem settlementOutcomes_exclusive (meshQuorum : Int) (asg : PeerAssignment)
    {votesFor votesAgainst : Int} (h : votesFor + votesAgainst ≤ asg.peers.length)
    : asg.settlementOutcomes meshQuorum votesFor votesAgainst ≠ (true, true) := by
  simp only [settlementOutcomes, ne_eq, Prod.mk.injEq, Bool.and_eq_true, decide_eq_true_eq]
  omega

end PeerAssignment

end Mesh
