import ConstitutionalSwarm.Apcc.Store.Schema
import ConstitutionalSwarm.Data.PyValue

namespace Gcb

structure WorkflowRow where
  workflowId : String
  generation : Int
  policyVersion : String
  policyDigest : String
  policyEpoch : Int
  verifierPolicyId : String
  authorityRoot : String
  authorityEpoch : Int
  revocationGeneration : Int
  stateVersion : Int
  deriving DecidableEq

instance : TableSchema WorkflowRow where
  check _ := true
  compatible a b := a.workflowId ≠ b.workflowId

structure AgentRow where
  workflowId : String
  agentId : String
  publicKey : Bytes
  keyId : String
  capabilities : List PyValue
  authorityEpoch : Int
  revocationEpoch : Int
  revoked : Bool

def AgentRow.isFor (r : AgentRow) (workflowId agentId : String) : Bool :=
  r.workflowId = workflowId && r.agentId = agentId

instance : TableSchema AgentRow where
  check _ := true
  compatible a b := !a.isFor b.workflowId b.agentId

inductive NodeStatus where
  | blocked
  | ready
  | claimed
  | resultProduced
  | governedCommitted
  | denied
  | revoked
  | superseded
  deriving DecidableEq

structure NodeRow where
  workflowId : String
  nodeId : String
  status : NodeStatus
  version : Int
  inputDigest : String
  requiredCapabilities : List PyValue
  predecessors : List String
  attemptId : Option String
  claimedBy : Option String
  artifactId : Option String
  resultDigest : Option String
  commitId : Option String
  receiptDigest : Option String
  tainted : Bool

def NodeRow.isFor (r : NodeRow) (workflowId nodeId : String) : Bool :=
  r.workflowId = workflowId && r.nodeId = nodeId

instance : TableSchema NodeRow where
  check _ := true
  compatible a b :=
    !a.isFor b.workflowId b.nodeId &&
      !(a.workflowId = b.workflowId && a.commitId.isSome && a.commitId = b.commitId)

structure RevokedRootRow where
  workflowId : String
  rootNodeId : String
  generation : Int
  eventId : String
  reason : String
  deriving DecidableEq

instance : TableSchema RevokedRootRow where
  check _ := true
  compatible a b :=
    !(a.workflowId = b.workflowId && a.rootNodeId = b.rootNodeId) && a.eventId ≠ b.eventId

structure RevocationEventRow where
  eventId : String
  workflowId : String
  rootNodeId : String
  generation : Int
  processed : Bool
  dispatched : Bool
  deriving DecidableEq

instance : TableSchema RevocationEventRow where
  check _ := true
  compatible a b := a.eventId ≠ b.eventId

structure Tables where
  workflows : Table WorkflowRow
  agents : Table AgentRow
  nodes : Table NodeRow
  revokedRoots : Table RevokedRootRow
  revocationOutbox : Table RevocationEventRow
  apcc : Apcc.Store

def Tables.empty : Tables :=
  ⟨.empty, .empty, .empty, .empty, .empty, .empty⟩

variable (t : Tables) (workflowId : String)

namespace Tables

open Apcc (Py)

def workflow : Py WorkflowRow :=
  match t.workflows.find? (·.workflowId = workflowId) with
  | some row => .ok row
  | none => .error (.keyError workflowId)

def agent (agentId : String) : Py AgentRow :=
  match t.agents.find? (·.isFor workflowId agentId) with
  | some row => .ok row
  | none => .error (.keyError agentId)

def node (nodeId : String) : Py NodeRow :=
  match t.nodes.find? (·.isFor workflowId nodeId) with
  | some row => .ok row
  | none => .error (.keyError nodeId)

def nodesOf : List NodeRow :=
  t.nodes.rows.filter (·.workflowId = workflowId)

end Tables

inductive CommitOutcome where
  | committed
  | denied
  deriving DecidableEq

inductive ControlAction where
  | createWorkflow
  | registerAgent
  | updatePolicy
  | revokeAgent
  | revokeRoot
  | bumpWorkflowGeneration
  | fenceNodeForReview
  deriving DecidableEq

def ControlAction.value : ControlAction → String
  | .createWorkflow => "create_workflow"
  | .registerAgent => "register_agent"
  | .updatePolicy => "update_policy"
  | .revokeAgent => "revoke_agent"
  | .revokeRoot => "revoke_root"
  | .bumpWorkflowGeneration => "bump_workflow_generation"
  | .fenceNodeForReview => "fence_node_for_review"

structure SealRow where
  storeId : String
  verifierPolicyId : String
  verifierKeyId : String
  verifierPublicKey : Bytes
  adminKeyId : String
  adminPublicKey : Bytes
  controlVersion : Int
  deriving DecidableEq

structure ControlEventRow where
  commandId : String
  action : ControlAction
  workflowId : String
  expectedControlVersion : Int
  resultingControlVersion : Int
  outcome : CommitOutcome
  reason : String
  resultValue : Option Int
  commandMaterial : String
  deriving DecidableEq

instance : TableSchema ControlEventRow where
  check _ := true
  compatible a b := a.commandId ≠ b.commandId

structure SecurityEventRow where
  eventType : String
  eventKey : String
  workflowId : String
  nodeId : String
  material : String
  deriving DecidableEq

structure Store where
  storeSeal : SealRow
  tables : Tables
  controlEvents : Table ControlEventRow
  securityEvents : List SecurityEventRow

def Store.controlEvent? (s : Store) (commandId : String) : Option ControlEventRow :=
  s.controlEvents.find? (·.commandId = commandId)

end Gcb
