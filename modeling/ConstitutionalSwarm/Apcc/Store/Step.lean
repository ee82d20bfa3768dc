import ConstitutionalSwarm.Apcc.Store.Validate
import ConstitutionalSwarm.Data.Transition

namespace Apcc

inductive Operation where
  | stageResult (request : StageResultRequest)
  | advance (step : Advance) (proposal : AtomicCommitRequest) (now : Int)
  | atomicCommit (request : AtomicCommitRequest) (now : Int)
  | supersede (request : SupersessionRequest) (now : Int)
  | revoke (request : RevocationRequest)
  | recover (commitId requestDigest : String)
  | claimOutbox (token : String) (now : Int)
  | releaseOutbox (eventId token : String)
  | finalizeOutbox (eventId token : String)

variable [Platform] (authority : Authority)

def step (s : Store) : Operation → Py Store
  | .stageResult request => (stageResult authority s request).map Prod.snd
  | .advance step proposal now => advance authority s step proposal now
  | .atomicCommit request now => (atomicCommit authority s request now).map Prod.snd
  | .supersede request now => (supersede authority s request now).map Prod.snd
  | .revoke request => (revoke s request).map Prod.snd
  | .recover commitId requestDigest => (recover s commitId requestDigest).map Prod.snd
  | .claimOutbox token now => (claimOutbox s token now).map Prod.snd
  | .releaseOutbox eventId token => releaseOutbox s eventId token
  | .finalizeOutbox eventId token => finalizeOutbox s eventId token

abbrev Runs : Store → Store → Prop :=
  Transition.Run (step authority) fun _ _ => True

structure LogicalNodeState where
  workflowId : String
  nodeId : String
  currentNodeVersion : String
  currentCertificateDigest : Option String
  valid : ∃ version ∈ PyInt.int? currentNodeVersion,
    0 ≤ version ∧ (version = 0 ↔ currentCertificateDigest = none)

structure CommitContext where
  subject : CertificateSubject
  governance : CertificateContext
  lifecycle : CandidateLifecycle
  logicalNodeState : LogicalNodeState
  predecessors : List PredecessorRef
  auditEventId : String

def insertContext (s : Store) (context : CommitContext) : Py Store := do
  let node := context.logicalNodeState
  let subject := context.subject
  let logicalNodes ← insert s.logicalNodes
    ⟨node.workflowId, node.nodeId, node.currentNodeVersion, node.currentCertificateDigest⟩
  let candidates ← insert s.candidates
    { workflowId := subject.workflowId, nodeId := subject.nodeId, attemptId := subject.attemptId,
      agentId := subject.agentId, lifecycle := context.lifecycle,
      expectedVersion := node.currentNodeVersion, result := none,
      subjectJson := json subject.toObject, contextJson := json context.governance.toObject,
      predecessorsJson := predecessorsJson context.predecessors, proposalDigest := none,
      auditEventId := context.auditEventId, proposalJson := none }
  return { s with logicalNodes := logicalNodes, candidates := candidates }

def provision (config : AuthorityConfig) (initialContexts : List CommitContext) : Py Store := do
  let s ← initialContexts.foldlM insertContext .empty
  let _ ← validateSemanticIntegrity config s
  return s

def Reachable (s : Store) : Prop :=
  ∃ contexts s₀, provision authority.config contexts = .ok s₀ ∧ Runs authority s₀ s

variable {authority} {s s' : Store}

theorem Reachable.step (h : Reachable authority s)
    (hstep : step authority s op = .ok s') : Reachable authority s' := by
  obtain ⟨contexts, s₀, hprov, hrun⟩ := h
  exact ⟨contexts, s₀, hprov, hrun.tail trivial hstep⟩

end Apcc
