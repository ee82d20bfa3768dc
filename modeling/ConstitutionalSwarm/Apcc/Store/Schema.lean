import ConstitutionalSwarm.Apcc.Ports
import ConstitutionalSwarm.Data.Table

namespace Apcc

def isGeneration (value : String) : Bool :=
  PyInt.isCanonical value && value ≠ "0" && value.length ≤ 16 &&
    (PyInt.int? value).all (· ≤ (maxSafeInteger : Int))

structure LogicalNodeRow where
  workflowId : String
  nodeId : String
  version : String
  certificateDigest : Option String
  deriving DecidableEq

instance : TableSchema LogicalNodeRow where
  check r := PyInt.isCanonical r.version
  compatible a b := !(a.workflowId = b.workflowId && a.nodeId = b.nodeId)

structure CandidateRow where
  workflowId : String
  nodeId : String
  attemptId : String
  agentId : String
  lifecycle : CandidateLifecycle
  expectedVersion : String
  result : Option Bytes
  subjectJson : String
  contextJson : String
  predecessorsJson : String
  proposalDigest : Option String
  auditEventId : String
  proposalJson : Option String
  deriving DecidableEq

def CandidateRow.isFor (r : CandidateRow) (workflowId nodeId attemptId : String) : Bool :=
  r.workflowId = workflowId && r.nodeId = nodeId && r.attemptId = attemptId

instance : TableSchema CandidateRow where
  check r := r.lifecycle ≠ .unseen && r.lifecycle ≠ .eligible
  compatible a b := !a.isFor b.workflowId b.nodeId b.attemptId

structure CommitIndexRow where
  commitId : String
  requestDigest : String
  workflowId : String
  requestJson : String
  deriving DecidableEq

instance : TableSchema CommitIndexRow where
  check _ := true
  compatible a b := a.commitId ≠ b.commitId

structure RequestIndexRow where
  requestDigest : String
  commitId : String
  deriving DecidableEq

instance : TableSchema RequestIndexRow where
  check _ := true
  compatible a b := a.requestDigest ≠ b.requestDigest && a.commitId ≠ b.commitId

structure NonceRow where
  nonce : String
  commitId : String
  deriving DecidableEq

instance : TableSchema NonceRow where
  check _ := true
  compatible a b := a.nonce ≠ b.nonce && a.commitId ≠ b.commitId

structure EvidenceRefRow where
  commitId : String
  producerDigest : String
  policyDigest : String
  authorityDigest : String
  deriving DecidableEq

instance : TableSchema EvidenceRefRow where
  check _ := true
  compatible a b := a.commitId ≠ b.commitId

structure CertificateRow where
  certificateDigest : String
  commitId : String
  certificateJson : Bytes
  envelope : Bytes
  workflowId : String
  nodeId : String
  sequence : Nat
  deriving DecidableEq

instance : TableSchema CertificateRow where
  check r := 1 ≤ r.sequence && r.sequence ≤ maxSafeInteger
  compatible a b :=
    a.certificateDigest ≠ b.certificateDigest && a.commitId ≠ b.commitId && a.sequence ≠ b.sequence

structure OutputRefRow where
  commitId : String
  workflowId : String
  nodeId : String
  attemptId : String
  outputDigest : String
  outputSize : Nat
  deriving DecidableEq

instance : TableSchema OutputRefRow where
  check r := r.outputSize ≤ maxSafeInteger
  compatible a b := a.commitId ≠ b.commitId

structure AuditRow where
  auditEventId : String
  eventJson : String
  deriving DecidableEq

instance : TableSchema AuditRow where
  check _ := true
  compatible a b := a.auditEventId ≠ b.auditEventId

structure DecisionRow where
  commitId : String
  outcome : RequestOutcome
  reason : String
  auditEventId : String
  certificateDigest : Option String
  nonce : String
  nonceOwnerCommitId : String
  deriving DecidableEq

instance : TableSchema DecisionRow where
  check r := (r.outcome = .committed) = (r.certificateDigest.isSome = true)
  compatible a b := a.commitId ≠ b.commitId && a.auditEventId ≠ b.auditEventId

structure DispositionRow where
  certificateDigest : String
  eventSequence : Nat
  disposition : CertificateDisposition
  deriving DecidableEq

instance : TableSchema DispositionRow where
  check r := r.eventSequence = 1 || r.eventSequence = 2
  compatible a b :=
    !(a.certificateDigest = b.certificateDigest && a.eventSequence = b.eventSequence)

structure PredecessorEdgeRow where
  childCommitId : String
  predecessorDigest : String
  deriving DecidableEq

instance : TableSchema PredecessorEdgeRow where
  check _ := true
  compatible a b := a ≠ b

structure SupersessionEdgeRow where
  edgeId : String
  oldDigest : String
  newDigest : String
  nonce : String
  deriving DecidableEq

instance : TableSchema SupersessionEdgeRow where
  check _ := true
  compatible a b := a.edgeId ≠ b.edgeId

structure WorkflowRevocationRow where
  workflowId : String
  generation : String
  deriving DecidableEq

instance : TableSchema WorkflowRevocationRow where
  check r := isGeneration r.generation
  compatible a b := a.workflowId ≠ b.workflowId

structure ActorRevocationRow where
  workflowId : String
  actorId : String
  generation : String
  deriving DecidableEq

instance : TableSchema ActorRevocationRow where
  check r := isGeneration r.generation
  compatible a b := !(a.workflowId = b.workflowId && a.actorId = b.actorId)

structure TrustRow where
  sequence : Nat
  auditEventId : String
  priorDigest : String
  entryDigest : String
  entryJson : String
  deriving DecidableEq

instance : TableSchema TrustRow where
  check r := 1 ≤ r.sequence && r.sequence ≤ maxSafeInteger
  compatible a b :=
    a.sequence < b.sequence && a.auditEventId ≠ b.auditEventId && a.entryDigest ≠ b.entryDigest

structure ControlRow where
  operationId : String
  scope : RevocationScope
  workflowId : String
  targetId : String
  generation : Option String
  claimedGeneration : String
  reason : String
  auditEventId : String
  payload : Bytes
  payloadDigest : String
  deriving DecidableEq

instance : TableSchema ControlRow where
  check r := (r.scope = .certificate) = (r.generation.isNone = true)
  compatible a b :=
    a.operationId ≠ b.operationId && a.auditEventId ≠ b.auditEventId &&
      a.payloadDigest ≠ b.payloadDigest

inductive OutboxKind where
  | commit
  | control
  deriving DecidableEq

def OutboxKind.value : OutboxKind → String
  | .commit => "COMMIT"
  | .control => "CONTROL"

inductive OutboxState where
  | pending
  | claimed (leaseToken : String) (leaseClaimedMs leaseUntilMs : Nat)
  | delivered
  deriving DecidableEq

def OutboxState.check : OutboxState → Bool
  | .claimed _ start stop => start ≤ stop && start ≤ maxSafeInteger && stop ≤ maxSafeInteger
  | .pending | .delivered => true

structure OutboxRow where
  eventSequence : Nat
  eventId : String
  eventKind : OutboxKind
  operationId : String
  eventJson : Bytes
  auditEventId : String
  trustSequence : Nat
  state : OutboxState
  deriving DecidableEq

instance : TableSchema OutboxRow where
  check r := 1 ≤ r.eventSequence && r.eventSequence ≤ maxSafeInteger && r.state.check
  compatible a b :=
    a.eventSequence < b.eventSequence && a.eventId ≠ b.eventId &&
      a.auditEventId ≠ b.auditEventId && a.trustSequence ≠ b.trustSequence &&
      !(a.eventKind = b.eventKind && a.operationId = b.operationId)

structure ConflictRow where
  commitId : String
  originalRequestDigest : String
  originalPublicRequestDigest : String
  originalWorkflowId : String
  originalNodeId : String
  originalAttemptId : String
  conflictingRequestDigest : String
  conflictingPublicRequestDigest : String
  conflictingWorkflowId : String
  conflictingNodeId : String
  conflictingAttemptId : String
  observationSequence : Nat
  auditEventId : String
  conflictClaimJson : String
  deriving DecidableEq

def ConflictRow.identity (r : ConflictRow) : List String :=
  [r.commitId, r.conflictingWorkflowId, r.conflictingNodeId, r.conflictingAttemptId,
    r.conflictingRequestDigest, r.conflictingPublicRequestDigest]

instance : TableSchema ConflictRow where
  check _ := true
  compatible a b := a.identity ≠ b.identity

structure Store where
  logicalNodes : Table LogicalNodeRow
  candidates : Table CandidateRow
  commitIndex : Table CommitIndexRow
  requestIndex : Table RequestIndexRow
  nonceLedger : Table NonceRow
  evidenceRefs : Table EvidenceRefRow
  certificates : Table CertificateRow
  commitOutputRefs : Table OutputRefRow
  auditEvents : Table AuditRow
  decisions : Table DecisionRow
  certificateDispositions : Table DispositionRow
  predecessorEdges : Table PredecessorEdgeRow
  supersessionEdges : Table SupersessionEdgeRow
  workflowRevocations : Table WorkflowRevocationRow
  actorRevocations : Table ActorRevocationRow
  trustLog : Table TrustRow
  controlEvents : Table ControlRow
  outbox : Table OutboxRow
  commitConflicts : Table ConflictRow
  deriving DecidableEq

def Store.empty : Store :=
  ⟨.empty, .empty, .empty, .empty, .empty, .empty, .empty, .empty, .empty, .empty, .empty, .empty,
    .empty, .empty, .empty, .empty, .empty, .empty, .empty⟩

variable (s : Store)

namespace Store

def candidate? (workflowId nodeId attemptId : String) : Option CandidateRow :=
  s.candidates.find? (·.isFor workflowId nodeId attemptId)

def logicalNode? (workflowId nodeId : String) : Option LogicalNodeRow :=
  s.logicalNodes.find? fun r => r.workflowId = workflowId && r.nodeId = nodeId

def commitIndex? (commitId : String) : Option CommitIndexRow :=
  s.commitIndex.find? (·.commitId = commitId)

def nonceOwner? (nonce : String) : Option NonceRow :=
  s.nonceLedger.find? (·.nonce = nonce)

def certificate? (certificateDigest : String) : Option CertificateRow :=
  s.certificates.find? (·.certificateDigest = certificateDigest)

def disposition? (certificateDigest : String) (eventSequence : Nat)
    : Option DispositionRow :=
  s.certificateDispositions.find? fun r =>
    r.certificateDigest = certificateDigest && r.eventSequence = eventSequence

def latestDisposition (certificateDigest : String) : Option CertificateDisposition :=
  ((s.disposition? certificateDigest 2).or (s.disposition? certificateDigest 1)).map (·.disposition)

def trustHead? : Option TrustRow :=
  s.trustLog.rows.getLast?

end Store

variable {α : Type} [TableSchema α]

def insert (t : Table α) (row : α) : Py (Table α) :=
  match t.insert? row with
  | some t' => .ok t'
  | none => .error .integrityError

def update (t : Table α) (p : α → Bool) (f : α → α) : Py (Table α) :=
  match t.update? p f with
  | some t' => .ok t'
  | none => .error .integrityError

def replace (t : Table α) (p : α → Bool) (row : α) : Py (Table α) :=
  match Table.ofRows? (t.rows.filter (!p ·) ++ [row]) with
  | some t' => .ok t'
  | none => .error .integrityError

@[simp]
theorem insert_eq_ok {t t' : Table α} {row : α}
    : insert t row = .ok t' ↔ t.insert? row = some t' := by
  unfold insert
  cases t.insert? row <;> simp

@[simp]
theorem update_eq_ok {p : α → Bool} {f : α → α}
    : update t p f = .ok t' ↔ t.update? p f = some t' := by
  unfold update
  cases t.update? p f <;> simp

theorem rows_of_replace {p : α → Bool} (h : replace t p row = .ok t')
    : t'.rows = t.rows.filter (!p ·) ++ [row] := by
  unfold replace at h
  split at h
  . next heq => rw [← Except.ok.inj h, Table.rows_of_ofRows? heq]
  . simp at h

end Apcc
