import ConstitutionalSwarm.Apcc.Store.Identity

namespace Apcc

def canonicalPositiveDecimal (value : String) (maximum : Nat) : Py Int := do
  let invalid := PyError.valueError FailureCode.invalidDecimalString.value
  raiseIf (!(PyInt.isCanonical value && value ≠ "0")) invalid
  let parsed ← int value
  raiseIf (parsed > maximum)
    (if maximum = 1000 then .valueError FailureCode.sizeLimitExceeded.value else invalid)
  return parsed

def canonicalNonnegativeDecimal (value : String) (maximum : Nat) : Py Int :=
  if value = "0" then .ok 0 else canonicalPositiveDecimal value maximum

def semanticError : PyError :=
  .valueError "APCC SQLite store semantic validation failed"

def orInvalid {α : Type} (x : Py α) : Py α :=
  match x with
  | .ok a => .ok a
  | .error _ => .error semanticError

def accept {α : Type} : Check α → Py Unit
  | .ok _ => .ok ()
  | .error (.code _) => .error semanticError
  | .error (.raised e) => .error e

section Validation

variable [Platform] (config : AuthorityConfig)

def placeholderCertificate (request : AtomicCommitRequest) : CommitCertificate where
  header :=
    { protocolVersion := "APCC-1.0-draft", certificateType := "apcc.commit-certificate",
      encodingProfile := "APCC-CJ1", digestAlgorithm := "SHA-256", signatureAlgorithm := "Ed25519",
      authorityStoreId := config.authorityStoreId,
      commitAuthorityKeyId := config.commitTrust.keyId,
      certificateSequence := "1", valid := CertificateHeader.supported_v1 }
  subject := request.subject
  context := request.context
  evidence := request.evidence
  decision := ⟨"committed", "OK", request.commitId, request.nonce, "0", rfl⟩
  bindings := request.bindings
  signatures := request.signatures

structure CandidateObjects where
  subjectObject : Json
  contextObject : Json
  subject : CertificateSubject
  predecessors : List PredecessorRef

def candidateObjects (row : CandidateRow) : Py CandidateObjects := do
  let subjectObject ← loads row.subjectJson
  let contextObject ← loads row.contextJson
  let predecessorObjects ← loads row.predecessorsJson
  let subject ← CertificateSubject.fromObject (← object subjectObject)
  let _ ← CertificateContext.fromObject (← object contextObject)
  let items ← asArray (.valueError "invalid predecessors") predecessorObjects
  let predecessors ← items.mapM fun raw => do PredecessorRef.fromObject (← object raw)
  return ⟨subjectObject, contextObject, subject, predecessors⟩

def validateProposal (row : CandidateRow) (objects : CandidateObjects) : Py Unit := do
  let proposal ← orInvalid (requestFromJson (row.proposalJson.getD "None"))
  ensure (row.proposalJson = some (authorityRequestJson proposal)) semanticError
  ensure (row.proposalDigest = some (proposalIdentity proposal)) semanticError
  ensure (proposal.subject = objects.subject) semanticError
  ensure (proposal.context.toObject = objects.contextObject) semanticError
  ensure (proposal.bindings.predecessors = objects.predecessors) semanticError
  ensure (proposal.bindings.expectedNodeVersion = row.expectedVersion) semanticError
  accept (verifyEvidence (placeholderCertificate config proposal) config.scopedTrust)
  ensure (row.auditEventId =
    auditId row.lifecycle.value [proposal.commitId, proposalIdentity proposal]) semanticError

def validateCandidateRow (row : CandidateRow) (isLogicalNode : Bool) : Py Unit := do
  let objects ← orInvalid (candidateObjects row)
  let subject := objects.subject
  let expectedVersion ← orInvalid (canonicalNonnegativeDecimal row.expectedVersion maxSafeInteger)
  ensure (json objects.subjectObject = row.subjectJson) semanticError
  ensure (json objects.contextObject = row.contextJson) semanticError
  ensure (predecessorsJson objects.predecessors = row.predecessorsJson) semanticError
  ensure isLogicalNode semanticError
  ensure (subject.workflowId = row.workflowId && subject.nodeId = row.nodeId &&
    subject.attemptId = row.attemptId && subject.agentId = row.agentId) semanticError
  ensure (toString expectedVersion = row.expectedVersion) semanticError
  if row.lifecycle = .executing then
    ensure (row.result.isNone && row.proposalDigest.isNone && row.proposalJson.isNone) semanticError
  else
    ensure (row.result.any fun result => sha256Digest result = subject.outputDigest) semanticError
  match row.lifecycle with
  | .evidenceAssembled | .commitPending => validateProposal config row objects
  | .resultStaged =>
    ensure (row.auditEventId = auditId "stage" [row.workflowId, row.nodeId, row.attemptId,
      subject.outputDigest, row.expectedVersion]) semanticError
  | .unseen | .eligible | .executing | .quarantined =>
    ensure (row.proposalDigest.isNone && row.proposalJson.isNone) semanticError

def validateWrittenCandidate (s : Store) (workflowId nodeId attemptId : String) : Py Unit := do
  match s.candidate? workflowId nodeId attemptId with
  | none => throw semanticError
  | some row => validateCandidateRow config row (s.logicalNode? workflowId nodeId).isSome

end Validation

end Apcc
