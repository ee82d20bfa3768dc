import ConstitutionalSwarm.Apcc.Store.Operations

namespace Apcc

def sameMembers {α : Type} [BEq α] (a b : List α) : Bool :=
  a.all (b.contains ·) && b.all (a.contains ·)

abbrev Certificates := List (String × CommitCertificate)

abbrev Dispositions := List (String × CertificateDisposition)

abbrev Latest := String → Option CertificateDisposition

section Validation

variable [Platform] (config : AuthorityConfig)

def decodeVerified (row : CertificateRow) : Py CommitCertificate := do
  let detached ← decodeEnvelope row.envelope
  ensure (detached.payload = row.certificateJson) semanticError
  ensure (detached.payloadSha256 = row.certificateDigest) semanticError
  ensure (sha256Digest row.certificateJson = row.certificateDigest) semanticError
  let certificate ← decodeCertificate row.certificateJson
  accept (verifySignature detached.sealSignature certificate.header.commitAuthorityKeyId
    config.scopedTrust .commit [certificate.header.authorityStoreId] .commit row.certificateJson
    .invalidCommitSeal)
  accept (verifyEvidence certificate config.scopedTrust)
  accept (verifyBindings certificate)
  return certificate

def validateCertificate (row : CertificateRow) : Py (String × CommitCertificate) := do
  ensure (1 ≤ row.sequence && row.sequence ≤ maxSafeInteger) semanticError
  let certificate ← orInvalid (decodeVerified config row)
  ensure (certificate.decision.commitId = row.commitId) semanticError
  ensure (certificate.subject.workflowId = row.workflowId) semanticError
  ensure (certificate.subject.nodeId = row.nodeId) semanticError
  ensure (certificate.header.certificateSequence = toString row.sequence) semanticError
  return (row.certificateDigest, certificate)

def dispositionLe (a b : DispositionRow) : Bool :=
  a.certificateDigest < b.certificateDigest ||
    (a.certificateDigest = b.certificateDigest && a.eventSequence ≤ b.eventSequence)

variable (s : Store) (certificates : Certificates) (operations : Operations)

def validateDisposition (latest : Dispositions) (row : DispositionRow) : Py Dispositions := do
  let digest := row.certificateDigest
  ensure (certificates.lookup digest).isSome semanticError
  match row.eventSequence, row.disposition, latest.lookup digest with
  | 1, .current, none => return (digest, .current) :: latest
  | 2, .revoked, some .current => return (digest, .revoked) :: latest
  | 2, .superseded, some .current => return (digest, .superseded) :: latest
  | _, _, _ => throw semanticError

def validateDispositions : Py Dispositions := do
  let rows := s.certificateDispositions.rows.mergeSort dispositionLe
  let latest ← rows.foldlM (validateDisposition certificates) []
  ensure (certificates.all fun c => (latest.lookup c.1).isSome) semanticError
  return latest

def validateLogicalNode (latest : Latest) (row : LogicalNodeRow) : Py Unit := do
  ensure ((row.version = "0") = (row.certificateDigest.isNone = true)) semanticError
  match row.certificateDigest with
  | none => return ()
  | some digest =>
    match certificates.lookup digest with
    | none => throw semanticError
    | some certificate =>
      ensure (certificate.subject.workflowId = row.workflowId) semanticError
      ensure (certificate.subject.nodeId = row.nodeId) semanticError
      ensure (certificate.bindings.committedNodeVersion = row.version) semanticError
      ensure (latest digest ≠ some .superseded) semanticError

def validateLogicalNodes (latest : Latest)
    : Py Unit := do
  s.logicalNodes.rows.forM (validateLogicalNode certificates latest)
  let pointed := s.logicalNodes.rows.filterMap (·.certificateDigest)
  ensure (certificates.all fun c => latest c.1 ≠ some .current || pointed.contains c.1)
    semanticError

def validateCandidates : Py Unit :=
  s.candidates.rows.forM fun row =>
    validateCandidateRow config row (s.logicalNode? row.workflowId row.nodeId).isSome

structure TrustFact where
  sequence : Nat
  kind : String
  subject : String
  auditEventId : String
  deriving DecidableEq

def audit? (auditEventId : String) : Option String :=
  (s.auditEvents.find? (·.auditEventId = auditEventId)).map (·.eventJson)

def validateTrustRow (expected : Nat) (prior : String) (row : TrustRow)
    : Py TrustFact := do
  ensure (row.sequence = expected && row.sequence ≤ maxSafeInteger) semanticError
  ensure (audit? s row.auditEventId).isSome semanticError
  ensure (row.priorDigest = prior) semanticError
  match ← orInvalid (loads row.entryJson) with
  | .obj entry =>
    ensure (sameMembers (entry.map Prod.fst)
      ["sequence", "prior_digest", "kind", "subject", "audit_event_id"]) semanticError
    ensure (row.entryJson = json (.obj entry)) semanticError
    ensure (entry.lookup "sequence" = some (.str (toString row.sequence))) semanticError
    ensure (entry.lookup "prior_digest" = some (.str prior)) semanticError
    ensure (entry.lookup "audit_event_id" = some (.str row.auditEventId)) semanticError
    ensure (sha256Digest row.entryJson.encodeUTF8 = row.entryDigest) semanticError
    match entry.lookup "kind", entry.lookup "subject" with
    | some (.str kind), some (.str subject) =>
      ensure (kind = "commit" || kind = "control") semanticError
      return ⟨row.sequence, kind, subject, row.auditEventId⟩
    | _, _ => throw semanticError
  | _ => throw semanticError

def validateTrustRows (s : Store) : Nat → String → List TrustRow → Py (List TrustFact)
  | _, _, [] => return []
  | expected, prior, row :: rows => do
    let fact ← validateTrustRow s expected prior row
    return fact :: (← validateTrustRows s (expected + 1) row.entryDigest rows)

def validateTrustLog : Py (List TrustFact) :=
  validateTrustRows s 1 genesisDigest s.trustLog.rows

structure Indexed where
  requestDigest : String
  workflowId : String
  request : AtomicCommitRequest
  old : Option String

abbrev Operations := List (String × Indexed)

def validateCommitIndex (row : CommitIndexRow) : Py (String × Indexed) := do
  let (request, old) ← orInvalid (operationFromJson row.requestJson)
  ensure (row.requestJson = operationRequestJson request old) semanticError
  ensure (request.commitId = row.commitId) semanticError
  ensure (request.subject.workflowId = row.workflowId) semanticError
  ensure (operationIdentity request old = row.requestDigest) semanticError
  return (row.commitId, ⟨row.requestDigest, row.workflowId, request, old⟩)

def validateIndexes : Py Unit := do
  let commitIds := s.commitIndex.rows.map (·.commitId)
  ensure (s.requestIndex.rows.length = commitIds.length) semanticError
  ensure (sameMembers (s.decisions.rows.map (·.commitId)) commitIds) semanticError
  ensure (sameMembers (s.requestIndex.rows.map (·.commitId)) commitIds) semanticError
  ensure (decide (s.nonceLedger.rows.map (·.nonce)).Nodup) semanticError
  ensure (decide (s.nonceLedger.rows.map (·.commitId)).Nodup) semanticError

def validateEdges : Py Unit :=
  ensure (sameMembers (certificates.flatMap fun c =>
      c.2.bindings.predecessors.map fun p => (c.2.decision.commitId, p.certificateDigest))
    (s.predecessorEdges.rows.map fun r => (r.childCommitId, r.predecessorDigest))) semanticError

def validateDecisionAudit (row : DecisionRow) (operation : Indexed) : Py Unit := do
  let committed : Bool := row.outcome = .committed
  let expectedAudit :=
    if committed then auditId "commit" [row.commitId, operation.requestDigest]
    else auditId row.outcome.value [row.commitId, operation.requestDigest, row.reason]
  match audit? s row.auditEventId with
  | none => throw semanticError
  | some eventJson =>
    match ← orInvalid (loads eventJson) with
    | .obj event =>
      ensure (row.auditEventId = expectedAudit) semanticError
      ensure (eventJson = json (.obj event)) semanticError
      ensure (event.lookup "subject" = some (.str row.commitId)) semanticError
      ensure (event.lookup "kind" = some (.str (if committed then "committed" else row.reason)))
        semanticError
      ensure (sameMembers (event.map Prod.fst) ("kind" :: "subject" ::
        if operation.old.isSome then ["old_certificate_digest"] else [])) semanticError
      ensure ((event.lookup "old_certificate_digest").getD .null = optionalText operation.old)
        semanticError
    | _ => throw semanticError

def public? (commitId : String) : Option String :=
  (s.requestIndex.find? (·.commitId = commitId)).map (·.requestDigest)

def evidence? (commitId : String) : Option EvidenceRefRow :=
  s.evidenceRefs.find? (·.commitId = commitId)

def validateDenialReason (row : DecisionRow) (operation : Indexed) : Py Unit :=
  if row.reason = FailureCode.nonceReplay.value then .ok ()
  else do
    let failure ← (verifyEvidence (placeholderCertificate config operation.request)
      config.scopedTrust).failure
    ensure (failure.all fun code => row.reason = code.value) semanticError

def validateDenial (row : DecisionRow) (operation : Indexed) : Py Unit := do
  validateDenialReason config row operation
  ensure row.certificateDigest.isNone semanticError
  ensure (evidence? s row.commitId).isNone semanticError
  ensure ((row.reason = FailureCode.nonceReplay.value) = (row.nonceOwnerCommitId ≠ row.commitId))
    semanticError

def validateCommitted (row : DecisionRow) (operation : Indexed) : Py Unit := do
  match row.certificateDigest.bind fun digest => certificates.lookup digest with
  | none => throw semanticError
  | some certificate =>
    let request := operation.request
    ensure (certificate.decision.commitId = row.commitId) semanticError
    ensure (certificate.subject = request.subject) semanticError
    ensure (certificate.context = request.context) semanticError
    ensure (certificate.evidence = request.evidence) semanticError
    ensure (certificate.bindings = request.bindings) semanticError
    ensure (certificate.signatures = request.signatures) semanticError
    ensure (certificate.decision.nonce = request.nonce) semanticError
    ensure (row.reason = "OK") semanticError
    ensure (row.nonceOwnerCommitId = row.commitId) semanticError
    ensure (evidence? s row.commitId = some ⟨row.commitId,
      certificate.evidence.producerStatementDigest, certificate.evidence.policyStatementDigest,
      certificate.evidence.authorityStatementDigest⟩) semanticError

def validateDecision (row : DecisionRow) : Py Unit := do
  match operations.lookup row.commitId with
  | none => throw (.keyError row.commitId)
  | some operation =>
    ensure ((row.outcome = .conflicted) =
      (row.reason = FailureCode.nodeVersionConflict.value)) semanticError
    validateDecisionAudit s row operation
    ensure (row.nonce = operation.request.nonce) semanticError
    ensure (public? s row.commitId = some (← publicRequestDigest operation.request)) semanticError
    ensure ((s.nonceOwner? row.nonce).any (·.commitId = row.nonceOwnerCommitId)) semanticError
    ensure ((row.reason = FailureCode.nonceReplay.value) ≠ (row.nonceOwnerCommitId = row.commitId))
      semanticError
    if row.outcome = .committed then validateCommitted s certificates row operation
    else validateDenial config s row operation

def committedIds : List String :=
  (s.decisions.rows.filter (·.outcome = .committed)).map (·.commitId)

def validateDecisions : Py Unit := do
  s.decisions.rows.forM (validateDecision config s certificates operations)
  ensure (s.nonceLedger.rows.all fun r => (operations.lookup r.commitId).isSome) semanticError
  ensure (sameMembers (s.evidenceRefs.rows.map (·.commitId)) (committedIds s)) semanticError
  ensure (sameMembers (certificates.map (·.2.decision.commitId)) (committedIds s)) semanticError

def validateOutputRef (row : OutputRefRow) : Py Unit := do
  match operations.lookup row.commitId with
  | none => throw (.keyError row.commitId)
  | some operation =>
    let subject := operation.request.subject
    match (s.candidate? subject.workflowId subject.nodeId subject.attemptId).bind (·.result) with
    | none => throw semanticError
    | some result =>
      ensure (row = ⟨row.commitId, subject.workflowId, subject.nodeId, subject.attemptId,
        subject.outputDigest, result.length⟩) semanticError
      ensure (sha256Digest result = subject.outputDigest) semanticError

def validateOutputRefs : Py Unit := do
  ensure (sameMembers (s.commitOutputRefs.rows.map (·.commitId)) (committedIds s)) semanticError
  s.commitOutputRefs.rows.forM (validateOutputRef s operations)

def decisionEvent (commitId : String) : Py Json :=
  match (s.decisions.find? (·.commitId = commitId)).bind fun r => audit? s r.auditEventId with
  | none => .error semanticError
  | some eventJson => orInvalid (loads eventJson)

def validateSupersessionEdge (latest : Latest) (operations : Operations) (row : SupersessionEdgeRow)
    : Py Unit := do
  match certificates.lookup row.oldDigest, certificates.lookup row.newDigest with
  | some old, some new =>
    let commitId := new.decision.commitId
    match operations.lookup commitId, ← decisionEvent s commitId with
    | none, _ => throw (.keyError commitId)
    | some operation, .obj event =>
      ensure (row.edgeId = auditId "replace" [row.oldDigest, row.newDigest]) semanticError
      ensure (row.nonce = new.decision.nonce) semanticError
      ensure (old.subject.workflowId = new.subject.workflowId) semanticError
      ensure (old.subject.nodeId = new.subject.nodeId) semanticError
      ensure (latest row.oldDigest = some .superseded) semanticError
      ensure (latest row.newDigest).isSome semanticError
      ensure ((← int new.bindings.committedNodeVersion) =
        (← int old.bindings.committedNodeVersion) + 1) semanticError
      ensure (operation.old = some row.oldDigest) semanticError
      ensure (event.lookup "old_certificate_digest" = some (.str row.oldDigest)) semanticError
    | _, _ => throw semanticError
  | _, _ => throw semanticError

def validateSupersession (latest : Latest) (operations : Operations)
    (seen : List SupersessionEdgeRow) (row : SupersessionEdgeRow)
    : Py (List SupersessionEdgeRow) := do
  validateSupersessionEdge s certificates latest operations row
  ensure (seen.all fun r => r.oldDigest ≠ row.oldDigest && r.newDigest ≠ row.newDigest)
    semanticError
  return row :: seen

def incoming? (digest : String) : Option String :=
  (s.supersessionEdges.find? (·.newDigest = digest)).map (·.oldDigest)

def validateIncoming (row : DecisionRow) : Py Unit := do
  match row.certificateDigest, operations.lookup row.commitId with
  | some digest, some operation => ensure (incoming? s digest = operation.old) semanticError
  | _, _ => throw (.keyError row.commitId)

def validateSupersessions (latest : Latest) (operations : Operations) : Py Unit := do
  let _ ← s.supersessionEdges.rows.foldlM (validateSupersession s certificates latest operations) []
  let superseded := (certificates.map Prod.fst).filter (latest · = some .superseded)
  ensure (sameMembers superseded (s.supersessionEdges.rows.map (·.oldDigest))) semanticError
  (s.decisions.rows.filter (·.outcome = .committed)).forM (validateIncoming s operations)

def validateControl (latest : Latest) (row : ControlRow) : Py Unit := do
  let expectedAudit := auditId "revoke"
    [row.scope.value, row.workflowId, row.targetId, row.claimedGeneration]
  let expectedRow := auditRow row.auditEventId "revoked" row.targetId
    (revocationDetails row.scope row.workflowId row.generation)
  ensure (row.operationId = expectedAudit) semanticError
  ensure (row.auditEventId = expectedAudit) semanticError
  ensure (audit? s row.auditEventId = some expectedRow.eventJson) semanticError
  ensure (row.payload = controlPayload row.scope row.workflowId row.targetId row.generation
    row.claimedGeneration row.reason row.auditEventId) semanticError
  ensure (sha256Digest row.payload = row.payloadDigest) semanticError
  if row.scope = .certificate then
    ensure row.generation.isNone semanticError
    ensure (latest row.targetId = some .revoked) semanticError
    ensure ((certificates.lookup row.targetId).any (·.subject.workflowId = row.workflowId))
      semanticError
  else
    match row.generation with
    | none => throw semanticError
    | some generation =>
      let canonical ← orInvalid (canonicalPositiveDecimal generation maxSafeInteger)
      ensure (toString canonical = generation) semanticError

def expectedGeneration (controls : List ControlRow) (p : ControlRow → Bool) : Option Int :=
  (controls.filter p).foldl
    (fun expected row =>
      match row.generation.bind PyInt.int? with
      | some generation => some (max (expected.getD 0) generation)
      | none => expected)
    none

def ControlRow.isActor (row : ControlRow) (workflowId actorId : String) : Bool :=
  row.scope = .actor && row.workflowId = workflowId && row.targetId = actorId

def ControlRow.isWorkflow (row : ControlRow) (workflowId : String) : Bool :=
  row.scope = .workflow && row.workflowId = workflowId

def validateGenerations : Py Unit := do
  let controls := s.controlEvents.rows
  ensure (s.actorRevocations.rows.all fun r =>
    expectedGeneration controls (·.isActor r.workflowId r.actorId) = PyInt.int? r.generation)
    semanticError
  ensure (controls.all fun c => c.scope ≠ .actor || s.actorRevocations.any fun r =>
    c.isActor r.workflowId r.actorId) semanticError
  ensure (s.workflowRevocations.rows.all fun r =>
    expectedGeneration controls (·.isWorkflow r.workflowId) = PyInt.int? r.generation)
    semanticError
  ensure (controls.all fun c => c.scope ≠ .workflow || s.workflowRevocations.any fun r =>
    c.isWorkflow r.workflowId) semanticError

def validateOutboxCommit (fact : TrustFact) (row : OutboxRow) : Py Unit := do
  match s.decisions.find? (·.commitId = row.operationId) with
  | none => throw semanticError
  | some decision =>
    ensure (decision.outcome = .committed) semanticError
    let digest := decision.certificateDigest.getD "None"
    match certificates.lookup digest with
    | none => throw (.keyError digest)
    | some certificate =>
      let expectedPayload ← encodeCertificate certificate
      ensure (row.auditEventId = decision.auditEventId) semanticError
      ensure (fact.kind = "commit" && fact.subject = digest) semanticError
      ensure (row.eventId = auditId "outbox" ["COMMIT", row.operationId, digest]) semanticError
      ensure (row.eventJson = expectedPayload) semanticError

def validateOutboxControl (fact : TrustFact) (row : OutboxRow) : Py Unit := do
  match s.controlEvents.find? (·.operationId = row.operationId) with
  | none => throw semanticError
  | some control =>
    ensure (row.auditEventId = control.auditEventId) semanticError
    ensure (fact.kind = "control" && fact.subject = row.operationId) semanticError
    ensure (row.eventId = auditId "outbox" ["CONTROL", row.operationId, control.payloadDigest])
      semanticError
    ensure (row.eventJson = control.payload) semanticError

def validateOutboxPayload (fact : TrustFact) (row : OutboxRow) : Py Unit :=
  match row.eventKind with
  | .commit => validateOutboxCommit s certificates fact row
  | .control => validateOutboxControl s fact row

def validateOutboxRow (facts : List TrustFact) (row : OutboxRow) : Py Unit := do
  ensure (row.eventSequence = row.trustSequence) semanticError
  match facts.find? (·.sequence = row.eventSequence) with
  | none => throw semanticError
  | some fact =>
    ensure (row.auditEventId = fact.auditEventId) semanticError
    validateOutboxPayload s certificates fact row
    ensure row.state.check semanticError

def validateOutbox (facts : List TrustFact)
    : Py Unit := do
  s.outbox.rows.forM (validateOutboxRow s certificates facts)
  let seen (kind : OutboxKind) :=
    (s.outbox.rows.filter (·.eventKind = kind)).map (·.operationId)
  let controls := s.controlEvents.rows.map (·.operationId)
  ensure (sameMembers (seen .commit) (committedIds s)) semanticError
  ensure (sameMembers (seen .control) controls) semanticError
  ensure (facts.length = (committedIds s).length + controls.length) semanticError

def claimedIdentity (request : AtomicCommitRequest) (old : Json) : String :=
  sha256Digest (json (.obj
    [("old_certificate_digest", old),
      ("operation_kind", .str (if old = .null then "COMMIT" else "SUPERSEDE")),
      ("request", authorityRequestObject request)])).encodeUTF8

structure ExpectedConflict where
  requestDigest : String
  publicRequestDigest : String
  workflowId : String
  nodeId : String
  attemptId : String
  old : Json

def expectedConflict (indexed : Option Indexed) (claim : Fields) : Py ExpectedConflict := do
  let invalid := PyError.valueError "invalid conflict claim"
  let hasKeys (keys : List String) := sameMembers (claim.map Prod.fst) keys
  match claim.lookup "kind" with
  | some (.str "atomic") =>
    ensure (hasKeys ["kind", "request", "supersede_old"]) invalid
    let request ← requestFromJson (json (← item claim "request"))
    let old ← item claim "supersede_old"
    return ⟨claimedIdentity request old, ← publicRequestDigest request, request.subject.workflowId,
      request.subject.nodeId, request.subject.attemptId, old⟩
  | some (.str "recovery") =>
    ensure (hasKeys ["kind", "commit_id", "request_digest"]) invalid
    let requestDigest ← string claim "request_digest"
    match indexed with
    | none => throw (.valueError "recovery conflict lacks original operation")
    | some operation =>
      let subject := operation.request.subject
      return ⟨requestDigest, requestDigest, subject.workflowId, subject.nodeId, subject.attemptId,
        .null⟩
  | _ => throw invalid

def conflictEvent (commitId : String) (old : Json) : String :=
  let details :=
    match old with
    | .str old => [("old_certificate_digest", old)]
    | _ => []
  (auditRow "" FailureCode.commitIdEquivocation.value commitId details).eventJson

def validateConflict (row : ConflictRow) : Py Unit := do
  let indexed := operations.lookup row.commitId
  let expected ← orInvalid do
    match ← loads row.conflictClaimJson with
    | .obj claim =>
      ensure (row.conflictClaimJson = json (.obj claim)) (.valueError "invalid conflict claim")
      expectedConflict indexed claim
    | _ => throw (.valueError "invalid conflict claim")
  match indexed with
  | none => throw semanticError
  | some original =>
    let subject := original.request.subject
    ensure (row.originalRequestDigest = original.requestDigest) semanticError
    ensure (public? s row.commitId = some row.originalPublicRequestDigest) semanticError
    ensure (row.originalWorkflowId = original.workflowId) semanticError
    ensure (row.originalNodeId = subject.nodeId) semanticError
    ensure (row.originalAttemptId = subject.attemptId) semanticError
    ensure (row.conflictingRequestDigest = expected.requestDigest) semanticError
    ensure (row.conflictingPublicRequestDigest = expected.publicRequestDigest) semanticError
    ensure (row.conflictingWorkflowId = expected.workflowId) semanticError
    ensure (row.conflictingNodeId = expected.nodeId) semanticError
    ensure (row.conflictingAttemptId = expected.attemptId) semanticError
    ensure (row.auditEventId = auditId "conflict" [row.commitId, expected.requestDigest])
      semanticError
    ensure (audit? s row.auditEventId = some (conflictEvent row.commitId expected.old))
      semanticError
    ensure (0 < row.observationSequence) semanticError

def observations (commitId : String) : List Nat :=
  (s.commitConflicts.rows.filter (·.commitId = commitId)).map (·.observationSequence)

def validateConflicts : Py Unit := do
  s.commitConflicts.rows.forM (validateConflict s operations)
  ensure (s.commitConflicts.rows.all fun r =>
    let values := observations s r.commitId
    values.mergeSort = List.range' 1 values.length) semanticError

structure SemanticSnapshot where
  certificates : Certificates
  dispositions : Dispositions
  envelopeSizes : List (String × Nat)

def validateSemanticIntegrity : Py SemanticSnapshot := do
  let certificates ← s.certificates.rows.mapM (validateCertificate config)
  let dispositions ← validateDispositions s certificates
  let latest := fun digest => dispositions.lookup digest
  validateLogicalNodes s certificates latest
  validateCandidates config s
  let facts ← validateTrustLog s
  let operations ← s.commitIndex.rows.mapM validateCommitIndex
  validateIndexes s
  validateEdges s certificates
  validateDecisions config s certificates operations
  validateOutputRefs s operations
  validateSupersessions s certificates latest operations
  s.controlEvents.rows.forM (validateControl s certificates latest)
  validateGenerations s
  validateOutbox s certificates facts
  validateConflicts s operations
  return ⟨certificates, dispositions,
    s.certificates.rows.map fun r => (r.certificateDigest, r.envelope.length)⟩

end Validation

end Apcc
