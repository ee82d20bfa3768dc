import ConstitutionalSwarm.Apcc.Store.Candidate

namespace Apcc

def isLaterGeneration (recorded : Option String) (generation : String) : Py Bool :=
  match recorded with
  | none => .ok false
  | some recorded => do return (← int recorded) > (← int generation)

def actorGeneration? (s : Store) (workflowId actorId : String) : Option String :=
  (s.actorRevocations.find? fun r => r.workflowId = workflowId && r.actorId = actorId).map
    (·.generation)

def workflowGeneration? (s : Store) (workflowId : String) : Option String :=
  (s.workflowRevocations.find? (·.workflowId = workflowId)).map (·.generation)

def hasLaterGenerationRevocation (s : Store) (certificate : CommitCertificate) : Py Bool := do
  let subject := certificate.subject
  let context := certificate.context
  if ← isLaterGeneration (actorGeneration? s subject.workflowId subject.agentId)
      context.agentRevocationGeneration then
    return true
  else
    isLaterGeneration (workflowGeneration? s subject.workflowId)
      context.workflowRevocationGeneration

def trustedNow (now : Int) : Py Nat :=
  if 0 ≤ now ∧ now ≤ maxSafeInteger then .ok now.toNat
  else .error (.valueError FailureCode.invalidDecimalString.value)

section Operations

variable [Platform] (authority : Authority)

variable (s : Store) (request : AtomicCommitRequest) (supersedeOld : Option String)

def certificateOf (sequence : String) (now : Nat)
    : CommitCertificate where
  header :=
    { protocolVersion := "APCC-1.0-draft", certificateType := "apcc.commit-certificate",
      encodingProfile := "APCC-CJ1", digestAlgorithm := "SHA-256", signatureAlgorithm := "Ed25519",
      authorityStoreId := authority.config.authorityStoreId,
      commitAuthorityKeyId := authority.config.commitTrust.keyId,
      certificateSequence := sequence, valid := CertificateHeader.supported_v1 }
  subject := request.subject
  context := request.context
  evidence := request.evidence
  decision := ⟨"committed", "OK", request.commitId, request.nonce, toString now, rfl⟩
  bindings := request.bindings
  signatures := request.signatures

def Check.failure {α : Type} : Check α → Py (Option FailureCode)
  | .ok _ => .ok none
  | .error (.code code) => .ok (some code)
  | .error (.raised e) => .error e

def certificateError (certificate : CommitCertificate) : Check Unit := do
  verifyEvidence certificate authority.config.scopedTrust
  verifyBindings certificate

def staticError (now : Int) : Py (Option FailureCode) :=
  match trustedNow now with
  | .error e => .error e
  | .ok now =>
    match (certificateError authority (certificateOf authority request "1" now)).failure with
    | .ok code => .ok code
    | .error _ => .ok (some .transactionAborted)

structure Sealed where
  payload : Bytes
  envelope : Bytes
  digest : String

def sealCertificate (certificate : CommitCertificate) : Py Sealed := do
  let payload ← encodeCertificate certificate
  let signature := authority.sign .commit authority.config.commitTrust.keyId .commit payload
  let envelope ← encodeEnvelope payload signature.keyId signature.signatureB64u
  match verifyHistorical envelope authority.config.scopedTrust with
  | .ok _ => return ⟨payload, envelope, sha256Digest payload⟩
  | .error (.code code) => throw (.valueError code.value)
  | .error (.raised e) => throw e

def nextSequence : Py Nat :=
  let sequence := (s.certificates.rows.map (·.sequence)).foldl max 0 + 1
  if maxSafeInteger < sequence then .error (.valueError FailureCode.sizeLimitExceeded.value)
  else .ok sequence

def signedEdges (certificate : CommitCertificate) : List String :=
  (certificate.bindings.predecessors.map (·.certificateDigest)).mergeSort fun a b => a ≤ b

def storedEdges (commitId : String) : List String :=
  ((s.predecessorEdges.rows.filter (·.childCommitId = commitId)).map
    (·.predecessorDigest)).mergeSort fun a b => a ≤ b

def resolvePredecessor (certificateDigest : String) : Option Bytes := do
  let row ← s.certificate? certificateDigest
  let detached ← (decodeEnvelope row.envelope).toOption
  guard (detached.payload = row.certificateJson)
  guard (detached.payloadSha256 = certificateDigest)
  guard (sha256Digest row.certificateJson = certificateDigest)
  let certificate ← (decodeCertificate row.certificateJson).toOption
  guard (storedEdges s row.commitId = signedEdges certificate)
  return row.envelope

def resolveStored (limits : CausalClosureLimits) (digest : String) (walk : Walk)
    : Check (CommitCertificate × Walk) :=
  match walk.cache.lookup digest with
  | some certificate => .ok (certificate, walk)
  | none => do
    reject (walk.cache.length + 1 ≥ limits.maxCertificates) .sizeLimitExceeded
    match resolvePredecessor s digest with
    | none => .error (.code .invalidPredecessor)
    | some envelope => do
      reject (walk.totalBytes + envelope.length > limits.maxTotalBytes) .sizeLimitExceeded
      match verifyHistorical envelope authority.config.scopedTrust with
      | .ok verified =>
        return (verified.certificate,
          { walk with
            cache := (digest, verified.certificate) :: walk.cache
            totalBytes := walk.totalBytes + envelope.length })
      | .error (.code _) => .error (.code .invalidPredecessor)
      | .error (.raised e) => .error (.raised e)

def checkEffective (entry : String × CommitCertificate) : Check Unit := do
  let disposition := s.latestDisposition entry.1
  reject (disposition = none || disposition = some .revoked) .invalidPredecessor
  reject (← hasLaterGenerationRevocation s entry.2) .invalidPredecessor

def requestCausalError (root : CommitCertificate) : Check Unit := do
  let limits : CausalClosureLimits := {}
  let payload ← encodeCertificate root
  let envelope ← encodeEnvelope payload authority.config.commitTrust.keyId
    (Base64.encode (List.replicate 64 0))
  reject (envelope.length > limits.maxTotalBytes) .sizeLimitExceeded
  match visit (resolveStored authority s limits) limits.maxDepth root [sha256Digest payload]
      ⟨[], [], envelope.length⟩ with
  | .ok walk => walk.cache.reverse.forM (checkEffective s)
  | .error (.code code) => .error (.code code)
  | .error (.raised _) => .error (.code .invalidPredecessor)

def checkPredecessor (predecessor : PredecessorRef) : Check Unit := do
  match s.certificate? predecessor.certificateDigest with
  | none => reject true .invalidPredecessor
  | some row => do
    reject ((row.commitId, row.workflowId, row.nodeId) ≠
      (predecessor.commitId, predecessor.workflowId, predecessor.nodeId)) .invalidPredecessor
    match decodeCertificate row.certificateJson with
    | .error _ => reject true .invalidPredecessor
    | .ok certificate => do
      reject (certificate.bindings.committedNodeVersion ≠ predecessor.committedNodeVersion ||
        certificate.subject.outputDigest ≠ predecessor.outputDigest) .invalidPredecessor
      let pointer :=
        (s.logicalNode? predecessor.workflowId predecessor.nodeId).bind (·.certificateDigest)
      reject (pointer ≠ some predecessor.certificateDigest ||
        s.latestDisposition predecessor.certificateDigest ≠ some .current) .predecessorReplaced

def candidateMatches (row : CandidateRow) (request : AtomicCommitRequest) (evidenceBound : Bool)
    : Bool :=
  row.expectedVersion = request.bindings.expectedNodeVersion &&
    row.result.any (fun result => sha256Digest result = request.subject.outputDigest) &&
    row.subjectJson = json request.subject.toObject &&
    (!evidenceBound ||
      (row.contextJson = json request.context.toObject &&
        row.predecessorsJson = predecessorsJson request.bindings.predecessors))

def checkPointer (node : LogicalNodeRow) : Option String → Check Unit
  | none => reject node.certificateDigest.isSome .illegalNodeState
  | some old =>
    reject (node.certificateDigest ≠ some old || s.latestDisposition old ≠ some .current)
      .predecessorReplaced

def checkGenerations (subject : CertificateSubject) (context : CertificateContext)
    : Check Unit := do
  reject (← isLaterGeneration (actorGeneration? s subject.workflowId subject.agentId)
    context.agentRevocationGeneration) .actorRevoked
  reject (← isLaterGeneration (workflowGeneration? s subject.workflowId)
    context.workflowRevocationGeneration) .workflowRevoked

def preflight (certificate : CommitCertificate) : Check Unit := do
  let subject := request.subject
  match s.candidate? subject.workflowId subject.nodeId subject.attemptId with
  | none => reject true .crossAttemptReplay
  | some candidate => do
    reject (candidate.lifecycle = .executing && candidate.result.isNone) .resultNotStaged
    match s.logicalNode? subject.workflowId subject.nodeId with
    | none => reject true .nodeVersionConflict
    | some node => do
      reject (node.version ≠ request.bindings.expectedNodeVersion) .nodeVersionConflict
      reject (candidate.lifecycle = .quarantined) .quarantined
      reject (candidate.lifecycle = .executing) .resultNotStaged
      reject (candidate.lifecycle ≠ .commitPending) .authorityFromStagingDenied
      checkPointer s node supersedeOld
      checkGenerations s subject request.context
      reject (!candidateMatches candidate request true) .stagedResultConflict
      reject (candidate.proposalDigest ≠ some (proposalIdentity request)) .stagedResultConflict
      reject ((← predecessorRoot request.bindings.predecessors) ≠ request.bindings.predecessorRoot)
        .predecessorRootMismatch
      requestCausalError authority s certificate
      request.bindings.predecessors.forM (checkPredecessor s)

def equivocation (commitId auditEventId : String) : CommitResult :=
  ⟨commitId, .conflicted, FailureCode.commitIdEquivocation.value, none, none, none, auditEventId⟩

def recoveryDenied (commitId auditEventId : String) : CommitResult :=
  ⟨commitId, .denied, FailureCode.authorityFromRecoveryDenied.value, none, none, none, auditEventId⟩

def decidedResult (commitId : String) : Py CommitResult := do
  match s.decisions.find? (·.commitId = commitId) with
  | none => throw (.valueError "APCC commit index has no decision")
  | some decision =>
    if decision.outcome ≠ .committed then
      ensure (FailureCode.ofValue? decision.reason).isSome
        (.valueError "not a valid FailureCode")
      return ⟨commitId, decision.outcome, decision.reason, none, none, none, decision.auditEventId⟩
    else
      match s.certificates.find? (·.commitId = commitId) with
      | none => throw (.valueError "committed APCC decision has no certificate")
      | some row =>
        return ⟨commitId, decision.outcome, decision.reason, some row.certificateJson,
          some row.envelope, some row.certificateDigest, decision.auditEventId⟩

def replay (commitId requestDigest : String) : Py CommitResult := do
  match s.commitIndex? commitId with
  | none => return recoveryDenied commitId (auditId "missing" [commitId, requestDigest])
  | some indexed =>
    let publicReplay :=
      s.requestIndex.any fun r => r.requestDigest = requestDigest && r.commitId = commitId
    if indexed.requestDigest ≠ requestDigest && !publicReplay then
      let conflict :=
        (s.commitConflicts.find? fun r =>
            r.commitId = commitId && r.conflictingRequestDigest = requestDigest).or
          (s.commitConflicts.find? fun r =>
            r.commitId = commitId && r.conflictingPublicRequestDigest = requestDigest)
      match conflict with
      | some row => return equivocation commitId row.auditEventId
      | none => return equivocation commitId (auditId "conflict" [commitId, requestDigest])
    else decidedResult s commitId

def indexRow : CommitIndexRow :=
  ⟨request.commitId, operationIdentity request supersedeOld, request.subject.workflowId,
    operationRequestJson request supersedeOld⟩

def claimNonce (reason : FailureCode)
    : Py (String × Table NonceRow) :=
  match s.nonceOwner? request.nonce with
  | some owner => do
    ensure (reason = .nonceReplay) (.valueError "APCC nonce already has a durable owner")
    return (owner.commitId, s.nonceLedger)
  | none => do
    ensure (reason ≠ .nonceReplay) (.valueError "APCC nonce replay has no durable owner")
    return (request.commitId, ← insert s.nonceLedger ⟨request.nonce, request.commitId⟩)

def negative (reason : FailureCode) (supersedeOld : Option String) : Py (CommitResult × Store) := do
  let commitId := request.commitId
  let requestDigest := operationIdentity request supersedeOld
  let outcome : RequestOutcome :=
    if reason = .nodeVersionConflict then .conflicted else .denied
  let audit := auditId outcome.value [commitId, requestDigest, reason.value]
  let commitIndex ← insert s.commitIndex (indexRow request supersedeOld)
  let requestIndex ← insert s.requestIndex ⟨← publicRequestDigest request, commitId⟩
  let (nonceOwner, nonceLedger) ← claimNonce s request reason
  let auditEvents ← insert s.auditEvents
    (auditRow audit reason.value commitId (oldCertificateDetail supersedeOld))
  let decisions ← insert s.decisions
    ⟨commitId, outcome, reason.value, audit, none, request.nonce, nonceOwner⟩
  return (⟨commitId, outcome, reason.value, none, none, none, audit⟩,
    { s with commitIndex, requestIndex, nonceLedger, auditEvents, decisions })

structure Claim where
  requestDigest : String
  publicRequestDigest : String
  workflowId : String
  nodeId : String
  attemptId : String
  json : String
  supersedeOld : Option String

def atomicClaim : Py Claim := do
  return ⟨operationIdentity request supersedeOld, ← publicRequestDigest request,
    request.subject.workflowId, request.subject.nodeId, request.subject.attemptId,
    json (.obj
      [("kind", .str "atomic"), ("request", authorityRequestObject request),
        ("supersede_old", optionalText supersedeOld)]),
    supersedeOld⟩

def recoveryClaim (commitId requestDigest : String) : Claim where
  requestDigest := requestDigest
  publicRequestDigest := requestDigest
  workflowId := ""
  nodeId := ""
  attemptId := ""
  json := json (.obj
    [("commit_id", .str commitId), ("kind", .str "recovery"),
      ("request_digest", .str requestDigest)])
  supersedeOld := none

def Claim.attempt (claim : Claim) (original : CertificateSubject) : String × String × String :=
  if claim.workflowId = "" then (original.workflowId, original.nodeId, original.attemptId)
  else (claim.workflowId, claim.nodeId, claim.attemptId)

def conflictRow (claim : Claim) (original : CommitIndexRow) (originalPublic : String)
    (subject : CertificateSubject) : ConflictRow :=
  let (workflowId, nodeId, attemptId) := claim.attempt subject
  let observed := (s.commitConflicts.rows.filter (·.commitId = original.commitId)).length
  ⟨original.commitId, original.requestDigest, originalPublic, subject.workflowId, subject.nodeId,
    subject.attemptId, claim.requestDigest, claim.publicRequestDigest, workflowId, nodeId,
    attemptId, observed + 1, auditId "conflict" [original.commitId, claim.requestDigest],
    claim.json⟩

def conflict (s : Store) (commitId : String) (claim : Claim) : Py (CommitResult × Store) := do
  match s.commitIndex? commitId with
  | none => throw (.valueError "APCC conflict lacks an original operation")
  | some original =>
    let (originalRequest, _) ← operationFromJson original.requestJson
    match s.requestIndex.find? (·.commitId = commitId) with
    | none => throw (.valueError "APCC conflict lacks an original public request")
    | some originalPublic =>
      let row := conflictRow s claim original originalPublic.requestDigest originalRequest.subject
      match s.commitConflicts.find? (·.identity = row.identity) with
      | some existing => return (equivocation commitId existing.auditEventId, s)
      | none =>
        let commitConflicts ← insert s.commitConflicts row
        let auditEvents ← insert s.auditEvents
          (auditRow row.auditEventId FailureCode.commitIdEquivocation.value commitId
            (oldCertificateDetail claim.supersedeOld))
        return (equivocation commitId row.auditEventId, { s with commitConflicts, auditEvents })

def genesisDigest : String :=
  sha256Digest "APCC-1/trust-log/genesis".encodeUTF8

def trustEntryJson (sequence : Nat) (priorDigest kind subject auditEventId : String) : String :=
  json (.obj
    [("audit_event_id", .str auditEventId), ("kind", .str kind), ("prior_digest", .str priorDigest),
      ("sequence", .str (toString sequence)), ("subject", .str subject)])

def trustRow (kind subject auditEventId : String) : TrustRow :=
  let sequence := s.trustHead?.elim 1 (·.sequence + 1)
  let priorDigest := s.trustHead?.elim genesisDigest (·.entryDigest)
  let entryJson := trustEntryJson sequence priorDigest kind subject auditEventId
  ⟨sequence, auditEventId, priorDigest, sha256Digest entryJson.encodeUTF8, entryJson⟩

def outboxRow (kind : OutboxKind) (operationId digest : String) (payload : Bytes)
    (entry : TrustRow) : OutboxRow :=
  ⟨entry.sequence, auditId "outbox" [kind.value, operationId, digest], kind, operationId, payload,
    entry.auditEventId, entry.sequence, .pending⟩

def insertAll {α : Type} [TableSchema α] (t : Table α) (rows : List α) : Py (Table α) :=
  rows.foldlM insert t

def insertDisposition (t : Table DispositionRow) (row : DispositionRow)
    : Py (Table DispositionRow) := do
  let has (p : DispositionRow → Bool) :=
    t.any fun r => r.certificateDigest = row.certificateDigest && p r
  ensure ((row.eventSequence = 1 && row.disposition = .current && !has fun _ => true) ||
      (row.eventSequence = 2 && row.disposition ≠ .current &&
        has (fun r => r.eventSequence = 1 && r.disposition = .current) &&
        !has fun r => r.eventSequence = 2))
    .integrityError
  insert t row

def recordDisposition (digest nonce : String)
    : Option String → Py (Table DispositionRow × Table SupersessionEdgeRow)
  | none => do
    return (← insertDisposition s.certificateDispositions ⟨digest, 1, .current⟩,
      s.supersessionEdges)
  | some old => do
    let dispositions ← insertDisposition s.certificateDispositions ⟨old, 2, .superseded⟩
    let dispositions ← insertDisposition dispositions ⟨digest, 1, .current⟩
    return (dispositions,
      ← insert s.supersessionEdges ⟨auditId "replace" [old, digest], old, digest, nonce⟩)

def stagedOutput (subject : CertificateSubject) : Py Bytes := do
  match (s.candidate? subject.workflowId subject.nodeId subject.attemptId).bind (·.result) with
  | none => throw (.valueError "committed APCC operation lacks staged output")
  | some output =>
    ensure (sha256Digest output = subject.outputDigest)
      (.valueError "committed APCC output digest mismatch")
    return output

def recordCommit (sequence : Nat) (certificate : Sealed) : Py (CommitResult × Store) := do
  let commitId := request.commitId
  let subject := request.subject
  let digest := certificate.digest
  let requestDigest := operationIdentity request supersedeOld
  let commitIndex ← insert s.commitIndex (indexRow request supersedeOld)
  let requestIndex ← insert s.requestIndex ⟨← publicRequestDigest request, commitId⟩
  let nonceLedger ← insert s.nonceLedger ⟨request.nonce, commitId⟩
  let audit := auditId "commit" [commitId, requestDigest]
  let auditEvents ← insert s.auditEvents
    (auditRow audit "committed" commitId (oldCertificateDetail supersedeOld))
  let evidenceRefs ← insert s.evidenceRefs
    ⟨commitId, request.evidence.producerStatementDigest, request.evidence.policyStatementDigest,
      request.evidence.authorityStatementDigest⟩
  let logicalNodes ← update s.logicalNodes
    (fun r => r.workflowId = subject.workflowId && r.nodeId = subject.nodeId)
    fun r =>
      { r with version := request.bindings.committedNodeVersion, certificateDigest := some digest }
  let certificates ← insert s.certificates
    ⟨digest, commitId, certificate.payload, certificate.envelope, subject.workflowId,
      subject.nodeId, sequence⟩
  let output ← stagedOutput s subject
  let commitOutputRefs ← insert s.commitOutputRefs
    ⟨commitId, subject.workflowId, subject.nodeId, subject.attemptId, subject.outputDigest,
      output.length⟩
  let predecessorEdges ← insertAll s.predecessorEdges
    (request.bindings.predecessors.map fun p => ⟨commitId, p.certificateDigest⟩)
  let decisions ← insert s.decisions
    ⟨commitId, .committed, "OK", audit, some digest, request.nonce, commitId⟩
  let (certificateDispositions, supersessionEdges) ←
    recordDisposition s digest request.nonce supersedeOld
  let entry := trustRow s "commit" digest audit
  let trustLog ← insert s.trustLog entry
  let outbox ← insert s.outbox (outboxRow .commit commitId digest certificate.payload entry)
  return (⟨commitId, .committed, "OK", some certificate.payload, some certificate.envelope,
      some digest, audit⟩,
    { s with
      commitIndex, requestIndex, nonceLedger, auditEvents, evidenceRefs, logicalNodes, certificates,
      commitOutputRefs, predecessorEdges, decisions, certificateDispositions, supersessionEdges,
      trustLog, outbox })

def commitError (certificate : CommitCertificate) : Check Unit := do
  certificateError authority certificate
  preflight authority s request supersedeOld certificate

def commitFresh (now : Int) : Py (CommitResult × Store) := do
  if (s.nonceOwner? request.nonce).isSome then
    negative s request .nonceReplay supersedeOld
  else
    let sequence ← nextSequence s
    let certificate := certificateOf authority request (toString sequence) (← trustedNow now)
    match ← (commitError authority s request supersedeOld certificate).failure with
    | some code => negative s request code supersedeOld
    | none =>
      recordCommit s request supersedeOld sequence (← sealCertificate authority certificate)

def commit (now : Int)
    : Py (CommitResult × Store) := do
  let requestDigest := operationIdentity request supersedeOld
  match s.commitIndex? request.commitId with
  | some existing =>
    if existing.requestDigest = requestDigest then
      return (← replay s request.commitId requestDigest, s)
    else conflict s request.commitId (← atomicClaim request supersedeOld)
  | none => commitFresh authority s request supersedeOld now

def atomicCommit (now : Int)
    : Py (CommitResult × Store) :=
  commit authority s request none now

end Operations

end Apcc
