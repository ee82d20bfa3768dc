import ConstitutionalSwarm.Apcc.Store.Commit

namespace Apcc

variable [Platform] (authority : Authority)

def failure {α : Type} (code : FailureCode) : Py α :=
  .error (.valueError code.value)

variable (s : Store) (request : RevocationRequest)

def updateCandidate (subject : CertificateSubject) (f : CandidateRow → CandidateRow)
    : Py (Table CandidateRow) := do
  let isAttempt (r : CandidateRow) := r.isFor subject.workflowId subject.nodeId subject.attemptId
  let guarded := s.commitOutputRefs.any fun r =>
    r.workflowId = subject.workflowId && r.nodeId = subject.nodeId &&
      r.attemptId = subject.attemptId
  ensure (!guarded || s.candidates.rows.all fun r =>
      !isAttempt r || ((f r).result = r.result && (f r).subjectJson = r.subjectJson))
    .integrityError
  update s.candidates isAttempt f

def stagedCandidate (request : StageResultRequest)
    : Py (CandidateRow × Table CandidateRow) := do
  let subject := request.subject
  match s.candidate? subject.workflowId subject.nodeId subject.attemptId with
  | some row => return (row, s.candidates)
  | none =>
    let template := s.candidates.find? fun r =>
      r.workflowId = subject.workflowId && r.nodeId = subject.nodeId
    match template, s.logicalNode? subject.workflowId subject.nodeId with
    | some template, some node =>
      raiseIf (request.expectedNodeVersion ≠ node.version)
        (.valueError FailureCode.stagedResultConflict.value)
      let row : CandidateRow :=
        ⟨subject.workflowId, subject.nodeId, subject.attemptId, subject.agentId, .executing,
          node.version, none, json subject.toObject, template.contextJson, "[]", none,
          auditId "candidate" [subject.attemptId], none⟩
      return (row, ← insert s.candidates row)
    | _, _ => failure .crossAttemptReplay

def stageResult (request : StageResultRequest) : Py (Bool × Store) := do
  let subject := request.subject
  let audit := auditId "stage" [subject.workflowId, subject.nodeId, subject.attemptId,
    subject.outputDigest, request.expectedNodeVersion]
  let (row, candidates) ← stagedCandidate s request
  let mismatch := sha256Digest request.resultBytes ≠ subject.outputDigest
  raiseIf (mismatch && row.lifecycle ≠ .resultStaged)
    (.valueError FailureCode.outputDigestMismatch.value)
  raiseIf (row.lifecycle = .quarantined) (.valueError FailureCode.quarantined.value)
  raiseIf (row.lifecycle ≠ .executing && row.lifecycle ≠ .resultStaged)
    (.valueError FailureCode.illegalNodeState.value)
  raiseIf (row.expectedVersion ≠ request.expectedNodeVersion ||
    row.subjectJson ≠ json subject.toObject) (.valueError FailureCode.stagedResultConflict.value)
  raiseIf (row.lifecycle = .resultStaged && row.result.isNone)
    (.valueError "APCC authority row contains non-binary data")
  let differs : Bool := row.lifecycle = .resultStaged && row.result ≠ some request.resultBytes
  let s := { s with candidates }
  let candidates ← updateCandidate s subject fun r =>
    if differs then { r with lifecycle := .quarantined }
    else
      { r with
        lifecycle := .resultStaged, result := some request.resultBytes, auditEventId := audit }
  let s := { s with candidates }
  validateWrittenCandidate authority.config s subject.workflowId subject.nodeId subject.attemptId
  return (mismatch || differs, s)

inductive Advance where
  | assembleEvidence
  | proposeCommit
  deriving DecidableEq

def Advance.expected : Advance → CandidateLifecycle
  | .assembleEvidence => .resultStaged
  | .proposeCommit => .evidenceAssembled

def Advance.target : Advance → CandidateLifecycle
  | .assembleEvidence => .evidenceAssembled
  | .proposeCommit => .commitPending

def Advance.notReady : Advance → FailureCode
  | .assembleEvidence => .resultNotStaged
  | .proposeCommit => .illegalNodeState

def Advance.write (step : Advance) (proposal : AtomicCommitRequest) (row : CandidateRow)
    : CandidateRow :=
  let row :=
    match step with
    | .assembleEvidence =>
      { row with
        contextJson := json proposal.context.toObject
        predecessorsJson := predecessorsJson proposal.bindings.predecessors }
    | .proposeCommit => row
  { row with
    lifecycle := step.target
    auditEventId := auditId step.target.value [proposal.commitId, proposalIdentity proposal]
    proposalDigest := some (proposalIdentity proposal)
    proposalJson := some (authorityRequestJson proposal) }

def advance (step : Advance) (proposal : AtomicCommitRequest) (now : Int)
    : Py Store := do
  match ← staticError authority proposal now with
  | some code => failure code
  | none =>
    let subject := proposal.subject
    match s.candidate? subject.workflowId subject.nodeId subject.attemptId with
    | none => failure .crossAttemptReplay
    | some row =>
      raiseIf (row.lifecycle = .executing && row.result.isNone) (.valueError step.notReady.value)
      raiseIf (!candidateMatches row proposal (step = .proposeCommit))
        (.valueError FailureCode.stagedResultConflict.value)
      raiseIf (row.lifecycle = .quarantined) (.valueError FailureCode.quarantined.value)
      raiseIf (row.lifecycle ≠ step.expected) (.valueError step.notReady.value)
      let candidates ← updateCandidate s subject (step.write proposal)
      return { s with candidates }

structure SupersessionResult where
  result : CommitResult
  oldCertificateDigest : String
  committed : Option (String × String × String)
  deriving DecidableEq

def auditedOldDigest (eventJson : String) : Py String := do
  match ← loads eventJson with
  | .obj event =>
    match event.lookup "old_certificate_digest" with
    | some (.str old) => return old
    | _ => throw (.valueError "APCC result is not a supersession")
  | _ => throw (.valueError "APCC supersession audit payload is invalid")

def supersessionAnswer (commitId requestDigest : String) : Py CommitResult :=
  let conflict := s.commitConflicts.find? fun r =>
    r.commitId = commitId && r.conflictingRequestDigest = requestDigest
  match conflict with
  | some row => .ok (equivocation commitId row.auditEventId)
  | none =>
    match s.commitIndex? commitId with
    | none => .error (.valueError "APCC supersession has no durable commit identity")
    | some indexed => replay s commitId indexed.requestDigest

def supersessionReplay (commitId requestDigest : String) : Py SupersessionResult := do
  let result ← supersessionAnswer s commitId requestDigest
  match s.auditEvents.find? (·.auditEventId = result.auditEventId) with
  | none => throw (.valueError "APCC supersession has no durable audit identity")
  | some audit =>
    let old ← auditedOldDigest audit.eventJson
    if result.outcome ≠ .committed then return ⟨result, old, none⟩
    else
      let digest := result.certificateDigest.getD ""
      let edge := s.supersessionEdges.find? (·.newDigest = digest)
      let event := s.outbox.find? fun r => r.eventKind = .commit && r.operationId = commitId
      match edge, event with
      | some edge, some event => return ⟨result, old, some (digest, edge.edgeId, event.eventId)⟩
      | _, _ => throw (.valueError "committed supersession has incomplete durable identities")

def supersede (request : SupersessionRequest) (now : Int)
    : Py (Py SupersessionResult × Store) := do
  let commitId := request.newProposal.commitId
  let requestDigest := operationIdentity request.newProposal (some request.oldCertificateDigest)
  if s.commitIndex.any fun r => r.commitId = commitId && r.requestDigest = requestDigest then
    return (supersessionReplay s commitId requestDigest, s)
  else
    let (_, s) ← commit authority s request.newProposal (some request.oldCertificateDigest) now
    return (supersessionReplay s commitId requestDigest, s)

def controlPayload (scope : RevocationScope) (workflowId targetId : String)
    (generation : Option String) (claimedGeneration reason auditEventId : String) : Bytes :=
  (json (.obj
    [("audit_event_id", .str auditEventId), ("claimed_generation", .str claimedGeneration),
      ("generation", optionalText generation), ("reason", .str reason),
      ("scope", .str scope.value), ("target_id", .str targetId),
      ("workflow_id", .str workflowId)])).encodeUTF8

def revocationDetails (scope : RevocationScope) (workflowId : String) (generation : Option String)
    : List (String × String) :=
  ("scope", scope.value) :: ("workflow_id", workflowId) ::
    generation.toList.map fun g => ("generation", g)

def requireIncrease (generation : String) (recorded : Option String) : Py Unit := do
  let prior ← recorded.elim (pure 0) int
  raiseIf ((← int generation) ≤ prior) (.valueError "revocation generation must increase")

def revocationFence (generation : String)
    : Py Store := do
  let workflowId := request.workflowId
  let targetId := request.targetId
  match request.scope with
  | .certificate =>
    raiseIf ((s.certificate? targetId).any (·.workflowId ≠ workflowId)) (.valueError
        "certificate revocation target does not belong to the revocation workflow")
    raiseIf (s.latestDisposition targetId ≠ some .current)
      (.valueError "certificate revocation target is not current")
    let certificateDispositions ←
      insertDisposition s.certificateDispositions ⟨targetId, 2, .revoked⟩
    return { s with certificateDispositions }
  | .actor =>
    let isKey (r : ActorRevocationRow) := r.workflowId = workflowId && r.actorId = targetId
    requireIncrease generation ((s.actorRevocations.find? isKey).map (·.generation))
    let actorRevocations ← replace s.actorRevocations isKey ⟨workflowId, targetId, generation⟩
    return { s with actorRevocations }
  | .workflow =>
    let isKey (r : WorkflowRevocationRow) := r.workflowId = workflowId
    requireIncrease generation ((s.workflowRevocations.find? isKey).map (·.generation))
    let workflowRevocations ← replace s.workflowRevocations isKey ⟨workflowId, generation⟩
    return { s with workflowRevocations }

def revocationGeneration : Py (Option String) := do
  if request.scope = .certificate then return none
  else
    return some (toString (← canonicalPositiveDecimal request.nextGeneration maxSafeInteger))

def revocationAudit : String :=
  auditId "revoke"
    [request.scope.value, request.workflowId, request.targetId, request.nextGeneration]

def controlRow (generation : Option String) : ControlRow :=
  let audit := revocationAudit request
  let payload := controlPayload request.scope request.workflowId request.targetId generation
    request.nextGeneration request.reason audit
  ⟨audit, request.scope, request.workflowId, request.targetId, generation, request.nextGeneration,
    request.reason, audit, payload, sha256Digest payload⟩

def revoke : Py (String × Store) := do
  let generation ← revocationGeneration request
  let audit := revocationAudit request
  if s.auditEvents.any (·.auditEventId = audit) then return (audit, s)
  else
    let s ← revocationFence s request (generation.getD "")
    let control := controlRow request generation
    let auditEvents ← insert s.auditEvents
      (auditRow audit "revoked" request.targetId
        (revocationDetails request.scope request.workflowId generation))
    let controlEvents ← insert s.controlEvents control
    let entry := trustRow s "control" audit audit
    let trustLog ← insert s.trustLog entry
    let outbox ← insert s.outbox
      (outboxRow .control audit control.payloadDigest control.payload entry)
    return (audit, { s with auditEvents, controlEvents, trustLog, outbox })

def recover (commitId requestDigest : String) : Py (CommitResult × Store) := do
  match s.commitIndex? commitId with
  | none =>
    return (recoveryDenied commitId (auditId "recovery-missing" [commitId, requestDigest]), s)
  | some indexed =>
    let publicReplay :=
      s.requestIndex.any fun r => r.requestDigest = requestDigest && r.commitId = commitId
    if indexed.requestDigest ≠ requestDigest && !publicReplay then
      conflict s commitId (recoveryClaim commitId requestDigest)
    else return (← replay s commitId requestDigest, s)

def leaseMs : Nat := 30000

def outboxHead? : Option OutboxRow :=
  s.outbox.find? (·.state ≠ .delivered)

def OutboxState.leased (now : Nat) : OutboxState → Bool
  | .claimed _ _ stop => now < stop
  | .pending | .delivered => false

def claimOutbox (token : String) (now : Int) : Py (Option OutboxRow × Store) := do
  let now ← trustedNow now
  raiseIf (now + leaseMs > maxSafeInteger) (.valueError FailureCode.invalidDecimalString.value)
  match outboxHead? s with
  | none => return (none, s)
  | some head =>
    if head.state.leased now then return (none, s)
    else
      let outbox ← update s.outbox (·.eventSequence = head.eventSequence)
        fun r => { r with state := .claimed token now (now + leaseMs) }
      return (some head, { s with outbox })

def OutboxRow.isLeasedBy (r : OutboxRow) (eventId token : String) : Bool :=
  r.eventId = eventId &&
    match r.state with
    | .claimed leaseToken _ _ => leaseToken = token
    | .pending | .delivered => false

def releaseOutbox (eventId token : String) : Py Store := do
  let outbox ← update s.outbox (·.isLeasedBy eventId token) fun r => { r with state := .pending }
  return { s with outbox }

def finalizeOutbox (eventId token : String) : Py Store := do
  if s.outbox.any (·.isLeasedBy eventId token) then
    let outbox ← update s.outbox (·.isLeasedBy eventId token)
      fun r => { r with state := .delivered }
    let audit := auditId "outbox-delivered" [eventId]
    if s.auditEvents.any (·.auditEventId = audit) then return { s with outbox }
    else
      let auditEvents ← insert s.auditEvents (auditRow audit "outbox_delivered" "outbox" [])
      return { s with outbox, auditEvents }
  else return s

end Apcc
