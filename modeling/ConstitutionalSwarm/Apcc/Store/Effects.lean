import ConstitutionalSwarm.Apcc.Store.Step

namespace Apcc

theorem Check.failure_eq_ok {α : Type} {x : Check α} {code : Option FailureCode}
    (h : x.failure = .ok code)
    : (∃ a, x = .ok a ∧ code = none) ∨ ∃ c, x = .error (.code c) ∧ code = some c := by
  rcases x with (c | e) | a
  . exact .inr ⟨c, rfl, (Except.ok.inj h).symm⟩
  . simp [Check.failure] at h
  . exact .inl ⟨a, rfl, (Except.ok.inj h).symm⟩

variable [Platform] {authority : Authority} {s s' : Store}

structure ConflictWrites (s : Store) (row : ConflictRow) (supersedeOld : Option String)
    (s' : Store) : Prop where
  commitConflicts : s.commitConflicts.insert? row = some s'.commitConflicts
  auditEvents : s.auditEvents.insert? (auditRow row.auditEventId
    FailureCode.commitIdEquivocation.value row.commitId (oldCertificateDetail supersedeOld))
      = some s'.auditEvents
  unchanged : s' = { s with
    commitConflicts := s'.commitConflicts, auditEvents := s'.auditEvents }

structure Original (s : Store) (commitId : String) where
  row : CommitIndexRow
  request : AtomicCommitRequest
  old : Option String
  publicDigest : String
  indexed : s.commitIndex? commitId = some row
  parsed : operationFromJson row.requestJson = .ok (request, old)
  published : (s.requestIndex.find? (·.commitId = commitId)).map (·.requestDigest)
    = some publicDigest

variable {commitId token : String} {result : CommitResult} {request : AtomicCommitRequest}
  {supersedeOld : Option String} {now : Int}

omit [Platform] in
theorem Original.commitId_eq (orig : Original s commitId)
    : orig.row.commitId = commitId := by
  simpa using (Table.mem_of_find? orig.indexed).2

abbrev Original.claimRow (original : Original s commitId) (claim : Claim) : ConflictRow :=
  conflictRow s claim original.row original.publicDigest original.request.subject

theorem conflict_cases (h : conflict s commitId claim = .ok (result, s'))
    : ∃ orig : Original s commitId,
      let row := orig.claimRow claim
      (∃ ex, s.commitConflicts.find? (·.identity = row.identity) = some ex ∧
        result = equivocation commitId ex.auditEventId ∧ s' = s) ∨
      (s.commitConflicts.find? (·.identity = row.identity) = none ∧
        result = equivocation commitId row.auditEventId ∧
        ConflictWrites s row claim.supersedeOld s') := by
  unfold conflict at h
  split at h
  . simp at h
  . next orig hidx =>
    rw [bind_eq_ok] at h
    obtain ⟨⟨request, old⟩, hparsed, h⟩ := h
    dsimp only at h
    split at h
    . simp at h
    . next originalPublic hpub =>
      have hid : orig.commitId = commitId := by
        simpa using (Table.mem_of_find? hidx).2
      refine ⟨⟨orig, request, old, originalPublic.requestDigest, hidx, hparsed,
        by rw [hpub]; rfl⟩, ?_⟩
      split at h
      . next ex hexist =>
        simp only [pure_inj, Prod.mk.injEq] at h
        exact .inl ⟨ex, hexist, h.1.symm, h.2.symm⟩
      . next hnone =>
        simp only [bind_eq_ok, insert_eq_ok, pure_inj, Prod.mk.injEq] at h
        obtain ⟨_, hconfs, _, haudits, rfl, rfl⟩ := h
        refine .inr ⟨hnone, rfl, hconfs, ?_, rfl⟩
        rw [← haudits]
        simp [conflictRow, hid]

def denialRow (request : AtomicCommitRequest) (reason : FailureCode)
    (supersedeOld : Option String) (nonceOwner : String) : DecisionRow :=
  let outcome : RequestOutcome :=
    if reason = .nodeVersionConflict then .conflicted else .denied
  ⟨request.commitId, outcome, reason.value,
    auditId outcome.value [request.commitId, operationIdentity request supersedeOld, reason.value],
    none, request.nonce, nonceOwner⟩

structure DenialWrites (s : Store) (request : AtomicCommitRequest) (reason : FailureCode)
    (supersedeOld : Option String) (nonceOwner : String) (s' : Store) : Prop where
  commitIndex : s.commitIndex.insert? (indexRow request supersedeOld) = some s'.commitIndex
  requestIndex : ∃ digest, publicRequestDigest request = .ok digest ∧
    s.requestIndex.insert? ⟨digest, request.commitId⟩ = some s'.requestIndex
  nonce :
    (∃ owner, s.nonceOwner? request.nonce = some owner ∧ reason = .nonceReplay ∧
      owner.commitId = nonceOwner ∧ s'.nonceLedger = s.nonceLedger) ∨
    (s.nonceOwner? request.nonce = none ∧ reason ≠ .nonceReplay ∧ request.commitId = nonceOwner ∧
      s.nonceLedger.insert? ⟨request.nonce, request.commitId⟩ = some s'.nonceLedger)
  auditEvents : s.auditEvents.insert?
    (auditRow (denialRow request reason supersedeOld nonceOwner).auditEventId reason.value
      request.commitId (oldCertificateDetail supersedeOld)) = some s'.auditEvents
  decisions : s.decisions.insert? (denialRow request reason supersedeOld nonceOwner)
    = some s'.decisions
  unchanged : s' = { s with
    commitIndex := s'.commitIndex, requestIndex := s'.requestIndex, nonceLedger := s'.nonceLedger
    auditEvents := s'.auditEvents, decisions := s'.decisions }

def denialResult (row : DecisionRow) : CommitResult :=
  ⟨row.commitId, row.outcome, row.reason, none, none, none, row.auditEventId⟩

theorem negative_cases (h : negative s request reason supersedeOld = .ok (result, s'))
    : ∃ nonceOwner, DenialWrites s request reason supersedeOld nonceOwner s' ∧
      result = denialResult (denialRow request reason supersedeOld nonceOwner) := by
  simp only [negative, bind_eq_ok, insert_eq_ok, pure_inj, Prod.mk.injEq] at h
  obtain ⟨commitIndex, hindex, digest, hdig, requestIndex, hreq, ⟨nonceOwner, nonceLedger⟩,
    hnonce, auditEvents, haudit, decisions, hdecs, rfl, rfl⟩ := h
  refine ⟨nonceOwner, ⟨hindex, ⟨digest, hdig, hreq⟩, ?_, haudit, hdecs, rfl⟩, rfl⟩
  unfold claimNonce at hnonce
  split at hnonce
  . next owner howner =>
    simp only [bind_eq_ok, exists_unit, ensure_eq_ok, decide_eq_true_eq, pure_inj,
      Prod.mk.injEq] at hnonce
    exact .inl ⟨owner, howner, hnonce.1, hnonce.2.1, hnonce.2.2.symm⟩
  . next hnone =>
    simp only [bind_eq_ok, exists_unit, ensure_eq_ok, decide_eq_true_eq, pure_eq_ok,
      insert_eq_ok, Except.ok.injEq, Prod.mk.injEq] at hnonce
    obtain ⟨hreason, _, hled, howner, rfl⟩ := hnonce
    exact .inr ⟨hnone, hreason, howner, hled⟩

def commitAudit (request : AtomicCommitRequest) (supersedeOld : Option String) : String :=
  auditId "commit" [request.commitId, operationIdentity request supersedeOld]

def certificateRow (request : AtomicCommitRequest) (sequence : Nat) (certificate : Sealed)
    : CertificateRow :=
  ⟨certificate.digest, request.commitId, certificate.payload, certificate.envelope,
    request.subject.workflowId, request.subject.nodeId, sequence⟩

def committedRow (request : AtomicCommitRequest) (supersedeOld : Option String)
    (certificate : Sealed) : DecisionRow :=
  ⟨request.commitId, .committed, "OK", commitAudit request supersedeOld, some certificate.digest,
    request.nonce, request.commitId⟩

structure CommitWrites (s : Store) (request : AtomicCommitRequest) (supersedeOld : Option String)
    (sequence : Nat) (certificate : Sealed) (s' : Store) : Prop where
  commitIndex : s.commitIndex.insert? (indexRow request supersedeOld) = some s'.commitIndex
  requestIndex : ∃ digest, publicRequestDigest request = .ok digest ∧
    s.requestIndex.insert? ⟨digest, request.commitId⟩ = some s'.requestIndex
  nonceLedger : s.nonceLedger.insert? ⟨request.nonce, request.commitId⟩ = some s'.nonceLedger
  auditEvents : s.auditEvents.insert? (auditRow (commitAudit request supersedeOld) "committed"
    request.commitId (oldCertificateDetail supersedeOld)) = some s'.auditEvents
  evidenceRefs : s.evidenceRefs.insert?
    ⟨request.commitId, request.evidence.producerStatementDigest,
      request.evidence.policyStatementDigest, request.evidence.authorityStatementDigest⟩
    = some s'.evidenceRefs
  logicalNodes : s.logicalNodes.update?
    (fun r => r.workflowId = request.subject.workflowId && r.nodeId = request.subject.nodeId)
    (fun r => { r with
      version := request.bindings.committedNodeVersion
      certificateDigest := some certificate.digest }) = some s'.logicalNodes
  certificates : s.certificates.insert? (certificateRow request sequence certificate)
    = some s'.certificates
  commitOutputRefs : ∃ output, stagedOutput s request.subject = .ok output ∧
    s.commitOutputRefs.insert?
      ⟨request.commitId, request.subject.workflowId, request.subject.nodeId,
        request.subject.attemptId, request.subject.outputDigest, output.length⟩
      = some s'.commitOutputRefs
  predecessorEdges : insertAll s.predecessorEdges
    (request.bindings.predecessors.map fun p => ⟨request.commitId, p.certificateDigest⟩)
    = .ok s'.predecessorEdges
  decisions : s.decisions.insert? (committedRow request supersedeOld certificate)
    = some s'.decisions
  dispositions : recordDisposition s certificate.digest request.nonce supersedeOld
    = .ok (s'.certificateDispositions, s'.supersessionEdges)
  trustLog : s.trustLog.insert?
    (trustRow s "commit" certificate.digest (commitAudit request supersedeOld)) = some s'.trustLog
  outbox : s.outbox.insert? (outboxRow .commit request.commitId certificate.digest
    certificate.payload (trustRow s "commit" certificate.digest (commitAudit request supersedeOld)))
    = some s'.outbox
  unchanged : s' = { s' with
    candidates := s.candidates, workflowRevocations := s.workflowRevocations
    actorRevocations := s.actorRevocations, controlEvents := s.controlEvents
    commitConflicts := s.commitConflicts }

def committedResult (request : AtomicCommitRequest) (supersedeOld : Option String)
    (certificate : Sealed) : CommitResult :=
  ⟨request.commitId, .committed, "OK", some certificate.payload, some certificate.envelope,
    some certificate.digest, commitAudit request supersedeOld⟩

theorem recordCommit_cases {seq}
    (h : recordCommit s request supersedeOld seq certificate = .ok (result, s'))
    : CommitWrites s request supersedeOld seq certificate s' ∧
      result = committedResult request supersedeOld certificate := by
  simp only [recordCommit, bind_eq_ok, insert_eq_ok, update_eq_ok, pure_inj,
    Prod.mk.injEq, Prod.exists] at h
  obtain ⟨_, hindex, digest, hdig, _, hreq, _, hnonce, _, haudit, _, hevid, _, hnodes, _,
    hcerts, output, houtput, _, hrefs, _, hedges, _, hdecs, _, _, hdisps, _,
    htrust, _, houtbox, rfl, rfl⟩ := h
  exact ⟨⟨hindex, ⟨digest, hdig, hreq⟩, hnonce, haudit, hevid, hnodes, hcerts,
    ⟨output, houtput, hrefs⟩, hedges, hdecs, hdisps, htrust, houtbox, rfl⟩, rfl⟩

inductive Denied (authority : Authority) (s : Store) (request : AtomicCommitRequest)
    (supersedeOld : Option String) (now : Int) : FailureCode → Prop where
  | nonce (h : (s.nonceOwner? request.nonce).isSome) : Denied authority s request supersedeOld now
      .nonceReplay
  | check {sequence clock : Nat} {reason : FailureCode}
      (hsequence : nextSequence s = .ok sequence) (hclock : trustedNow now = .ok clock)
      (h : commitError authority s request supersedeOld
        (certificateOf authority request (toString sequence) clock) = .error (.code reason))
      : Denied authority s request supersedeOld now reason

structure Accepted (authority : Authority) (s : Store) (request : AtomicCommitRequest)
    (supersedeOld : Option String) (now : Int) (sequence : Nat) (certificate : CommitCertificate)
    (sealed : Sealed) : Prop where
  nonce : s.nonceOwner? request.nonce = none
  sequence_eq : nextSequence s = .ok sequence
  certificate_eq : ∃ clock, trustedNow now = .ok clock ∧
    certificate = certificateOf authority request (toString sequence) clock
  checked : commitError authority s request supersedeOld certificate = .ok ()
  sealed_eq : sealCertificate authority certificate = .ok sealed

inductive CommitEffect (authority : Authority) (s : Store) (request : AtomicCommitRequest)
    (supersedeOld : Option String) (now : Int) : CommitResult → Store → Prop where
  | replayed {row : CommitIndexRow} {result : CommitResult}
      (hindexed : s.commitIndex? request.commitId = some row)
      (hdigest : row.requestDigest = operationIdentity request supersedeOld)
      (hreplay : replay s request.commitId (operationIdentity request supersedeOld) = .ok result)
      : CommitEffect authority s request supersedeOld now result s
  | conflicted {row : CommitIndexRow} {claim : Claim} {result : CommitResult} {s' : Store}
      (hindexed : s.commitIndex? request.commitId = some row)
      (hdigest : row.requestDigest ≠ operationIdentity request supersedeOld)
      (hclaim : atomicClaim request supersedeOld = .ok claim)
      (hconflict : conflict s request.commitId claim = .ok (result, s'))
      : CommitEffect authority s request supersedeOld now result s'
  | denied {reason : FailureCode} {nonceOwner : String} {s' : Store}
      (hindexed : s.commitIndex? request.commitId = none)
      (hdenied : Denied authority s request supersedeOld now reason)
      (hwrites : DenialWrites s request reason supersedeOld nonceOwner s')
      : CommitEffect authority s request supersedeOld now
        (denialResult (denialRow request reason supersedeOld nonceOwner)) s'
  | committed {sequence : Nat} {certificate : CommitCertificate} {sealed : Sealed} {s' : Store}
      (hindexed : s.commitIndex? request.commitId = none)
      (haccepted : Accepted authority s request supersedeOld now sequence certificate sealed)
      (hwrites : CommitWrites s request supersedeOld sequence sealed s')
      : CommitEffect authority s request supersedeOld now
        (committedResult request supersedeOld sealed) s'

theorem commitFresh_effect (hidx : s.commitIndex? request.commitId = none)
    (h : commitFresh authority s request supersedeOld now = .ok (result, s'))
    : CommitEffect authority s request supersedeOld now result s' := by
  unfold commitFresh at h
  split at h
  . next hnonce =>
    obtain ⟨nonceOwner, hwr, rfl⟩ := negative_cases h
    exact .denied hidx (.nonce hnonce) hwr
  . next hnonce =>
    simp only [Option.not_isSome_iff_eq_none] at hnonce
    simp only [bind_eq_ok] at h
    obtain ⟨_, hseq, clock, hclock, _, hcode, h⟩ := h
    rcases Check.failure_eq_ok hcode with ⟨_, hok, rfl⟩ | ⟨reason, herror, rfl⟩
    . simp only [bind_eq_ok] at h
      obtain ⟨_, hsealed, h⟩ := h
      obtain ⟨hwr, rfl⟩ := recordCommit_cases h
      exact .committed hidx ⟨hnonce, hseq, ⟨clock, hclock, rfl⟩, hok, hsealed⟩ hwr
    . obtain ⟨nonceOwner, hwr, rfl⟩ := negative_cases h
      exact .denied hidx (.check hseq hclock herror) hwr

theorem commit_effect (h : commit authority s request supersedeOld now = .ok (result, s'))
    : CommitEffect authority s request supersedeOld now result s' := by
  unfold commit at h
  split at h
  . next row hidx =>
    dsimp only at h
    split at h
    . next hdig =>
      simp only [bind_eq_ok, pure_inj, Prod.mk.injEq] at h
      obtain ⟨_, hreplay, rfl, rfl⟩ := h
      exact .replayed hidx hdig hreplay
    . next hdig =>
      simp only [bind_eq_ok] at h
      obtain ⟨_, hclaim, h⟩ := h
      exact .conflicted hidx hdig hclaim h
  . next hidx => exact commitFresh_effect hidx h

theorem supersede_cases {request answer} (h : supersede authority s request now = .ok (answer, s'))
    : answer = supersessionReplay s' request.newProposal.commitId
        (operationIdentity request.newProposal (some request.oldCertificateDigest)) ∧
      (s' = s ∨ ∃ result, commit authority s request.newProposal
        (some request.oldCertificateDigest) now = .ok (result, s')) := by
  unfold supersede at h
  dsimp only at h
  split at h
  . simp only [pure_inj, Prod.mk.injEq] at h
    obtain ⟨rfl, rfl⟩ := h
    exact ⟨rfl, .inl rfl⟩
  . simp only [bind_eq_ok, pure_inj, Prod.mk.injEq, Prod.exists] at h
    obtain ⟨result, _, hcommit, rfl, rfl⟩ := h
    exact ⟨rfl, .inr ⟨result, hcommit⟩⟩

structure CandidateUpdate (s : Store) (subject : CertificateSubject)
    (f : CandidateRow → CandidateRow) (candidates : Table CandidateRow) : Prop where
  guarded : (s.commitOutputRefs.any fun r => r.workflowId = subject.workflowId &&
      r.nodeId = subject.nodeId && r.attemptId = subject.attemptId) = true →
    ∀ r ∈ s.candidates, r.isFor subject.workflowId subject.nodeId subject.attemptId = true →
      (f r).result = r.result ∧ (f r).subjectJson = r.subjectJson
  updated : s.candidates.update?
    (·.isFor subject.workflowId subject.nodeId subject.attemptId) f = some candidates

omit [Platform] in
theorem updateCandidate_cases {f : CandidateRow → CandidateRow}
    (h : updateCandidate s subject f = .ok candidates)
    : CandidateUpdate s subject f candidates := by
  simp only [updateCandidate, bind_eq_ok, exists_unit, ensure_eq_ok, update_eq_ok,
    Bool.or_eq_true, Bool.not_eq_true', List.all_eq_true, Bool.and_eq_true, decide_eq_true_eq] at h
  refine ⟨fun hguarded r hr hatt => ?_, h.2⟩
  have hall := h.1.resolve_left (by rw [hguarded]; simp)
  exact (hall r hr).resolve_left (by rw [hatt]; simp)

def stageWrite (request : StageResultRequest) (differs : Bool) (r : CandidateRow) : CandidateRow :=
  if differs then { r with lifecycle := .quarantined }
  else
    { r with
      lifecycle := .resultStaged, result := some request.resultBytes
      auditEventId := auditId "stage" [request.subject.workflowId, request.subject.nodeId,
        request.subject.attemptId, request.subject.outputDigest, request.expectedNodeVersion] }

def freshCandidate (subject : CertificateSubject) (template : CandidateRow) (version : String)
    : CandidateRow :=
  ⟨subject.workflowId, subject.nodeId, subject.attemptId, subject.agentId, .executing, version,
    none, json subject.toObject, template.contextJson, "[]", none,
    auditId "candidate" [subject.attemptId], none⟩

structure StageWrites (authority : Authority) (s : Store) (request : StageResultRequest)
    (s' : Store) : Prop where
  candidates : ∃ row before differs,
    (s.candidate? request.subject.workflowId request.subject.nodeId request.subject.attemptId
        = some row ∧ before = s.candidates ∨
      ∃ template node, template ∈ s.candidates ∧
        s.candidate? request.subject.workflowId request.subject.nodeId request.subject.attemptId
          = none ∧
        s.logicalNode? request.subject.workflowId request.subject.nodeId = some node ∧
        row = freshCandidate request.subject template node.version ∧
        s.candidates.insert? row = some before) ∧
    (row.lifecycle = .executing ∨ row.lifecycle = .resultStaged) ∧
    CandidateUpdate { s with candidates := before } request.subject (stageWrite request differs)
      s'.candidates
  validated : validateWrittenCandidate authority.config s' request.subject.workflowId
    request.subject.nodeId request.subject.attemptId = .ok ()
  unchanged : s' = { s with candidates := s'.candidates }

theorem stageResult_cases {request} {quarantined : Bool}
    (h : stageResult authority s request = .ok (quarantined, s'))
    : StageWrites authority s request s' := by
  simp only [stageResult, bind_eq_ok, exists_unit, raiseIf_eq_ok, pure_inj,
    Prod.mk.injEq, Prod.exists] at h
  obtain ⟨row, before, hrow, -, hquarantined, hlifecycle, -, -, candidates, hupd, hvalid, -,
    rfl⟩ := h
  refine ⟨⟨row, before, _, ?_, ?_, updateCandidate_cases hupd⟩, hvalid, rfl⟩
  . simp only [stagedCandidate] at hrow
    split at hrow
    . next found hfound =>
      simp only [pure_inj, Prod.mk.injEq] at hrow
      exact .inl ⟨hrow.1 ▸ hfound, hrow.2.symm⟩
    . next hnone =>
      split at hrow
      . next template node htemplate hnode =>
        simp only [bind_eq_ok, exists_unit, raiseIf_eq_ok, insert_eq_ok, pure_inj,
          Prod.mk.injEq] at hrow
        obtain ⟨-, candidates, hins, rfl, rfl⟩ := hrow
        exact .inr ⟨template, node, (Table.mem_of_find? htemplate).1, hnone, hnode, rfl, hins⟩
      . simp [failure] at hrow
  . cases hrow' : row.lifecycle <;> simp_all

structure AdvanceWrites (authority : Authority) (s : Store) (step : Advance)
    (proposal : AtomicCommitRequest) (now : Int) (s' : Store) : Prop where
  static : staticError authority proposal now = .ok none
  candidate : ∃ row,
    s.candidate? proposal.subject.workflowId proposal.subject.nodeId proposal.subject.attemptId
      = some row ∧
    candidateMatches row proposal (step = .proposeCommit) = true ∧ row.lifecycle = step.expected
  candidates : CandidateUpdate s proposal.subject (step.write proposal) s'.candidates
  unchanged : s' = { s with candidates := s'.candidates }

theorem advance_cases {step prop} (h : advance authority s step prop now = .ok s')
    : AdvanceWrites authority s step prop now s' := by
  simp only [advance, bind_eq_ok] at h
  obtain ⟨code, hstatic, h⟩ := h
  cases code with
  | some code => simp [failure] at h
  | none =>
    dsimp only at h
    split at h
    . simp [failure] at h
    . next row hrow =>
      simp only [bind_eq_ok, exists_unit, raiseIf_eq_ok, pure_inj,
        Bool.not_eq_false', decide_eq_false_iff_not, not_not] at h
      obtain ⟨-, hmatch, -, hlifecycle, _, hupd, rfl⟩ := h
      exact ⟨hstatic, ⟨row, hrow, hmatch, hlifecycle⟩, updateCandidate_cases hupd, rfl⟩

inductive Fenced (s : Store) (request : RevocationRequest)
    (generation : String) : Store → Prop where
  | certificate {dispositions : Table DispositionRow} (hscope : request.scope = .certificate)
      (howner : ∀ row, s.certificate? request.targetId = some row →
        row.workflowId = request.workflowId)
      (hcurrent : s.latestDisposition request.targetId = some .current)
      (hinsert : insertDisposition s.certificateDispositions ⟨request.targetId, 2, .revoked⟩
        = .ok dispositions)
      : Fenced s request generation { s with certificateDispositions := dispositions }
  | actor {revocations : Table ActorRevocationRow} (hscope : request.scope = .actor)
      (hincrease : requireIncrease generation
        (actorGeneration? s request.workflowId request.targetId) = .ok ())
      (hreplace : replace s.actorRevocations
        (fun r => r.workflowId = request.workflowId && r.actorId = request.targetId)
        ⟨request.workflowId, request.targetId, generation⟩ = .ok revocations)
      : Fenced s request generation { s with actorRevocations := revocations }
  | workflow {revocations : Table WorkflowRevocationRow} (hscope : request.scope = .workflow)
      (hincrease : requireIncrease generation (workflowGeneration? s request.workflowId) = .ok ())
      (hreplace : replace s.workflowRevocations (fun r => r.workflowId = request.workflowId)
        ⟨request.workflowId, generation⟩ = .ok revocations)
      : Fenced s request generation { s with workflowRevocations := revocations }

structure RevokeWrites (s : Store) (request : RevocationRequest) (generation : Option String)
    (s' : Store) : Prop where
  auditEvents : s.auditEvents.insert? (auditRow (revocationAudit request) "revoked" request.targetId
    (revocationDetails request.scope request.workflowId generation)) = some s'.auditEvents
  controlEvents : s.controlEvents.insert? (controlRow request generation) = some s'.controlEvents
  trustLog : s.trustLog.insert?
    (trustRow s "control" (revocationAudit request) (revocationAudit request)) = some s'.trustLog
  outbox : s.outbox.insert? (outboxRow .control (revocationAudit request)
    (controlRow request generation).payloadDigest (controlRow request generation).payload
    (trustRow s "control" (revocationAudit request) (revocationAudit request))) = some s'.outbox
  unchanged : s' = { s with
    auditEvents := s'.auditEvents, controlEvents := s'.controlEvents, trustLog := s'.trustLog
    outbox := s'.outbox }

omit [Platform] in
theorem revocationFence_cases {request gen}
    (h : revocationFence s request gen = .ok s') : Fenced s request gen s' := by
  unfold revocationFence at h
  dsimp only at h
  split at h
  . next hscope =>
    simp only [bind_eq_ok, exists_unit, raiseIf_eq_ok, pure_inj,
      decide_eq_false_iff_not, not_not] at h
    obtain ⟨howner, hcurr, _, hins, rfl⟩ := h
    refine .certificate hscope (fun row hrow => ?_) hcurr hins
    simpa [hrow] using howner
  . next hscope =>
    simp only [bind_eq_ok, exists_unit, pure_inj] at h
    obtain ⟨hinc, revocations, hreplace, rfl⟩ := h
    exact .actor hscope hinc hreplace
  . next hscope =>
    simp only [bind_eq_ok, exists_unit, pure_inj] at h
    obtain ⟨hinc, revocations, hreplace, rfl⟩ := h
    exact .workflow hscope hinc hreplace

theorem revoke_cases {request audit} (h : revoke s request = .ok (audit, s'))
    : s' = s ∨ ∃ gen fenced, revocationGeneration request = .ok gen ∧
      Fenced s request (gen.getD "") fenced ∧
      RevokeWrites fenced request gen s' := by
  simp only [revoke, bind_eq_ok] at h
  obtain ⟨gen, hgen, h⟩ := h
  split at h
  . simp only [pure_inj, Prod.mk.injEq] at h
    exact .inl h.2.symm
  . simp only [bind_eq_ok, insert_eq_ok, pure_inj, Prod.mk.injEq] at h
    obtain ⟨fenced, hfence, _, haudit, _, hctrl, _, htrust, _, houtbox, -, rfl⟩ := h
    exact .inr ⟨gen, fenced, hgen, revocationFence_cases hfence,
      haudit, hctrl, htrust, houtbox, rfl⟩

theorem recover_cases (h : recover s commitId rdig = .ok (result, s'))
    : s' = s ∨ ∃ row, s.commitIndex? commitId = some row ∧ row.requestDigest ≠ rdig ∧
      conflict s commitId (recoveryClaim commitId rdig) = .ok (result, s') := by
  unfold recover at h
  split at h
  . simp only [pure_inj, Prod.mk.injEq] at h
    exact .inl h.2.symm
  . next row hrow =>
    dsimp only at h
    split at h
    . next hother =>
      simp only [Bool.and_eq_true, decide_eq_true_eq] at hother
      exact .inr ⟨row, hrow, hother.1, h⟩
    . simp only [bind_eq_ok, pure_inj, Prod.mk.injEq] at h
      obtain ⟨_, _, _, hs⟩ := h
      exact .inl hs.symm

structure OutboxUpdate (s : Store) (state : OutboxState) (s' : Store) : Prop where
  outbox : ∃ p, s.outbox.update? p (fun r => { r with state := state }) = some s'.outbox
  unchanged : s' = { s with outbox := s'.outbox }

omit [Platform] in
theorem claimOutbox_cases (h : claimOutbox s token now = .ok (head, s'))
    : s' = s ∨ ∃ state, OutboxUpdate s state s' := by
  simp only [claimOutbox, bind_eq_ok, exists_unit, raiseIf_eq_ok] at h
  obtain ⟨_, -, -, h⟩ := h
  split at h
  . simp only [pure_inj, Prod.mk.injEq] at h
    exact .inl h.2.symm
  . split at h
    . simp only [pure_inj, Prod.mk.injEq] at h
      exact .inl h.2.symm
    . simp only [bind_eq_ok, update_eq_ok, pure_inj, Prod.mk.injEq] at h
      obtain ⟨_, hupd, -, rfl⟩ := h
      exact .inr ⟨_, ⟨_, hupd⟩, rfl⟩

omit [Platform] in
theorem releaseOutbox_cases (h : releaseOutbox s eventId token = .ok s')
    : OutboxUpdate s .pending s' := by
  simp only [releaseOutbox, bind_eq_ok, update_eq_ok, pure_inj] at h
  obtain ⟨_, hupd, rfl⟩ := h
  exact ⟨⟨_, hupd⟩, rfl⟩

theorem finalizeOutbox_cases (h : finalizeOutbox s eventId token = .ok s')
    : s' = s ∨ ∃ t, OutboxUpdate s .delivered t ∧ (s' = t ∨
      ∃ row audits, t.auditEvents.insert? row = some audits ∧
        s' = { t with auditEvents := audits }) := by
  unfold finalizeOutbox at h
  split at h
  . simp only [bind_eq_ok, update_eq_ok] at h
    obtain ⟨outbox, hupd, h⟩ := h
    refine .inr ⟨{ s with outbox }, ⟨⟨_, hupd⟩, rfl⟩, ?_⟩
    split at h
    . simp only [pure_inj] at h
      exact .inl h.symm
    . simp only [bind_eq_ok, insert_eq_ok, pure_inj] at h
      obtain ⟨audits, haudits, rfl⟩ := h
      exact .inr ⟨_, audits, haudits, rfl⟩
  . simp only [pure_inj] at h
    exact .inl h.symm

def Operation.commit? : Operation → Option (AtomicCommitRequest × Option String × Int)
  | .atomicCommit request now => some (request, none, now)
  | .supersede request now => some (request.newProposal, some request.oldCertificateDigest, now)
  | _ => none

inductive StepEffect (authority : Authority) (s : Store) : Operation → Store → Prop where
  | unchanged {operation : Operation} : StepEffect authority s operation s
  | staged {request : StageResultRequest} {s' : Store} (h : StageWrites authority s request s')
      : StepEffect authority s (.stageResult request) s'
  | advanced {step : Advance} {proposal : AtomicCommitRequest} {now : Int} {s' : Store}
      (h : AdvanceWrites authority s step proposal now s')
      : StepEffect authority s (.advance step proposal now) s'
  | committed {operation : Operation} {request : AtomicCommitRequest}
      {supersedeOld : Option String} {now : Int} {result : CommitResult} {s' : Store}
      (hcommit : operation.commit? = some (request, supersedeOld, now))
      (h : CommitEffect authority s request supersedeOld now result s')
      : StepEffect authority s operation s'
  | revoked {request : RevocationRequest} {generation : Option String} {fenced s' : Store}
      (hgeneration : revocationGeneration request = .ok generation)
      (hfenced : Fenced s request (generation.getD "") fenced)
      (h : RevokeWrites fenced request generation s')
      : StepEffect authority s (.revoke request) s'
  | recovered {commitId requestDigest : String} {row : CommitIndexRow} {result : CommitResult}
      {s' : Store} (hindexed : s.commitIndex? commitId = some row)
      (hdigest : row.requestDigest ≠ requestDigest)
      (h : conflict s commitId (recoveryClaim commitId requestDigest) = .ok (result, s'))
      : StepEffect authority s (.recover commitId requestDigest) s'
  | leased {operation : Operation} {state : OutboxState} {s' : Store} (h : OutboxUpdate s state s')
      : StepEffect authority s operation s'
  | delivered {eventId token : String} {t : Store} {row : AuditRow} {audits : Table AuditRow}
      (h : OutboxUpdate s .delivered t) (haudits : t.auditEvents.insert? row = some audits)
      : StepEffect authority s (.finalizeOutbox eventId token) { t with auditEvents := audits }

theorem step_effect (h : step authority s operation = .ok s')
    : StepEffect authority s operation s' := by
  cases operation with
  | stageResult request =>
    obtain ⟨⟨_, _⟩, hstage, rfl⟩ := map_eq_ok.mp h
    exact .staged (stageResult_cases hstage)
  | advance _ _ _ => exact .advanced (advance_cases h)
  | atomicCommit request now =>
    obtain ⟨⟨_, _⟩, hcommit, rfl⟩ := map_eq_ok.mp h
    exact .committed rfl (commit_effect hcommit)
  | supersede request now =>
    obtain ⟨⟨_, _⟩, hsup, rfl⟩ := map_eq_ok.mp h
    obtain ⟨-, rfl | ⟨result, hcommit⟩⟩ := supersede_cases hsup
    . exact .unchanged
    . exact .committed rfl (commit_effect hcommit)
  | revoke request =>
    obtain ⟨⟨_, _⟩, hrevoke, rfl⟩ := map_eq_ok.mp h
    obtain rfl | ⟨_, _, hgen, hfenced, hwr⟩ := revoke_cases hrevoke
    . exact .unchanged
    . exact .revoked hgen hfenced hwr
  | recover _ _ =>
    obtain ⟨⟨_, _⟩, hrecover, rfl⟩ := map_eq_ok.mp h
    obtain rfl | ⟨_, hidx, hdig, hconf⟩ := recover_cases hrecover
    . exact .unchanged
    . exact .recovered hidx hdig hconf
  | claimOutbox token now =>
    obtain ⟨⟨_, _⟩, hclaim, rfl⟩ := map_eq_ok.mp h
    obtain rfl | ⟨state, hupd⟩ := claimOutbox_cases hclaim
    . exact .unchanged
    . exact .leased hupd
  | releaseOutbox _ _ => exact .leased (releaseOutbox_cases h)
  | finalizeOutbox _ _ =>
    obtain rfl | ⟨t, hupd, rfl | ⟨row, audits, haudits, rfl⟩⟩ := finalizeOutbox_cases h
    . exact .unchanged
    . exact .leased hupd
    . exact .delivered hupd haudits

end Apcc
