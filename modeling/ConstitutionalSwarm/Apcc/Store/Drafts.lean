import ConstitutionalSwarm.Apcc.Store.Preservation
import ConstitutionalSwarm.Apcc.Store.Totality

namespace Apcc

open Table

section Candidates

variable {s : Store} {before : List CandidateRow} {row : CandidateRow}
  (hrows : s.candidates.rows = before ++ [row])

include hrows

theorem isFor_of_rows (hr : r ∈ before)
    : r.isFor row.workflowId row.nodeId row.attemptId = false := by
  have hdistinct := s.candidates.distinct
  rw [hrows, List.pairwise_append] at hdistinct
  simpa [TableSchema.compatible] using hdistinct.2.2 r hr row (List.mem_singleton_self _)

theorem candidate?_of_rows
    : s.candidate? row.workflowId row.nodeId row.attemptId = some row := by
  rw [Store.candidate?, Table.find?, hrows, List.find?_append,
    List.find?_eq_none.mpr fun r hr => by simp [isFor_of_rows hrows hr]]
  simp [CandidateRow.isFor]

theorem updateCandidate_isOk (subject : CertificateSubject) (f : CandidateRow → CandidateRow)
    (hsubject : (subject.workflowId, subject.nodeId, subject.attemptId)
      = (row.workflowId, row.nodeId, row.attemptId))
    (hrefs : ∀ r ∈ s.commitOutputRefs, r.attemptId ≠ subject.attemptId)
    (hkeys : ∀ r, ((f r).workflowId, (f r).nodeId, (f r).attemptId)
      = (r.workflowId, r.nodeId, r.attemptId))
    (hcheck : ∀ r, TableSchema.check (f r))
    : ∃ candidates, updateCandidate s subject f = .ok candidates ∧
        candidates.rows = before ++ [f row] := by
  have hguard : (s.commitOutputRefs.any fun r => r.workflowId = subject.workflowId &&
      r.nodeId = subject.nodeId && r.attemptId = subject.attemptId) = false := by
    simp only [Table.any, List.any_eq_false]
    intro r hr
    simp [hrefs r hr]
  simp only [Prod.mk.injEq] at hkeys hsubject
  obtain ⟨candidates, hupd⟩ : ∃ candidates, s.candidates.update?
      (·.isFor subject.workflowId subject.nodeId subject.attemptId) f = some candidates :=
    update?_isSome (fun r _ _ => hcheck r) fun a b => by
      split <;> split <;> simp [TableSchema.compatible, CandidateRow.isFor, hkeys]
  refine ⟨candidates, ?_, ?_⟩
  . simp only [updateCandidate, hguard]
    exact update_eq_ok.mpr hupd
  . rw [rows_of_update? hupd, hrows, List.map_append, hsubject.1, hsubject.2.1, hsubject.2.2]
    congr 1
    . refine (List.map_congr_left fun r hr => ?_).trans (List.map_id before)
      simp [isFor_of_rows hrows hr]
    . simp [CandidateRow.isFor]

end Candidates

end Apcc

namespace Apcc.Sample

open Table

theorem verifyDetached_replicate (binding : TrustBinding) (domain : Domain) (payload : Bytes)
    : verifyDetached binding.publicKey domain payload (Base64.encode (List.replicate 64 0)) := by
  have hdomain : domainPreimage domain.bytes payload = .ok (domain.bytes ++ 0 :: payload) := by
    cases domain <;> rfl
  simp [verifyDetached, binding.key_length, b64uDecode, Base64.decode_encode, hdomain,
    Platform.ed25519Verify]

theorem verifySignature_signature {binding trust keyId role scope} (h : binding ∈ trust.bindings)
    (hkeyId : binding.keyId = keyId) (hrole : binding.role = role) (hscope : binding.scope = scope)
    (domain : Domain) (body : Bytes) (code : FailureCode)
    : verifySignature (Draft.signature keyId) keyId trust role scope domain body code = .ok () := by
  subst hkeyId hrole hscope
  simp only [verifySignature, resolve_of_mem h, bind_eq_ok, exists_unit, reject_eq_ok,
    verifyDetached_replicate, Draft.signature]
  simp

theorem mem_scopedTrust
    : binding .producer ["agent", "authority:team:agent", zeroDigest] "producer" 1 rfl
          producer_nonempty ∈ authority.config.scopedTrust.bindings ∧
      binding .policy ["policy", "1", "1"] "policy" 2 rfl (by decide)
          ∈ authority.config.scopedTrust.bindings ∧
      binding .registry [zeroDigest, "1"] "registry" 3 rfl registry_nonempty
          ∈ authority.config.scopedTrust.bindings :=
  ⟨.head _, .tail _ (.head _), .tail _ (.tail _ (.head _))⟩

namespace Draft

variable (d : Draft)

theorem verifyEvidence_certificate (sequence reason : String)
    : verifyEvidence (d.certificate sequence reason) authority.config.scopedTrust = .ok () := by
  obtain ⟨hprod, hpol, hauth⟩ := d.canonicalStatement_evidence
  simp only [verifyEvidence, certificate, hprod, hpol, hauth, Check.liftM_ok, Check.ok_bind]
  simp only [evidence, Statement.get, Statement.get?, producerStatement, policyStatement,
    authorityStatement, List.lookup_cons, String.reduceBEq, Check.liftM_ok, Check.ok_bind,
    bind_eq_ok, exists_unit, reject_eq_ok, statementDigest, ne_eq, not_true_eq_false,
    decide_false, true_and]
  obtain ⟨hfirst, hsecond, hthird⟩ := mem_scopedTrust
  exact ⟨verifySignature_signature hfirst rfl rfl rfl _ _ _,
    verifySignature_signature hsecond rfl rfl rfl _ _ _,
    verifySignature_signature hthird rfl rfl rfl _ _ _⟩

theorem verifyBindings_certificate {sequence}
    : verifyBindings (d.certificate sequence reason) = .ok () := by
  have hzero : int "0" = .ok 0 := rfl
  have hone : int "1" = .ok 1 := rfl
  have hroot : predecessorRoot [] = .ok emptyRoot := rfl
  have hvalid {statement : Statement} (hissued : statement.get "issued_at_ms" = .ok "0")
      (hexpires : statement.get "expires_at_ms" = .ok "1")
      : verifyValidity 0 statement = .ok () := by
    simp only [verifyValidity, hissued, hexpires, hzero, hone, Check.liftM_ok, Check.ok_bind]
    rfl
  simp only [verifyBindings, certificate, evidence, verifyStatementSubject,
    producerStatement, policyStatement, authorityStatement, Statement.get, Statement.get?,
    List.lookup_cons, String.reduceBEq, Check.liftM_ok,
    Check.ok_bind, bind_eq_ok, exists_unit, reject_eq_ok, ne_eq, not_true_eq_false, decide_false,
    true_and, bindings, subject, context, hroot, hzero, List.any_nil]
  exact ⟨hvalid rfl rfl, hvalid rfl rfl, hvalid rfl rfl⟩

theorem certificateError_certificate (sequence reason : String)
    : certificateError authority (d.certificate sequence reason) = .ok () := by
  rw [certificateError, d.verifyEvidence_certificate]
  exact d.verifyBindings_certificate

def proposal : AtomicCommitRequest where
  subject := d.subject
  context := context
  evidence := d.evidence
  bindings := d.bindings
  signatures := signatures
  commitId := d.commitId
  nonce := d.nonce
  requestDigest := ""

def executing (auditEventId : String) : CandidateRow :=
  ⟨"workflow", d.nodeId, d.attemptId, "agent", .executing, d.expected, none,
    json d.subject.toObject, json context.toObject, "[]", none, auditEventId, none⟩

def staged : CandidateRow :=
  { d.executing "" with
    lifecycle := .resultStaged
    result := some []
    auditEventId := auditId "stage" ["workflow", d.nodeId, d.attemptId, zeroDigest, d.expected] }

def pending : CandidateRow :=
  Advance.proposeCommit.write d.proposal (Advance.assembleEvidence.write d.proposal d.staged)

theorem predecessorsJson_nil : predecessorsJson [] = "[]" := rfl

theorem validateCandidateRow_draft {v : Int}
    (hversion : canonicalNonnegativeDecimal d.expected maxSafeInteger = .ok v ∧ v.repr = d.expected)
    (auditEventId : String)
    : validateCandidateRow authority.config (d.executing auditEventId) true = .ok () ∧
      validateCandidateRow authority.config d.staged true = .ok () := by
  have hobjects (row : CandidateRow) (hsubj : row.subjectJson = json d.subject.toObject)
      (hctx : row.contextJson = json context.toObject) (hpreds : row.predecessorsJson = "[]") :=
    candidateObjects_eq_ok hsubj hctx (hpreds.trans predecessorsJson_nil.symm)
  constructor
  . rw [validateCandidateRow, hobjects (d.executing auditEventId) rfl rfl rfl]
    simp [orInvalid, executing, subject, hversion, predecessorsJson_nil]
  . rw [validateCandidateRow, hobjects d.staged rfl rfl rfl]
    simp [orInvalid, staged, executing, subject, hversion, predecessorsJson_nil, zeroDigest]

theorem staticError_proposal : staticError authority d.proposal 0 = .ok none := by
  have hcert : certificateOf authority d.proposal "1" 0 = d.certificate "1" "OK" := rfl
  simp [staticError, trustedNow, hcert, d.certificateError_certificate, Check.failure]

section Runs

variable {s : Store} {before : List CandidateRow}
  (hrefs : ∀ r ∈ s.commitOutputRefs, r.attemptId ≠ d.attemptId)

include hrefs

theorem stage_isOk {request : StageResultRequest} {candidates : Table CandidateRow}
    {auditEventId : String} {v : Int}
    (hrequest : request.subject = d.subject ∧ request.resultBytes = [] ∧
      request.expectedNodeVersion = d.expected)
    (hversion : canonicalNonnegativeDecimal d.expected maxSafeInteger = .ok v ∧ v.repr = d.expected)
    (hcreated : stagedCandidate s request = .ok (d.executing auditEventId, candidates))
    (hrows : candidates.rows = before ++ [d.executing auditEventId])
    (hnode : (s.logicalNode? "workflow" d.nodeId).isSome)
    : ∃ candidates, step authority s (.stageResult request) = .ok { s with candidates } ∧
        candidates.rows = before ++ [d.staged] := by
  obtain ⟨hsubj, hbytes, hexp⟩ := hrequest
  obtain ⟨candidates', hupd, hrows'⟩ := updateCandidate_isOk (s := { s with candidates }) hrows
    d.subject (fun r => { r with
      lifecycle := .resultStaged
      result := some []
      auditEventId := auditId "stage" [d.subject.workflowId, d.subject.nodeId, d.subject.attemptId,
        d.subject.outputDigest, d.expected] })
    rfl hrefs (fun _ => rfl) (fun _ => rfl)
  have hrows' : candidates'.rows = before ++ [d.staged] := hrows'
  have hvalid : validateWrittenCandidate authority.config { s with candidates := candidates' }
      "workflow" d.nodeId d.attemptId = .ok () := by
    have hcand := candidate?_of_rows (s := { s with candidates := candidates' }) hrows'
    have hnode : (Store.logicalNode? { s with candidates := candidates' } "workflow"
      d.nodeId).isSome = true := hnode
    rw [validateWrittenCandidate, show Store.candidate? _ "workflow" d.nodeId d.attemptId = _
      from hcand]
    dsimp only
    rw [hnode]
    exact (d.validateCandidateRow_draft hversion "").2
  refine ⟨candidates', ?_, hrows'⟩
  have hdigest : sha256Digest [] = d.subject.outputDigest := rfl
  simp only [step, stageResult, hcreated, hsubj, hbytes, hexp, hdigest, ok_bind]
  simp only [executing, raiseIf]
  simp
  rw [hupd, ok_bind, show validateWrittenCandidate _ _ d.subject.workflowId d.subject.nodeId
    d.subject.attemptId = _ from hvalid]
  rfl

theorem advance_isOk (step : Advance) {row : CandidateRow}
    (hrows : s.candidates.rows = before ++ [row])
    (hkeys : (d.subject.workflowId, d.subject.nodeId, d.subject.attemptId)
      = (row.workflowId, row.nodeId, row.attemptId))
    (hlifecycle : row.lifecycle = step.expected)
    (hmatch : candidateMatches row d.proposal (step = .proposeCommit) = true)
    : ∃ candidates, Apcc.step authority s (.advance step d.proposal 0) = .ok { s with candidates } ∧
        candidates.rows = before ++ [step.write d.proposal row] := by
  obtain ⟨candidates, hupd, hrows'⟩ := updateCandidate_isOk hrows d.subject
    (step.write d.proposal) hkeys hrefs (fun _ => by cases step <;> rfl)
    (fun _ => by cases step <;> rfl)
  refine ⟨candidates, ?_, hrows'⟩
  have hcand := candidate?_of_rows hrows
  simp only [Prod.mk.injEq] at hkeys
  rw [← hkeys.1, ← hkeys.2.1, ← hkeys.2.2] at hcand
  have hsubject : d.proposal.subject = d.subject := rfl
  simp only [Apcc.step, advance, d.staticError_proposal, ok_bind, hsubject, hcand, hmatch,
    hlifecycle, hupd, raiseIf]
  cases step <;> rfl

end Runs

theorem exists_pending {s : Store} {before : List CandidateRow}
    (hrefs : ∀ r ∈ s.commitOutputRefs, r.attemptId ≠ d.attemptId)
    {request : StageResultRequest} {candidates : Table CandidateRow}
    {auditEventId : String} {v : Int}
    (hrequest : request.subject = d.subject ∧ request.resultBytes = [] ∧
      request.expectedNodeVersion = d.expected)
    (hversion : canonicalNonnegativeDecimal d.expected maxSafeInteger = .ok v ∧ v.repr = d.expected)
    (hcreated : stagedCandidate s request = .ok (d.executing auditEventId, candidates))
    (hrows : candidates.rows = before ++ [d.executing auditEventId])
    (hnode : (s.logicalNode? "workflow" d.nodeId).isSome)
    : ∃ candidates, Runs authority s { s with candidates } ∧
        candidates.rows = before ++ [d.pending] := by
  obtain ⟨c₁, hstage, hrows₁⟩ := d.stage_isOk hrefs hrequest hversion hcreated hrows hnode
  obtain ⟨c₂, hassemble, hrows₂⟩ := d.advance_isOk (s := { s with candidates := c₁ }) hrefs
    .assembleEvidence hrows₁ rfl rfl (by simp [candidateMatches, proposal, staged, executing,
      subject, bindings, zeroDigest])
  obtain ⟨c₃, hpropose, hrows₃⟩ := d.advance_isOk (s := { s with candidates := c₂ }) hrefs
    .proposeCommit hrows₂ rfl rfl (by simp [candidateMatches, proposal, staged, executing,
      subject, bindings, zeroDigest, Advance.write])
  exact ⟨c₃, .tail (.tail (.tail (.refl s) trivial hstage) trivial hassemble) trivial hpropose,
    hrows₃⟩

def size : Nat :=
  4 * d.nodeId.length + 2 * d.commitId.length + 3287

section Commits

variable {s : Store} {before : List CandidateRow} {node : LogicalNodeRow} {old : Option String}
  {sequence : Nat} (hseq : isDecimal (toString sequence) = true ∧ (toString sequence).length = 1)
  (hsize : d.size ≤ 700000)

include hseq hsize

theorem sealable_proposal
    : ∃ payload, payload.length = d.size ∧
        Sealable authority (certificateOf authority d.proposal (toString sequence) 0) payload := by
  have hlens : "OK".length = 2 ∧ "commit".length = 6 := by decide
  obtain ⟨payload, henc, hlen⟩ := d.encodeCertificate_certificate hseq.1
    (show isPlain "OK" = true by decide) (by
      rw [size] at hsize
      rw [maxPayloadBytes]
      omega)
  have hlen : payload.length = d.size := by
    rw [size]
    omega
  obtain ⟨_, -, -, hdec⟩ := decodeCertificate_encodeCertificate henc
  have hseal : SealWellFormed "commit" (Base64.encode (List.replicate 64 0)) :=
    ⟨by decide, _, Base64.decode_encode _, List.length_replicate ..⟩
  refine ⟨payload, hlen, rfl, rfl, d.certificateError_certificate _ _, henc,
    (encodeEnvelope_isOk_iff hseal hdec).mpr ?_⟩
  rw [envelopeLength, maxPayloadBytes, hlens.2, hlen]
  omega

variable (hrows : s.candidates.rows = before ++ [d.pending])
  (hnode : s.logicalNode? "workflow" d.nodeId = some node) (hversion : node.version = d.expected)
  (hpointer : checkPointer s node old = .ok ())
  (hrevs : s.actorRevocations = .empty ∧ s.workflowRevocations = .empty)

include hrows hnode hversion hpointer hrevs

theorem commitError_proposal
    : commitError authority s d.proposal old
        (certificateOf authority d.proposal (toString sequence) 0) = .ok () := by
  obtain ⟨payload, -, hsealable⟩ := d.sealable_proposal hseq hsize
  obtain ⟨envelope, henv⟩ := hsealable.fits
  have hbound : envelope.length ≤ maxPayloadBytes := by
    simp only [encodeEnvelope, bind_eq_ok, pure_inj] at henv
    obtain ⟨_, -, _, -, _, hdec, rfl⟩ := henv
    exact length_le_of_decode hdec
  have hcausal : requestCausalError authority s
      (certificateOf authority d.proposal (toString sequence) 0) = .ok () := by
    have hfits : ¬ envelope.length > 64 * 1024 * 1024 := by
      rw [maxPayloadBytes] at hbound
      omega
    simp only [requestCausalError, hsealable.encoded, henv, Check.liftM_ok, Check.ok_bind,
      reject, hfits]
    rfl
  have hcand : s.candidate? d.proposal.subject.workflowId d.proposal.subject.nodeId
      d.proposal.subject.attemptId = some d.pending := candidate?_of_rows hrows
  have hnode : s.logicalNode? d.proposal.subject.workflowId d.proposal.subject.nodeId
      = some node := hnode
  have hgens : checkGenerations s d.proposal.subject d.proposal.context = .ok () := by
    rw [checkGenerations, actorGeneration?, workflowGeneration?, hrevs.1, hrevs.2]
    rfl
  have hmatch : candidateMatches d.pending d.proposal true = true := by
    simp [candidateMatches, proposal, pending, staged, executing, subject, bindings, zeroDigest,
      Advance.write]
  have hroot : predecessorRoot d.proposal.bindings.predecessors
      = .ok d.proposal.bindings.predecessorRoot := rfl
  have hversion : node.version = d.proposal.bindings.expectedNodeVersion := hversion
  have hpending : d.pending.lifecycle = .commitPending ∧
      d.pending.proposalDigest = some (proposalIdentity d.proposal) := ⟨rfl, rfl⟩
  simp only [commitError, hsealable.checked, Check.ok_bind, preflight, hcand, hnode, hpointer,
    hgens, hmatch, hroot, hcausal, hversion, hpending, Check.liftM_ok]
  simp only [reject, ne_eq, not_true_eq_false, decide_false, reduceCtorEq, Bool.false_and,
    Bool.not_true, Bool.false_eq_true, if_false, Check.ok_bind]
  rfl

omit hseq hsize hrows hnode hversion hpointer hrevs in
theorem publicRequestDigest_proposal
    : publicRequestDigest d.proposal = .ok (statementDigest d.producerStatement) := by
  simp only [publicRequestDigest, proposal, d.canonicalStatement_evidence.1, ok_bind]
  rfl

theorem commit_isOk (hbooked : Booked s) (hindex : s.commitIndex? d.commitId = none)
    (hrequests : ∀ r ∈ s.requestIndex, r.requestDigest ≠ statementDigest d.producerStatement)
    (hnonce : s.nonceOwner? d.nonce = none) (hsequence : nextSequence s = .ok sequence)
    (hhead : ∀ head ∈ s.trustHead?, head.sequence < maxSafeInteger)
    (hunused : ∀ payload, payload.length = d.size → Unused s d.proposal old payload ∧
      ∃ tables, recordDisposition s (sha256Digest payload) d.nonce old = .ok tables)
    : ∃ sealed result s', commit authority s d.proposal old 0 = .ok (result, s') ∧
        (sealed.payload.length = d.size ∧ sealed.digest = sha256Digest sealed.payload) ∧
        CommitWrites s d.proposal old sequence sealed s' := by
  obtain ⟨payload, hlen, hsealable⟩ := d.sealable_proposal hseq hsize
  have hchecked := d.commitError_proposal hseq hsize hrows hnode hversion hpointer hrevs
  have hroom : Room s d.proposal.subject := by
    refine ⟨hhead, fun output houtput => ?_⟩
    have hcand : s.candidate? d.proposal.subject.workflowId d.proposal.subject.nodeId
      d.proposal.subject.attemptId = some d.pending := candidate?_of_rows hrows
    rw [stagedOutput, hcand] at houtput
    obtain ⟨_, -, houtput⟩ := bind_eq_ok.mp houtput
    cases houtput
    exact Nat.zero_le _
  obtain ⟨sealed, result, s', hcommit, hpayload, hwrites⟩ := Apcc.commit_isOk hbooked hindex
    ⟨_, d.publicRequestDigest_proposal, hrequests⟩ hnonce hsequence
    (show trustedNow 0 = .ok 0 from rfl) hchecked hsealable.encoded
    ⟨rfl, verifyDetached_replicate ..⟩ (hunused payload hlen).1 hroom (hunused payload hlen).2
  exact ⟨sealed, result, s', hcommit, ⟨hpayload.1 ▸ hlen, hpayload.1 ▸ hpayload.2⟩, hwrites⟩

end Commits

end Draft

theorem frame_isOk {payload : Bytes} (h : payload.length < 2 ^ 64)
    : ∃ raw, Framing.frame payload = .ok raw ∧ raw.length = 8 + payload.length := by
  have hlen : BigEndian.toBytes 8 payload.length = some (BigEndian.bytes 8 payload.length) :=
    if_pos h
  refine ⟨BigEndian.bytes 8 payload.length ++ payload, ?_, by simp⟩
  rw [Framing.frame_eq_ok, BigEndian.framed, hlen]
  rfl

theorem transcript_isOk {texts : List String} (h : ∀ text ∈ texts, text.utf8ByteSize < 2 ^ 63)
    : ∃ raw, Framing.transcript (texts.map .text) = .ok raw ∧
        raw.length = (texts.map fun text => 9 + text.utf8ByteSize).sum := by
  induction texts with
  | nil => exact ⟨[], rfl, rfl⟩
  | cons text texts ih =>
    obtain ⟨htext, htexts⟩ := List.forall_mem_cons.mp h
    obtain ⟨rest, hrest, hlen⟩ := ih htexts
    have hpayload : (Framing.Part.text text).payload.length = 1 + text.utf8ByteSize := by
      rw [Framing.Part.payload, List.length_append, String.length_encodeUTF8]
      rfl
    obtain ⟨raw, hraw, hlen'⟩ := frame_isOk (hpayload.trans_lt (by omega))
    refine ⟨raw ++ rest, ?_, ?_⟩
    . simp [Framing.transcript, Framing.Part.tooLong, hraw, hrest, raiseIf]
    . rw [List.length_append, List.map_cons, List.sum_cons, hlen, hlen', hpayload]
      omega

theorem auditId_eq (kind : String) (parts : List String)
    (hkind : kind ∉ legacyDecisionAuditKinds)
    (h : ∀ text ∈ kind :: parts, text.utf8ByteSize < 2 ^ 63)
    : ∃ message, auditId kind parts = sha256Digest message ∧
        message.length = 62 + ((kind :: parts).map fun text => 9 + text.utf8ByteSize).sum := by
  obtain ⟨rest, hrest, hlen⟩ := transcript_isOk h
  have hdomain : "apcc.audit-id.v2".encodeUTF8.length = 16 ∧ Framing.digestPrefix.length = 38 := by
    decide +kernel
  obtain ⟨raw, hraw, hlen'⟩ := frame_isOk (hdomain.1.trans_lt (by decide))
  have hne : ¬ "apcc.audit-id.v2".encodeUTF8 = [] := by
    intro h
    rw [h] at hdomain
    simp at hdomain
  refine ⟨Framing.digestPrefix ++ raw ++ rest, ?_, ?_⟩
  . rw [List.map_cons] at hrest
    simp [auditId, hkind, Framing.framedDigest, Framing.framedMessage, hne, hraw, hrest,
      sha256Digest, raiseIf]
  . rw [List.length_append, List.length_append, hlen, hlen', hdomain.1, hdomain.2]

theorem getD_trustEntryJson (byte : UInt8) {sequence : Nat} {prior audit subject : String}
    (hbyte : isPlain sequence.repr ∧ sequence.repr.encodeUTF8 = [byte])
    (hprior : isPlain prior ∧ prior.length = 43) (haudit : isPlain audit ∧ audit.length = 43)
    (hsubject : isPlain subject)
    : (trustEntryJson sequence prior "commit" subject audit).encodeUTF8.getD 153 0 = byte := by
  have hascii {text : String} (h : isPlain text) : ∀ c ∈ text.toList, c.toNat < 128 := by
    simpa [isAscii] using isAscii_of_isPlain h
  have hkeys : isPlain "audit_event_id" ∧ isPlain "kind" ∧ isPlain "commit" ∧
      isPlain "prior_digest" ∧ isPlain "sequence" ∧ isPlain "subject" := by decide
  obtain ⟨head, tail, htext, hhead, hlen⟩ : ∃ head tail : List Char,
      trustEntryJson sequence prior "commit" subject audit
        = String.ofList head ++ (sequence.repr ++ String.ofList tail) ∧
        (∀ c ∈ head, c.toNat < 128) ∧ head.length = 153 := by
    refine ⟨"\x7b\"audit_event_id\":\"".toList ++ audit.toList ++
      "\",\"kind\":\"commit\",\"prior_digest\":\"".toList ++ prior.toList ++
      "\",\"sequence\":\"".toList, "\",\"subject\":\"".toList ++ subject.toList ++ "\"\x7d".toList,
      ?_, ?_, ?_⟩
    . rw [← String.toList_inj]
      simp [trustEntryJson, json, Json.dumps, Json.render, Json.renderFields,
        renderString_of_isPlain, hkeys, hbyte.1, hprior.1, haudit.1, hsubject]
    . simp only [List.forall_mem_append]
      exact ⟨⟨⟨⟨by decide, hascii haudit.1⟩, by decide⟩, hascii hprior.1⟩, by decide⟩
    . simp only [List.length_append, String.length_toList, hprior.2, haudit.2]
      decide
  rw [htext, String.encodeUTF8_append, String.encodeUTF8_append, hbyte.2,
    List.getD_eq_getElem?_getD,
    List.getElem?_append_right (by rw [length_encodeUTF8_ofList hhead, hlen]),
    length_encodeUTF8_ofList hhead, hlen]
  rfl

def nextDraft : Draft where
  nodeId := "node"
  attemptId := "retried"
  commitId := "commit-22"
  nonce := Base64.encode (List.replicate 16 1)
  expected := "1"
  committed := "2"
  nodeId_valid := rootDraft.nodeId_valid
  commitId_valid := by decide
  nonce_valid := isBytes_encode (List.length_replicate ..)

def initialContext : CommitContext where
  subject := rootDraft.subject
  governance := Draft.context
  lifecycle := .executing
  logicalNodeState := ⟨"workflow", "node", "0", none, 0, rfl, by simp⟩
  predecessors := []
  auditEventId := ""

def initialNode : LogicalNodeRow :=
  ⟨"workflow", "node", "0", none⟩

def uncommitted (nodes : Table LogicalNodeRow) (candidates : Table CandidateRow) : Store :=
  { Store.empty with logicalNodes := nodes, candidates := candidates }

section Provisions

variable {nodes : Table LogicalNodeRow} {candidates : Table CandidateRow}

theorem insertContext_initialContext (hnodes : insert .empty initialNode = .ok nodes)
    (hcands : insert .empty (rootDraft.executing "") = .ok candidates)
    : insertContext .empty initialContext = .ok (uncommitted nodes candidates) := by
  rw [Draft.executing] at hcands
  simp only [insertContext, initialContext, Draft.predecessorsJson_nil]
  exact bind_eq_ok.mpr ⟨nodes, hnodes, bind_eq_ok.mpr ⟨candidates, hcands, rfl⟩⟩

variable (hnodes : nodes.rows = [initialNode])

include hnodes

theorem logicalNode?_uncommitted
    : (uncommitted nodes candidates).logicalNode? "workflow" "node" = some initialNode := by
  rw [Store.logicalNode?, Table.find?, show (uncommitted nodes candidates).logicalNodes.rows = _
    from hnodes]
  rfl

theorem validate_uncommitted {row : CandidateRow} (hrows : candidates.rows = [row])
    (hkeys : row.workflowId = "workflow" ∧ row.nodeId = "node")
    (hvalid : validateCandidateRow authority.config row true = .ok ())
    : ∃ snapshot, validateSemanticIntegrity authority.config (uncommitted nodes candidates)
        = .ok snapshot := by
  simp [validateSemanticIntegrity, validateCandidates, uncommitted, Store.empty, Table.empty,
    validateDispositions, validateLogicalNodes, validateLogicalNode, validateTrustLog,
    validateTrustRows, validateIndexes, validateEdges, validateDecisions, validateOutputRefs,
    validateSupersessions, validateGenerations, validateOutbox, validateConflicts, sameMembers,
    committedIds, hnodes, hrows, Store.logicalNode?, Table.find?, initialNode, hkeys, hvalid]

omit hnodes in
theorem unused_uncommitted (request : AtomicCommitRequest) (payload : Bytes)
    : Unused (uncommitted nodes candidates) request none payload where
  audit := by
    rintro ⟨r, hr, -⟩
    exact forall_mem_empty (p := fun _ => False) r hr
  certificate := forall_mem_empty
  entry := forall_mem_empty
  event := forall_mem_empty

end Provisions

theorem exists_provisioned
    : ∃ nodes candidates, Reachable authority (uncommitted nodes candidates) ∧
        nodes.rows = [initialNode] ∧ candidates.rows = [] ++ [rootDraft.executing ""] := by
  obtain ⟨nodes, hnodes⟩ := insert_isOk .empty initialNode rfl forall_mem_empty
  obtain ⟨candidates, hcands⟩ := insert_isOk .empty (rootDraft.executing "") rfl
    forall_mem_empty
  have hrows := rows_of_insert? (insert_eq_ok.mp hnodes)
  have hrows' := rows_of_insert? (insert_eq_ok.mp hcands)
  have hvalid := (rootDraft.validateCandidateRow_draft (v := 0) ⟨rfl, rfl⟩ "").1
  obtain ⟨snapshot, hsnap⟩ := validate_uncommitted hrows hrows' ⟨rfl, rfl⟩ hvalid
  refine ⟨nodes, candidates, ⟨[initialContext], _, ?_, .refl _⟩, hrows, hrows'⟩
  rw [provision, List.foldlM_cons, insertContext_initialContext hnodes hcands, ok_bind,
    List.foldlM_nil, pure_bind, hsnap]
  rfl

theorem exists_committed
    : ∃ nodes candidates sealed s, Reachable authority s ∧ nodes.rows = [initialNode] ∧
        candidates.rows = [rootDraft.pending] ∧
        (sealed.payload.length = rootDraft.size ∧ sealed.digest = sha256Digest sealed.payload) ∧
        CommitWrites (uncommitted nodes candidates) rootDraft.proposal none 1 sealed s := by
  obtain ⟨nodes, candidates, ⟨contexts, s₀, hprov, hrun⟩, hnodes, hrows⟩ := exists_provisioned
  have hcreated : stagedCandidate (uncommitted nodes candidates)
      ⟨rootDraft.subject, "0", [], by decide⟩ = .ok (rootDraft.executing "", candidates) := by
    have hcand : (uncommitted nodes candidates).candidate? rootDraft.subject.workflowId
        rootDraft.subject.nodeId rootDraft.subject.attemptId = some (rootDraft.executing "") :=
      candidate?_of_rows (s := uncommitted nodes candidates) hrows
    rw [stagedCandidate, hcand]
    rfl
  obtain ⟨candidates, hrun', hrows⟩ := rootDraft.exists_pending (v := 0) forall_mem_empty
    ⟨rfl, rfl, rfl⟩ ⟨rfl, rfl⟩ hcreated hrows
    (Option.isSome_iff_exists.mpr ⟨_, logicalNode?_uncommitted hnodes⟩)
  have hreach : Reachable authority (uncommitted nodes candidates) :=
    ⟨contexts, s₀, hprov, hrun.trans hrun'⟩
  obtain ⟨sealed, result, s, hcommit, hsealed, hwrites⟩ := rootDraft.commit_isOk
    (s := uncommitted nodes candidates) (by decide) (by decide) hrows
    (logicalNode?_uncommitted hnodes) rfl (show checkPointer _ _ none = .ok () from rfl)
    ⟨rfl, rfl⟩ hreach.booked rfl forall_mem_empty rfl (show nextSequence _ = .ok 1 from rfl)
    (by simp [uncommitted, Store.empty, Store.trustHead?, Table.empty]) fun payload _ =>
      ⟨unused_uncommitted _ payload,
        isOk_bind (insertDisposition_isOk forall_mem_empty) fun _ _ => ⟨_, rfl⟩⟩
  have hstep : step authority (uncommitted nodes candidates) (.atomicCommit rootDraft.proposal 0)
      = .ok s := by
    rw [step, atomicCommit, hcommit]
    rfl
  exact ⟨nodes, candidates, sealed, s, hreach.step hstep, hnodes, hrows, hsealed, hwrites⟩

theorem commitAudit_eq (request : AtomicCommitRequest) (old : Option String)
    : ∃ message, commitAudit request old = sha256Digest message ∧
        message.length = 51 + request.commitId.utf8ByteSize := by
  have hconstants : "commit".utf8ByteSize = 6 ∧ "\x00".utf8ByteSize = 1 := by decide
  refine ⟨("commit" ++ "\x00" ++ "\x00".intercalate [request.commitId,
    operationIdentity request old]).encodeUTF8, rfl, ?_⟩
  simp only [String.intercalate_cons_cons, String.intercalate_singleton, String.length_encodeUTF8,
    String.utf8ByteSize_append, hconstants, operationIdentity, utf8ByteSize_sha256Digest]
  omega

theorem outboxId_eq {commitId : String} (hcommit : commitId.utf8ByteSize < 1000) (payload : Bytes)
    : ∃ message, auditId "outbox" [OutboxKind.commit.value, commitId, sha256Digest payload]
        = sha256Digest message ∧ message.length = 153 + commitId.utf8ByteSize := by
  have hconstants : "outbox".utf8ByteSize = 6 ∧ OutboxKind.commit.value.utf8ByteSize = 6 := by
    decide
  obtain ⟨message, heq, hlen⟩ := auditId_eq "outbox"
    [OutboxKind.commit.value, commitId, sha256Digest payload] (by decide) (by
      simp only [List.forall_mem_cons, hconstants, utf8ByteSize_sha256Digest]
      exact ⟨by decide, by decide, by omega, by decide, List.forall_mem_nil _⟩)
  refine ⟨message, heq, hlen.trans ?_⟩
  simp only [List.map_cons, List.map_nil, List.sum_cons, List.sum_nil, hconstants,
    utf8ByteSize_sha256Digest]
  omega

theorem commitIds : rootDraft.proposal.commitId.utf8ByteSize = 8 ∧
    nextDraft.proposal.commitId.utf8ByteSize = 9 := by
  decide

theorem sizes : rootDraft.size = 3319 ∧ nextDraft.size = 3321 := by
  decide

theorem isPlain_sha256Digest (value : Bytes)
    : isPlain (sha256Digest value) ∧ (sha256Digest value).length = 43 :=
  ⟨isPlain_encode _, Draft.length_digest value⟩

theorem entryDigest_ne {s : Store} {head : TrustRow} (hhead : s.trustHead? = some head)
    (hseq : head.sequence = 1) (hdigest : isPlain head.entryDigest ∧ head.entryDigest.length = 43)
    {subject subject' audit audit' : String} (hsubject : isPlain subject)
    (hsubject' : isPlain subject') (haudit : isPlain audit ∧ audit.length = 43)
    (haudit' : isPlain audit' ∧ audit'.length = 43)
    : (trustRow .empty "commit" subject audit).entryDigest ≠
        (trustRow s "commit" subject' audit').entryDigest := by
  have hold : (trustRow .empty "commit" subject audit).entryDigest = sha256Digest
      (trustEntryJson 1 genesisDigest "commit" subject audit).encodeUTF8 := rfl
  have hnew : (trustRow s "commit" subject' audit').entryDigest = sha256Digest
      (trustEntryJson 2 head.entryDigest "commit" subject' audit').encodeUTF8 := by
    simp only [trustRow, hhead, hseq, Option.elim]
  intro h
  rw [hold, hnew] at h
  have hdigits := (fields_eq_of_sha256Digest h).1
  have hgenesis : isPlain genesisDigest ∧ genesisDigest.length = 43 := isPlain_sha256Digest _
  rw [getD_trustEntryJson 49 (by decide) hgenesis haudit hsubject,
    getD_trustEntryJson 50 (by decide) hdigest haudit' hsubject'] at hdigits
  exact absurd hdigits (by decide)

section Committed

variable {nodes : Table LogicalNodeRow} {candidates : Table CandidateRow} {sealed : Sealed}
  {s : Store} (h : CommitWrites (uncommitted nodes candidates) rootDraft.proposal none 1 sealed s)

include h

theorem rows_dispositions
    : s.certificateDispositions.rows = [⟨sealed.digest, 1, .current⟩] ∧
      s.supersessionEdges = .empty := by
  have hdisps := h.dispositions
  simp only [recordDisposition, bind_eq_ok, pure_inj, Prod.mk.injEq] at hdisps
  obtain ⟨_, hdisps, rfl, hedges⟩ := hdisps
  exact ⟨rows_of_insert? (insertDisposition_cases hdisps).1, hedges.symm⟩

theorem logicalNodes_committed (hnodes : nodes.rows = [initialNode])
    : s.logicalNodes.rows = [⟨"workflow", "node", "1", some sealed.digest⟩] := by
  have hrows := rows_of_update? h.logicalNodes
  rw [show (uncommitted nodes candidates).logicalNodes.rows = _ from hnodes] at hrows
  exact hrows

theorem logicalNode?_committed (hnodes : nodes.rows = [initialNode])
    : s.logicalNode? "workflow" "node" = some ⟨"workflow", "node", "1", some sealed.digest⟩ := by
  rw [Store.logicalNode?, Table.find?, logicalNodes_committed h hnodes]
  rfl

theorem stagedCandidate_committed (hnodes : nodes.rows = [initialNode])
    (hrows : candidates.rows = [rootDraft.pending])
    : ∃ auditEventId candidates', stagedCandidate s ⟨nextDraft.subject, "1", [], by decide⟩
          = .ok (nextDraft.executing auditEventId, candidates') ∧
        candidates'.rows = [rootDraft.pending] ++ [nextDraft.executing auditEventId] := by
  have hcands : s.candidates = candidates := by
    rw [h.unchanged]
    rfl
  obtain ⟨candidates', hinsert⟩ := insert_isOk candidates
    (nextDraft.executing (auditId "candidate" ["retried"])) rfl fun r hr => by
      rw [mem_def, hrows, List.mem_singleton] at hr
      rw [hr]
      rfl
  have hcand : s.candidate? nextDraft.subject.workflowId nextDraft.subject.nodeId
      nextDraft.subject.attemptId = none := by
    rw [Store.candidate?, Table.find?, hcands, hrows]
    rfl
  have htemplate : (s.candidates.find? fun r => r.workflowId = nextDraft.subject.workflowId &&
      r.nodeId = nextDraft.subject.nodeId) = some rootDraft.pending := by
    rw [Table.find?, hcands, hrows]
    rfl
  have hnode : s.logicalNode? nextDraft.subject.workflowId nextDraft.subject.nodeId
      = some ⟨"workflow", "node", "1", some sealed.digest⟩ := logicalNode?_committed h hnodes
  refine ⟨_, candidates', ?_, (rows_of_insert? (insert_eq_ok.mp hinsert)).trans (by rw [hrows])⟩
  rw [stagedCandidate, hcand]
  dsimp only
  rw [htemplate, hnode, hcands]
  exact bind_eq_ok.mpr ⟨(), rfl, bind_eq_ok.mpr ⟨_, hinsert, rfl⟩⟩

theorem trustLog_committed
    : s.trustLog.rows = [trustRow .empty "commit" sealed.digest
        (commitAudit rootDraft.proposal none)] :=
  rows_of_insert? h.trustLog

theorem trustHead?_committed
    : s.trustHead? = some (trustRow .empty "commit" sealed.digest
        (commitAudit rootDraft.proposal none)) := by
  rw [Store.trustHead?, trustLog_committed h]
  rfl

section Payloads

variable (hpayload : sealed.payload.length = rootDraft.size ∧
    sealed.digest = sha256Digest sealed.payload)
  (candidates' : Table CandidateRow) {payload : Bytes} (hlen : payload.length = nextDraft.size)

include hpayload hlen

omit h in
theorem digest_ne : sealed.digest ≠ sha256Digest payload := by
  have hsize := hpayload.1
  rw [sizes.1] at hsize
  rw [sizes.2] at hlen
  rw [hpayload.2]
  apply sha256Digest_ne <;> omega

theorem unused_committed
    : Unused { s with candidates := candidates' } nextDraft.proposal (some sealed.digest)
        payload where
  audit := by
    rintro ⟨r, hr, heq⟩
    obtain ⟨old, hold, hlen⟩ := commitAudit_eq rootDraft.proposal none
    obtain ⟨new, hnew, hlen'⟩ := commitAudit_eq nextDraft.proposal (some sealed.digest)
    rw [commitIds.1] at hlen
    rw [commitIds.2] at hlen'
    have hne : ∀ r ∈ s.auditEvents, r.auditEventId ≠ sha256Digest new := by
      refine Table.forall_mem_of_insert? h.auditEvents forall_mem_empty ?_
      rw [auditRow, hold]
      apply sha256Digest_ne <;> omega
    exact hne r hr (heq.trans hnew)
  certificate :=
    Table.forall_mem_of_insert? h.certificates forall_mem_empty (digest_ne hpayload hlen)
  entry := by
    obtain ⟨old, hold, -⟩ := commitAudit_eq rootDraft.proposal none
    obtain ⟨new, hnew, -⟩ := commitAudit_eq nextDraft.proposal (some sealed.digest)
    have hhead := trustHead?_committed h
    intro r hr
    rw [mem_def, trustLog_committed h, List.mem_singleton] at hr
    rw [hr, hold, hnew]
    refine entryDigest_ne (s := { s with candidates := candidates' }) hhead rfl
      (isPlain_sha256Digest _) ?_ (isPlain_sha256Digest _).1 (isPlain_sha256Digest _)
      (isPlain_sha256Digest _)
    rw [hpayload.2]
    exact (isPlain_sha256Digest _).1
  event := by
    obtain ⟨old, hold, hlen⟩ := outboxId_eq (commitIds.1.trans_lt (by decide)) sealed.payload
    obtain ⟨new, hnew, hlen'⟩ := outboxId_eq (commitIds.2.trans_lt (by decide)) payload
    rw [commitIds.1] at hlen
    rw [commitIds.2] at hlen'
    refine Table.forall_mem_of_insert? h.outbox forall_mem_empty ?_
    rw [hnew, outboxRow, hpayload.2, hold]
    apply sha256Digest_ne <;> omega

end Payloads

theorem checkPointer_committed (candidates' : Table CandidateRow)
    : checkPointer { s with candidates := candidates' }
        ⟨"workflow", "node", "1", some sealed.digest⟩ (some sealed.digest) = .ok () := by
  have hlatest : Store.latestDisposition { s with candidates := candidates' } sealed.digest
      = some .current := by
    simp [Store.latestDisposition, Store.disposition?, Table.find?, (rows_dispositions h).1]
  simp [checkPointer, hlatest, reject]

theorem recordDisposition_committed (candidates' : Table CandidateRow) {digest : String}
    (hne : sealed.digest ≠ digest) (nonce : String)
    : ∃ tables, recordDisposition { s with candidates := candidates' } digest nonce
        (some sealed.digest) = .ok tables := by
  obtain ⟨hrows, hedges⟩ := rows_dispositions h
  obtain ⟨superseded, hinsert⟩ := insert_isOk s.certificateDispositions
    ⟨sealed.digest, 2, .superseded⟩ rfl fun r hr => by
      rw [mem_def, hrows, List.mem_singleton] at hr
      simp [hr, TableSchema.compatible]
  have hsuperseded : insertDisposition s.certificateDispositions ⟨sealed.digest, 2, .superseded⟩
      = .ok superseded := by
    simp [insertDisposition, Table.any, hrows, hinsert]
  refine isOk_bind ⟨superseded, hsuperseded⟩ fun _ heq => ?_
  obtain rfl := Except.ok.inj (hsuperseded.symm.trans heq)
  refine isOk_bind (insertDisposition_isOk fun r hr => ?_) fun _ _ => ?_
  . rw [mem_def, rows_of_insert? (insert_eq_ok.mp hinsert), hrows] at hr
    rcases List.mem_cons.mp hr with rfl | hr
    . exact hne
    . rw [List.mem_singleton.mp hr]
      exact hne
  . refine isOk_bind ?_ fun _ _ => ⟨_, rfl⟩
    rw [hedges]
    exact insert_isOk _ _ rfl forall_mem_empty

theorem nextSequence_committed (candidates' : Table CandidateRow)
    : nextSequence { s with candidates := candidates' } = .ok 2 := by
  rw [nextSequence, rows_of_insert? h.certificates]
  rfl

theorem requestIndex_committed
    : ∀ r ∈ s.requestIndex,
        r.requestDigest ≠ Draft.statementDigest nextDraft.producerStatement := by
  obtain ⟨digest, hpublic, hinsert⟩ := h.requestIndex
  rw [rootDraft.publicRequestDigest_proposal] at hpublic
  obtain rfl := Except.ok.inj hpublic
  have hold := length_dumps_of_isPlainValue rootDraft.isPlainValue_statements.1
  have hnew := length_dumps_of_isPlainValue nextDraft.isPlainValue_statements.1
  rw [rootDraft.textLength_statements.1] at hold
  rw [nextDraft.textLength_statements.1] at hnew
  have hids : rootDraft.nodeId.length = 4 ∧ rootDraft.commitId.length = 8 ∧
      nextDraft.nodeId.length = 4 ∧ nextDraft.commitId.length = 9 := by decide
  refine Table.forall_mem_of_insert? hinsert forall_mem_empty ?_
  apply sha256Digest_ne <;> omega

theorem exists_retried (hreach : Reachable authority s) (hnodes : nodes.rows = [initialNode])
    (hrows : candidates.rows = [rootDraft.pending])
    : ∃ candidates', Reachable authority { s with candidates := candidates' } ∧
        candidates'.rows = [rootDraft.pending] ++ [nextDraft.pending] := by
  obtain ⟨_, _, hcreated, hrows⟩ := stagedCandidate_committed h hnodes hrows
  have hrefs : ∀ r ∈ s.commitOutputRefs, r.attemptId ≠ nextDraft.attemptId := by
    have hattempt : rootDraft.attemptId ≠ nextDraft.attemptId := by decide
    obtain ⟨_, -, hinsert⟩ := h.commitOutputRefs
    exact Table.forall_mem_of_insert? hinsert forall_mem_empty hattempt
  obtain ⟨candidates', hrun, hrows⟩ := nextDraft.exists_pending (v := 1) hrefs ⟨rfl, rfl, rfl⟩
    ⟨rfl, rfl⟩ hcreated hrows (Option.isSome_iff_exists.mpr ⟨_, logicalNode?_committed h hnodes⟩)
  obtain ⟨contexts, s₀, hprov, hrun₀⟩ := hreach
  exact ⟨candidates', ⟨contexts, s₀, hprov, hrun₀.trans hrun⟩, hrows⟩

theorem commit_retried (hreach : Reachable authority { s with candidates := candidates' })
    (hnodes : nodes.rows = [initialNode])
    (hrows : candidates'.rows = [rootDraft.pending] ++ [nextDraft.pending])
    (hpayload : sealed.payload.length = rootDraft.size ∧
      sealed.digest = sha256Digest sealed.payload)
    : ∃ second result s', commit authority { s with candidates := candidates' } nextDraft.proposal
          (some sealed.digest) 0 = .ok (result, s') ∧
        CommitWrites { s with candidates := candidates' } nextDraft.proposal (some sealed.digest) 2
          second s' := by
  have hindex : Store.commitIndex? { s with candidates := candidates' } nextDraft.commitId
      = none := by
    rw [Store.commitIndex?, Table.find?, rows_of_insert? h.commitIndex]
    rfl
  have hnonce : Store.nonceOwner? { s with candidates := candidates' } nextDraft.nonce
      = none := by
    have hne : rootDraft.proposal.nonce ≠ nextDraft.nonce := by decide
    rw [Store.nonceOwner?, Table.find?, rows_of_insert? h.nonceLedger]
    exact List.find?_cons_of_neg (by simpa using hne)
  have hrevs : s.actorRevocations = .empty ∧ s.workflowRevocations = .empty := by
    rw [h.unchanged]
    exact ⟨rfl, rfl⟩
  have hnode := logicalNode?_committed h hnodes
  have hrequests := requestIndex_committed h
  obtain ⟨second, result, s', hcommit, -, h'⟩ := nextDraft.commit_isOk
    (s := { s with candidates := candidates' }) (by decide) (by decide) hrows hnode rfl
    (checkPointer_committed h candidates') hrevs hreach.booked hindex hrequests hnonce
    (nextSequence_committed h candidates')
    (fun head hhead => by
      cases (trustHead?_committed h).symm.trans hhead
      exact (show 1 < maxSafeInteger by decide))
    fun payload hlen => ⟨unused_committed h hpayload candidates' hlen,
      recordDisposition_committed h candidates' (digest_ne hpayload hlen) _⟩
  exact ⟨second, result, s', hcommit, h'⟩

end Committed

/--
A node whose first certificate another one supersedes: provisioned, staged, assembled, proposed and
committed, then staged again by a retry, assembled, proposed and superseded.
-/
theorem exists_superseded
    : ∃ s digest, Reachable authority s ∧
        s.logicalNode? "workflow" "node" = some ⟨"workflow", "node", "2", some digest⟩ := by
  obtain ⟨nodes, candidates, first, s, hreach, hnodes, hrows, hpayload, h⟩ := exists_committed
  obtain ⟨candidates', hreach, hrows⟩ := exists_retried h hreach hnodes hrows
  obtain ⟨second, result, s', hcommit, h'⟩ := commit_retried h hreach hnodes hrows hpayload
  have hunindexed : (s.commitIndex.any fun r => r.commitId = nextDraft.proposal.commitId &&
      r.requestDigest = operationIdentity nextDraft.proposal (some first.digest)) = false := by
    rw [Table.any, rows_of_insert? h.commitIndex]
    rfl
  have hstep : step authority { s with candidates := candidates' }
      (.supersede ⟨first.digest, nextDraft.proposal⟩ 0) = .ok s' := by
    simp only [step, supersede, hunindexed, hcommit, Bool.false_eq_true, if_false, ok_bind]
    rfl
  have hrows' : s'.logicalNodes.rows = s.logicalNodes.rows.map _ :=
    rows_of_update? h'.logicalNodes
  rw [logicalNodes_committed h hnodes] at hrows'
  refine ⟨s', second.digest, hreach.step hstep, ?_⟩
  rw [Store.logicalNode?, Table.find?, hrows']
  rfl

end Apcc.Sample
