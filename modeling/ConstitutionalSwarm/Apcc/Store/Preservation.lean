import ConstitutionalSwarm.Apcc.Store.Persistence
import ConstitutionalSwarm.Apcc.Store.Progress

namespace Apcc

open List Table

theorem CandidateUpdate.find? {f : CandidateRow → CandidateRow}
    (h : CandidateUpdate s subject f candidates) (hf : ∀ r w n a, (f r).isFor w n a = r.isFor w n a)
    (w n a : String)
    : candidates.find? (·.isFor w n a) = (s.candidate? w n a).map fun r =>
        if r.isFor subject.workflowId subject.nodeId subject.attemptId then f r else r := by
  rw [Table.find?, Table.rows_of_update? h.updated, find?_map, Store.candidate?, Table.find?]
  congr 2
  funext r
  dsimp only [Function.comp]
  split
  . exact hf r w n a
  . rfl

theorem CandidateUpdate.result {f : CandidateRow → CandidateRow}
    (h : CandidateUpdate s subject f candidates) (hf : ∀ r w n a, (f r).isFor w n a = r.isFor w n a)
    {row} (hrow : row ∈ s.commitOutputRefs)
    : (candidates.find? (·.isFor row.workflowId row.nodeId row.attemptId)).bind (·.result) =
      (s.candidate? row.workflowId row.nodeId row.attemptId).bind (·.result) := by
  rw [h.find? hf]
  cases hfind : s.candidate? row.workflowId row.nodeId row.attemptId with
  | none => rfl
  | some r =>
    obtain ⟨hr, hatt⟩ := Table.mem_of_find? hfind
    simp only [Option.map_some, Option.bind_some]
    split
    . next hfor =>
      refine (h.guarded ?_ r hr hfor).1
      simp only [CandidateRow.isFor, Bool.and_eq_true, decide_eq_true_eq] at hatt hfor
      rw [Table.any, any_eq_true]
      refine ⟨row, hrow, ?_⟩
      simp [← hatt, ← hfor]
    . rfl

theorem candidateObjects_eq_ok {ctx : CertificateContext} {preds : List PredecessorRef}
    (hsubj : row.subjectJson = json subject.toObject)
    (hctx : row.contextJson = json ctx.toObject)
    (hpreds : row.predecessorsJson = predecessorsJson preds)
    : candidateObjects row = .ok ⟨subject.toObject, ctx.toObject, subject, preds⟩ := by
  obtain ⟨_, hflds, hread⟩ :=
    bind_eq_ok.mp (CertificateSubject.fromObject_toObject subject)
  obtain ⟨_, hflds', hread'⟩ :=
    bind_eq_ok.mp (CertificateContext.fromObject_toObject ctx)
  simp only [candidateObjects, hsubj, hctx, hpreds, predecessorsJson,
    loads_json subject.canonical_toObject, loads_json ctx.canonical_toObject,
    loads_json (PredecessorRef.canonical_arr preds), ok_bind, hflds, hread, hflds', hread',
    asArray, PredecessorRef.mapM_fromObject_toObject]
  rfl

theorem subject_of_candidateObjects
    (hsubj : row.subjectJson = json subject.toObject) (h : candidateObjects row = .ok objects)
    : objects.subject = subject := by
  simp only [candidateObjects, hsubj, loads_json subject.canonical_toObject, ok_bind, bind_eq_ok,
    pure_inj] at h
  obtain ⟨_, -, _, -, fields, hflds, _, hread, _, -, _, -, _, -, _, -, rfl⟩ := h
  have hsubj := bind_eq_ok.mpr ⟨fields, hflds, hread⟩
  rw [CertificateSubject.fromObject_toObject, Except.ok.injEq] at hsubj
  exact hsubj.symm

theorem mergeSort_append_succ (h : l.mergeSort = range' 1 l.length)
    : (l ++ [l.length + 1]).mergeSort = range' 1 (l.length + 1) := by
  have hperm : (l ++ [l.length + 1]).mergeSort.Perm (range' 1 (l.length + 1)) := by
    rw [range'_concat, ← h, Nat.one_mul, Nat.add_comm 1]
    exact (mergeSort_perm _ _).trans ((mergeSort_perm l _).symm.append_right _)
  refine hperm.eq_of_pairwise' ?_ (pairwise_le_range' 1)
  exact pairwise_mergeSort' (· ≤ ·) _

theorem observations_insert (hs : ∀ r ∈ s.commitConflicts, (observations s r.commitId).mergeSort
      = range' 1 (observations s r.commitId).length)
    (hins : s.commitConflicts.insert? row = some s'.commitConflicts)
    (hrow : row.observationSequence
      = (s.commitConflicts.rows.filter (·.commitId = row.commitId)).length + 1)
    : ∀ r ∈ s'.commitConflicts, (observations s' r.commitId).mergeSort
        = range' 1 (observations s' r.commitId).length := by
  have hold (commitId : String) : (observations s commitId).mergeSort
      = range' 1 (observations s commitId).length := by
    by_cases hany : ∃ r ∈ s.commitConflicts, r.commitId = commitId
    . obtain ⟨r, hr, rfl⟩ := hany
      exact hs r hr
    . have hnil : observations s commitId = [] := by
        rw [observations, map_eq_nil_iff, filter_eq_nil_iff]
        intro r hr
        simpa using fun hid => hany ⟨r, hr, hid⟩
      rw [hnil, mergeSort_nil]
      rfl
  intro r _
  by_cases hid : row.commitId = r.commitId
  . have happ : observations s' r.commitId
        = observations s r.commitId ++ [(observations s r.commitId).length + 1] := by
      rw [observations, rows_of_insert? hins, filter_append, map_append,
        filter_cons_of_pos (by simpa using hid)]
      simp [observations, hrow, hid]
    rw [happ, mergeSort_append_succ (hold _), length_append, length_singleton]
  . have hsame : observations s' r.commitId = observations s r.commitId := by
      rw [observations, rows_of_insert? hins, filter_append,
        filter_cons_of_neg (by simpa using hid), filter_nil, append_nil,
        observations]
    rw [hsame]
    exact hold _

theorem IndexesOk.decision_ne (hs : IndexesOk s) (hidx : s.commitIndex? commitId = none)
    : ∀ r ∈ s.decisions, r.commitId ≠ commitId := by
  intro r hr hid
  have hmem := (hs.decisions commitId).mp (mem_map.mpr ⟨r, hr, hid⟩)
  obtain ⟨row, hrow, hrowid⟩ := mem_map.mp hmem
  exact Store.commitIndex?_eq_none.mp hidx row hrow hrowid

theorem IndexesOk.insert (hs : IndexesOk s)
    (hindex : s.commitIndex.insert? index = some s'.commitIndex)
    (hpub : s.requestIndex.insert? digest = some s'.requestIndex)
    (hdecision : s.decisions.insert? dec = some s'.decisions)
    (hpublicId : digest.commitId = index.commitId)
    (hdecisionId : dec.commitId = index.commitId) : IndexesOk s' := by
  constructor
  . rw [rows_of_insert? hindex, rows_of_insert? hpub, length_append, length_append, hs.length]
    rfl
  . intro id
    rw [rows_of_insert? hindex, rows_of_insert? hdecision, map_append,
      map_append, mem_append, mem_append, hs.decisions id]
    simp [hdecisionId]
  . intro id
    rw [rows_of_insert? hindex, rows_of_insert? hpub, map_append,
      map_append, mem_append, mem_append, hs.requests id]
    simp [hpublicId]

variable [Platform] {cfg : AuthorityConfig} {auth : Authority} {s s' : Store}

section Clauses

variable (hs : Integrity cfg s) (hgrows : Grows s s')

include hs hgrows

theorem DecisionsOk.extend (hrows : ∀ r ∈ s'.decisions, r ∈ s.decisions ∨
      validateDecision cfg s' (decodedCertificates cfg s') (indexedOperations s') r = .ok ())
    (hnew : ∀ r ∈ s.decisions, evidence? s r.commitId = none → evidence? s' r.commitId = none)
    (howners : ∀ r ∈ s'.nonceLedger, r ∈ s.nonceLedger ∨
      ((indexedOperations s').lookup r.commitId).isSome)
    (hevid : ∀ id, id ∈ s'.evidenceRefs.rows.map (·.commitId) ↔ id ∈ committedIds s')
    (hcerts : ∀ id, id ∈ (decodedCertificates cfg s').map (·.2.decision.commitId) ↔
      id ∈ committedIds s')
    : DecisionsOk cfg s' (decodedCertificates cfg s') (indexedOperations s') where
  rows := by
    intro r hr
    rcases hrows r hr with hr | hr
    . exact validateDecision_grows hgrows (hnew r hr) (hs.decisions.rows r hr)
    . exact hr
  owners := by
    intro r hr
    rcases howners r hr with hr | hr
    . obtain ⟨_, hop⟩ := Option.isSome_iff_exists.mp (hs.decisions.owners r hr)
      rw [hgrows.lookup_indexedOperations hop]
      rfl
    . exact hr
  evidence := hevid
  certificates := hcerts

theorem OutputRefsOk.extend
    (hids : ∀ id, id ∈ s'.commitOutputRefs.rows.map (·.commitId) ↔ id ∈ committedIds s')
    (hcands : ∀ r ∈ s.commitOutputRefs, ∀ res,
      (s.candidate? r.workflowId r.nodeId r.attemptId).bind (·.result) = some res →
      (s'.candidate? r.workflowId r.nodeId r.attemptId).bind (·.result) = some res)
    (hrows : ∀ r ∈ s'.commitOutputRefs, r ∈ s.commitOutputRefs ∨
      validateOutputRef s' (indexedOperations s') r = .ok ())
    : OutputRefsOk s' (indexedOperations s') where
  ids := hids
  rows := by
    intro r hr
    rcases hrows r hr with hr | hr
    . exact validateOutputRef_grows hgrows (hcands r hr) (hs.outputRefs.rows r hr)
    . exact hr

theorem SupersessionsOk.extend (hrows : ∀ r ∈ s'.supersessionEdges, r ∈ s.supersessionEdges ∨
      validateSupersessionEdge s' (decodedCertificates cfg s') s'.latestDisposition
        (indexedOperations s') r = .ok ())
    (hdist : s'.supersessionEdges.rows.Pairwise fun a b =>
      a.oldDigest ≠ b.oldDigest ∧ a.newDigest ≠ b.newDigest)
    (hsup : ∀ c ∈ decodedCertificates cfg s',
      s'.latestDisposition c.1 = some .superseded → ∃ r ∈ s'.supersessionEdges, r.oldDigest = c.1)
    (hincoming : ∀ r ∈ s.decisions, ∀ digest ∈ r.certificateDigest,
      incoming? s' digest = incoming? s digest)
    (hdecs : ∀ r ∈ s'.decisions, r ∈ s.decisions ∨
      (r.outcome = .committed → validateIncoming s' (indexedOperations s') r = .ok ()))
    : SupersessionsOk s' (decodedCertificates cfg s') (indexedOperations s') where
  rows := by
    intro r hr
    rcases hrows r hr with hr | hr
    . exact validateSupersessionEdge_grows hgrows hs.dispositions (hs.supersessions.rows r hr)
    . exact hr
  distinct := hdist
  superseded := hsup
  incoming := by
    intro r hr hcomm
    rcases hdecs r hr with hr | hr
    . exact validateIncoming_grows hgrows (hincoming r hr) (hs.supersessions.incoming r hr hcomm)
    . exact hr hcomm

theorem ConflictsOk.extend (hrows : ∀ r ∈ s'.commitConflicts, r ∈ s.commitConflicts ∨
      validateConflict s' (indexedOperations s') r = .ok ())
    (hseqs : ∀ r ∈ s'.commitConflicts, (observations s' r.commitId).mergeSort
        = range' 1 (observations s' r.commitId).length)
    : ConflictsOk s' (indexedOperations s') where
  rows := by
    intro r hr
    rcases hrows r hr with hr | hr
    . exact validateConflict_grows hgrows (hs.conflicts.rows r hr)
    . exact hr
  sequences := hseqs

end Clauses

theorem Integrity.auditEvents (hs : Integrity cfg s)
    (haudits : s.auditEvents.rows <+: audits.rows)
    : Integrity cfg { s with auditEvents := audits } := by
  have hgrows : Grows s { s with auditEvents := audits } :=
    { Grows.refl s with auditEvents := haudits }
  obtain ⟨facts, htrust, houtbox⟩ := hs.trust
  exact
    { hs with
      dispositions := { hs.dispositions with }
      logicalNodes := { hs.logicalNodes with }
      indexes := { hs.indexes with }
      outputRefs := { hs.outputRefs with }
      generations := { hs.generations with }
      decisions := .extend hs hgrows (fun _ => .inl) (fun _ _ => id) (fun _ => .inl)
        hs.decisions.evidence hs.decisions.certificates
      supersessions := .extend hs hgrows (fun _ => .inl) hs.supersessions.distinct
        hs.supersessions.superseded (fun _ _ _ _ => rfl) fun _ => .inl
      controls := fun r hr => validateControl_grows hgrows hs.dispositions (hs.controls r hr)
      trust := ⟨facts, validateTrustRows_grows hgrows htrust,
        { houtbox with
          rows := fun r hr => by
            have hcheck := s.outbox.checked r hr
            simp only [TableSchema.check, Bool.and_eq_true] at hcheck
            exact validateOutboxRow_grows hgrows prefix_rfl hcheck.2 (houtbox.rows r hr) }⟩
      conflicts := .extend hs hgrows (fun _ => .inl) hs.conflicts.sequences }

theorem OutboxUpdate.integrity (h : OutboxUpdate s state s')
    (hs : Integrity cfg s) : Integrity cfg s' := by
  obtain ⟨p, hupd⟩ := h.outbox
  have hgrows := h.grows
  obtain ⟨facts, htrust, houtbox⟩ := hs.trust
  have hrows : ∀ r ∈ s'.outbox, ∃ r' ∈ s.outbox, r = { r' with state := r.state } := by
    intro r hr
    rcases (mem_update? hupd).mp hr with ⟨hr, -⟩ | ⟨r', hr', -, rfl⟩
    . exact ⟨r, hr, rfl⟩
    . exact ⟨r', hr', rfl⟩
  have hops (kind : OutboxKind) : outboxOperations s' kind = outboxOperations s kind := by
    rw [outboxOperations, rows_of_update? hupd, outboxOperations]
    induction s.outbox.rows with
    | nil => rfl
    | cons r rows ih =>
      rw [map_cons, filter_cons, filter_cons]
      by_cases hp : p r = true <;> by_cases hkind : r.eventKind = kind <;> simp [hp, hkind, ih]
  rw [h.unchanged] at hgrows ⊢
  exact
    { hs with
      dispositions := { hs.dispositions with }
      logicalNodes := { hs.logicalNodes with }
      indexes := { hs.indexes with }
      decisions := { hs.decisions with }
      outputRefs := { hs.outputRefs with }
      supersessions := { hs.supersessions with }
      generations := { hs.generations with }
      conflicts := { hs.conflicts with }
      trust := ⟨facts, validateTrustRows_grows hgrows htrust,
        { rows := fun r hr => by
            obtain ⟨r', hr', heq⟩ := hrows r hr
            have hcheck := s'.outbox.checked r hr
            simp only [TableSchema.check, Bool.and_eq_true] at hcheck
            rw [heq]
            exact validateOutboxRow_grows hgrows prefix_rfl hcheck.2 (houtbox.rows r' hr')
          commits := fun id => (hops .commit).symm ▸ houtbox.commits id
          controls := fun id => (hops .control).symm ▸ houtbox.controls id
          count := houtbox.count }⟩ }

section Candidates

variable {subject : CertificateSubject} {candidates : Table CandidateRow}
  {prop : AtomicCommitRequest} {step : Advance} {row : CandidateRow}

theorem Integrity.candidates_update (hs : Integrity cfg s)
    (hrows : ∀ r ∈ candidates, r ∈ s.candidates ∨
      validateCandidateRow cfg r (s.logicalNode? r.workflowId r.nodeId).isSome = .ok ())
    (hresults : ∀ r ∈ s.commitOutputRefs, ∀ res,
      (s.candidate? r.workflowId r.nodeId r.attemptId).bind (·.result) = some res →
      (candidates.find? (·.isFor r.workflowId r.nodeId r.attemptId)).bind (·.result) = some res)
    : Integrity cfg { s with candidates := candidates } := by
  have hgrows : Grows s { s with candidates := candidates } := { Grows.refl s with }
  obtain ⟨facts, htrust, houtbox⟩ := hs.trust
  exact
    { hs with
      dispositions := { hs.dispositions with }
      logicalNodes := { hs.logicalNodes with }
      candidates := fun r hr => (hrows r hr).elim (hs.candidates r) id
      indexes := { hs.indexes with }
      decisions := { hs.decisions with }
      outputRefs := .extend hs hgrows hs.outputRefs.ids hresults fun _ => .inl
      supersessions := { hs.supersessions with }
      generations := { hs.generations with }
      trust := ⟨facts, validateTrustRows_grows hgrows htrust, { houtbox with }⟩
      conflicts := { hs.conflicts with } }

theorem isFor_stageWrite (req : StageResultRequest) (differs : Bool) (r : CandidateRow)
    (w n a : String) : (stageWrite req differs r).isFor w n a = r.isFor w n a := by
  cases differs <;> rfl

omit [Platform] in
theorem candidate?_eq_some (hr : r ∈ s.candidates)
    (hatt : r.isFor w n a) : s.candidate? w n a = some r := by
  refine find?_eq_some hr hatt fun r' hr' hatt' => ?_
  refine eq_of_key (fun r => (r.workflowId, r.nodeId, r.attemptId)) hr' hr ?_ ?_
  . simp only [CandidateRow.isFor, Bool.and_eq_true, decide_eq_true_eq] at hatt hatt'
    simp [hatt, hatt']
  . intro a b hab hkey
    simp only [Prod.mk.injEq] at hkey
    simp [TableSchema.compatible, CandidateRow.isFor, hkey] at hab

theorem StageWrites.integrity
    (h : StageWrites auth s req s') (hs : Integrity auth.config s)
    : Integrity auth.config s' := by
  obtain ⟨row, before, differs, hrow, -, hupd⟩ := h.candidates
  have hbefore {r : CandidateRow} (hr : r ∈ before)
      (hother : r.isFor req.subject.workflowId req.subject.nodeId
        req.subject.attemptId = false) : r ∈ s.candidates := by
    rcases hrow with ⟨-, rfl⟩ | ⟨template, node, -, -, -, rfl, hins⟩
    . exact hr
    . rcases (mem_insert? hins).mp hr with hr | rfl
      . exact hr
      . simp [freshCandidate, CandidateRow.isFor] at hother
  have hfind {w n a : String} {r : CandidateRow} (hr : s.candidate? w n a = some r) :
      before.find? (·.isFor w n a) = some r := by
    rcases hrow with ⟨-, rfl⟩ | ⟨template, node, -, -, -, rfl, hins⟩
    . exact hr
    . exact (prefix_of_insert? hins).find?_eq_some hr
  have hvalidated := h.validated
  rw [h.unchanged] at hvalidated ⊢
  refine hs.candidates_update (fun r hr => ?_) fun r hr res hres => ?_
  . rcases (mem_update? hupd.updated).mp hr with ⟨hr, hother⟩ | ⟨r', -, hatt, rfl⟩
    . exact .inl (hbefore hr hother)
    . right
      have hatt' := (isFor_stageWrite req differs r' _ _ _).trans hatt
      have hcand : ({ s with candidates := s'.candidates } : Store).candidate?
          req.subject.workflowId req.subject.nodeId req.subject.attemptId = _ :=
        candidate?_eq_some hr hatt'
      simp only [validateWrittenCandidate, hcand] at hvalidated
      simp only [CandidateRow.isFor, Bool.and_eq_true, decide_eq_true_eq] at hatt'
      rw [hatt'.1.1, hatt'.1.2]
      exact hvalidated
  . rw [hupd.result (isFor_stageWrite req differs) hr]
    obtain ⟨row, hrow, hres⟩ := Option.bind_eq_some_iff.mp hres
    exact Option.bind_eq_some_iff.mpr ⟨row, hfind hrow, hres⟩

theorem verifyEvidence_congr (trust : ScopedTrust)
    (hevid : c.evidence = c'.evidence) (hsigs : c.signatures = c'.signatures)
    : verifyEvidence c trust = verifyEvidence c' trust := by
  unfold verifyEvidence
  rw [hevid, hsigs]

theorem verifyEvidence_of_staticError (h : staticError auth prop now = .ok none)
    : verifyEvidence (placeholderCertificate auth.config prop.persisted)
        auth.config.scopedTrust = .ok () := by
  unfold staticError at h
  split at h
  . simp at h
  . next clock _ =>
    split at h
    . next code hfailure =>
      cases h
      rcases Check.failure_eq_ok hfailure with ⟨_, hok, -⟩ | ⟨_, -, h⟩
      . simp only [certificateError, bind_eq_ok, exists_unit] at hok
        rw [← hok.1]
        exact verifyEvidence_congr _ rfl rfl
      . simp at h
    . simp at h

theorem write_kept (step : Advance) (prop : AtomicCommitRequest) (row : CandidateRow)
    : let written := step.write prop row
      written.workflowId = row.workflowId ∧ written.nodeId = row.nodeId ∧
        written.attemptId = row.attemptId ∧ written.agentId = row.agentId ∧
        written.result = row.result ∧ written.expectedVersion = row.expectedVersion ∧
        written.lifecycle = step.target := by
  cases step <;> exact ⟨rfl, rfl, rfl, rfl, rfl, rfl, rfl⟩

theorem write_texts (h : candidateMatches row prop (step = .proposeCommit))
    : (step.write prop row).subjectJson = json prop.subject.toObject ∧
      (step.write prop row).contextJson = json prop.context.toObject ∧
      (step.write prop row).predecessorsJson
        = predecessorsJson prop.bindings.predecessors := by
  simp only [candidateMatches, Bool.and_eq_true, Bool.or_eq_true, Bool.not_eq_true',
    decide_eq_true_eq, decide_eq_false_iff_not] at h
  cases step with
  | assembleEvidence => exact ⟨h.1.2, rfl, rfl⟩
  | proposeCommit =>
    have hbound := h.2.resolve_left (by simp)
    exact ⟨h.1.2, hbound.1, hbound.2⟩

theorem validateProposal_write (step : Advance)
    (hvers : row.expectedVersion = prop.bindings.expectedNodeVersion)
    (hevid : verifyEvidence (placeholderCertificate cfg prop.persisted)
      cfg.scopedTrust = .ok ())
    : validateProposal cfg (step.write prop row)
          ⟨prop.subject.toObject, prop.context.toObject, prop.subject,
            prop.bindings.predecessors⟩ = .ok () ↔
      prop.evidence.ExactKeys := by
  constructor
  . intro h
    simp only [validateProposal, Advance.write, bind_eq_ok, Option.getD_some, orInvalid_eq_ok] at h
    obtain ⟨_, hread, -⟩ := h
    exact exactKeys_of_requestFromJson hread
  . intro h
    cases step <;>
      simp [validateProposal, Advance.write, requestFromJson_authorityRequestJson h, orInvalid,
        hevid, accept, hvers]

theorem validateCandidateRow_write {known : Bool}
    (hrow : validateCandidateRow cfg row known = .ok ())
    (hmatch : candidateMatches row prop (step = .proposeCommit))
    (hevid : verifyEvidence (placeholderCertificate cfg prop.persisted)
      cfg.scopedTrust = .ok ())
    : validateCandidateRow cfg (step.write prop row) known = .ok () ↔
      prop.evidence.ExactKeys := by
  obtain ⟨hsubj, hctx, hpreds⟩ := write_texts hmatch
  have hobjects := candidateObjects_eq_ok hsubj hctx hpreds
  simp only [candidateMatches, Bool.and_eq_true, decide_eq_true_eq] at hmatch
  obtain ⟨⟨⟨hvers, hres⟩, hsubj'⟩, -⟩ := hmatch
  simp only [validateCandidateRow, bind_eq_ok, exists_unit, ensure_eq_ok, orInvalid_eq_ok,
    Bool.and_eq_true, decide_eq_true_eq] at hrow
  obtain ⟨_, hparsed, _, hcanon, -, -, -, hknown, hids, hvers', -⟩ := hrow
  rw [subject_of_candidateObjects hsubj' hparsed] at hids
  have hkept := write_kept step prop row
  rw [← validateProposal_write step hvers hevid]
  simp only [validateCandidateRow, hobjects, orInvalid, ok_bind, hkept, hcanon, hvers', hids,
    hknown, ← hsubj, ← hctx, ← hpreds, hres, decide_true, Bool.and_self, ensure_true]
  cases step <;> simp [Advance.target]

theorem AdvanceWrites.integrity_iff (h : AdvanceWrites auth s step prop now s')
    (hs : Integrity auth.config s)
    : Integrity auth.config s' ↔ prop.evidence.ExactKeys := by
  obtain ⟨row, hrow, hmatch, -⟩ := h.candidate
  obtain ⟨hmem, hatt⟩ := mem_of_find? hrow
  have hupd := h.candidates
  have hwritten := validateCandidateRow_write (hs.candidates row hmem) hmatch
    (verifyEvidence_of_staticError h.static)
  obtain ⟨hwf, hnode, -⟩ := write_kept step prop row
  rw [h.unchanged, ← hwritten]
  constructor
  . intro hs'
    have hvalid := hs'.candidates (step.write prop row)
      ((mem_update? hupd.updated).mpr (.inr ⟨row, hmem, hatt, rfl⟩))
    rwa [hwf, hnode] at hvalid
  . intro hvalid
    refine hs.candidates_update (fun r hr => ?_) fun r hr res hres => ?_
    . rcases (mem_update? hupd.updated).mp hr with ⟨hr, -⟩ | ⟨r', hr', hatt', rfl⟩
      . exact .inl hr
      . have huniq := (candidate?_eq_some hr' hatt').symm.trans hrow
        rw [Option.some.inj huniq, hwf, hnode]
        exact .inr hvalid
    . rw [hupd.result (fun _ _ _ _ => by cases step <;> rfl) hr]
      exact hres

end Candidates

section Conflicts

theorem lookup_indexedOperations_of_mem (hrow : row ∈ s.commitIndex)
    (hvalid : validateCommitIndex row = .ok (row.commitId, operation))
    : (indexedOperations s).lookup row.commitId = some operation := by
  have hmem {commitId : String} {operation : Indexed} :
      (commitId, operation) ∈ indexedOperations s ↔
        ∃ r ∈ s.commitIndex, validateCommitIndex r = .ok (commitId, operation) := by
    simp only [indexedOperations, mem_filterMap, Except.toOption_eq_some, mem_def]
  refine (Assoc.lookup_eq_some fun a b ha hb => ?_).mpr (hmem.mpr ⟨row, hrow, hvalid⟩)
  obtain ⟨r, hr, hra⟩ := hmem.mp ha
  obtain ⟨r', hr', hrb⟩ := hmem.mp hb
  have hid {r : CommitIndexRow} {commitId : String} {operation : Indexed}
      (h : validateCommitIndex r = .ok (commitId, operation)) : r.commitId = commitId := by
    simp only [validateCommitIndex, bind_eq_ok, pure_inj, Prod.mk.injEq] at h
    obtain ⟨_, -, _, -, _, -, _, -, _, -, h, -⟩ := h
    exact h
  have hsame : r = r' :=
    eq_of_key CommitIndexRow.commitId hr hr' ((hid hra).trans (hid hrb).symm)
  rw [hsame, hrb] at hra
  exact (Prod.mk.inj (Except.ok.inj hra)).2.symm

theorem Original.operation (hs : Integrity cfg s) (orig : Original s commitId)
    : (indexedOperations s).lookup commitId
          = some ⟨orig.row.requestDigest, orig.row.workflowId, orig.request,
              orig.old⟩ ∧
      orig.request.subject.workflowId = orig.row.workflowId := by
  obtain ⟨hmem, -⟩ := mem_of_find? orig.indexed
  obtain ⟨⟨id, op⟩, hvalid⟩ := hs.operations _ hmem
  have hvalid' := hvalid
  simp only [validateCommitIndex, orig.parsed, orInvalid, ok_bind, bind_eq_ok, exists_unit,
    ensure_eq_ok, decide_eq_true_eq, pure_inj, Prod.mk.injEq] at hvalid
  obtain ⟨-, -, hwf, -, rfl, rfl⟩ := hvalid
  refine ⟨?_, hwf⟩
  have hlook := lookup_indexedOperations_of_mem hmem hvalid'
  rw [orig.commitId_eq] at hlook
  exact hlook

theorem ConflictWrites.integrity_iff (h : ConflictWrites s row old s') (hs : Integrity cfg s)
    (hrow : row.observationSequence
      = (s.commitConflicts.rows.filter (·.commitId = row.commitId)).length + 1)
    : Integrity cfg s' ↔ validateConflict s' (indexedOperations s) row = .ok () := by
  have hops : indexedOperations s' = indexedOperations s := by
    rw [h.unchanged]
    rfl
  constructor
  . intro hs'
    rw [← hops]
    exact hs'.conflicts.rows row (mem_of_insert? h.commitConflicts)
  . intro hvalid
    have hseqs := observations_insert hs.conflicts.sequences h.commitConflicts hrow
    have haudits := hs.auditEvents (prefix_of_insert? h.auditEvents)
    have hgrows : Grows { s with auditEvents := s'.auditEvents } s' := by
      rw [h.unchanged]
      exact { Grows.refl _ with commitConflicts := prefix_of_insert? h.commitConflicts }
    have hconfs : ConflictsOk s' (indexedOperations s') := by
      refine .extend haudits hgrows (mem_or_of_insert? h.commitConflicts ?_) hseqs
      exact hops ▸ hvalid
    obtain ⟨facts, htrust, houtbox⟩ := haudits.trust
    have htrust' := validateTrustRows_grows hgrows htrust
    rw [h.unchanged] at hconfs htrust' ⊢
    exact
      { haudits with
        dispositions := { haudits.dispositions with }
        logicalNodes := { haudits.logicalNodes with }
        indexes := { haudits.indexes with }
        decisions := { haudits.decisions with }
        outputRefs := { haudits.outputRefs with }
        supersessions := { haudits.supersessions with }
        generations := { haudits.generations with }
        trust := ⟨facts, htrust', { houtbox with }⟩
        conflicts := hconfs }

omit [Platform] in
theorem audit?_of_insert? (h : s.auditEvents.insert? row = some s'.auditEvents)
    : audit? s' row.auditEventId = some row.eventJson := by
  rw [audit?, find?_key AuditRow.auditEventId (mem_of_insert? h)]
  rfl

section Row

variable {commitId : String} {orig : Original s commitId} {claim : Claim}
  (h : ConflictWrites s (orig.claimRow claim) claim.supersedeOld s')
  (hs : Integrity cfg s)

include h hs

theorem validateConflict_conflictRow
    (hjson : claim.json = json (.obj fields)) (hflds : (Json.obj fields).Canonical)
    : validateConflict s' (indexedOperations s) (orig.claimRow claim) = .ok () ↔
      ∃ exp, expectedConflict
          (some ⟨orig.row.requestDigest, orig.row.workflowId, orig.request,
            orig.old⟩) fields = .ok exp ∧
        claim.requestDigest = exp.requestDigest ∧
        claim.publicRequestDigest = exp.publicRequestDigest ∧
        claim.attempt orig.request.subject
          = (exp.workflowId, exp.nodeId, exp.attemptId) ∧
        (auditRow (auditId "conflict" [commitId, claim.requestDigest])
            FailureCode.commitIdEquivocation.value commitId
            (oldCertificateDetail claim.supersedeOld)).eventJson
          = conflictEvent commitId exp.old := by
  obtain ⟨hop, hwf⟩ := orig.operation hs
  have hid := orig.commitId_eq
  have haudit := audit?_of_insert? h.auditEvents
  have hpub : public? s' commitId = some orig.publicDigest := by
    rw [public?, h.unchanged]
    exact orig.published
  simp only [conflictRow, hid] at haudit ⊢
  change audit? s' (auditId "conflict" [commitId, claim.requestDigest]) = some _ at haudit
  simp only [validateConflict, hop, hjson, loads_json hflds, ok_bind, bind_eq_ok,
    exists_unit, ensure_eq_ok, decide_eq_true_eq, orInvalid_eq_ok, hpub, haudit, hwf,
    Nat.zero_lt_succ, true_and, and_true, Option.some.injEq]
  refine exists_congr fun exp => and_congr_right fun _ => ?_
  simp only [Prod.ext_iff, and_assoc]
  constructor
  . rintro ⟨h₁, h₂, h₃, h₄, h₅, h₆, h₇⟩
    exact ⟨h₁, h₂, h₃, h₄, h₅, h₇⟩
  . rintro ⟨h₁, h₂, h₃, h₄, h₅, h₇⟩
    exact ⟨h₁, h₂, h₃, h₄, h₅, by rw [h₁], h₇⟩

theorem validateConflict_atomic (hclaim : atomicClaim req old = .ok claim)
    : validateConflict s' (indexedOperations s) (orig.claimRow claim) = .ok () ↔
      req.evidence.ExactKeys ∧ old ≠ some "" ∧
        claim.attempt orig.request.subject
          = (req.subject.workflowId, req.subject.nodeId, req.subject.attemptId) := by
  simp only [atomicClaim, bind_eq_ok, pure_inj] at hclaim
  obtain ⟨_, hdig, rfl⟩ := hclaim
  rw [validateConflict_conflictRow h hs rfl (canonical_atomicClaim req old)]
  simp only [expectedConflict_atomic hdig]
  constructor
  . rintro ⟨_, ⟨hkeys, rfl⟩, -, -, hatt, hevent⟩
    exact ⟨hkeys, conflictEvent_eq_iff.mp hevent, hatt⟩
  . rintro ⟨hkeys, hold, hatt⟩
    exact ⟨_, ⟨hkeys, rfl⟩, rfl, rfl, hatt, conflictEvent_eq_iff.mpr hold⟩

theorem validateConflict_recovery (hclaim : claim = recoveryClaim commitId rdig)
    : validateConflict s' (indexedOperations s) (orig.claimRow claim) = .ok () := by
  subst hclaim
  rw [validateConflict_conflictRow h hs rfl (canonical_recoveryClaim commitId rdig)]
  refine ⟨_, expectedConflict_recovery commitId rdig, rfl, rfl, rfl, ?_⟩
  exact conflictEvent_eq_iff.mpr (by simp [recoveryClaim])

end Row

end Conflicts

section Fresh

variable {commitId : String}

theorem Integrity.evidence?_eq_none (hs : Integrity cfg s)
    (hidx : s.commitIndex? commitId = none) : evidence? s commitId = none := by
  rw [evidence?, Table.find?_eq_none]
  intro r hr
  rw [decide_eq_false_iff_not]
  intro hid
  obtain ⟨_, hdec, hid⟩ :=
    mem_map.mp ((hs.decisions.evidence commitId).mp (mem_map.mpr ⟨r, hr, hid⟩))
  exact hs.indexes.decision_ne hidx _ (mem_filter.mp hdec).1 hid

theorem Integrity.owner_ne (hs : Integrity cfg s) (hidx : s.commitIndex? commitId = none)
    (howner : owner ∈ s.nonceLedger)
    : owner.commitId ≠ commitId := by
  intro hid
  obtain ⟨_, hop⟩ := Assoc.lookup_isSome.mp (hs.decisions.owners owner howner)
  simp only [indexedOperations, mem_filterMap, Except.toOption_eq_some] at hop
  obtain ⟨row, hrow, hvalid⟩ := hop
  simp only [validateCommitIndex, bind_eq_ok, pure_inj, Prod.mk.injEq] at hvalid
  obtain ⟨_, -, _, -, _, -, _, -, _, -, hrowid, -⟩ := hvalid
  exact Store.commitIndex?_eq_none.mp hidx row hrow (hrowid.trans hid)

theorem lookup_recordedOperation
    (hindex : s.commitIndex.insert? (indexRow req old) = some s'.commitIndex)
    (hkeys : req.evidence.ExactKeys)
    : (indexedOperations s').lookup req.commitId = some (recordedOperation req old) := by
  have hmem : indexRow req old ∈ s'.commitIndex := mem_of_insert? hindex
  exact lookup_indexedOperations_of_mem hmem (validateCommitIndex_of_exactKeys hkeys)

omit [Platform] in
theorem public?_of_insert? (h : s.requestIndex.insert? row = some s'.requestIndex)
    : public? s' row.commitId = some row.requestDigest := by
  rw [public?, find?_key RequestIndexRow.commitId (mem_of_insert? h)]
  rfl

omit [Platform] in
theorem nonceOwner?_of_insert? (h : s.nonceLedger.insert? row = some s'.nonceLedger)
    : s'.nonceOwner? row.nonce = some row :=
  find?_key NonceRow.nonce (mem_of_insert? h)

theorem validateDenialReason_denied (h : Denied auth s req old now reason)
    : validateDenialReason auth.config (denialRow req reason old nonceOwner)
        (recordedOperation req old) = .ok () := by
  unfold validateDenialReason
  split
  . rfl
  . next hnonce =>
    cases h with
    | nonce => exact absurd rfl hnonce
    | @check seq clock _ hseq hclock hcheck =>
      have hevid : verifyEvidence
            (placeholderCertificate auth.config (recordedOperation req old).request)
            auth.config.scopedTrust
          = verifyEvidence (certificateOf auth req (toString seq) clock)
            auth.config.scopedTrust := verifyEvidence_congr _ rfl rfl
      rw [hevid]
      unfold commitError certificateError at hcheck
      cases hres : verifyEvidence (certificateOf auth req (toString seq) clock)
          auth.config.scopedTrust with
      | ok _ => rfl
      | error stop =>
        rw [hres] at hcheck
        obtain rfl : stop = .code reason := Except.error.inj hcheck
        simp [Check.failure, denialRow]

@[simp]
theorem outcome_denialRow (req : AtomicCommitRequest) (reason : FailureCode)
    (old : Option String) (nonceOwner : String)
    : (denialRow req reason old nonceOwner).outcome ≠ .committed := by
  unfold denialRow
  split <;> simp

section Denial

variable {req : AtomicCommitRequest} {old : Option String} {now : Int} {reason : FailureCode}
  {nonceOwner : String} (h : DenialWrites s req reason old nonceOwner s')
  (hidx : s.commitIndex? req.commitId = none)

include h hidx

theorem DenialWrites.owner (hs : Integrity cfg s)
    : (s'.nonceOwner? req.nonce).any (·.commitId = nonceOwner) ∧
      (reason = .nonceReplay ↔ nonceOwner ≠ req.commitId) := by
  rcases h.nonce with ⟨owner, howner, hreason, hid, hled⟩ | ⟨hnone, hreason, hid, hins⟩
  . constructor
    . rw [Store.nonceOwner?, hled]
      rw [Store.nonceOwner?] at howner
      simp [howner, hid]
    . rw [← hid]
      exact iff_of_true hreason (hs.owner_ne hidx (mem_of_find? howner).1)
  . constructor
    . simp [nonceOwner?_of_insert? hins, hid]
    . exact iff_of_false hreason (by simp [hid])

theorem validateDecision_denialRow (hs : Integrity auth.config s)
    (hdenied : Denied auth s req old now reason) (hkeys : req.evidence.ExactKeys)
    : validateDecision auth.config s' (decodedCertificates auth.config s')
          (indexedOperations s') (denialRow req reason old nonceOwner) = .ok () ↔
      old ≠ some "" := by
  have hlook := lookup_recordedOperation h.commitIndex hkeys
  obtain ⟨howner, hreplay⟩ := h.owner hidx hs
  obtain ⟨_, hdig, hreq⟩ := h.requestIndex
  have hpub := public?_of_insert? hreq
  have hevid : evidence? s' req.commitId = none := by
    rw [h.unchanged]
    exact hs.evidence?_eq_none hidx
  have hout := outcome_denialRow req reason old nonceOwner
  have hconflicted : ((denialRow req reason old nonceOwner).outcome = .conflicted)
      = ((denialRow req reason old nonceOwner).reason
        = FailureCode.nodeVersionConflict.value) := by
    simp only [denialRow, FailureCode.value_eq_nodeVersionConflict]
    split <;> simp [*]
  have hnonce : ((denialRow req reason old nonceOwner).reason = FailureCode.nonceReplay.value)
      = (nonceOwner ≠ req.commitId) := by
    simp only [denialRow, FailureCode.value_eq_nonceReplay, hreplay]
  have haudit : validateDecisionAudit s' (denialRow req reason old nonceOwner)
      (recordedOperation req old) = .ok () ↔ old ≠ some "" := by
    refine validateDecisionAudit_eq_ok (audit?_of_insert? h.auditEvents) ?_ ?_
    . rw [if_neg hout]
      rfl
    . rw [if_neg hout]
      rfl
  have hdenial : validateDenial auth.config s' (denialRow req reason old nonceOwner)
      (recordedOperation req old) = .ok () := by
    simp only [validateDenial, validateDenialReason_denied hdenied, ok_bind, bind_eq_ok,
      exists_unit, ensure_eq_ok, hnonce]
    simp [denialRow, hevid]
  have hid : (denialRow req reason old nonceOwner).commitId = req.commitId := rfl
  simp only [validateDecision, hid, hlook, hconflicted, hnonce, bind_eq_ok, exists_unit,
    ensure_eq_ok, haudit, if_neg hout, hdenial, and_true, decide_true, true_and]
  simp [denialRow, recordedOperation, hdig, hpub]
  exact fun _ => howner

omit hidx in
theorem DenialWrites.committedIds_eq : committedIds s' = committedIds s := by
  rw [committedIds, rows_of_insert? h.decisions, filter_append,
    filter_cons_of_neg (by simp), filter_nil,
    append_nil, committedIds]

theorem DenialWrites.integrity_iff (hs : Integrity auth.config s)
    (hdenied : Denied auth s req old now reason)
    : Integrity auth.config s' ↔ req.evidence.ExactKeys ∧ old ≠ some "" := by
  constructor
  . intro hs'
    have hindex : indexRow req old ∈ s'.commitIndex :=
      mem_of_insert? h.commitIndex
    obtain ⟨_, hvalid⟩ := hs'.operations _ hindex
    have hkeys := (validateCommitIndex_indexRow.mp hvalid).1
    refine ⟨hkeys, ?_⟩
    rw [← validateDecision_denialRow h hidx hs hdenied hkeys]
    exact hs'.decisions.rows _ (mem_of_insert? h.decisions)
  . rintro ⟨hkeys, hold⟩
    have hgrows := h.grows
    have hlook := lookup_recordedOperation h.commitIndex hkeys
    have hrow := (validateDecision_denialRow h hidx hs hdenied hkeys).mpr hold
    have hcomm := h.committedIds_eq
    have hcerts : decodedCertificates auth.config s'
        = decodedCertificates auth.config s :=
      decodedCertificates_congr (by rw [h.unchanged])
    obtain ⟨_, -, hreq⟩ := h.requestIndex
    have hindexes : IndexesOk s' :=
      hs.indexes.insert h.commitIndex hreq h.decisions rfl rfl
    have hops := Table.forall_mem_of_insert? h.commitIndex hs.operations
      ⟨_, validateCommitIndex_of_exactKeys hkeys⟩
    have howners : ∀ r ∈ s'.nonceLedger, r ∈ s.nonceLedger ∨
        ((indexedOperations s').lookup r.commitId).isSome := by
      rcases h.nonce with ⟨_, -, -, -, hled⟩ | ⟨-, -, -, hins⟩
      . exact fun r hr => .inl (hled ▸ hr)
      . exact mem_or_of_insert? hins (Option.isSome_of_eq_some hlook)
    have hdecisionsOk : DecisionsOk auth.config s'
        (decodedCertificates auth.config s') (indexedOperations s') := by
      refine .extend hs hgrows (mem_or_of_insert? h.decisions hrow) ?_ howners ?_ ?_
      . intro r _ hnone
        rw [h.unchanged]
        exact hnone
      . rw [hcomm, h.unchanged]
        exact hs.decisions.evidence
      . rw [hcomm, hcerts]
        exact hs.decisions.certificates
    have houtputRefs : OutputRefsOk s' (indexedOperations s') := by
      refine .extend hs hgrows ?_ ?_ ?_
      . rw [hcomm, h.unchanged]
        exact hs.outputRefs.ids
      . rw [h.unchanged]
        exact fun _ _ _ => id
      . rw [h.unchanged]
        exact fun _ => .inl
    have hsups : SupersessionsOk s' (decodedCertificates auth.config s')
        (indexedOperations s') := by
      refine .extend hs hgrows ?_ ?_ ?_ ?_ (mem_or_of_insert? h.decisions ?_)
      . rw [h.unchanged]
        exact fun _ => .inl
      . rw [h.unchanged]
        exact hs.supersessions.distinct
      . rw [h.unchanged]
        exact hs.supersessions.superseded
      . rw [h.unchanged]
        exact fun _ _ _ _ => rfl
      . exact fun hcomm => absurd hcomm (by simp)
    obtain ⟨facts, htrust, houtbox⟩ := hs.trust
    rw [h.unchanged] at hgrows hcomm hindexes hops
    rw [h.unchanged] at hdecisionsOk houtputRefs hsups ⊢
    exact
      { hs with
        dispositions := { hs.dispositions with }
        logicalNodes := { hs.logicalNodes with }
        operations := hops
        indexes := hindexes
        decisions := hdecisionsOk
        outputRefs := houtputRefs
        supersessions := hsups
        controls := fun r hr => validateControl_grows hgrows hs.dispositions (hs.controls r hr)
        generations := { hs.generations with }
        trust := ⟨facts, validateTrustRows_grows hgrows htrust,
          { rows := fun r hr => by
              have hcheck := s.outbox.checked r hr
              simp only [TableSchema.check, Bool.and_eq_true] at hcheck
              exact validateOutboxRow_grows hgrows prefix_rfl hcheck.2 (houtbox.rows r hr)
            commits := fun id => by
              rw [hcomm]
              exact houtbox.commits id
            controls := houtbox.controls
            count := by
              rw [hcomm]
              exact houtbox.count }⟩
        conflicts := .extend hs hgrows (fun _ => .inl) hs.conflicts.sequences }

end Denial

end Fresh

end Apcc
