import ConstitutionalSwarm.Apcc.Store.History
import ConstitutionalSwarm.Apcc.Store.Preservation
import ConstitutionalSwarm.Apcc.Store.Trust

namespace Apcc

open List Table

variable [Platform] {cfg : AuthorityConfig} {auth : Authority} {s s' : Store}

omit [Platform] in
theorem logicalNode_eq (ha : a ∈ s.logicalNodes) (hb : b ∈ s.logicalNodes)
    (hkey : (a.workflowId, a.nodeId) = (b.workflowId, b.nodeId)) : a = b := by
  refine eq_of_key (fun r => (r.workflowId, r.nodeId)) ha hb hkey ?_
  intro x y hxy hkey
  simp only [Prod.mk.injEq] at hkey
  simp [TableSchema.compatible, hkey] at hxy

omit [Platform] in
theorem logicalNode?_isSome
    : (s.logicalNode? wf nodeId).isSome ↔
      ∃ r ∈ s.logicalNodes, (r.workflowId, r.nodeId) = (wf, nodeId) := by
  simp [Store.logicalNode?, Table.find?, Table.mem_def]

section Publishes

variable {node : LogicalNodeRow} {row : CertificateRow} {certificate : CommitCertificate}
  {old : Option String} (h : Publishes auth s node row certificate old s')

include h

theorem Publishes.version_ne_zero : certificate.bindings.committedNodeVersion ≠ "0" := by
  intro hzero
  obtain ⟨_, hexp, hcomm⟩ := certificate.bindings.valid
  obtain ⟨_, hm⟩ := PyInt.eq_toString_of_isCanonical (s.logicalNodes.checked _ h.node_mem)
  rw [← h.version, hm] at hexp
  rw [hzero, show "0" = toString 0 from rfl] at hcomm
  have hexp := PyInt.eq_of_int?_toString hexp
  have hcomm := PyInt.eq_of_int?_toString hcomm
  omega

theorem Publishes.lookup_new
    : (Apcc.decodedCertificates auth.config s').lookup row.certificateDigest
        = some certificate := by
  rw [lookup_decodedCertificates, h.decodedCertificates]
  simp

theorem Publishes.pointer_ne (hs : LogicalNodesOk s (Apcc.decodedCertificates cfg s))
    (hr : r ∈ s.logicalNodes) (hkey : (r.workflowId, r.nodeId) ≠ certificate.node)
    (hdig : r.certificateDigest = some digest) : some digest ≠ old := by
  intro hold
  obtain ⟨_, hlook, hc, -⟩ := (validateLogicalNode_eq_ok.mp (hs.rows r hr)).2 digest hdig
  obtain ⟨_, hlook', hc', -⟩ := (validateLogicalNode_eq_ok.mp (hs.rows node h.node_mem)).2 digest
    (h.pointer.trans hold.symm)
  rw [hlook, Option.some.injEq] at hlook'
  rw [← h.node_key, ← hc, ← hc', hlook'] at hkey
  exact hkey rfl

theorem Publishes.logicalNodes_ok
    (hs : LogicalNodesOk s (Apcc.decodedCertificates auth.config s))
    : LogicalNodesOk s' (Apcc.decodedCertificates auth.config s') where
  rows := by
    intro r hr
    rw [validateLogicalNode_eq_ok]
    rcases h.mem_logicalNodes hr with ⟨hr, hkey⟩ | ⟨hkey, hvers, hdig⟩
    . obtain ⟨hzero, hpointer⟩ := validateLogicalNode_eq_ok.mp (hs.rows r hr)
      refine ⟨hzero, fun digest hdig => ?_⟩
      obtain ⟨c, hlook, hc, hvers, hlatest⟩ := hpointer digest hdig
      refine ⟨c, ?_, hc, hvers, ?_⟩
      . rw [h.decodedCertificates, lookup_append, hlook]
        rfl
      . rw [h.latestDisposition, if_neg (h.pointer_ne hs hr hkey hdig)]
        split
        . simp
        . exact hlatest
    . refine ⟨iff_of_false (hvers ▸ h.version_ne_zero) (by simp [hdig]), fun d hd => ?_⟩
      rw [hdig, Option.mem_some_iff] at hd
      subst hd
      refine ⟨certificate, ?_, hkey.symm, hvers.symm, by simp [h.latestDisposition]⟩
      rw [lookup_decodedCertificates, h.decodedCertificates]
      simp
  pointed := by
    intro c hc hcurr
    rw [h.decodedCertificates, mem_append, mem_singleton] at hc
    rw [h.latestDisposition] at hcurr
    rcases hc with hc | rfl
    . have hold : some c.1 ≠ old := by
        intro hold
        simp [h.fresh hc, hold] at hcurr
      rw [if_neg (h.fresh hc), if_neg hold] at hcurr
      obtain ⟨r, hr, hdig⟩ := hs.pointed c hc hcurr
      refine ⟨r, (mem_update? h.logicalNodes).mpr (.inl ⟨hr, ?_⟩), hdig⟩
      by_contra hp
      simp only [Bool.not_eq_false, Bool.and_eq_true, decide_eq_true_eq] at hp
      have hnode : r = node :=
        logicalNode_eq hr h.node_mem (h.node_key ▸ Prod.ext hp.1 hp.2)
      exact hold (by rw [← hdig, hnode, h.pointer])
    . refine ⟨_, (mem_update? h.logicalNodes).mpr (.inr ⟨node, h.node_mem, ?_, rfl⟩), rfl⟩
      simp [h.workflowId, h.nodeId]

theorem Publishes.logicalNode?_congr (wf nodeId : String)
    : (s'.logicalNode? wf nodeId).isSome = (s.logicalNode? wf nodeId).isSome := by
  rw [Bool.eq_iff_iff, logicalNode?_isSome, logicalNode?_isSome]
  constructor
  . rintro ⟨r, hr, hkey⟩
    rcases h.mem_logicalNodes hr with ⟨hr, -⟩ | ⟨hr, -⟩
    . exact ⟨r, hr, hkey⟩
    . exact ⟨node, h.node_mem, by rw [h.node_key, ← hr, hkey]⟩
  . rintro ⟨r, hr, hkey⟩
    rw [← hkey]
    exact h.exists_logicalNode hr

end Publishes

theorem Integrity.exists_certificate (hs : Integrity cfg s)
    (hr : r ∈ s.decisions) (hdig : digest ∈ r.certificateDigest)
    : ∃ c, (digest, c) ∈ decodedCertificates cfg s := by
  have hcomm : r.outcome = .committed := by
    have hcheck := s.decisions.checked r hr
    simp only [TableSchema.check, decide_eq_true_eq] at hcheck
    rw [hcheck, hdig]
    rfl
  have hrow := hs.decisions.rows r hr
  unfold validateDecision at hrow
  split at hrow
  . simp at hrow
  . simp only [bind_eq_ok, exists_unit, if_pos hcomm] at hrow
    obtain ⟨-, -, -, _, -, -, -, -, hrow⟩ := hrow
    unfold validateCommitted at hrow
    rw [hdig, Option.bind_some] at hrow
    cases hlook : (decodedCertificates cfg s).lookup digest with
    | none => simp [hlook] at hrow
    | some c => exact ⟨c, lookup_decodedCertificates.mp hlook⟩

section Commit

variable {req : AtomicCommitRequest} {old : Option String} {now : Int} {seq : Nat}
  {certificate : CommitCertificate} {sealed : Sealed} {node : LogicalNodeRow}
  {preds : List PredecessorRef} (h : CommitWrites s req old seq sealed s')

include h

theorem CommitWrites.committedIds_eq
    : committedIds s' = committedIds s ++ [req.commitId] := by
  rw [committedIds, rows_of_insert? h.decisions, filter_append, map_append, committedIds]
  rfl

theorem CommitWrites.latestDisposition (d : String)
    : s'.latestDisposition d =
      if d = sealed.digest then some .current
      else if some d = old then some .superseded
      else s.latestDisposition d :=
  latestIn_recordDisposition h.dispositions d

theorem CommitWrites.evidence?_eq (hs : Integrity cfg s)
    (hidx : s.commitIndex? req.commitId = none)
    : evidence? s' req.commitId
        = some ⟨req.commitId, req.evidence.producerStatementDigest,
            req.evidence.policyStatementDigest, req.evidence.authorityStatementDigest⟩ := by
  have hnone := hs.evidence?_eq_none hidx
  rw [evidence?] at hnone ⊢
  rw [find?_insert? h.evidenceRefs, hnone]
  simp

theorem validateOutputRef_commit (hkeys : req.evidence.ExactKeys)
    (houtput : stagedOutput s req.subject = .ok output)
    : validateOutputRef s' (indexedOperations s')
        ⟨req.commitId, req.subject.workflowId, req.subject.nodeId,
          req.subject.attemptId, req.subject.outputDigest, output.length⟩ = .ok () := by
  have hcands : s'.candidates = s.candidates := by rw [h.unchanged]
  unfold stagedOutput Store.candidate? at houtput
  split at houtput
  . simp at houtput
  . next staged hstaged =>
    simp only [bind_eq_ok, exists_unit, ensure_eq_ok, decide_eq_true_eq, pure_inj] at houtput
    obtain ⟨hdig, rfl⟩ := houtput
    rw [← hcands] at hstaged
    rw [validateOutputRef, lookup_recordedOperation h.commitIndex hkeys]
    simp only [recordedOperation, AtomicCommitRequest.persisted_subject, Store.candidate?, hstaged,
      bind_eq_ok, exists_unit, ensure_eq_ok, decide_eq_true_eq]
    exact ⟨trivial, decide_eq_true hdig⟩

theorem CommitWrites.decision?_eq
    : s'.decisions.find? (·.commitId = req.commitId)
        = some (committedRow req old sealed) :=
  find?_key DecisionRow.commitId (mem_of_insert? h.decisions)

theorem CommitWrites.decisionEvent_eq (hold : old ≠ some "")
    : decisionEvent s' req.commitId
        = .ok (.obj (eventFields "committed" req.commitId old)) := by
  have haudit : audit? s' (committedRow req old sealed).auditEventId
      = some (json (.obj (eventFields "committed" req.commitId old))) := by
    rw [← eventJson_auditRow, ← filter_ne_empty.mpr hold, ← oldCertificateDetail_eq,
      filter_ne_empty.mpr hold]
    exact audit?_of_insert? h.auditEvents
  unfold decisionEvent
  rw [h.decision?_eq, Option.bind_some, haudit]
  simp only [loads_json (canonical_eventFields _ _ _), orInvalid]

variable (hacc : Accepted auth s req old now seq certificate sealed)
  (hpub : Publishes auth s node (certificateRow req seq sealed)
    (certificate.withPredecessors preds) old s')
  (hs : Integrity auth.config s)

include hacc hpub hs

theorem validateCommitted_committedRow (hidx : s.commitIndex? req.commitId = none)
    : validateCommitted s' (decodedCertificates auth.config s')
          (committedRow req old sealed) (recordedOperation req old) = .ok () ↔
      preds = req.bindings.predecessors := by
  have hlook : ((committedRow req old sealed).certificateDigest.bind fun digest =>
      (decodedCertificates auth.config s').lookup digest)
        = some (certificate.withPredecessors preds) := hpub.lookup_new
  have hevid := h.evidence?_eq hs hidx
  obtain ⟨_, -, rfl⟩ := hacc.certificate_eq
  simp only [validateCommitted, hlook, bind_eq_ok, exists_unit, ensure_eq_ok, decide_eq_true_eq]
  constructor
  . rintro ⟨-, -, -, -, hbind, -⟩
    exact congrArg CertificateBindings.predecessors hbind
  . rintro rfl
    exact ⟨rfl, rfl, rfl, rfl, rfl, rfl, rfl, rfl, rfl, hevid⟩

theorem validateDecision_committedRow (hidx : s.commitIndex? req.commitId = none)
    (hkeys : req.evidence.ExactKeys)
    : validateDecision auth.config s' (decodedCertificates auth.config s')
          (indexedOperations s') (committedRow req old sealed) = .ok () ↔
      old ≠ some "" ∧ preds = req.bindings.predecessors := by
  have hlook : (indexedOperations s').lookup (committedRow req old sealed).commitId
      = some (recordedOperation req old) := lookup_recordedOperation h.commitIndex hkeys
  obtain ⟨digest, hdig, hreq⟩ := h.requestIndex
  have hpublic : public? s' (committedRow req old sealed).commitId = some digest :=
    public?_of_insert? hreq
  have howner : (s'.nonceOwner? (committedRow req old sealed).nonce).any
      (·.commitId = (committedRow req old sealed).nonceOwnerCommitId) := by
    simp [committedRow, nonceOwner?_of_insert? h.nonceLedger]
  have haudit : validateDecisionAudit s' (committedRow req old sealed)
      (recordedOperation req old) = .ok () ↔ old ≠ some "" :=
    validateDecisionAudit_eq_ok (audit?_of_insert? h.auditEvents) rfl rfl
  have hcomm := validateCommitted_committedRow h hacc hpub hs hidx
  simp only [validateDecision, hlook, bind_eq_ok, exists_unit, ensure_eq_ok, haudit, hpublic,
    howner, if_pos (show (committedRow req old sealed).outcome = .committed from rfl),
    hcomm, decide_eq_true_eq]
  constructor
  . rintro ⟨-, hold, -, -, -, -, -, -, hpreds⟩
    exact ⟨hold, hpreds⟩
  . rintro ⟨hold, hpreds⟩
    refine ⟨?_, hold, rfl, digest, hdig, rfl, trivial, ?_, hpreds⟩
    . simp [committedRow, FailureCode.value]
    . simp [committedRow, FailureCode.value]

theorem validateSupersessionEdge_commit (hkeys : req.evidence.ExactKeys) (hold : old ≠ some "")
    (hd : d ∈ old)
    : validateSupersessionEdge s' (decodedCertificates auth.config s') s'.latestDisposition
        (indexedOperations s')
        ⟨auditId "replace" [d, sealed.digest], d, sealed.digest, req.nonce⟩ = .ok () := by
  obtain ⟨c, hc, hnode, hvers, -⟩ :=
    (validateLogicalNode_eq_ok.mp (hs.logicalNodes.rows node hpub.node_mem)).2 d
      (hpub.pointer.trans hd)
  have hne : d ≠ sealed.digest := hpub.fresh (lookup_decodedCertificates.mp hc)
  have hlook : (decodedCertificates auth.config s').lookup d = some c := by
    rw [hpub.decodedCertificates, lookup_append, hc]
    rfl
  have hlook' : (decodedCertificates auth.config s').lookup sealed.digest
      = some (certificate.withPredecessors preds) := hpub.lookup_new
  have hop := lookup_recordedOperation h.commitIndex hkeys
  have hevent := h.decisionEvent_eq hold
  have hkey := hnode.trans hpub.node_key
  obtain ⟨n, hexp, hcomm⟩ := (certificate.withPredecessors preds).bindings.valid
  rw [← hpub.version, ← hvers] at hexp
  obtain ⟨clock, -, rfl⟩ := hacc.certificate_eq
  rw [CommitCertificate.node, Prod.mk.injEq] at hkey
  have hid : ((certificateOf auth req (toString seq) clock).withPredecessors
      preds).decision.commitId = req.commitId := rfl
  simp only [validateSupersessionEdge, hlook, hlook', hid, hop, hevent, ok_bind,
    bind_eq_ok, exists_unit, ensure_eq_ok, decide_eq_true_eq, int_eq_ok]
  refine ⟨trivial, rfl, hkey.1, hkey.2, ?_, ?_, n + 1, hcomm, n, hexp, rfl, hd, ?_⟩
  . rw [h.latestDisposition, if_neg hne, if_pos hd.symm]
  . rw [h.latestDisposition, if_pos rfl]
    rfl
  . obtain rfl := Option.mem_def.mp hd
    simp [eventFields, List.lookup_cons]

theorem supersessionsOk_commit (hkeys : req.evidence.ExactKeys) (hold : old ≠ some "")
    : SupersessionsOk s' (decodedCertificates auth.config s') (indexedOperations s') := by
  have hedges := rows_of_recordDisposition h.dispositions
  have hfresh {digest : String}
      (hdig : ∃ c, (digest, c) ∈ decodedCertificates auth.config s)
      : digest ≠ sealed.digest := by
    obtain ⟨c, hc⟩ := hdig
    exact hpub.fresh hc
  have hknown (e : SupersessionEdgeRow) (he : e ∈ s.supersessionEdges)
      : e.newDigest ≠ sealed.digest := by
    have hrow := hs.supersessions.rows e he
    unfold validateSupersessionEdge at hrow
    split at hrow
    . next hnew => exact hfresh ⟨_, lookup_decodedCertificates.mp hnew⟩
    . simp at hrow
  have hincoming (digest : String) (hdig : digest ≠ sealed.digest)
      : incoming? s' digest = incoming? s digest := by
    rw [incoming?, Table.find?, hedges, find?_append, incoming?, Table.find?]
    cases old <;> simp [Ne.symm hdig]
  have hnone : s.supersessionEdges.rows.find? (·.newDigest = sealed.digest) = none := by
    rw [find?_eq_none]
    intro e he
    simp [hknown e he]
  refine .extend hs h.grows ?_ ?_ ?_ ?_ ?_
  . intro e he
    rcases hpub.mem_supersessionEdges.mp he with he | ⟨d, hd, rfl⟩
    . exact .inl he
    . have hedge := validateSupersessionEdge_commit h hacc hpub hs hkeys hold hd
      obtain ⟨_, -, rfl⟩ := hacc.certificate_eq
      exact .inr hedge
  . rw [hedges, pairwise_append]
    refine ⟨hs.supersessions.distinct, by cases old <;> simp, ?_⟩
    intro a ha b hb
    simp only [mem_map, Option.mem_toList] at hb
    obtain ⟨d, hd, rfl⟩ := hb
    refine ⟨fun hne => ?_, hknown a ha⟩
    have hsup := (superseded_of_validateSupersessionEdge (hs.supersessions.rows a ha)).2
    rw [hne, hpub.current d hd] at hsup
    simp at hsup
  . intro c hc hsup
    rw [h.latestDisposition] at hsup
    split at hsup
    . simp at hsup
    . next hne =>
      split at hsup
      . next hd =>
        exact ⟨_, hpub.mem_supersessionEdges.mpr (.inr ⟨c.1, hd.symm, rfl⟩), rfl⟩
      . rw [hpub.decodedCertificates, mem_append, mem_singleton] at hc
        rcases hc with hc | rfl
        . obtain ⟨e, he, hdig⟩ := hs.supersessions.superseded c hc hsup
          exact ⟨e, hpub.mem_supersessionEdges.mpr (.inl he), hdig⟩
        . exact absurd rfl hne
  . intro r hr digest hdig
    exact hincoming digest (hfresh (hs.exists_certificate hr hdig))
  . refine Table.mem_or_of_insert? h.decisions fun _ => ?_
    simp only [validateIncoming, committedRow, lookup_recordedOperation h.commitIndex hkeys,
      ensure_eq_ok, decide_eq_true_eq]
    rw [incoming?, Table.find?, hedges, find?_append, hnone]
    cases old <;> simp [recordedOperation]

omit hacc hs in
theorem validateOutboxPayload_commit
    (henc : encodeCertificate (certificate.withPredecessors preds) = .ok sealed.payload)
    (hevent : row.auditEventId = commitAudit req old)
    : validateOutboxPayload s' (decodedCertificates auth.config s')
        (nextFact s "commit" sealed.digest (commitAudit req old))
        (outboxRow .commit req.commitId sealed.digest sealed.payload row) = .ok () := by
  have hlook : (decodedCertificates auth.config s').lookup sealed.digest
      = some (certificate.withPredecessors preds) := hpub.lookup_new
  unfold validateOutboxPayload
  change validateOutboxCommit _ _ _ _ = _
  generalize houtbox : outboxRow .commit req.commitId sealed.digest sealed.payload row = event
  have hfind : s'.decisions.find? (·.commitId = event.operationId)
      = some (committedRow req old sealed) := by
    rw [← houtbox]
    exact h.decision?_eq
  have hdig : (committedRow req old sealed).certificateDigest.getD "None"
      = sealed.digest := rfl
  simp only [validateOutboxCommit, hfind, hdig, hlook, henc, ok_bind, bind_eq_ok,
    exists_unit, ensure_eq_ok, decide_eq_true_eq]
  rw [← houtbox]
  simp [outboxRow, committedRow, nextFact, OutboxKind.value, hevent]

omit hacc in
theorem decisionsOk_commit (hidx : s.commitIndex? req.commitId = none)
    (hkeys : req.evidence.ExactKeys) (hid : certificate.decision.commitId = req.commitId)
    (hrow : validateDecision auth.config s' (decodedCertificates auth.config s')
      (indexedOperations s') (committedRow req old sealed) = .ok ())
    : DecisionsOk auth.config s' (decodedCertificates auth.config s')
        (indexedOperations s') := by
  refine .extend hs h.grows (mem_or_of_insert? h.decisions hrow) ?_ (mem_or_of_insert? h.nonceLedger
      (Option.isSome_of_eq_some (lookup_recordedOperation h.commitIndex hkeys))) ?_ ?_
  . intro r hr hnone
    have hne := hs.indexes.decision_ne hidx r hr
    rw [evidence?] at hnone ⊢
    rw [find?_insert? h.evidenceRefs, hnone]
    simp [Ne.symm hne]
  . intro id
    rw [h.committedIds_eq, rows_of_insert? h.evidenceRefs, map_append, mem_append,
      mem_append, hs.decisions.evidence id]
    rfl
  . intro id
    rw [h.committedIds_eq, hpub.decodedCertificates, map_append, mem_append,
      mem_append, hs.decisions.certificates id]
    simp [CommitCertificate.withPredecessors, hid]

theorem CommitWrites.integrity_iff (hidx : s.commitIndex? req.commitId = none)
    (hseals : Seals auth certificate sealed preds)
    : Integrity auth.config s' ↔
      req.evidence.ExactKeys ∧ old ≠ some "" ∧
        preds = req.bindings.predecessors := by
  constructor
  . intro hs'
    have hindex : indexRow req old ∈ s'.commitIndex :=
      mem_of_insert? h.commitIndex
    obtain ⟨_, hvalid⟩ := hs'.operations _ hindex
    have hkeys := (validateCommitIndex_indexRow.mp hvalid).1
    refine ⟨hkeys, ?_⟩
    rw [← validateDecision_committedRow h hacc hpub hs hidx hkeys]
    exact hs'.decisions.rows _ (mem_of_insert? h.decisions)
  . rintro ⟨hkeys, hold, hpreds⟩
    have hgrows := h.grows
    have hled := hpub.ledger hs.ledger
    have hrow := (validateDecision_committedRow h hacc hpub hs hidx hkeys).mpr ⟨hold, hpreds⟩
    have hsups := supersessionsOk_commit h hacc hpub hs hkeys hold
    have hcert : certificate.withPredecessors preds = certificate := by
      obtain ⟨clock, -, rfl⟩ := hacc.certificate_eq
      rw [hpreds]
      rfl
    have hid : certificate.decision.commitId = req.commitId := by
      obtain ⟨clock, -, rfl⟩ := hacc.certificate_eq
      rfl
    have hdecs := decisionsOk_commit h hpub hs hidx hkeys hid hrow
    obtain ⟨_, -, hreq⟩ := h.requestIndex
    obtain ⟨_, houtput, hrefs⟩ := h.commitOutputRefs
    obtain ⟨_, htrust, houtbox⟩ := hs.trust
    have hcands : s'.candidates = s.candidates := by rw [h.unchanged]
    have hctrls : s'.controlEvents = s.controlEvents := by rw [h.unchanged]
    have hconfs : s'.commitConflicts = s.commitConflicts := by rw [h.unchanged]
    have hentry : TrustWrites s s' "commit" sealed.digest (commitAudit req old) .commit
        req.commitId sealed.digest sealed.payload := ⟨h.trustLog, h.outbox⟩
    refine
      { certificates := hled.certificates
        dispositions := hled.dispositions
        edges := hled.edges
        logicalNodes := hpub.logicalNodes_ok hs.logicalNodes
        candidates := ?_
        operations := Table.forall_mem_of_insert? h.commitIndex hs.operations
          ⟨_, validateCommitIndex_of_exactKeys hkeys⟩
        indexes := hs.indexes.insert h.commitIndex hreq h.decisions rfl rfl
        decisions := hdecs
        outputRefs := .extend hs hgrows ?_ ?_
          (mem_or_of_insert? hrefs (validateOutputRef_commit h hkeys houtput))
        supersessions := hsups
        controls := ?_
        generations := ?_
        trust := ⟨_, hentry.log_valid hgrows htrust
          (Option.isSome_of_eq_some (audit?_of_insert? h.auditEvents)) (.inl rfl),
          .insert hentry hgrows htrust houtbox ?_ ?_ ?_ ?_⟩
        conflicts := .extend hs hgrows ?_ ?_ }
    . intro r hr
      rw [hpub.logicalNode?_congr]
      exact hs.candidates r (hcands ▸ hr)
    . intro id
      rw [h.committedIds_eq, rows_of_insert? hrefs, map_append, mem_append,
        mem_append, hs.outputRefs.ids id]
      rfl
    . intro r _ res hres
      rw [Store.candidate?, hcands]
      exact hres
    . intro r hr
      exact validateControl_grows hgrows hs.dispositions (hs.controls r (hctrls ▸ hr))
    . rw [h.unchanged]
      exact { hs.generations with }
    . exact validateOutboxPayload_commit h hpub (hcert ▸ hseals.encoded) (by simp only [trustRow])
    . intro id
      rw [h.committedIds_eq]
      simp
    . intro id
      rw [hctrls]
      simp
    . rw [h.committedIds_eq, hctrls, length_append, length_singleton]
      omega
    . intro r hr
      exact .inl (hconfs ▸ hr)
    . intro r hr
      rw [observations, hconfs]
      exact hs.conflicts.sequences r (hconfs ▸ hr)

end Commit

end Apcc
