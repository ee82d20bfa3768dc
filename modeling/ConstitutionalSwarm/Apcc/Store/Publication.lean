import ConstitutionalSwarm.Apcc.Store.Growth
import ConstitutionalSwarm.Apcc.Store.Sealed

namespace Apcc

variable [Platform] {authority : Authority} {s s' : Store}

structure Preflight (authority : Authority) (s : Store) (request : AtomicCommitRequest)
    (supersedeOld : Option String) (certificate : CommitCertificate) (candidate : CandidateRow)
    (node : LogicalNodeRow) : Prop where
  candidate_eq : s.candidate? request.subject.workflowId request.subject.nodeId
    request.subject.attemptId = some candidate
  node_eq : s.logicalNode? request.subject.workflowId request.subject.nodeId = some node
  version : node.version = request.bindings.expectedNodeVersion
  lifecycle : candidate.lifecycle = .commitPending
  pointer : checkPointer s node supersedeOld = .ok ()
  generations : checkGenerations s request.subject request.context = .ok ()
  candidate_matches : candidateMatches candidate request true = true
  proposal : candidate.proposalDigest = some (proposalIdentity request)
  root : predecessorRoot request.bindings.predecessors = .ok request.bindings.predecessorRoot
  causal : requestCausalError authority s certificate = .ok ()
  predecessors : ∀ p ∈ request.bindings.predecessors, checkPredecessor s p = .ok ()

theorem preflight_cases (h : preflight authority s req supersedeOld cert = .ok ())
    : ∃ cand node, Preflight authority s req supersedeOld cert cand node := by
  simp only [preflight] at h
  split at h
  . simp [reject] at h
  . next cand hcand =>
    rw [bind_eq_ok] at h
    obtain ⟨_, -, h⟩ := h
    split at h
    . simp [reject] at h
    . next node hnode =>
      simp only [bind_eq_ok, exists_unit, reject_eq_ok, Check.monadLift_eq_ok, Except.forM_eq_ok,
        decide_eq_false_iff_not, not_not, Bool.not_eq_false'] at h
      obtain ⟨hvers, -, -, hlifecycle, hpointer, hgens, hmatch, hproposal, _, hroot,
        hroot', hcausal, hpreds⟩ := h
      exact ⟨cand, node, hcand, hnode, hvers, hlifecycle, hpointer, hgens,
        hmatch, hproposal, hroot' ▸ hroot, hcausal, hpreds⟩

omit [Platform] in
theorem checkPointer_eq_ok
    : checkPointer s node supersedeOld = .ok u ↔
      node.certificateDigest = supersedeOld ∧
        ∀ old ∈ supersedeOld, s.latestDisposition old = some .current := by
  cases supersedeOld <;> simp [checkPointer]

structure Publishes (authority : Authority) (s : Store) (node : LogicalNodeRow)
    (row : CertificateRow) (certificate : CommitCertificate) (old : Option String) (s' : Store)
    : Prop where
  validated : validateCertificate authority.config row = .ok (row.certificateDigest, certificate)
  certificates : s.certificates.insert? row = some s'.certificates
  node_mem : node ∈ s.logicalNodes
  workflowId : node.workflowId = certificate.subject.workflowId
  nodeId : node.nodeId = certificate.subject.nodeId
  version : node.version = certificate.bindings.expectedNodeVersion
  pointer : node.certificateDigest = old
  current : ∀ d ∈ old, s.latestDisposition d = some .current
  logicalNodes : s.logicalNodes.update?
    (fun r => r.workflowId = certificate.subject.workflowId &&
      r.nodeId = certificate.subject.nodeId)
    (fun r => { r with
      version := certificate.bindings.committedNodeVersion
      certificateDigest := some row.certificateDigest }) = some s'.logicalNodes
  predecessorEdges : ∃ ps : List PredecessorRef, ps.Perm certificate.bindings.predecessors ∧
    s'.predecessorEdges.rows = s.predecessorEdges.rows ++
      ps.map fun p => ⟨certificate.decision.commitId, p.certificateDigest⟩
  dispositions : recordDisposition s row.certificateDigest certificate.decision.nonce old
    = .ok (s'.certificateDispositions, s'.supersessionEdges)
  sequence : nextSequence s = .ok row.sequence
  predecessors : ∀ p ∈ certificate.bindings.predecessors, checkPredecessor s p = .ok ()

structure SamePublications (s s' : Store) : Prop where
  certificates : s'.certificates = s.certificates
  dispositions : s'.certificateDispositions = s.certificateDispositions
  logicalNodes : s'.logicalNodes = s.logicalNodes
  predecessorEdges : s'.predecessorEdges = s.predecessorEdges
  supersessionEdges : s'.supersessionEdges = s.supersessionEdges

omit [Platform] in
theorem SamePublications.refl (s : Store) : SamePublications s s :=
  ⟨rfl, rfl, rfl, rfl, rfl⟩

inductive PublicationStep (authority : Authority) (s : Store) : Store → Prop where
  | same {s' : Store} (h : SamePublications s s') : PublicationStep authority s s'
  | revoked {target : String} {dispositions : Table DispositionRow} {s' : Store}
      (hcurrent : s.latestDisposition target = some .current)
      (hinsert : insertDisposition s.certificateDispositions ⟨target, 2, .revoked⟩
        = .ok dispositions)
      (h : SamePublications { s with certificateDispositions := dispositions } s')
      : PublicationStep authority s s'
  | published {node : LogicalNodeRow} {row : CertificateRow} {certificate : CommitCertificate}
      {old : Option String} {s' : Store} (h : Publishes authority s node row certificate old s')
      : PublicationStep authority s s'

theorem CommitWrites.publishes {sequence}
    (hacc : Accepted authority s req supersedeOld now sequence cert sealed)
    (hwr : CommitWrites s req supersedeOld sequence sealed s')
    : ∃ node predecessors, Seals authority cert sealed predecessors ∧
      Publishes authority s node (certificateRow req sequence sealed)
        (cert.withPredecessors predecessors) supersedeOld s' := by
  obtain ⟨_, -, rfl⟩ := hacc.certificate_eq
  obtain ⟨ps, hseals⟩ := sealCertificate_cases hacc.sealed_eq
  have hchecked := hacc.checked
  simp only [commitError, bind_eq_ok, exists_unit] at hchecked
  obtain ⟨_, node, hpre⟩ := preflight_cases hchecked.2
  obtain ⟨hnode, hkey⟩ := Table.mem_of_find? hpre.node_eq
  simp only [Bool.and_eq_true, decide_eq_true_eq] at hkey
  have hpointer := checkPointer_eq_ok.mp hpre.pointer
  have hperm := perm_of_sortByCanonical hseals.sorted
  have hseq := (Table.check_of_insert? hwr.certificates).1
  simp only [TableSchema.check, Bool.and_eq_true, decide_eq_true_eq] at hseq
  refine ⟨node, ps, hseals,
    { validated := validateCertificate_eq_ok.mpr ⟨hseq, ?_, rfl⟩
      certificates := hwr.certificates
      node_mem := hnode
      workflowId := hkey.1
      nodeId := hkey.2
      version := hpre.version
      pointer := hpointer.1
      current := hpointer.2
      logicalNodes := hwr.logicalNodes
      predecessorEdges := ⟨_, hperm.symm, rows_of_insertAll hwr.predecessorEdges⟩
      dispositions := hwr.dispositions
      sequence := hacc.sequence_eq
      predecessors := fun p hp => hpre.predecessors p (hperm.mem_iff.mp hp) }⟩
  exact ⟨hseals.historical, hseals.payload, rfl, rfl, rfl, rfl⟩

theorem conflict_publications
    (h : conflict s cid claim = .ok (res, s')) : SamePublications s s' := by
  obtain ⟨_, ⟨_, -, -, rfl⟩ | ⟨-, -, hwr⟩⟩ := conflict_cases h
  . exact .refl _
  . rw [hwr.unchanged]
    exact ⟨rfl, rfl, rfl, rfl, rfl⟩

theorem step_publication (h : step authority s operation = .ok s')
    : PublicationStep authority s s' := by
  cases step_effect h with
  | unchanged => exact .same (.refl s)
  | staged hwr =>
    rw [hwr.unchanged]
    exact .same ⟨rfl, rfl, rfl, rfl, rfl⟩
  | advanced hwr =>
    rw [hwr.unchanged]
    exact .same ⟨rfl, rfl, rfl, rfl, rfl⟩
  | committed _ heffect =>
    cases heffect with
    | replayed => exact .same (.refl s)
    | conflicted _ _ _ hconf => exact .same (conflict_publications hconf)
    | denied _ _ hwr =>
      rw [hwr.unchanged]
      exact .same ⟨rfl, rfl, rfl, rfl, rfl⟩
    | committed _ hacc hwr =>
      obtain ⟨_, _, -, hpub⟩ := hwr.publishes hacc
      exact .published hpub
  | revoked _ hfenced hwr =>
    rw [hwr.unchanged]
    cases hfenced with
    | certificate _ _ hcurr hins =>
      exact .revoked hcurr hins ⟨rfl, rfl, rfl, rfl, rfl⟩
    | actor => exact .same ⟨rfl, rfl, rfl, rfl, rfl⟩
    | workflow => exact .same ⟨rfl, rfl, rfl, rfl, rfl⟩
  | recovered _ _ hconf => exact .same (conflict_publications hconf)
  | leased hupd =>
    rw [hupd.unchanged]
    exact .same ⟨rfl, rfl, rfl, rfl, rfl⟩
  | delivered hupd _ =>
    rw [hupd.unchanged]
    exact .same ⟨rfl, rfl, rfl, rfl, rfl⟩

end Apcc
