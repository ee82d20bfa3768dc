import ConstitutionalSwarm.Apcc.Store.Fences
import ConstitutionalSwarm.Apcc.Store.SealedCommit

namespace Apcc

theorem Original.unique (a b : Original s cid) : a = b := by
  obtain ⟨_, _, _, _, hidx, hparsed, hpub⟩ := a
  obtain ⟨_, _, _, _, hidx', hparsed', hpub'⟩ := b
  obtain rfl := Option.some.inj (hidx.symm.trans hidx')
  obtain ⟨rfl, rfl⟩ := Prod.mk.inj (Except.ok.inj (hparsed.symm.trans hparsed'))
  obtain rfl := Option.some.inj (hpub.symm.trans hpub')
  rfl

variable [Platform] {authority : Authority} {s s' : Store}

def CanonicalPredecessors (request : AtomicCommitRequest) : Prop :=
  sortByCanonical PredecessorRef.toObject request.bindings.predecessors
    = .ok request.bindings.predecessors

def PassesChecks (authority : Authority) (s : Store) (request : AtomicCommitRequest)
    (supersedeOld : Option String) (now : Int) : Prop :=
  s.nonceOwner? request.nonce = none ∧ ∃ sequence clock, nextSequence s = .ok sequence ∧
    trustedNow now = .ok clock ∧
    commitError authority s request supersedeOld
      (certificateOf authority request (toString sequence) clock) = .ok ()

def Readable (request : AtomicCommitRequest) (supersedeOld : Option String) : Prop :=
  request.evidence.ExactKeys ∧ supersedeOld ≠ some ""

def ClaimRecordable (s : Store) (request : AtomicCommitRequest) (supersedeOld : Option String)
    : Prop :=
  ∀ (original : Original s request.commitId) (claim : Claim),
    atomicClaim request supersedeOld = .ok claim →
    (s.commitConflicts.find? (·.identity = (conflictRow s claim original.row
        original.publicDigest original.request.subject).identity)).isSome = true ∨
      (Readable request supersedeOld ∧ claim.attempt original.request.subject
        = (request.subject.workflowId, request.subject.nodeId, request.subject.attemptId))

def CommitRecordable (authority : Authority) (s : Store) (request : AtomicCommitRequest)
    (supersedeOld : Option String) (now : Int) : Prop :=
  match s.commitIndex? request.commitId with
  | some row =>
    row.requestDigest = operationIdentity request supersedeOld ∨
      ClaimRecordable s request supersedeOld
  | none =>
    Readable request supersedeOld ∧
      (PassesChecks authority s request supersedeOld now → CanonicalPredecessors request)

def Recordable (authority : Authority) (s : Store) : Operation → Prop
  | .advance _ proposal _ => proposal.evidence.ExactKeys
  | .atomicCommit request now => CommitRecordable authority s request none now
  | .supersede request now =>
    CommitRecordable authority s request.newProposal (some request.oldCertificateDigest) now
  | .stageResult _ | .revoke _ | .recover _ _ | .claimOutbox _ _ | .releaseOutbox _ _
  | .finalizeOutbox _ _ => True

section Commit

variable {request : AtomicCommitRequest} {old : Option String} {now : Int} {result : CommitResult}
  (hs : Integrity authority.config s)

include hs

theorem conflict_integrity_iff (hclaim : atomicClaim request old = .ok claim)
    (h : conflict s request.commitId claim = .ok (result, s'))
    : Integrity authority.config s' ↔ ClaimRecordable s request old := by
  obtain ⟨orig, ⟨ex, hexist, -, rfl⟩ | ⟨hnone, -, hwr⟩⟩ := conflict_cases h
  . refine iff_of_true hs fun orig' claim' hclaim' => .inl ?_
    obtain rfl := orig'.unique orig
    obtain rfl := Except.ok.inj (hclaim'.symm.trans hclaim)
    rw [hexist]
    rfl
  . rw [hwr.integrity_iff hs rfl, validateConflict_atomic hwr hs hclaim]
    constructor
    . rintro ⟨hkeys, hold, hatt⟩ orig' claim' hclaim'
      obtain rfl := orig'.unique orig
      obtain rfl := Except.ok.inj (hclaim'.symm.trans hclaim)
      exact .inr ⟨⟨hkeys, hold⟩, hatt⟩
    . intro hrecordable
      rcases hrecordable orig claim hclaim with hexist | ⟨⟨hkeys, hold⟩, hatt⟩
      . rw [hnone] at hexist
        simp at hexist
      . exact ⟨hkeys, hold, hatt⟩

theorem commit_integrity_iff (h : commit authority s request old now = .ok (result, s'))
    : Integrity authority.config s' ↔ CommitRecordable authority s request old now := by
  unfold CommitRecordable
  cases commit_effect h with
  | @replayed row _ hidx hdig hreplay =>
    rw [hidx]
    exact iff_of_true hs (.inl hdig)
  | @conflicted row claim _ _ hidx hdig hclaim hconf =>
    rw [hidx, conflict_integrity_iff hs hclaim hconf]
    exact (or_iff_right hdig).symm
  | @denied reason _ _ hidx hdenied hwr =>
    rw [hidx, hwr.integrity_iff hidx hs hdenied]
    refine (and_iff_left fun hpasses => ?_).symm
    obtain ⟨hnonce, _, clock, hseq, hclock, hchecked⟩ := hpasses
    exfalso
    cases hdenied with
    | nonce hsome => simp [hnonce] at hsome
    | check hseq' hclock' herror =>
      obtain rfl := Except.ok.inj (hseq.symm.trans hseq')
      obtain rfl := Except.ok.inj (hclock.symm.trans hclock')
      rw [hchecked] at herror
      simp at herror
  | committed hidx hacc hwr =>
    obtain ⟨_, predecessors, hseals, hpub⟩ := hwr.publishes hacc
    rw [hidx, hwr.integrity_iff hacc hpub hs hidx hseals, ← and_assoc]
    refine and_congr_right fun _ => ?_
    obtain ⟨clock, hclock, rfl⟩ := hacc.certificate_eq
    have hpasses : PassesChecks authority s request old now :=
      ⟨hacc.nonce, _, clock, hacc.sequence_eq, hclock, hacc.checked⟩
    have hsort : sortByCanonical PredecessorRef.toObject request.bindings.predecessors
        = .ok predecessors := hseals.sorted
    rw [CanonicalPredecessors, hsort, Except.ok.injEq]
    exact ⟨fun heq _ => heq, fun heq => heq hpasses⟩

end Commit

theorem step_integrity_iff (hs : Integrity authority.config s)
    (h : step authority s operation = .ok s')
    : Integrity authority.config s' ↔ Recordable authority s operation := by
  have hled := (step_publication h).ledger hs.ledger
  cases operation with
  | stageResult request =>
    obtain ⟨⟨_, _⟩, hstage, rfl⟩ := map_eq_ok.mp h
    exact iff_of_true ((stageResult_cases hstage).integrity hs) trivial
  | advance _ _ _ => exact (advance_cases h).integrity_iff hs
  | atomicCommit request now =>
    obtain ⟨⟨_, _⟩, hcommit, rfl⟩ := map_eq_ok.mp h
    exact commit_integrity_iff hs hcommit
  | supersede request now =>
    obtain ⟨⟨_, _⟩, hsup, rfl⟩ := map_eq_ok.mp h
    unfold supersede at hsup
    dsimp only at hsup
    split at hsup
    . next hany =>
      obtain ⟨-, rfl⟩ := Prod.mk.inj (Except.ok.inj hsup)
      refine iff_of_true hs ?_
      obtain ⟨row, hrow, hkey⟩ := List.any_eq_true.mp hany
      simp only [Bool.and_eq_true, decide_eq_true_eq] at hkey
      have hidx : s.commitIndex? request.newProposal.commitId = some row := by
        rw [← hkey.1]
        exact Table.find?_key CommitIndexRow.commitId hrow
      rw [Recordable, CommitRecordable, hidx]
      exact .inl hkey.2
    . simp only [bind_eq_ok, pure_inj, Prod.mk.injEq, Prod.exists] at hsup
      obtain ⟨_, _, hcommit, -, rfl⟩ := hsup
      exact commit_integrity_iff hs hcommit
  | revoke request =>
    obtain ⟨⟨_, _⟩, hrevoke, rfl⟩ := map_eq_ok.mp h
    refine iff_of_true ?_ trivial
    obtain rfl | ⟨_, _, hgen, hfenced, hwr⟩ := revoke_cases hrevoke
    . exact hs
    . exact hwr.integrity hgen hfenced hled hs
  | recover cid rdig =>
    obtain ⟨⟨_, _⟩, hrecover, rfl⟩ := map_eq_ok.mp h
    refine iff_of_true ?_ trivial
    obtain rfl | ⟨_, hidx, hdig, hconf⟩ := recover_cases hrecover
    . exact hs
    . obtain ⟨orig, ⟨_, -, -, rfl⟩ | ⟨-, -, hwr⟩⟩ := conflict_cases hconf
      . exact hs
      . rw [hwr.integrity_iff hs rfl]
        exact validateConflict_recovery hwr hs rfl
  | claimOutbox token now =>
    obtain ⟨⟨_, _⟩, hclaim, rfl⟩ := map_eq_ok.mp h
    refine iff_of_true ?_ trivial
    obtain rfl | ⟨state, hupd⟩ := claimOutbox_cases hclaim
    . exact hs
    . exact hupd.integrity hs
  | releaseOutbox _ _ => exact iff_of_true ((releaseOutbox_cases h).integrity hs) trivial
  | finalizeOutbox _ _ =>
    refine iff_of_true ?_ trivial
    obtain rfl | ⟨t, hupd, rfl | ⟨row, audits, haudits, rfl⟩⟩ := finalizeOutbox_cases h
    . exact hs
    . exact hupd.integrity hs
    . exact (hupd.integrity hs).auditEvents (prefix_of_insert? haudits)

/--
The validator accepts what an operation leaves of an accepted store exactly if the operation is
recordable there.
-/
theorem validateSemanticIntegrity_step_iff {operation : Operation}
    (hs : ∃ snapshot, validateSemanticIntegrity authority.config s = .ok snapshot)
    (h : step authority s operation = .ok s')
    : (∃ snapshot, validateSemanticIntegrity authority.config s' = .ok snapshot) ↔
      Recordable authority s operation := by
  rw [validateSemanticIntegrity_isOk_iff] at hs ⊢
  exact step_integrity_iff hs h

end Apcc

namespace Apcc.Sample

theorem validateSemanticIntegrity_empty
    : ∃ snapshot, validateSemanticIntegrity authority.config .empty = .ok snapshot := by
  have hprov := provision_nil authority.config
  simp only [provision, List.foldlM_nil, pure_eq_ok, ok_bind, bind_eq_ok] at hprov
  obtain ⟨snapshot, hsnap, -⟩ := hprov
  exact ⟨snapshot, hsnap⟩

/-- A denied request whose statements lack keys leaves a store that cannot be reopened. -/
theorem validateSemanticIntegrity_bareRequest
    : (∃ snapshot, validateSemanticIntegrity authority.config .empty = .ok snapshot) ∧
      ∃ s',
        step authority .empty (.atomicCommit (request bareEvidence "commit" "nonce") 0) = .ok s' ∧
        ¬ ∃ snapshot, validateSemanticIntegrity authority.config s' = .ok snapshot := by
  obtain ⟨_, s', h⟩ := atomicCommit_bareRequest "commit" "nonce"
  have hstep : step authority .empty (.atomicCommit (request bareEvidence "commit" "nonce") 0)
      = .ok s' := by
    rw [step, h]
    rfl
  refine ⟨validateSemanticIntegrity_empty, s', hstep, ?_⟩
  have hempty := (validateSemanticIntegrity_isOk_iff _ _).mp validateSemanticIntegrity_empty
  rw [validateSemanticIntegrity_isOk_iff, step_integrity_iff hempty hstep]
  rintro ⟨⟨hkeys, -⟩, -⟩
  have hnonce := (hkeys.1 "nonce").mpr (by decide)
  exact absurd hnonce (by decide)

theorem validateSemanticIntegrity_step_iff_bareRequest
    : ∃ s', (∃ snapshot, validateSemanticIntegrity authority.config .empty = .ok snapshot) ∧
      step authority .empty (.atomicCommit (request bareEvidence "commit" "nonce") 0) = .ok s' ∧
      ((∃ snapshot, validateSemanticIntegrity authority.config s' = .ok snapshot) ↔
        Recordable authority .empty (.atomicCommit (request bareEvidence "commit" "nonce") 0)) := by
  obtain ⟨_, s', h⟩ := atomicCommit_bareRequest "commit" "nonce"
  have hstep : step authority .empty (.atomicCommit (request bareEvidence "commit" "nonce") 0)
      = .ok s' := by
    rw [step, h]
    rfl
  exact ⟨s', validateSemanticIntegrity_empty, hstep,
    validateSemanticIntegrity_step_iff validateSemanticIntegrity_empty hstep⟩

end Apcc.Sample
