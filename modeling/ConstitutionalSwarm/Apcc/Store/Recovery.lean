import ConstitutionalSwarm.Apcc.Store.Books
import ConstitutionalSwarm.Apcc.Store.Texts

namespace Apcc

open Table

theorem equivocation_inj
    : equivocation commitId audit = equivocation commitId audit' ↔ audit = audit' := by
  simp [equivocation]

variable [Platform] {authority : Authority} {s s' t : Store} {commitId digest : String}

def conflictAnswer (commitId digest : String) : CommitResult :=
  equivocation commitId (auditId "conflict" [commitId, digest])

def Claim.identity (claim : Claim) (commitId : String) (subject : CertificateSubject)
    : List String :=
  let (workflowId, nodeId, attemptId) := claim.attempt subject
  [commitId, workflowId, nodeId, attemptId, claim.requestDigest, claim.publicRequestDigest]

variable {claim : Claim} {row : CommitIndexRow} {request : AtomicCommitRequest} {now : Int}

theorem identity_conflictRow (orig : Original s commitId)
    : (orig.claimRow claim).identity = claim.identity commitId orig.request.subject := by
  simp only [conflictRow, ConflictRow.identity, Claim.identity, orig.commitId_eq]

theorem conflict_answer (hbook : Booked s) (h : conflict s commitId claim = .ok (result, s'))
    : result = conflictAnswer commitId claim.requestDigest := by
  obtain ⟨orig, ⟨ex, hexist, rfl, -⟩ | ⟨-, rfl, -⟩⟩ := conflict_cases h
  . obtain ⟨hmem, hident⟩ := mem_of_find? hexist
    rw [identity_conflictRow, decide_eq_true_eq] at hident
    simp only [ConflictRow.identity, Claim.identity, List.cons.injEq] at hident
    obtain ⟨hid, -, -, -, hdig, -⟩ := hident
    rw [conflictAnswer, (hbook.conflicts ex hmem).2.2, hid, hdig]
  . rw [conflictAnswer, Original.claimRow, conflictRow, orig.commitId_eq]

theorem conflict_isOk_iff
    : (∃ result s', conflict s commitId claim = .ok (result, s')) ↔
      ∃ orig : Original s commitId,
        (∃ r ∈ s.commitConflicts, r.identity = claim.identity commitId orig.request.subject) ∨
        ¬ s.Audited (auditId "conflict" [commitId, claim.requestDigest]) := by
  constructor
  . rintro ⟨result, s', h⟩
    obtain ⟨orig, ⟨ex, hexist, -, -⟩ | ⟨-, -, hwrites⟩⟩ := conflict_cases h
    . obtain ⟨hmem, hident⟩ := mem_of_find? hexist
      rw [identity_conflictRow, decide_eq_true_eq] at hident
      exact ⟨orig, .inl ⟨ex, hmem, hident⟩⟩
    . refine ⟨orig, .inr ?_⟩
      rintro ⟨r, hr, haudit⟩
      have hcompat := (check_of_insert? hwrites.auditEvents).2 r hr
      rw [← orig.commitId_eq] at haudit
      exact of_decide_eq_true hcompat haudit
  . rintro ⟨orig, h⟩
    cases hfind : s.commitConflicts.find? (·.identity = (orig.claimRow claim).identity) with
    | some ex => exact ⟨_, _, conflict_of_known orig hfind⟩
    | none =>
      have hnone := find?_eq_none.mp hfind
      have haudit := h.resolve_left (by
        rintro ⟨r, hr, hident⟩
        have := hnone r hr
        rw [identity_conflictRow] at this
        simp [hident] at this)
      refine (Prod.exists (p := fun x => conflict s commitId claim = .ok x)).mp ?_
      simp only [conflict_of_original orig, hfind]
      refine isOk_bind (insert_isOk _ _ rfl fun r hr =>
        decide_eq_true (of_decide_eq_false (hnone r hr))) fun _ _ => ?_
      refine isOk_bind (insert_isOk _ _ rfl fun r hr => decide_eq_true fun heq => ?_)
        fun _ _ => ⟨_, rfl⟩
      refine haudit ⟨r, hr, ?_⟩
      simp only [heq, auditRow, conflictRow, orig.commitId_eq]

def Store.Records (s : Store) (commitId digest : String) : Prop :=
  (∃ r ∈ s.commitIndex, r.commitId = commitId ∧ r.requestDigest = digest) ∨
    ∃ r ∈ s.requestIndex, r.requestDigest = digest ∧ r.commitId = commitId

omit [Platform] in
theorem Store.records_iff (hrow : s.commitIndex? commitId = some row)
    : s.Records commitId digest ↔
      ¬ (decide (row.requestDigest ≠ digest) && !(s.requestIndex.any fun r =>
        r.requestDigest = digest && r.commitId = commitId)) := by
  obtain ⟨hmem, hid⟩ := mem_of_find? hrow
  have hid : row.commitId = commitId := by simpa using hid
  have hidx : (∃ r ∈ s.commitIndex, r.commitId = commitId ∧ r.requestDigest = digest) ↔
      row.requestDigest = digest := by
    constructor
    . rintro ⟨r, hr, hrid, hdig⟩
      rw [← hdig, eq_of_key CommitIndexRow.commitId hmem hr (hid.trans hrid.symm)]
    . exact fun hdig => ⟨row, hmem, hid, hdig⟩
  rw [Store.Records, hidx]
  simp only [any, Bool.and_eq_true, decide_eq_true_eq, Bool.not_eq_true', ← Bool.not_eq_true,
    List.any_eq_true, mem_def]
  rw [not_and_or, not_not, not_not]

theorem recover_of_unindexed (h : ¬ s.Indexed commitId)
    : recover s commitId digest =
      .ok (recoveryDenied commitId (auditId "recovery-missing" [commitId, digest]), s) := by
  cases hrow : s.commitIndex? commitId with
  | none =>
    unfold recover
    rw [hrow]
    rfl
  | some row => exact absurd (Store.indexed_iff.mpr ⟨row, hrow⟩) h

theorem recover_of_recorded (hbook : Booked s) (h : s.Records commitId digest)
    : ∃ result, replay s commitId digest = .ok result ∧
        recover s commitId digest = .ok (result, s) := by
  have hidx : s.Indexed commitId := by
    rcases h with ⟨r, hr, hid, -⟩ | ⟨r, hr, -, hid⟩
    . exact ⟨r, hr, hid⟩
    . exact hid ▸ hbook.requests r hr
  obtain ⟨_, hrow⟩ := Store.indexed_iff.mp hidx
  obtain ⟨result, hres⟩ := hbook.decided commitId hidx
  have hrecorded := (Store.records_iff hrow).mp h
  have hreplay : replay s commitId digest = .ok result := by
    unfold replay
    rw [hrow]
    dsimp only
    rw [if_neg hrecorded, hres]
  refine ⟨result, hreplay, ?_⟩
  unfold recover
  rw [hrow]
  dsimp only
  rw [if_neg hrecorded, hreplay]
  rfl

theorem recover_of_conflict (hidx : s.Indexed commitId) (h : ¬ s.Records commitId digest)
    : recover s commitId digest = conflict s commitId (recoveryClaim commitId digest) := by
  obtain ⟨_, hrow⟩ := Store.indexed_iff.mp hidx
  rw [Store.records_iff hrow, not_not] at h
  unfold recover
  rw [hrow]
  dsimp only
  rw [if_pos h]

theorem not_records_of_grows (hbook : Booked s) (hgrows : Grows s t) (hidx : s.Indexed commitId)
    (h : ¬ s.Records commitId digest) : ¬ t.Records commitId digest := by
  rintro (⟨r, hr, hid, hdig⟩ | ⟨r, hr, hdig, hid⟩)
  . obtain ⟨r', hr', hid'⟩ := hidx
    refine h (.inl ⟨r', hr', hid', ?_⟩)
    rw [← hdig, eq_of_key CommitIndexRow.commitId (hgrows.commitIndex.subset hr') hr
      (hid'.trans hid.symm)]
  . obtain ⟨r', hr', hid'⟩ := hbook.published commitId hidx
    refine h (.inr ⟨r', hr', ?_, hid'⟩)
    rw [← hdig, eq_of_key RequestIndexRow.commitId (hgrows.requestIndex.subset hr') hr
      (hid'.trans hid.symm)]

/--
The answer that recovery owes: a denial for an unknown commit id, the recorded result for a recorded
digest, and otherwise a conflict that agrees with every earlier one under the same commit id and
digest and that later recoveries repeat.
-/
structure RecoverAnswers (authority : Authority) (s : Store) (commitId digest : String)
    (result : CommitResult) (s' : Store) : Prop where
  unknown : ¬ s.Indexed commitId → result.outcome = .denied ∧ s' = s
  recorded : s.Records commitId digest → replay s commitId digest = .ok result ∧ s' = s
  conflicted : s.Indexed commitId → ¬ s.Records commitId digest →
    result.outcome = .conflicted ∧
    (∀ r ∈ s.commitConflicts, r.commitId = commitId →
      r.conflictingRequestDigest = digest ∨ r.conflictingPublicRequestDigest = digest →
      result = equivocation commitId r.auditEventId) ∧
    ∀ t, Runs authority s' t → recover t commitId digest = .ok (result, t)

def Claimable (s : Store) (commitId : String) (claim : Claim) : Prop :=
  ∃ original : Original s commitId,
    (∃ r ∈ s.commitConflicts, r.identity = claim.identity commitId original.request.subject) ∨
    ¬ s.Audited (auditId "conflict" [commitId, claim.requestDigest])

def AgreesOn (s : Store) (commitId digest : String) (isPublic : ConflictRow → Prop) : Prop :=
  ∀ r ∈ s.commitConflicts, r.commitId = commitId → isPublic r →
    r.auditEventId = auditId "conflict" [commitId, digest]

def Recoverable (s : Store) (commitId digest : String) : Prop :=
  ¬ s.Indexed commitId ∨ s.Records commitId digest ∨
    (Claimable s commitId (recoveryClaim commitId digest) ∧
      AgreesOn s commitId digest (·.conflictingPublicRequestDigest = digest))

theorem recover_iff (h : Reachable authority s)
    : (∃ result s', recover s commitId digest = .ok (result, s') ∧
        RecoverAnswers authority s commitId digest result s') ↔ Recoverable s commitId digest := by
  have hbook := h.booked
  by_cases hidx : s.Indexed commitId
  swap
  . refine iff_of_true ⟨_, _, recover_of_unindexed hidx, fun _ => ⟨rfl, rfl⟩,
      fun hrecorded => ?_, fun hidx' => absurd hidx' hidx⟩ (.inl hidx)
    rcases hrecorded with ⟨r, hr, hid, -⟩ | ⟨r, hr, -, hid⟩
    . exact absurd ⟨r, hr, hid⟩ hidx
    . exact absurd (hid ▸ hbook.requests r hr) hidx
  by_cases hrecorded : s.Records commitId digest
  . obtain ⟨result, hreplay, hrecover⟩ := recover_of_recorded hbook hrecorded
    exact iff_of_true ⟨result, s, hrecover, fun hunknown => absurd hidx hunknown,
      fun _ => ⟨hreplay, rfl⟩, fun _ hunrecorded => absurd hrecorded hunrecorded⟩
      (.inr (.inl hrecorded))
  rw [recover_of_conflict hidx hrecorded]
  constructor
  . rintro ⟨result, s', hconf, hanswers⟩
    refine .inr (.inr ⟨conflict_isOk_iff.mp ⟨result, s', hconf⟩, fun r hr hid hpub => ?_⟩)
    have hagrees := (hanswers.conflicted hidx hrecorded).2.1 r hr hid (.inr hpub)
    rw [conflict_answer hbook hconf, conflictAnswer, equivocation_inj] at hagrees
    exact hagrees.symm
  . rintro (hunknown | hrecorded' | ⟨hclaimable, hagrees⟩)
    . exact absurd hidx hunknown
    . exact absurd hrecorded' hrecorded
    . obtain ⟨result, s', hconf⟩ := conflict_isOk_iff.mpr hclaimable
      obtain rfl := conflict_answer hbook hconf
      refine ⟨_, s', hconf, fun hunknown => absurd hidx hunknown,
        fun hrecorded' => absurd hrecorded' hrecorded, fun _ _ => ⟨rfl, fun r hr hid hdig => ?_,
          fun t hrun => ?_⟩⟩
      . rw [conflictAnswer, equivocation_inj]
        rcases hdig with hdig | hdig
        . rw [(hbook.conflicts r hr).2.2, hid, hdig]
          rfl
        . exact (hagrees r hr hid hdig).symm
      . have hgrows := (conflict_grows hconf).trans hrun.grows
        rw [recover_of_conflict (hidx.grows hgrows)
          (not_records_of_grows hbook hgrows hidx hrecorded)]
        exact conflict_replay hconf hrun.grows

theorem atomicCommit_of_conflict (hrow : s.commitIndex? request.commitId = some row)
    (hdig : row.requestDigest ≠ operationIdentity request none)
    : atomicCommit authority s request now =
      atomicClaim request none >>= conflict s request.commitId := by
  unfold atomicCommit commit
  rw [hrow]
  dsimp only
  rw [if_neg hdig]

def requestClaim (request : AtomicCommitRequest) (publicDigest : String) : Claim where
  requestDigest := operationIdentity request none
  publicRequestDigest := publicDigest
  workflowId := request.subject.workflowId
  nodeId := request.subject.nodeId
  attemptId := request.subject.attemptId
  json := json (.obj
    [("kind", .str "atomic"), ("request", authorityRequestObject request),
      ("supersede_old", .null)])
  supersedeOld := none

theorem atomicClaim_eq_ok
    : atomicClaim request none = .ok claim ↔
      ∃ publicDigest, publicRequestDigest request = .ok publicDigest ∧
        claim = requestClaim request publicDigest := by
  simp only [atomicClaim, bind_eq_ok, pure_inj]
  exact exists_congr fun _ => and_congr_right fun _ => eq_comm

theorem recover_of_claimed (hbook : Booked s)
    (hrow : s.commitIndex? request.commitId = some row)
    (hrecords : ¬ s.Records request.commitId (operationIdentity request none))
    (hpub : publicRequestDigest request = .ok publicDigest)
    (hne : publicDigest ≠ operationIdentity request none) (hunclaimed : ∀ r ∈ s.commitConflicts,
      r.conflictingPublicRequestDigest ≠ operationIdentity request none)
    (hcommit : atomicCommit authority s request now = .ok (result, s'))
    : ¬ ∃ result t, recover s' request.commitId (operationIdentity request none)
        = .ok (result, t) := by
  have hdig : row.requestDigest ≠ operationIdentity request none := by
    intro heq
    obtain ⟨hmem, hid⟩ := mem_of_find? hrow
    exact hrecords (.inl ⟨row, hmem, by simpa using hid, heq⟩)
  have hidx := Store.indexed_iff.mpr ⟨row, hrow⟩
  simp only [atomicCommit_of_conflict hrow hdig, bind_eq_ok, atomicClaim_eq_ok] at hcommit
  obtain ⟨_, ⟨_, hpub', rfl⟩, hconf⟩ := hcommit
  rw [hpub] at hpub'
  cases hpub'
  have hgrows := conflict_grows hconf
  have hbook' := conflict_booked hbook hconf
  rw [recover_of_conflict (hidx.grows hgrows)
    (not_records_of_grows hbook hgrows hidx hrecords), conflict_isOk_iff]
  -- the conflict that the commit left behind holds the audit identity of the recovery
  obtain ⟨claimed, hclaimed⟩ := Option.isSome_iff_exists.mp (conflict_claimed hconf)
  obtain ⟨hmem, hkey⟩ := mem_of_find? hclaimed
  simp only [Bool.and_eq_true, decide_eq_true_eq] at hkey
  have haudit : s'.Audited
      (auditId "conflict" [request.commitId, operationIdentity request none]) := by
    obtain ⟨-, haudited, haudit⟩ := hbook'.conflicts claimed hmem
    rw [haudit, hkey.1, hkey.2] at haudited
    exact haudited
  rintro ⟨orig, ⟨r, hr, hident⟩ | hfree⟩
  . simp only [ConflictRow.identity, Claim.identity, List.cons.injEq] at hident
    have hrpublic : r.conflictingPublicRequestDigest = operationIdentity request none :=
      hident.2.2.2.2.2.1
    obtain ⟨_, ⟨_, -, -, rfl⟩ | ⟨-, -, hwrites⟩⟩ := conflict_cases hconf
    . exact hunclaimed r hr hrpublic
    . rcases (mem_insert? hwrites.commitConflicts).mp hr with hr | rfl
      . exact hunclaimed r hr hrpublic
      . exact hne hrpublic
  . exact hfree haudit

/--
Recovery in every reachable store: it answers as it should exactly for what is unknown or recorded,
and for digests that no other operation has claimed under the commit id; and a commit under the
commit id of another operation agrees with the recoveries of its digests exactly if its operation
digest has been claimed by nobody or by itself and its public digest by no recovery.
-/
theorem recover_answers_iff (authority : Authority) (s : Store) (h : Reachable authority s)
    : (∀ commitId digest, (∃ result s', recover s commitId digest = .ok (result, s') ∧
          RecoverAnswers authority s commitId digest result s') ↔
        Recoverable s commitId digest) ∧
      (∀ request now row, s.commitIndex? request.commitId = some row →
        row.requestDigest ≠ operationIdentity request none →
        ((∃ result s', atomicCommit authority s request now = .ok (result, s') ∧
            ∀ r ∈ s.commitConflicts, r.commitId = request.commitId →
              r.conflictingPublicRequestDigest = r.conflictingRequestDigest →
              (r.conflictingRequestDigest = operationIdentity request none ∨
                publicRequestDigest request = .ok r.conflictingRequestDigest) →
              result = equivocation request.commitId r.auditEventId) ↔
          ∃ publicDigest, publicRequestDigest request = .ok publicDigest ∧
            Claimable s request.commitId (requestClaim request publicDigest) ∧
            AgreesOn s request.commitId (operationIdentity request none) fun r =>
              r.conflictingRequestDigest = publicDigest ∧
                r.conflictingPublicRequestDigest = publicDigest)) := by
  refine ⟨fun _ _ => recover_iff h, fun request now row hrow hdig => ?_⟩
  have hbook := h.booked
  rw [atomicCommit_of_conflict hrow hdig]
  simp only [bind_eq_ok, atomicClaim_eq_ok]
  constructor
  . rintro ⟨result, s', ⟨_, ⟨publicDigest, hpub, rfl⟩, hconf⟩, hagrees⟩
    refine ⟨publicDigest, hpub, conflict_isOk_iff.mp ⟨result, s', hconf⟩, fun r hr hid hdigs => ?_⟩
    have hres := hagrees r hr hid (hdigs.2.trans hdigs.1.symm) (.inr (hdigs.1 ▸ hpub))
    rw [conflict_answer hbook hconf, conflictAnswer, equivocation_inj] at hres
    exact hres.symm
  . rintro ⟨publicDigest, hpub, hclaimable, hagrees⟩
    obtain ⟨result, s', hconf⟩ := conflict_isOk_iff.mpr hclaimable
    refine ⟨result, s', ⟨_, ⟨publicDigest, hpub, rfl⟩, hconf⟩, fun r hr hid hsame hclaim => ?_⟩
    rw [conflict_answer hbook hconf, conflictAnswer, equivocation_inj]
    rcases hclaim with hclaim | hclaim
    . rw [(hbook.conflicts r hr).2.2, hid, hclaim]
      rfl
    . rw [hpub] at hclaim
      have hclaim := Except.ok.inj hclaim
      exact (hagrees r hr hid ⟨hclaim.symm, hsame.trans hclaim.symm⟩).symm

end Apcc

namespace Apcc.Sample

open Table

theorem length_operationRequestJson
    (hevid : isPlainValue evidence.toObject) (hnonce : isPlain nonce)
    : (operationRequestJson (request evidence "commit" nonce) none).encodeUTF8.length =
      nonce.length + textLength evidence.toObject + 1122 := by
  have hplain : isPlainValue (operationRequestObject (request evidence "commit" nonce) none)
      := by
    simp only [operationRequestObject, authorityRequestObject, request, optionalText,
      CertificateSubject.toObject, CertificateContext.toObject, CertificateBindings.toObject,
      CertificateSignatures.toObject, Signature.toObject, Draft.signatures, Draft.signature,
      isPlainValue, isPlainFields, hevid, isPlain_encode, hnonce]
    decide
  rw [operationRequestJson, json, length_dumps_of_isPlainValue hplain]
  simp only [operationRequestObject, authorityRequestObject, request, optionalText,
    CertificateSubject.toObject, CertificateContext.toObject, CertificateBindings.toObject,
    CertificateSignatures.toObject, Signature.toObject, Draft.signatures, Draft.signature,
    textLength, fieldsLength, length_encode, List.length_replicate, List.map_nil,
    Option.isSome_none, Bool.false_eq_true, if_false]
  simp only [← String.length_toList, String.reduceToList, List.length_cons, List.length_nil,
    zero_add, Nat.reduceAdd, Nat.reduceMul, Nat.reduceDiv]
  omega

section Conflicts

variable (d : Draft)

theorem Draft.isPlainValue_spoiltEvidence : isPlainValue d.spoiltEvidence.toObject := by
  simp only [spoiltEvidence, CertificateEvidence.toObject, evidence, isPlainValue, isPlainFields,
    d.isPlainValue_statements, statementDigest, sha256Digest, isPlain_encode]
  decide

theorem Draft.textLength_spoiltEvidence
    : textLength d.spoiltEvidence.toObject = 3 * d.nodeId.length + d.commitId.length + 1665 := by
  obtain ⟨hprod, hpol, hauth⟩ := d.textLength_statements
  simp only [spoiltEvidence, CertificateEvidence.toObject, evidence, textLength, fieldsLength,
    hprod, hpol, hauth, statementDigest, length_digest]
  simp only [← String.length_toList, String.reduceToList, List.length_cons, List.length_nil,
    zero_add, Nat.reduceAdd]
  omega

theorem Draft.exactKeys_spoiltEvidence : d.spoiltEvidence.ExactKeys := by
  simpa only [spoiltEvidence, CertificateEvidence.ExactKeys] using d.exactKeys

def Draft.spoiltRequest (nonce : String) : AtomicCommitRequest :=
  request d.spoiltEvidence "commit" nonce

theorem Draft.commitId_spoiltRequest (nonce : String)
    : (d.spoiltRequest nonce).commitId = "commit" := rfl

theorem Draft.publicRequestDigest_spoiltRequest (nonce : String)
    : publicRequestDigest (d.spoiltRequest nonce) =
      .ok (statementDigest d.producerStatement) :=
  publicRequestDigest_request d.canonicalStatement_evidence.1 "commit" nonce

theorem Draft.length_operation {nonce} (hnonce : isPlain nonce)
    : (operationRequestJson (d.spoiltRequest nonce) none).encodeUTF8.length =
      nonce.length + 3 * d.nodeId.length + d.commitId.length + 2787 := by
  rw [spoiltRequest, length_operationRequestJson d.isPlainValue_spoiltEvidence hnonce,
    d.textLength_spoiltEvidence]
  omega

variable (hsmall : d.nodeId.length + d.commitId.length < 1000) {nonce nonce' : String}
  (hnonce : isPlain nonce) (hlen : nonce.length < 1000)

include hsmall hnonce hlen

theorem Draft.operationIdentity_ne (hnonce' : isPlain nonce')
    (hlen' : nonce'.length < 1000) (hne : nonce.length ≠ nonce'.length)
    : operationIdentity (d.spoiltRequest nonce) none ≠
      operationIdentity (d.spoiltRequest nonce') none := by
  intro h
  have hsame := length_eq_of_sha256Digest h (by rw [d.length_operation hnonce]; omega)
    (by rw [d.length_operation hnonce']; omega)
  rw [d.length_operation hnonce, d.length_operation hnonce'] at hsame
  omega

theorem Draft.statementDigest_ne
    : statementDigest d.producerStatement ≠ operationIdentity (d.spoiltRequest nonce) none := by
  intro h
  have hsize := length_dumps_of_isPlainValue d.isPlainValue_statements.1
  rw [d.textLength_statements.1] at hsize
  have hsame := length_eq_of_sha256Digest h (by rw [hsize]; omega)
    (by rw [d.length_operation hnonce]; omega)
  rw [hsize, d.length_operation hnonce] at hsame
  omega

omit hsmall hnonce hlen in
theorem Draft.auditId_ne (owner digest : String) (bytes : Bytes)
    (hdig : digest = sha256Digest bytes)
    : (denialRow (d.spoiltRequest nonce) .statementDigestMismatch none owner).auditEventId ≠
      auditId "conflict" ["commit", digest] := by
  have hconstants : RequestOutcome.denied.value.utf8ByteSize = 6 ∧ "commit\x00".utf8ByteSize = 7 ∧
      "\x00".utf8ByteSize = 1 ∧ "conflict\x00".utf8ByteSize = 9 ∧
      FailureCode.statementDigestMismatch.value.utf8ByteSize = 25 := by decide
  intro h
  simp only [denialRow, spoiltRequest, request, auditId, legacyDecisionAuditKinds,
    operationIdentity] at h
  simp at h
  have hlens := length_eq_of_sha256Digest h
  simp only [String.length_encodeUTF8, String.utf8ByteSize_append, hdig,
    utf8ByteSize_sha256Digest, hconstants] at hlens
  omega

omit hsmall hnonce hlen in
theorem Draft.deny_spoiltRequest (nonce : String)
    : ∃ owner s, Reachable authority s ∧
        DenialWrites .empty (d.spoiltRequest nonce) .statementDigestMismatch none owner s := by
  obtain ⟨hprod, hpol, hreg⟩ := d.canonicalStatement_evidence
  obtain ⟨_, s, hcommit, hnegative⟩ := atomicCommit_isOk
    (show canonicalStatement d.spoiltEvidence.producerStatement = _ from hprod)
    (show canonicalStatement d.spoiltEvidence.policyStatement = _ from hpol)
    (show canonicalStatement d.spoiltEvidence.authorityStatement = _ from hreg) rfl "commit"
    nonce
  obtain ⟨owner, hwrites, -⟩ := negative_cases hnegative
  have hstep : step authority .empty (.atomicCommit (request d.spoiltEvidence "commit" nonce) 0)
      = .ok s := map_eq_ok.mpr ⟨_, hcommit, rfl⟩
  exact ⟨owner, s, (reachable_empty authority).step hstep, hwrites⟩

section Denied

variable {s : Store} {owner : String}
  (hwrites : DenialWrites .empty (d.spoiltRequest nonce) .statementDigestMismatch none owner s)

include hwrites

omit hsmall hnonce hlen in
theorem Draft.mem_requestIndex
    : r ∈ s.requestIndex ↔ r = ⟨statementDigest d.producerStatement, "commit"⟩ := by
  obtain ⟨_, hdig, hreqs⟩ := hwrites.requestIndex
  rw [d.publicRequestDigest_spoiltRequest] at hdig
  rw [mem_insert? hreqs, ← Except.ok.inj hdig]
  simp [Store.empty, empty, mem_def, spoiltRequest, request]

theorem Draft.not_records (hnonce' : isPlain nonce') (hlen' : nonce'.length < 1000)
    (hne : nonce.length ≠ nonce'.length)
    : ¬ s.Records "commit" (operationIdentity (d.spoiltRequest nonce') none) := by
  rintro (⟨r, hr, -, heq⟩ | ⟨r, hr, heq, -⟩)
  . rcases (mem_insert? hwrites.commitIndex).mp hr with hr | rfl
    . simp [Store.empty, empty, mem_def] at hr
    . exact d.operationIdentity_ne hsmall hnonce hlen hnonce' hlen' hne heq
  . rw [(d.mem_requestIndex hwrites).mp hr] at heq
    exact d.statementDigest_ne hsmall hnonce' hlen' heq

omit hsmall hnonce hlen in
theorem Draft.claimable_spoiltRequest (hclaim : claim.requestDigest = sha256Digest bytes)
    : ∃ result s', conflict s "commit" claim = .ok (result, s') := by
  obtain ⟨r, hr, hid⟩ : ∃ r ∈ s.requestIndex, r.commitId = "commit" :=
    ⟨_, (d.mem_requestIndex hwrites).mpr rfl, rfl⟩
  have hfound : s.requestIndex.find? (·.commitId = "commit") = some r :=
    find?_eq_some hr (by simp [hid]) fun r' hr' _ => by
      rw [(d.mem_requestIndex hwrites).mp hr, (d.mem_requestIndex hwrites).mp hr']
  rw [conflict_isOk_iff]
  refine ⟨⟨indexRow (d.spoiltRequest nonce) none, (d.spoiltRequest nonce).persisted, none,
    r.requestDigest, commitIndex?_of_insert? hwrites.commitIndex,
    operationFromJson_operationRequestJson d.exactKeys_spoiltEvidence, by rw [hfound]; rfl⟩,
    .inr ?_⟩
  rintro ⟨audit, haudit, heq⟩
  rcases (mem_insert? hwrites.auditEvents).mp haudit with haudit | rfl
  . simp [Store.empty, empty, mem_def] at haudit
  . exact d.auditId_ne owner _ _ hclaim heq

theorem Draft.recover_spoiltRequest (hreach : Reachable authority s) (hnonce' : isPlain nonce')
    (hlen' : nonce'.length < 1000) (hne : nonce.length ≠ nonce'.length)
    : ∃ result s', atomicCommit authority s (d.spoiltRequest nonce') 0 = .ok (result, s') ∧
        ¬ ∃ result t, recover s' "commit" (operationIdentity (d.spoiltRequest nonce') none)
          = .ok (result, t) := by
  have hrow : s.commitIndex? (d.spoiltRequest nonce').commitId
      = some (indexRow (d.spoiltRequest nonce) none) := by
    rw [d.commitId_spoiltRequest nonce', ← d.commitId_spoiltRequest nonce]
    exact commitIndex?_of_insert? hwrites.commitIndex
  have hdiffers := d.operationIdentity_ne hsmall hnonce hlen hnonce' hlen' hne
  have hrecords := d.not_records hsmall hnonce hlen hwrites hnonce' hlen' hne
  have hpub := d.publicRequestDigest_spoiltRequest nonce'
  obtain ⟨result, s', hconf⟩ := d.claimable_spoiltRequest hwrites
    (show (requestClaim (d.spoiltRequest nonce')
      (statementDigest d.producerStatement)).requestDigest
      = _ from rfl)
  have hcommit : atomicCommit authority s (d.spoiltRequest nonce') 0 = .ok (result, s') := by
    rw [atomicCommit_of_conflict hrow hdiffers, d.commitId_spoiltRequest nonce']
    exact bind_eq_ok.mpr ⟨_, atomicClaim_eq_ok.mpr ⟨_, hpub, rfl⟩, hconf⟩
  have hconfs : ∀ r ∈ s.commitConflicts, r.conflictingPublicRequestDigest
      ≠ operationIdentity (d.spoiltRequest nonce') none := by
    rw [hwrites.unchanged]
    simp [Store.empty, empty, mem_def]
  rw [← d.commitId_spoiltRequest nonce'] at hrecords ⊢
  exact ⟨result, s', hcommit, recover_of_claimed hreach.booked hrow hrecords hpub
    (d.statementDigest_ne hsmall hnonce' hlen') hconfs hcommit⟩

end Denied

end Conflicts

/--
Two operations under one commit id: the first is denied and the second recorded as a conflict. The
recovery of the second one by its digest meets the audit event of the conflict and raises.
-/
theorem recover_conflicting
    : ∃ s result s', Reachable authority s ∧
        atomicCommit authority s (rootDraft.spoiltRequest "second") 0 = .ok (result, s') ∧
        ¬ ∃ result t, recover s' "commit"
          (operationIdentity (rootDraft.spoiltRequest "second") none) = .ok (result, t) := by
  obtain ⟨_, s, hreach, hwrites⟩ := rootDraft.deny_spoiltRequest "first"
  obtain ⟨result, s', h⟩ := rootDraft.recover_spoiltRequest (by decide) (by decide) (by decide)
    hwrites hreach (show isPlain "second" = true by decide) (by decide) (by decide)
  exact ⟨s, result, s', hreach, h⟩

theorem recover_answers_iff_denied
    : ∃ s result, Reachable authority s ∧
        s.Records "commit" (operationIdentity (rootDraft.spoiltRequest "first") none) ∧
        recover s "commit" (operationIdentity (rootDraft.spoiltRequest "first") none)
          = .ok (result, s) := by
  obtain ⟨_, s, hreach, hwrites⟩ := rootDraft.deny_spoiltRequest "first"
  have hrecords : s.Records "commit" (operationIdentity (rootDraft.spoiltRequest "first") none) :=
    .inl ⟨_, mem_of_insert? hwrites.commitIndex, rfl, rfl⟩
  obtain ⟨result, s', hrecover, hanswers⟩ := ((recover_answers_iff authority s hreach).1 _ _).mpr
    (.inr (.inl hrecords))
  rw [(hanswers.recorded hrecords).2] at hrecover
  exact ⟨s, result, hreach, hrecords, hrecover⟩

end Apcc.Sample
