import Mathlib.Data.List.Fold
import Mathlib.Data.List.MinMax
import Mathlib.Order.Nat
import ConstitutionalSwarm.Apcc.Store.Publication
import ConstitutionalSwarm.Apcc.Store.Recovery
import ConstitutionalSwarm.Apcc.Store.Sealing

namespace Apcc

open List Table

def Nonceless {α : Type} (x : Check α) : Prop :=
  x ≠ .error (.code .nonceReplay)

section Codes

variable {α β : Type}

@[simp]
theorem nonceless_bind {f : α → Check β}
    : Nonceless (x >>= f) ↔ Nonceless x ∧ ∀ a, x = .ok a → Nonceless (f a) := by
  cases x <;> simp [Nonceless, bind, Except.bind]

@[simp]
theorem nonceless_map {f : α → β} : Nonceless (f <$> x) ↔ Nonceless x := by
  cases x <;> simp [Nonceless, Functor.map, Except.map]

@[simp]
theorem nonceless_ok (a : α) : Nonceless (.ok a) := by
  simp [Nonceless]

@[simp]
theorem nonceless_code
    : Nonceless (.error (.code code) : Check α) ↔ code ≠ .nonceReplay := by
  simp [Nonceless]

@[simp]
theorem nonceless_raised (e : PyError) : Nonceless (.error (.raised e) : Check α) := by
  simp [Nonceless]

@[simp]
theorem nonceless_reject
    : Nonceless (reject condition code) ↔ condition = true → code ≠ .nonceReplay := by
  cases condition <;> simp [Nonceless, reject]

@[simp]
theorem nonceless_liftM (x : Py α) : Nonceless (liftM x : Check α) := by
  cases x <;> simp [Nonceless, liftM, monadLift, MonadLift.monadLift, Check.lift]

theorem nonceless_forM {items : List α} {f : α → Check Unit} (hf : ∀ a, Nonceless (f a))
    : Nonceless (forM items f) := by
  induction items with
  | nil => exact nonceless_ok ()
  | cons a items ih => exact nonceless_bind.mpr ⟨hf a, fun _ _ => ih⟩

end Codes

@[simp]
theorem verifyStatementSubject_nonceless
    : Nonceless (verifyStatementSubject subject stmt) := by
  simp [verifyStatementSubject]

@[simp]
theorem verifyValidity_nonceless
    : Nonceless (verifyValidity committedAt stmt) := by
  simp [verifyValidity]

@[simp]
theorem checkPointer_nonceless (node : LogicalNodeRow) (old : Option String)
    : Nonceless (checkPointer s node old) := by
  cases old <;> simp [checkPointer]

section Checks

theorem visit_nonceless {resolve : String → Walk → Check (CommitCertificate × Walk)}
    (hresolve : ∀ digest walk, Nonceless (resolve digest walk)) (depth : Nat)
    (certificate : CommitCertificate) (active : List String) (walk : Walk)
    : Nonceless (visit resolve depth certificate active walk) := by
  induction depth generalizing certificate active walk with
  | zero => simp [visit]
  | succ depth ih =>
    unfold visit
    generalize certificate.bindings.predecessors = references
    induction references generalizing walk with
    | nil => exact nonceless_ok walk
    | cons reference references ih' =>
      simp only [visitReferences, nonceless_bind, nonceless_reject, hresolve]
      refine ⟨by simp, fun _ _ => ⟨trivial, fun _ _ => ⟨by simp, fun _ _ => ?_⟩⟩⟩
      split
      . exact ih' _
      . simp [ih, ih']

variable [Platform] {authority : Authority} {s : Store}

@[simp]
theorem verifySignature_nonceless (h : code ≠ .nonceReplay)
    : Nonceless (verifySignature sig keyId trust role scope domain body code) := by
  unfold verifySignature
  split <;> simp [h]

variable {certificate : CommitCertificate}

theorem verifyEvidence_nonceless
    : Nonceless (verifyEvidence certificate trust) := by
  simp [verifyEvidence]

theorem verifyBindings_nonceless : Nonceless (verifyBindings certificate) := by
  simp [verifyBindings]

theorem resolveStored_nonceless (digest : String) (walk : Walk)
    : Nonceless (resolveStored authority s limits digest walk) := by
  unfold resolveStored
  repeat' split
  all_goals simp

@[simp]
theorem requestCausalError_nonceless
    : Nonceless (requestCausalError authority s certificate) := by
  unfold requestCausalError
  simp only [nonceless_bind, nonceless_liftM, nonceless_reject, true_and]
  refine fun _ _ _ _ => ⟨by simp, fun _ _ => ?_⟩
  split
  . exact nonceless_forM fun _ => by simp [checkEffective]
  . next code hcode =>
    rw [nonceless_code]
    rintro rfl
    exact visit_nonceless resolveStored_nonceless _ _ _ _ hcode
  . simp

theorem checkPredecessor_nonceless (pred : PredecessorRef)
    : Nonceless (checkPredecessor s pred) := by
  unfold checkPredecessor
  repeat' split
  all_goals simp

theorem preflight_nonceless {request : AtomicCommitRequest} {old : Option String}
    : Nonceless (preflight authority s request old certificate) := by
  unfold preflight checkGenerations
  dsimp only
  repeat' split
  all_goals simp [nonceless_forM checkPredecessor_nonceless]

theorem commitError_nonceless
    : Nonceless (commitError authority s request old certificate) := by
  simp [commitError, certificateError, verifyEvidence_nonceless, verifyBindings_nonceless,
    preflight_nonceless]

end Checks

theorem insertAll_isOk {α : Type} [TableSchema α] {t : Table α} {rows : List α}
    (hcheck : ∀ row ∈ rows, TableSchema.check row)
    (hnew : ∀ r ∈ t, ∀ row ∈ rows, TableSchema.compatible r row)
    (hrows : rows.Pairwise fun a b => TableSchema.compatible a b)
    : ∃ t', insertAll t rows = .ok t' := by
  induction rows generalizing t with
  | nil => exact ⟨t, rfl⟩
  | cons row rows ih =>
    rw [pairwise_cons] at hrows
    rw [forall_mem_cons] at hcheck
    obtain ⟨_, ht₁⟩ := insert_isOk t row hcheck.1 fun r hr => hnew r hr row mem_cons_self
    obtain ⟨t', ht'⟩ := ih hcheck.2 (fun r hr row' hrow' => by
      rcases (mem_insert? (insert_eq_ok.mp ht₁)).mp hr with hr | rfl
      . exact hnew r hr row' (mem_cons_of_mem _ hrow')
      . exact hrows.1 row' hrow') hrows.2
    exact ⟨t', by rw [insertAll, foldlM_cons, ht₁, ok_bind]; exact ht'⟩

theorem insertDisposition_isOk (h : ∀ r ∈ t, r.certificateDigest ≠ digest)
    : ∃ t', insertDisposition t ⟨digest, 1, .current⟩ = .ok t' := by
  have hnone : (t.any fun r => decide (r.certificateDigest = digest) && true) = false := by
    simpa [Table.any, Table.mem_def] using h
  obtain ⟨t', ht'⟩ := insert_isOk t ⟨digest, 1, .current⟩ rfl fun r hr => by
    simp [TableSchema.compatible, h r hr]
  refine ⟨t', ?_⟩
  simp only [insertDisposition, hnone]
  exact ht'

section Commits

theorem sequence_lt_nextSequence {sequence} (h : nextSequence s = .ok sequence)
    : (1 ≤ sequence ∧ sequence ≤ maxSafeInteger) ∧
      ∀ r ∈ s.certificates, r.sequence < sequence := by
  unfold nextSequence at h
  dsimp only at h
  split at h
  . simp at h
  . next hle =>
    cases h
    refine ⟨⟨by omega, by omega⟩, fun r hr => Nat.lt_succ_of_le ?_⟩
    rw [foldl_eq_foldr]
    exact le_max_of_le (mem_map_of_mem hr) (le_refl r.sequence)

theorem movePointer_isOk (nodes : Table LogicalNodeRow) (subject : CertificateSubject)
    (pointer : Option String) (hvers : isDecimal version)
    : ∃ nodes', update nodes
        (fun r => r.workflowId = subject.workflowId && r.nodeId = subject.nodeId)
        (fun r => { r with version := version, certificateDigest := pointer }) = .ok nodes' := by
  obtain ⟨nodes', hnodes⟩ := update?_isSome (show ∀ r ∈ nodes, (fun r : LogicalNodeRow =>
        decide (r.workflowId = subject.workflowId) && decide (r.nodeId = subject.nodeId)) r = true →
      TableSchema.check ({ r with version := version, certificateDigest := pointer } :
        LogicalNodeRow)
        = true from fun _ _ _ =>
      (Bool.and_eq_true_iff.mp (Bool.and_eq_true_iff.mp hvers).1).1)
    fun a b => by
      simp only [TableSchema.compatible]
      split <;> split <;> rfl
  exact ⟨nodes', update_eq_ok.mpr hnodes⟩

variable [Platform] {authority : Authority} {s : Store} {request : AtomicCommitRequest}

theorem sequence_lt_trustRow
    (hr : r ∈ s.trustLog) : r.sequence < (trustRow s kind subject aeid).sequence := by
  have hsort := s.trustLog.distinct
  rw [mem_def] at hr
  cases hlast : s.trustLog.rows.getLast? with
  | none =>
    rw [getLast?_eq_none_iff] at hlast
    simp [hlast] at hr
  | some last =>
    obtain ⟨_, hrows⟩ := getLast?_eq_some_iff.mp hlast
    have hhead : (trustRow s kind subject aeid).sequence = last.sequence + 1 := by
      simp [trustRow, Store.trustHead?, hlast]
    rw [hrows] at hr hsort
    rw [hhead]
    rcases mem_append.mp hr with hr | hr
    . have hlt := (pairwise_append.mp hsort).2.2 r hr last mem_cons_self
      simp only [TableSchema.compatible, Bool.and_eq_true, decide_eq_true_eq] at hlt
      omega
    . rw [mem_singleton.mp hr]
      omega

structure Unused (s : Store) (request : AtomicCommitRequest) (old : Option String)
    (payload : Bytes) : Prop where
  audit : ¬ s.Audited (commitAudit request old)
  certificate : ∀ r ∈ s.certificates, r.certificateDigest ≠ sha256Digest payload
  entry : ∀ r ∈ s.trustLog, r.entryDigest ≠
    (trustRow s "commit" (sha256Digest payload) (commitAudit request old)).entryDigest
  event : ∀ r ∈ s.outbox, r.eventId ≠
    auditId "outbox" [OutboxKind.commit.value, request.commitId, sha256Digest payload]

structure Room (s : Store) (subject : CertificateSubject) : Prop where
  trust : ∀ head ∈ s.trustHead?, head.sequence < maxSafeInteger
  output : ∀ output, stagedOutput s subject = .ok output → output.length ≤ maxSafeInteger

theorem trustRow_sequence_iff
    : 1 ≤ (trustRow s kind subject aeid).sequence ∧
        (trustRow s kind subject aeid).sequence ≤ maxSafeInteger ↔
      ∀ head ∈ s.trustHead?, head.sequence < maxSafeInteger := by
  cases hhead : s.trustHead? with
  | none => simp [trustRow, hhead, maxSafeInteger]
  | some head =>
    have hseq : (trustRow s kind subject aeid).sequence = head.sequence + 1 := by
      simp [trustRow, hhead]
    rw [hseq]
    simp only [Option.mem_some_iff, forall_eq']
    omega

theorem sealable_of_commitError {sequence}
    (h : commitError authority s request old (certificateOf authority request sequence now)
      = .ok ())
    : ∃ payload, Sealable authority (certificateOf authority request sequence now) payload := by
  simp only [commitError, bind_eq_ok, exists_unit] at h
  obtain ⟨hchecked, hpre⟩ := h
  obtain ⟨_, _, hpre⟩ := preflight_cases hpre
  have hcausal := hpre.causal
  simp only [requestCausalError, bind_eq_ok, Check.monadLift_eq_ok] at hcausal
  obtain ⟨payload, hpay, env, henv, -⟩ := hcausal
  exact ⟨payload, rfl, rfl, hchecked, hpay, env, henv⟩

theorem Preflight.stagedOutput_isOk
    (h : Preflight authority s request old certificate cand node)
    : ∃ output, stagedOutput s request.subject = .ok output := by
  have hmatch := h.candidate_matches
  simp only [candidateMatches, Bool.and_eq_true] at hmatch
  obtain ⟨⟨⟨-, hres⟩, -⟩, -⟩ := hmatch
  cases hstaged : cand.result with
  | none => simp [hstaged] at hres
  | some output =>
    have hdig : sha256Digest output = request.subject.outputDigest := by
      simpa [hstaged] using hres
    exact ⟨output, by simp [stagedOutput, h.candidate_eq, hstaged, hdig]⟩

section Writes

variable {payload : Bytes} {digest : String} {sequence : Nat} {old : Option String}

theorem insertEdges_isOk (hbooked : Booked s) {cid : String} (hfresh : ¬ s.Indexed cid)
    {preds : List PredecessorRef} (hnodup : (preds.map (·.certificateDigest)).Nodup)
    : ∃ edges, insertAll s.predecessorEdges
        (preds.map fun p => ⟨cid, p.certificateDigest⟩) = .ok edges := by
  refine insertAll_isOk (fun _ _ => rfl) (fun r hr row hrow => ?_) ?_
  . obtain ⟨p, -, rfl⟩ := mem_map.mp hrow
    refine decide_eq_true fun heq => hfresh ?_
    have hedge := hbooked.edges r hr
    rwa [heq] at hedge
  . rw [pairwise_map]
    refine (pairwise_map.mp hnodup).imp fun hne => ?_
    simpa [TableSchema.compatible] using hne

section Trust

variable (hbooked : Booked s) (hunused : Unused s request old payload)
  (hroom : Room s request.subject)

include hbooked hunused hroom

theorem insertTrust_isOk
    : ∃ trustLog, insert s.trustLog
        (trustRow s "commit" (sha256Digest payload) (commitAudit request old)) = .ok trustLog := by
  refine insert_isOk _ _ ?_ fun r hr => ?_
  . simp only [TableSchema.check, Bool.and_eq_true, decide_eq_true_eq]
    exact trustRow_sequence_iff.mpr hroom.trust
  . have haudit : r.auditEventId ≠ commitAudit request old :=
      fun heq => hunused.audit (heq ▸ hbooked.trust r hr)
    simp only [TableSchema.compatible, Bool.and_eq_true, decide_eq_true_eq]
    exact ⟨⟨sequence_lt_trustRow hr, haudit⟩, hunused.entry r hr⟩

theorem insertEvent_isOk (hfresh : ¬ s.Indexed request.commitId)
    : ∃ outbox, insert s.outbox (outboxRow .commit request.commitId (sha256Digest payload) payload
        (trustRow s "commit" (sha256Digest payload) (commitAudit request old))) = .ok outbox := by
  refine insert_isOk _ _ ?_ fun r hr => ?_
  . simp only [TableSchema.check, Bool.and_eq_true, decide_eq_true_eq]
    refine ⟨?_, rfl⟩
    simp only [outboxRow]
    exact trustRow_sequence_iff.mpr hroom.trust
  . obtain ⟨haudited, hidx, htrust, _, hentry, hseq⟩ := hbooked.events r hr
    have hlater : r.eventSequence < (trustRow s "commit" (sha256Digest payload)
        (commitAudit request old)).sequence := hseq ▸ sequence_lt_trustRow hentry
    have hother : ¬ (r.eventKind = .commit ∧ r.operationId = request.commitId) :=
      fun h => hfresh (h.2 ▸ hidx h.1)
    simp only [TableSchema.compatible, ← Bool.decide_and, Bool.and_eq_true,
      decide_eq_true_eq, Bool.not_eq_true', decide_eq_false_iff_not]
    have haudit : r.auditEventId ≠ commitAudit request old :=
      fun heq => hunused.audit (heq ▸ haudited)
    exact ⟨⟨⟨⟨hlater, hunused.event r hr⟩, haudit⟩, htrust ▸ hlater.ne⟩, hother⟩

end Trust

theorem recordCommit_isOk (hbooked : Booked s) (hfresh : ¬ s.Indexed request.commitId)
    (hpub : publicRequestDigest request = .ok digest)
    (hreqs : ∀ r ∈ s.requestIndex, r.requestDigest ≠ digest)
    (hnonce : s.nonceOwner? request.nonce = none) (hseq : nextSequence s = .ok sequence)
    (hpre : Preflight authority s request old certificate cand node)
    (hbind : certificate.bindings = request.bindings)
    (henc : encodeCertificate certificate = .ok payload)
    (hsealed : sealed.payload = payload ∧ sealed.digest = sha256Digest payload)
    (hunused : Unused s request old payload) (hroom : Room s request.subject)
    (hdisps : ∃ tables, recordDisposition s (sha256Digest payload) request.nonce old = .ok tables)
    : ∃ answer, recordCommit s request old sequence sealed = .ok answer := by
  obtain ⟨_, _, _⟩ := sealed
  obtain ⟨hpay, hdig⟩ := hsealed
  dsimp only at hpay hdig
  subst hpay hdig
  obtain ⟨_, -, -, -, hencodable, -, -, hnodup, -⟩ := encodeCertificate_eq_ok.mp henc
  have hvers := hencodable.bindings.committedNodeVersion
  rw [hbind] at hnodup hvers
  have hother {cid : String} (h : s.Indexed cid) : cid ≠ request.commitId :=
    fun heq => hfresh (heq ▸ h)
  have hunaudited {audit : String} (h : s.Audited audit) : audit ≠ commitAudit request old :=
    fun heq => hunused.audit (heq ▸ h)
  obtain ⟨⟨hpositive, hsafe⟩, hlater⟩ := sequence_lt_nextSequence hseq
  unfold recordCommit
  dsimp only
  refine isOk_bind (insert_isOk _ _ rfl fun r hr =>
    decide_eq_true (hother ⟨r, hr, rfl⟩)) fun _ _ => ?_
  rw [hpub, ok_bind]
  refine isOk_bind (insert_isOk _ _ rfl fun r hr => by
    simp [TableSchema.compatible, hreqs r hr, hother (hbooked.requests r hr)]) fun _ _ => ?_
  refine isOk_bind (insert_isOk _ _ rfl fun r hr => by
    simp [TableSchema.compatible, Store.nonceOwner?_eq_none.mp hnonce r hr,
      hother (hbooked.nonces r hr)]) fun _ _ => ?_
  refine isOk_bind (insert_isOk _ _ rfl fun r hr =>
    decide_eq_true (hunaudited ⟨r, hr, rfl⟩)) fun _ _ => ?_
  refine isOk_bind (insert_isOk _ _ rfl fun r hr =>
    decide_eq_true (hother (hbooked.evidence r hr))) fun _ _ => ?_
  refine isOk_bind (movePointer_isOk _ _ _ hvers) fun _ _ => ?_
  refine isOk_bind (insert_isOk _ _ (by simp [TableSchema.check, hpositive, hsafe]) fun r hr => by
    simp [TableSchema.compatible, hunused.certificate r hr, hother (hbooked.certificates r hr),
      (hlater r hr).ne]) fun _ _ => ?_
  refine isOk_bind hpre.stagedOutput_isOk fun output houtput => ?_
  refine isOk_bind (insert_isOk _ _ (decide_eq_true (hroom.output output houtput)) fun r hr =>
    decide_eq_true (hother (hbooked.outputs r hr))) fun _ _ => ?_
  refine isOk_bind (insertEdges_isOk hbooked hfresh hnodup) fun _ _ => ?_
  refine isOk_bind (insert_isOk _ _ (by simp [TableSchema.check]) fun r hr => by
    obtain ⟨hid, haudited⟩ := hbooked.decisions r hr
    simpa [TableSchema.compatible, hother hid, commitAudit] using hunaudited haudited) fun _ _ => ?_
  refine isOk_bind hdisps fun _ _ => ?_
  refine isOk_bind (insertTrust_isOk hbooked hunused hroom) fun _ _ => ?_
  exact isOk_bind (insertEvent_isOk hbooked hunused hroom hfresh) fun _ _ => ⟨_, rfl⟩

end Writes

def Recorded (s : Store) (request : AtomicCommitRequest) (result : CommitResult) : Prop :=
  (∃ r ∈ s.decisions, r.commitId = request.commitId ∧ r.outcome = result.outcome ∧
    r.reason = result.reason ∧ r.auditEventId = result.auditEventId) ∨
  ∃ r ∈ s.commitConflicts, r.commitId = request.commitId ∧
    r.conflictingRequestDigest = operationIdentity request none ∧
    result = equivocation request.commitId r.auditEventId

def Undecided (s : Store) (request : AtomicCommitRequest) : Prop :=
  ∃ digest, publicRequestDigest request = .ok digest ∧
    ∀ r ∈ s.requestIndex, r.requestDigest ≠ digest

inductive Answerable (authority : Authority) (s : Store) (request : AtomicCommitRequest)
    (now : Int) : Prop where
  | replayed {row : CommitIndexRow} (hindexed : s.commitIndex? request.commitId = some row)
      (hdigest : row.requestDigest = operationIdentity request none)
  | conflicted {row : CommitIndexRow} {digest : String}
      (hindexed : s.commitIndex? request.commitId = some row)
      (hdigest : row.requestDigest ≠ operationIdentity request none)
      (hpublic : publicRequestDigest request = .ok digest)
      (hclaimable : Claimable s request.commitId (requestClaim request digest))
  | denied {reason : FailureCode} (hindexed : s.commitIndex? request.commitId = none)
      (hundecided : Undecided s request) (hdenied : Denied authority s request none now reason)
      (hnonce : reason = .nonceReplay ↔ (s.nonceOwner? request.nonce).isSome = true)
      (haudit : ¬ s.Audited (denialAudit request reason none))
  | committed {sequence clock : Nat} {payload : Bytes}
      (hindexed : s.commitIndex? request.commitId = none) (hundecided : Undecided s request)
      (hnonce : s.nonceOwner? request.nonce = none) (hsequence : nextSequence s = .ok sequence)
      (hclock : trustedNow now = .ok clock)
      (hchecked : commitError authority s request none
        (certificateOf authority request (toString sequence) clock) = .ok ())
      (hencoded : encodeCertificate (certificateOf authority request (toString sequence) clock)
        = .ok payload)
      (hsigns : Signs authority payload) (hunused : Unused s request none payload)
      (hroom : Room s request.subject)

section Answers

variable {now : Int} {result : CommitResult} {s' : Store}

theorem recorded_of_decidedResult (h : decidedResult s request.commitId = .ok result)
    : Recorded s request result := by
  unfold decidedResult at h
  split at h
  . simp at h
  . next dec hdecision =>
    obtain ⟨hmem, hid⟩ := mem_of_find? hdecision
    refine .inl ⟨dec, hmem, by simpa using hid, ?_⟩
    split at h
    . simp only [bind_eq_ok, exists_unit, pure_inj] at h
      obtain ⟨-, rfl⟩ := h
      exact ⟨rfl, rfl, rfl⟩
    . split at h
      . simp at h
      . cases h
        exact ⟨rfl, rfl, rfl⟩

theorem CommitEffect.recorded (hbooked : Booked s)
    (h : CommitEffect authority s request none now result s') : Recorded s' request result := by
  cases h with
  | replayed hidx hdig hreplay =>
    unfold replay at hreplay
    rw [hidx] at hreplay
    simp only [hdig, ne_eq, not_true_eq_false, decide_false, Bool.false_and, Bool.false_eq_true,
      if_false] at hreplay
    exact recorded_of_decidedResult hreplay
  | conflicted hidx hdig hclaim hconf =>
    obtain ⟨_, -, rfl⟩ := atomicClaim_eq_ok.mp hclaim
    obtain ⟨claimed, hclaimed⟩ := Option.isSome_iff_exists.mp (conflict_claimed hconf)
    obtain ⟨hmem, hkey⟩ := mem_of_find? hclaimed
    simp only [Bool.and_eq_true, decide_eq_true_eq] at hkey
    refine .inr ⟨claimed, hmem, hkey.1, hkey.2, ?_⟩
    rw [conflict_answer hbooked hconf, conflictAnswer,
      ((conflict_booked hbooked hconf).conflicts claimed hmem).2.2, hkey.1, hkey.2]
  | denied hidx hdenied hwr =>
    exact .inl ⟨_, mem_of_insert? hwr.decisions, rfl, rfl, rfl, rfl⟩
  | committed hidx hacc hwr =>
    exact .inl ⟨_, mem_of_insert? hwr.decisions, rfl, rfl, rfl, rfl⟩

theorem undecided_of_insert? (hpub : publicRequestDigest request = .ok digest)
    (h : s.requestIndex.insert? ⟨digest, request.commitId⟩ = some requests)
    : Undecided s request := by
  refine ⟨digest, hpub, fun r hr => ?_⟩
  have hcompat := (check_of_insert? h).2 r hr
  simp only [TableSchema.compatible, Bool.and_eq_true, decide_eq_true_eq] at hcompat
  exact hcompat.1

omit [Platform] in
theorem not_audited_of_insert?
    (h : s.auditEvents.insert? row = some audits) : ¬ s.Audited row.auditEventId := by
  rintro ⟨r, hr, heq⟩
  exact of_decide_eq_true ((check_of_insert? h).2 r hr) heq

theorem CommitWrites.unused {sequence} (hdig : sealed.digest = sha256Digest payload)
    (h : CommitWrites s request none sequence sealed s') : Unused s request none payload := by
  have hcert := (check_of_insert? h.certificates).2
  have hentry := (check_of_insert? h.trustLog).2
  have hevent := (check_of_insert? h.outbox).2
  simp only [TableSchema.compatible, Bool.and_eq_true, decide_eq_true_eq, hdig]
    at hcert hentry hevent
  exact ⟨not_audited_of_insert? h.auditEvents, fun r hr => hdig ▸ (hcert r hr).1.1,
    fun r hr => (hentry r hr).2, fun r hr => (hevent r hr).1.1.1.2⟩

theorem CommitWrites.room {sequence}
    (h : CommitWrites s request none sequence sealed s') : Room s request.subject := by
  constructor
  . have hcheck := (check_of_insert? h.trustLog).1
    simp only [TableSchema.check, Bool.and_eq_true, decide_eq_true_eq] at hcheck
    exact trustRow_sequence_iff.mp hcheck
  . intro output houtput
    obtain ⟨_, houtput', hrefs⟩ := h.commitOutputRefs
    rw [houtput] at houtput'
    cases houtput'
    exact of_decide_eq_true (check_of_insert? hrefs).1

theorem CommitEffect.answerable (h : CommitEffect authority s request none now result s')
    : Answerable authority s request now := by
  cases h with
  | replayed hidx hdig _ => exact .replayed hidx hdig
  | conflicted hidx hdig hclaim hconf =>
    obtain ⟨_, hpub, rfl⟩ := atomicClaim_eq_ok.mp hclaim
    exact .conflicted hidx hdig hpub (conflict_isOk_iff.mp ⟨_, _, hconf⟩)
  | denied hidx hdenied hwr =>
    obtain ⟨_, hpub, hreqs⟩ := hwr.requestIndex
    refine .denied hidx (undecided_of_insert? hpub hreqs) hdenied ?_
      (not_audited_of_insert? hwr.auditEvents)
    rcases hwr.nonce with ⟨owner, howner, hreason, -⟩ | ⟨hnone, hreason, -⟩
    . simp [howner, hreason]
    . simp [hnone, hreason]
  | committed hidx hacc hwr =>
    obtain ⟨_, hpub, hreqs⟩ := hwr.requestIndex
    obtain ⟨_, hclock, rfl⟩ := hacc.certificate_eq
    obtain ⟨_, hsealable⟩ := sealable_of_commitError hacc.checked
    have hdig := (payload_of_sealCertificate hsealable.encoded hacc.sealed_eq).2
    exact .committed hidx (undecided_of_insert? hpub hreqs) hacc.nonce
      hacc.sequence_eq hclock hacc.checked hsealable.encoded
      (hsealable.sealCertificate_isOk_iff.mp ⟨_, hacc.sealed_eq⟩) (hwr.unused hdig)
      hwr.room

theorem Denied.commit_eq (hidx : s.commitIndex? request.commitId = none)
    (hnonce : reason = .nonceReplay ↔ (s.nonceOwner? request.nonce).isSome)
    (h : Denied authority s request none now reason)
    : commit authority s request none now = negative s request reason none := by
  cases h with
  | nonce howner => simp [commit, hidx, commitFresh, howner]
  | check hseq hclock herror =>
    refine commit_eq_negative hidx ?_ hseq hclock herror
    have hcode : ¬ reason = .nonceReplay := by
      rintro rfl
      exact commitError_nonceless herror
    rw [hnonce] at hcode
    simpa using hcode

theorem commit_isOk {sequence clock : Nat} {payload : Bytes} {old : Option String}
    (hbooked : Booked s) (hidx : s.commitIndex? request.commitId = none)
    (hundecided : Undecided s request) (hnonce : s.nonceOwner? request.nonce = none)
    (hseq : nextSequence s = .ok sequence) (hclock : trustedNow now = .ok clock)
    (hchecked : commitError authority s request old
      (certificateOf authority request (toString sequence) clock) = .ok ())
    (henc : encodeCertificate (certificateOf authority request (toString sequence) clock)
      = .ok payload)
    (hsigns : Signs authority payload) (hunused : Unused s request old payload)
    (hroom : Room s request.subject)
    (hdisps : ∃ tables, recordDisposition s (sha256Digest payload) request.nonce old = .ok tables)
    : ∃ sealed result s', commit authority s request old now = .ok (result, s') ∧
        (sealed.payload = payload ∧ sealed.digest = sha256Digest payload) ∧
        CommitWrites s request old sequence sealed s' := by
  have hfresh : ¬ s.Indexed request.commitId := by
    rintro ⟨r, hr, hid⟩
    exact Store.commitIndex?_eq_none.mp hidx r hr hid
  obtain ⟨digest, hpub, hreqs⟩ := hundecided
  obtain ⟨_, hsealable⟩ := sealable_of_commitError hchecked
  obtain rfl := Except.ok.inj (henc.symm.trans hsealable.encoded)
  obtain ⟨sealed, hsealed⟩ := hsealable.sealCertificate_isOk_iff.mpr hsigns
  have hpre := hchecked
  simp only [commitError, bind_eq_ok, exists_unit] at hpre
  obtain ⟨_, _, hpre⟩ := preflight_cases hpre.2
  have hpayload := payload_of_sealCertificate henc hsealed
  obtain ⟨⟨result, s'⟩, hrec⟩ := recordCommit_isOk hbooked hfresh hpub hreqs hnonce hseq hpre rfl
    henc hpayload hunused hroom hdisps
  refine ⟨sealed, result, s', ?_, hpayload, (recordCommit_cases hrec).1⟩
  simp only [commit, hidx, commitFresh, hnonce, Option.isSome_none, Bool.false_eq_true, if_false,
    hseq, hclock, ok_bind, hchecked, Check.failure, hsealed]
  exact hrec

theorem Answerable.atomicCommit_isOk (hbooked : Booked s) (h : Answerable authority s request now)
    : ∃ result s', atomicCommit authority s request now = .ok (result, s') := by
  have hfresh (hidx : s.commitIndex? request.commitId = none) : ¬ s.Indexed request.commitId := by
    rintro ⟨r, hr, hid⟩
    exact Store.commitIndex?_eq_none.mp hidx r hr hid
  cases h with
  | @replayed row hidx hdig =>
    obtain ⟨hmem, hid⟩ := mem_of_find? hidx
    obtain ⟨result, hreplay, -⟩ := recover_of_recorded hbooked
      (show s.Records request.commitId (operationIdentity request none) from
        .inl ⟨row, hmem, by simpa using hid, hdig⟩)
    refine ⟨result, s, ?_⟩
    unfold atomicCommit commit
    rw [hidx]
    simp only [hdig, if_true, hreplay, ok_bind]
    rfl
  | conflicted hidx hdig hpub hclaimable =>
    obtain ⟨result, s', hconf⟩ := conflict_isOk_iff.mpr hclaimable
    rw [atomicCommit_of_conflict hidx hdig]
    exact ⟨result, s', bind_eq_ok.mpr ⟨_, atomicClaim_eq_ok.mpr ⟨_, hpub, rfl⟩, hconf⟩⟩
  | denied hidx hundecided hdenied hnonce haudit =>
    obtain ⟨digest, hpub, hreqs⟩ := hundecided
    have hother {cid : String} (h : s.Indexed cid) : cid ≠ request.commitId :=
      fun heq => hfresh hidx (heq ▸ h)
    have hunaudited {audit : String} (h : s.Audited audit)
        : audit ≠ denialAudit request _ none := fun heq => haudit (heq ▸ h)
    obtain ⟨⟨result, s'⟩, hnegative⟩ := negative_isOk hpub hidx
      (fun r hr => ⟨hreqs r hr, hother (hbooked.requests r hr)⟩) hnonce
      (fun r hr => hother (hbooked.nonces r hr)) (fun r hr => hunaudited ⟨r, hr, rfl⟩)
      fun r hr => (hbooked.decisions r hr).imp hother hunaudited
    rw [atomicCommit, hdenied.commit_eq hidx hnonce]
    exact ⟨result, s', hnegative⟩
  | committed hidx hundecided hnonce hseq hclock hchecked henc hsigns hunused hroom =>
    obtain ⟨_, result, s', hcommit, -⟩ := commit_isOk hbooked hidx hundecided hnonce hseq hclock
      hchecked henc hsigns hunused hroom
      (isOk_bind (insertDisposition_isOk fun r hr => by
        obtain ⟨c, hc, heq⟩ := hbooked.dispositions r hr
        rw [← heq]
        exact hunused.certificate c hc) fun _ _ => ⟨_, rfl⟩)
    exact ⟨result, s', hcommit⟩

/--
A commit request is answered, and its answer recorded, exactly if it replays its own operation, its
claim of another one's commit id is new or on record, or the rows of its denial or of its sealed
commit are new and its checks raise nothing.
-/
theorem atomicCommit_recorded_iff (authority : Authority) (s : Store) (h : Reachable authority s)
    (request : AtomicCommitRequest) (now : Int)
    : (∃ result s', atomicCommit authority s request now = .ok (result, s') ∧
        Recorded s' request result) ↔ Answerable authority s request now := by
  have hbooked := h.booked
  constructor
  . rintro ⟨result, s', hcommit, -⟩
    exact (commit_effect hcommit).answerable
  . intro hanswerable
    obtain ⟨result, s', hcommit⟩ := hanswerable.atomicCommit_isOk hbooked
    exact ⟨result, s', hcommit, (commit_effect hcommit).recorded hbooked⟩

end Answers

end Commits

end Apcc

namespace Apcc.Sample

theorem Draft.atomicCommit_decided (d : Draft) {s nonce nonce' commitId owner}
    (hwr : DenialWrites .empty (d.spoiltRequest nonce) .statementDigestMismatch none owner s)
    (hother : commitId ≠ "commit")
    : ¬ ∃ result s', atomicCommit authority s (request d.spoiltEvidence commitId nonce') 0
        = .ok (result, s') := by
  have hindex : s.commitIndex? commitId = none := by
    rw [Store.commitIndex?_eq_none]
    intro r hr
    rcases (Table.mem_insert? hwr.commitIndex).mp hr with hr | rfl
    . simp [Store.empty, Table.empty, Table.mem_def] at hr
    . exact hother.symm
  have hdecided : ¬ Undecided s (request d.spoiltEvidence commitId nonce') := by
    rintro ⟨digest, hdig, hnew⟩
    rw [publicRequestDigest_request (show canonicalStatement d.spoiltEvidence.producerStatement = _
      from d.canonicalStatement_evidence.1)] at hdig
    exact hnew _ ((d.mem_requestIndex hwr).mpr rfl) (Except.ok.inj hdig)
  rintro ⟨result, s', hcommit⟩
  cases (commit_effect hcommit).answerable with
  | replayed hidx => exact absurd (hindex.symm.trans hidx) (by simp)
  | conflicted hidx => exact absurd (hindex.symm.trans hidx) (by simp)
  | denied _ hundecided => exact hdecided hundecided
  | committed _ hundecided => exact hdecided hundecided

/--
A request that reuses the producer statement of a denied one under another commit id meets the key
of the request index and is not answered.
-/
theorem atomicCommit_reused
    : ∃ s, Reachable authority s ∧
        (request rootDraft.spoiltEvidence "other" "second").evidence.ExactKeys ∧
        ¬ ∃ result s',
          atomicCommit authority s (request rootDraft.spoiltEvidence "other" "second") 0
          = .ok (result, s') := by
  obtain ⟨_, s, hreach, hwr⟩ := rootDraft.deny_spoiltRequest "first"
  exact ⟨s, hreach, rootDraft.exactKeys_spoiltEvidence,
    rootDraft.atomicCommit_decided hwr (by decide)⟩

theorem Draft.answerable_spoiltRequest (d : Draft) (nonce : String)
    : Answerable authority .empty (d.spoiltRequest nonce) 0 := by
  obtain ⟨hprod, hpol, hreg⟩ := d.canonicalStatement_evidence
  have herror := commitError_of_empty
    (show canonicalStatement d.spoiltEvidence.producerStatement = _ from hprod)
    (show canonicalStatement d.spoiltEvidence.policyStatement = _ from hpol)
    (show canonicalStatement d.spoiltEvidence.authorityStatement = _ from hreg) rfl .empty
    "commit" nonce (toString 1) 0
  refine .denied rfl ⟨_, d.publicRequestDigest_spoiltRequest nonce, ?_⟩
    (.check rfl rfl herror) ?_ ?_
  . simp [Store.empty, Table.empty, Table.mem_def]
  . simp [Store.empty, Table.empty, Store.nonceOwner?, Table.find?]
  . rintro ⟨r, hr, -⟩
    simp [Store.empty, Table.empty, Table.mem_def] at hr

theorem atomicCommit_recorded_iff_empty
    : Reachable authority .empty ∧
      ∃ result s', atomicCommit authority .empty (rootDraft.spoiltRequest "nonce") 0
          = .ok (result, s') ∧ Recorded s' (rootDraft.spoiltRequest "nonce") result :=
  ⟨reachable_empty authority,
    (atomicCommit_recorded_iff authority .empty (reachable_empty authority)
      (rootDraft.spoiltRequest "nonce") 0).mpr (rootDraft.answerable_spoiltRequest "nonce")⟩

end Apcc.Sample
