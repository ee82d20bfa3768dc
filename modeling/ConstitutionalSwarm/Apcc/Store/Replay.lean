import ConstitutionalSwarm.Apcc.Store.Growth
import ConstitutionalSwarm.Apcc.Store.Progress

namespace Apcc

open Table

theorem Grows.commitIndex?_eq (h : Grows s t) (hrow : s.commitIndex? commitId = some row)
    : t.commitIndex? commitId = some row :=
  h.commitIndex.find?_eq_some hrow

theorem Grows.decidedResult_eq (h : Grows s t) (hres : decidedResult s commitId = .ok result)
    : decidedResult t commitId = .ok result := by
  unfold decidedResult at hres ⊢
  split at hres
  . simp at hres
  . next decision hdecision =>
    have hdecision' : t.decisions.find? (·.commitId = commitId) = some decision :=
      h.decisions.find?_eq_some hdecision
    rw [hdecision']
    dsimp only
    split at hres
    . next hout =>
      rw [if_pos hout]
      exact hres
    . next hout =>
      rw [if_neg hout]
      split at hres
      . simp at hres
      . next row hrow =>
        have hrow' : t.certificates.find? (·.commitId = commitId) = some row :=
          h.certificates.find?_eq_some hrow
        rw [hrow']
        exact hres

theorem Grows.outbox_find? (h : Grows s t) {row}
    (hrow : s.outbox.find? (fun r => r.eventKind = .commit && r.operationId = commitId) = some row)
    : ∃ row', t.outbox.find? (fun r => r.eventKind = .commit && r.operationId = commitId) =
        some row' ∧
      row'.eventId = row.eventId := by
  have hmap (u : Store) : (u.outbox.rows.map OutboxRow.identity).find?
          (fun i => i.2.2.1 = .commit && i.2.2.2.1 = commitId) =
      (u.outbox.find? fun r => r.eventKind = .commit && r.operationId = commitId).map
        OutboxRow.identity := by
    rw [List.find?_map]
    rfl
  have hfound := h.outbox.find?_eq_some ((hmap s).trans (congrArg _ hrow))
  rw [hmap, Option.map_eq_some_iff] at hfound
  obtain ⟨row', hrow', hident⟩ := hfound
  exact ⟨row', hrow', congrArg (·.2.1) hident⟩

variable [Platform] {authority : Authority} {s s' t : Store}

variable {commitId requestDigest : String} {row : CommitIndexRow} {result : CommitResult}
  {request : AtomicCommitRequest} {supersedeOld : Option String} {now : Int} {claim : Claim}

theorem replay_of_indexed (hrow : s.commitIndex? commitId = some row)
    (hdig : row.requestDigest = requestDigest)
    : replay s commitId requestDigest = decidedResult s commitId := by
  unfold replay
  rw [hrow]
  simp [hdig]

theorem commit_of_indexed (hrow : s.commitIndex? request.commitId = some row)
    (hdig : row.requestDigest = operationIdentity request supersedeOld)
    (hres : decidedResult s request.commitId = .ok result)
    : commit authority s request supersedeOld now = .ok (result, s) := by
  unfold commit
  rw [hrow]
  dsimp only
  rw [if_pos hdig, replay_of_indexed hrow hdig, hres]
  rfl

theorem conflict_of_original (orig : Original s commitId)
    : conflict s commitId claim =
      let row := orig.claimRow claim
      match s.commitConflicts.find? (·.identity = row.identity) with
      | some ex => .ok (equivocation commitId ex.auditEventId, s)
      | none => do
        let commitConflicts ← insert s.commitConflicts row
        let auditEvents ← insert s.auditEvents
          (auditRow row.auditEventId FailureCode.commitIdEquivocation.value commitId
            (oldCertificateDetail claim.supersedeOld))
        return (equivocation commitId row.auditEventId,
          { s with commitConflicts, auditEvents }) := by
  unfold conflict
  rw [orig.indexed]
  dsimp only
  rw [orig.parsed, ok_bind]
  dsimp only
  cases hpub : s.requestIndex.find? (·.commitId = commitId) with
  | none => simpa [hpub] using orig.published
  | some row =>
    have hdig : row.requestDigest = orig.publicDigest := by
      simpa [hpub] using orig.published
    dsimp only
    rw [hdig]
    rfl

theorem conflict_of_known (orig : Original s commitId)
    (hexist : s.commitConflicts.find? (·.identity = (orig.claimRow claim).identity)
      = some ex)
    : conflict s commitId claim = .ok (equivocation commitId ex.auditEventId, s) := by
  rw [conflict_of_original orig]
  dsimp only
  rw [hexist]

def Original.grows (h : Grows s t) {commitId : String} (original : Original s commitId)
    : Original t commitId where
  row := original.row
  request := original.request
  old := original.old
  publicDigest := original.publicDigest
  indexed := h.commitIndex?_eq original.indexed
  parsed := original.parsed
  published := by
    obtain ⟨row, hrow, hdigest⟩ := Option.map_eq_some_iff.mp original.published
    have hrow' : t.requestIndex.find? (·.commitId = commitId) = some row :=
      h.requestIndex.find?_eq_some hrow
    rw [hrow', Option.map_some, hdigest]

theorem conflict_replay (h : conflict s commitId claim = .ok (result, s')) (hgrows : Grows s' t)
    : conflict t commitId claim = .ok (result, t) := by
  have hgrows' : Grows s t := (conflict_grows h).trans hgrows
  obtain ⟨orig, ⟨ex, hexist, rfl, rfl⟩ | ⟨hnone, rfl, hwr⟩⟩ := conflict_cases h
  . exact conflict_of_known (orig.grows hgrows) (hgrows.commitConflicts.find?_eq_some hexist)
  . have hfound : s'.commitConflicts.find? (·.identity = (orig.claimRow claim).identity)
        = some (orig.claimRow claim) :=
      find?_of_insert? hwr.commitConflicts (by simp) (find?_eq_none.mp hnone)
    exact conflict_of_known (orig.grows hgrows') (hgrows.commitConflicts.find?_eq_some hfound)

omit [Platform] in
theorem commitIndex?_of_insert? (h : s.commitIndex.insert? row = some s'.commitIndex)
    : s'.commitIndex? row.commitId = some row :=
  find?_key CommitIndexRow.commitId (mem_of_insert? h)

theorem DenialWrites.decidedResult_eq (h : DenialWrites s request reason supersedeOld nonceOwner s')
    : decidedResult s' request.commitId =
      .ok (denialResult (denialRow request reason supersedeOld nonceOwner)) := by
  have hfind : s'.decisions.find? (·.commitId = request.commitId)
      = some (denialRow request reason supersedeOld nonceOwner) :=
    find?_key DecisionRow.commitId (mem_of_insert? h.decisions)
  have hout : (denialRow request reason supersedeOld nonceOwner).outcome ≠ .committed := by
    by_cases hreason : reason = .nodeVersionConflict <;> simp [denialRow, hreason]
  have hreason : (FailureCode.ofValue?
      (denialRow request reason supersedeOld nonceOwner).reason).isSome = true :=
    FailureCode.ofValue?_value_isSome reason
  unfold decidedResult
  rw [hfind]
  dsimp only
  rw [if_pos hout, hreason]
  rfl

theorem CommitWrites.decidedResult_eq {seq}
    (h : CommitWrites s request supersedeOld seq cert s')
    : decidedResult s' request.commitId =
      .ok (committedResult request supersedeOld cert) := by
  have hdecision : s'.decisions.find? (·.commitId = request.commitId)
      = some (committedRow request supersedeOld cert) :=
    find?_key DecisionRow.commitId (mem_of_insert? h.decisions)
  have hcert : s'.certificates.find? (·.commitId = request.commitId)
      = some (certificateRow request seq cert) :=
    find?_key CertificateRow.commitId (mem_of_insert? h.certificates)
  unfold decidedResult
  rw [hdecision]
  dsimp only
  rw [if_neg (by simp [committedRow]), hcert]
  rfl

theorem commit_replay
    (h : commit authority s request supersedeOld now = .ok (result, s')) (hgrows : Grows s' t)
    : commit authority t request supersedeOld now' = .ok (result, t) := by
  cases commit_effect h with
  | replayed hidx hdig hreplay =>
    rw [replay_of_indexed hidx hdig] at hreplay
    exact commit_of_indexed (hgrows.commitIndex?_eq hidx) hdig (hgrows.decidedResult_eq hreplay)
  | conflicted hidx hdig hclaim hconf =>
    have hidx' := ((conflict_grows hconf).trans hgrows).commitIndex?_eq hidx
    unfold commit
    rw [hidx']
    dsimp only
    rw [if_neg hdig, hclaim]
    exact conflict_replay hconf hgrows
  | denied _ _ hwr =>
    exact commit_of_indexed (hgrows.commitIndex?_eq (commitIndex?_of_insert? hwr.commitIndex)) rfl
      (hgrows.decidedResult_eq hwr.decidedResult_eq)
  | committed _ _ hwr =>
    exact commit_of_indexed (hgrows.commitIndex?_eq (commitIndex?_of_insert? hwr.commitIndex)) rfl
      (hgrows.decidedResult_eq hwr.decidedResult_eq)

theorem conflict_conflicts (hidx : s.commitIndex? commitId = some row)
    (hdig : row.requestDigest ≠ claim.requestDigest)
    (h : conflict s commitId claim = .ok (result, s')) (hr : r ∈ s'.commitConflicts)
    : r ∈ s.commitConflicts ∨ ∃ row, s.commitIndex? r.commitId = some row ∧
      row.requestDigest ≠ r.conflictingRequestDigest := by
  obtain ⟨orig, ⟨_, -, -, rfl⟩ | ⟨-, -, hwr⟩⟩ := conflict_cases h
  . exact .inl hr
  . rcases (mem_insert? hwr.commitConflicts).mp hr with hr | rfl
    . exact .inl hr
    . refine .inr ⟨row, ?_, hdig⟩
      rw [← hidx]
      exact congrArg s.commitIndex? orig.commitId_eq

theorem atomicClaim_requestDigest (h : atomicClaim request supersedeOld = .ok claim)
    : claim.requestDigest = operationIdentity request supersedeOld := by
  simp only [atomicClaim, bind_eq_ok, pure_inj] at h
  obtain ⟨_, -, rfl⟩ := h
  rfl

theorem step_conflicts (h : step authority s op = .ok s') (hr : r ∈ s'.commitConflicts)
    : r ∈ s.commitConflicts ∨ ∃ row, s.commitIndex? r.commitId = some row ∧
      row.requestDigest ≠ r.conflictingRequestDigest := by
  cases step_effect h with
  | unchanged => exact .inl hr
  | staged hwr =>
    rw [hwr.unchanged] at hr
    exact .inl hr
  | advanced hwr =>
    rw [hwr.unchanged] at hr
    exact .inl hr
  | committed _ heffect =>
    cases heffect with
    | replayed => exact .inl hr
    | conflicted hidx hdig hclaim hconf =>
      exact conflict_conflicts hidx (atomicClaim_requestDigest hclaim ▸ hdig) hconf hr
    | denied _ _ hwr =>
      rw [hwr.unchanged] at hr
      exact .inl hr
    | committed _ _ hwr =>
      rw [hwr.unchanged] at hr
      exact .inl hr
  | revoked _ hfenced hwr =>
    rw [hwr.unchanged] at hr
    cases hfenced <;> exact .inl hr
  | recovered hidx hdig hconf =>
    exact conflict_conflicts hidx hdig hconf hr
  | leased hupd =>
    rw [hupd.unchanged] at hr
    exact .inl hr
  | delivered hupd _ =>
    rw [hupd.unchanged] at hr
    exact .inl hr

structure Settled (s : Store) (commitId requestDigest : String) : Prop where
  indexed : ∃ row, s.commitIndex? commitId = some row ∧ row.requestDigest = requestDigest
  unclaimed : ∀ r ∈ s.commitConflicts, r.commitId = commitId →
    r.conflictingRequestDigest ≠ requestDigest

theorem Settled.step (hsettled : Settled s commitId requestDigest)
    (h : step authority s op = .ok s')
    : Settled s' commitId requestDigest := by
  obtain ⟨row, hrow, hdig⟩ := hsettled.indexed
  refine ⟨⟨row, (step_grows h).commitIndex?_eq hrow, hdig⟩, fun r hr hid => ?_⟩
  rcases step_conflicts h hr with hr | ⟨row', hrow', hne⟩
  . exact hsettled.unclaimed r hr hid
  . rw [hid, hrow] at hrow'
    rw [← hdig, Option.some.inj hrow']
    exact hne.symm

theorem Runs.grows (h : Runs authority s t) : Grows s t :=
  Transition.Run.related Grows.refl (fun _ _ _ => Grows.trans) (fun _ _ _ _ => step_grows) h

theorem Runs.settled (h : Runs authority s t) (hsettled : Settled s commitId requestDigest)
    : Settled t commitId requestDigest :=
  Transition.Run.invariant (p := fun s => Settled s commitId requestDigest)
    (fun _ _ _ _ hstep hs => hs.step hstep) h hsettled

def claimed? (s : Store) (commitId requestDigest : String) : Option ConflictRow :=
  s.commitConflicts.find? fun r =>
    r.commitId = commitId && r.conflictingRequestDigest = requestDigest

omit [Platform] in
theorem claimed?_isSome {row} (hrow : row ∈ s.commitConflicts)
    (hid : row.commitId = commitId) (hdig : row.conflictingRequestDigest = requestDigest)
    : (claimed? s commitId requestDigest).isSome := by
  rw [claimed?, find?, List.find?_isSome]
  exact ⟨row, hrow, by simp [hid, hdig]⟩

theorem conflict_claimed (h : conflict s commitId claim = .ok (result, s'))
    : (claimed? s' commitId claim.requestDigest).isSome := by
  obtain ⟨orig, ⟨ex, hexist, -, rfl⟩ | ⟨-, -, hwr⟩⟩ := conflict_cases h
  . obtain ⟨hmem, hident⟩ := mem_of_find? hexist
    simp only [decide_eq_true_eq, ConflictRow.identity, List.cons.injEq] at hident
    exact claimed?_isSome hmem (hident.1.trans orig.commitId_eq) hident.2.2.2.2.1
  . exact claimed?_isSome (mem_of_insert? hwr.commitConflicts) orig.commitId_eq rfl

theorem supersede_recorded {request answer}
    (h : supersede authority s request now = .ok (answer, s'))
    : (claimed? s' request.newProposal.commitId (operationIdentity request.newProposal
        (some request.oldCertificateDigest))).isSome ∨
      Settled s' request.newProposal.commitId (operationIdentity request.newProposal
        (some request.oldCertificateDigest)) := by
  generalize hid : request.newProposal.commitId = commitId
  generalize hdig :
    operationIdentity request.newProposal (some request.oldCertificateDigest) = digest
  cases hclaimed : claimed? s' commitId digest with
  | some _ => exact .inl rfl
  | none =>
    refine .inr ⟨?_, fun r hr hrid hrdigest => ?_⟩
    . unfold supersede at h
      dsimp only at h
      rw [hid, hdig] at h
      split at h
      . next hany =>
        simp only [pure_inj, Prod.mk.injEq] at h
        obtain ⟨-, rfl⟩ := h
        simp only [any, List.any_eq_true, Bool.and_eq_true, decide_eq_true_eq] at hany
        obtain ⟨row, hrow, hrowid, hrowdigest⟩ := hany
        exact ⟨row, hrowid ▸ find?_key CommitIndexRow.commitId hrow, hrowdigest⟩
      . simp only [bind_eq_ok, pure_inj, Prod.mk.injEq, Prod.exists] at h
        obtain ⟨_, _, hcommit, -, rfl⟩ := h
        cases commit_effect hcommit with
        | replayed hidx hrow _ => exact ⟨_, hid ▸ hidx, hrow.trans hdig⟩
        | conflicted _ _ hclaim hconf =>
          have hsome := conflict_claimed hconf
          rw [atomicClaim_requestDigest hclaim, hid, hdig, hclaimed] at hsome
          simp at hsome
        | denied _ _ hwr =>
          refine ⟨indexRow request.newProposal (some request.oldCertificateDigest), ?_, hdig⟩
          rw [← hid]
          exact commitIndex?_of_insert? hwr.commitIndex
        | committed _ _ hwr =>
          refine ⟨indexRow request.newProposal (some request.oldCertificateDigest), ?_, hdig⟩
          rw [← hid]
          exact commitIndex?_of_insert? hwr.commitIndex
    . have hsome := claimed?_isSome hr hrid hrdigest
      rw [hclaimed] at hsome
      simp at hsome

theorem supersessionAnswer_eq (hgrows : Grows s t)
    (hunclaimed : claimed? s commitId requestDigest = none →
      claimed? t commitId requestDigest = none ∧
        ∃ row, s.commitIndex? commitId = some row ∧ row.requestDigest = requestDigest)
    (h : supersessionAnswer s commitId requestDigest = .ok result)
    : supersessionAnswer t commitId requestDigest = .ok result := by
  unfold supersessionAnswer at h ⊢
  dsimp only at h ⊢
  cases hclaimed : claimed? s commitId requestDigest with
  | some row =>
    have hclaimed' : claimed? t commitId requestDigest = some row :=
      hgrows.commitConflicts.find?_eq_some hclaimed
    unfold claimed? at hclaimed hclaimed'
    rw [hclaimed] at h
    rw [hclaimed']
    exact h
  | none =>
    obtain ⟨hclaimed', row, hrow, -⟩ := hunclaimed hclaimed
    unfold claimed? at hclaimed hclaimed'
    rw [hclaimed, hrow] at h
    rw [hclaimed', hgrows.commitIndex?_eq hrow]
    dsimp only at h ⊢
    rw [replay_of_indexed hrow rfl] at h
    rw [replay_of_indexed (hgrows.commitIndex?_eq hrow) rfl]
    exact hgrows.decidedResult_eq h

theorem supersessionReplay_eq (hgrows : Grows s t)
    (hunclaimed : claimed? s commitId requestDigest = none →
      claimed? t commitId requestDigest = none ∧
        ∃ row, s.commitIndex? commitId = some row ∧ row.requestDigest = requestDigest)
    (h : supersessionReplay s commitId requestDigest = .ok answer)
    : supersessionReplay t commitId requestDigest = .ok answer := by
  simp only [supersessionReplay, bind_eq_ok] at h ⊢
  obtain ⟨result, hres, h⟩ := h
  refine ⟨result, supersessionAnswer_eq hgrows hunclaimed hres, ?_⟩
  split at h
  . simp at h
  . next audit haudit =>
    have haudit' : t.auditEvents.find? (·.auditEventId = result.auditEventId) = some audit :=
      hgrows.auditEvents.find?_eq_some haudit
    rw [haudit']
    dsimp only
    rw [bind_eq_ok] at h ⊢
    obtain ⟨old, hold, h⟩ := h
    refine ⟨old, hold, ?_⟩
    split at h
    . next hout =>
      rw [if_pos hout]
      exact h
    . next hout =>
      rw [if_neg hout]
      split at h
      . next edge event hedge hevent =>
        have hedge' : t.supersessionEdges.find? (·.newDigest = result.certificateDigest.getD "")
            = some edge :=
          hgrows.supersessionEdges.find?_eq_some hedge
        obtain ⟨_, hevent', hid⟩ := hgrows.outbox_find? hevent
        rw [hedge', hevent']
        dsimp only
        rw [hid]
        exact h
      . simp at h

theorem supersede_replay {request} {now' : Int} {answer}
    (h : supersede authority s request now = .ok (.ok answer, s')) (hrun : Runs authority s' t)
    : supersede authority t request now' = .ok (.ok answer, t) := by
  have hgrows := hrun.grows
  obtain ⟨hans, -⟩ := supersede_cases h
  have hreplay : supersessionReplay t request.newProposal.commitId (operationIdentity
      request.newProposal (some request.oldCertificateDigest)) = .ok answer := by
    refine supersessionReplay_eq hgrows (fun hnone => ?_) hans.symm
    rcases supersede_recorded h with hsome | hsettled
    . rw [hnone] at hsome
      simp at hsome
    . refine ⟨?_, hsettled.indexed⟩
      rw [claimed?, find?_eq_none]
      intro r hr
      by_cases hid : r.commitId = request.newProposal.commitId
      . simp [(hrun.settled hsettled).unclaimed r hr hid]
      . simp [hid]
  unfold supersede
  dsimp only
  split
  . rw [hreplay]
    rfl
  . next hany =>
    have hcommit : ∃ result, commit authority s request.newProposal
        (some request.oldCertificateDigest) now = .ok (result, s') := by
      unfold supersede at h
      dsimp only at h
      split at h
      . next hany' =>
        simp only [pure_inj, Prod.mk.injEq] at h
        obtain ⟨-, rfl⟩ := h
        simp only [any, List.any_eq_true] at hany hany'
        obtain ⟨row, hrow, hp⟩ := hany'
        exact absurd ⟨row, hgrows.commitIndex.subset hrow, hp⟩ hany
      . simp only [bind_eq_ok, pure_inj, Prod.mk.injEq, Prod.exists] at h
        obtain ⟨result, _, hcommit, -, rfl⟩ := h
        exact ⟨result, hcommit⟩
    obtain ⟨result, hcommit⟩ := hcommit
    rw [commit_replay hcommit hgrows, ok_bind]
    dsimp only
    rw [hreplay]
    rfl

/--
Exact replay: whatever a commit or a supersession has answered, it answers again after any run, and
the store stays as it is.
-/
theorem exact_replay (authority : Authority) (s : Store)
    : (∀ request now result s', atomicCommit authority s request now = .ok (result, s') →
        ∀ t, Runs authority s' t → ∀ now',
          atomicCommit authority t request now' = .ok (result, t)) ∧
      (∀ request now answer s', supersede authority s request now = .ok (.ok answer, s') →
        ∀ t, Runs authority s' t → ∀ now',
          supersede authority t request now' = .ok (.ok answer, t)) :=
  ⟨fun _ _ _ _ h _ hrun _ => commit_replay h hrun.grows,
    fun _ _ _ _ h _ hrun _ => supersede_replay h hrun⟩

end Apcc

namespace Apcc.Sample

theorem forall_mem_empty {α : Type} [TableSchema α] {p : α → Prop}
    : ∀ r ∈ (.empty : Table α), p r := by
  simp [Table.mem_def, Table.empty]

theorem utf8ByteSize_sha256Digest (value : Bytes) : (sha256Digest value).utf8ByteSize = 43 := by
  have hplain : isPlain (sha256Digest value) = true := isPlain_encode _
  rw [utf8ByteSize_of_isPlain hplain, Draft.length_digest]

theorem sha256Digest_ne {a b : Bytes} (ha : a.length < 2 ^ 64) (hb : b.length < 2 ^ 64)
    (hne : a.length ≠ b.length) : sha256Digest a ≠ sha256Digest b :=
  fun h => hne (length_eq_of_sha256Digest h ha hb)

theorem canonicalStatement_bareEvidence
    : canonicalStatement bareEvidence.producerStatement
        = .ok (bareEvidence.producerStatement.toObject.dumps false).encodeUTF8 ∧
      (bareEvidence.producerStatement.toObject.dumps false).encodeUTF8.length < 500 := by
  refine ⟨rfl, ?_⟩
  rw [length_dumps_of_isPlainValue (by decide)]
  decide

theorem denialRow_auditEventId [Platform] (request reason old owner)
    : (denialRow request reason old owner).auditEventId = denialAudit request reason old := rfl

theorem denialAudit_ne
    : denialAudit (request bareEvidence "commit" "nonce") .statementDigestMismatch none ≠
      denialAudit (request rootDraft.spoiltEvidence "other" "nonce") .nonceReplay none := by
  have hconstants : "DENIED".utf8ByteSize = 6 ∧ "\x00".utf8ByteSize = 1 ∧
      "commit".utf8ByteSize = 6 ∧ "other".utf8ByteSize = 5 ∧
      FailureCode.statementDigestMismatch.value.utf8ByteSize = 25 ∧
      FailureCode.nonceReplay.value.utf8ByteSize = 12 := by decide
  have haudit (evidence commitId) {reason : FailureCode} (h : reason ≠ .nodeVersionConflict)
      : denialAudit (request evidence commitId "nonce") reason none = sha256Digest ("DENIED" ++
          "\x00" ++ "\x00".intercalate [commitId,
          operationIdentity (request evidence commitId "nonce") none,
          reason.value]).encodeUTF8 := by
    rw [denialAudit, if_neg h]
    rfl
  rw [haudit _ _ (by decide), haudit _ _ (by decide)]
  apply sha256Digest_ne <;>
  . simp only [String.intercalate_cons_cons, String.intercalate_singleton,
      String.length_encodeUTF8, String.utf8ByteSize_append, operationIdentity,
      utf8ByteSize_sha256Digest, hconstants]
    decide

/-- A nonce that a denied request has spent, and another request that is denied for its replay. -/
theorem exists_replayed
    : ∃ first owner s owner' t,
        atomicCommit authority .empty (request bareEvidence "commit" "nonce") 0 = .ok (first, s) ∧
        DenialWrites .empty (request bareEvidence "commit" "nonce") .statementDigestMismatch none
          owner s ∧
        step authority s (.atomicCommit (request rootDraft.spoiltEvidence "other" "nonce") 0)
          = .ok t ∧
        DenialWrites s (request rootDraft.spoiltEvidence "other" "nonce") .nonceReplay none
          owner' t := by
  obtain ⟨hprod, hlen⟩ := canonicalStatement_bareEvidence
  have hprod' : canonicalStatement rootDraft.spoiltEvidence.producerStatement = _ :=
    rootDraft.canonicalStatement_evidence.1
  obtain ⟨first, s, hfirst, hnegative⟩ := atomicCommit_isOk hprod rfl rfl rfl "commit" "nonce"
  obtain ⟨owner, h, -⟩ := negative_cases hnegative
  obtain ⟨digest, hdigest, hrequests⟩ := h.requestIndex
  obtain rfl := Except.ok.inj ((publicRequestDigest_request hprod _ _).symm.trans hdigest)
  have hne : "commit" ≠ "other" := by decide
  obtain ⟨hspent, hnonces⟩ : (s.nonceOwner? "nonce").isSome = true ∧
      ∀ r ∈ s.nonceLedger, r.commitId ≠ "other" := by
    rcases h.nonce with ⟨_, howner, -⟩ | ⟨-, -, -, hinsert⟩
    . cases howner
    . refine ⟨?_, Table.forall_mem_of_insert? hinsert forall_mem_empty hne⟩
      rw [Store.nonceOwner?, Table.find?, Table.rows_of_insert? hinsert]
      rfl
  have hindex : s.commitIndex? "other" = none :=
    Store.commitIndex?_eq_none.mpr (Table.forall_mem_of_insert? h.commitIndex forall_mem_empty hne)
  have hdigests : sha256Digest (bareEvidence.producerStatement.toObject.dumps false).encodeUTF8 ≠
      Draft.statementDigest rootDraft.producerStatement := by
    have hsize := length_dumps_of_isPlainValue rootDraft.isPlainValue_statements.1
    rw [rootDraft.textLength_statements.1] at hsize
    have hids : rootDraft.nodeId.length + rootDraft.commitId.length = 12 := by decide
    apply sha256Digest_ne <;> omega
  have haudit := denialAudit_ne
  rw [← denialRow_auditEventId _ _ _ owner] at haudit
  obtain ⟨⟨second, t⟩, hnegative'⟩ : ∃ answer, negative s (request rootDraft.spoiltEvidence "other"
      "nonce") .nonceReplay none = .ok answer :=
    negative_isOk (publicRequestDigest_request hprod' "other" "nonce") hindex
      (Table.forall_mem_of_insert? hrequests forall_mem_empty ⟨hdigests, hne⟩)
      ⟨fun _ => hspent, fun _ => rfl⟩ hnonces
      (Table.forall_mem_of_insert? h.auditEvents forall_mem_empty haudit)
      (Table.forall_mem_of_insert? h.decisions forall_mem_empty ⟨hne, haudit⟩)
  obtain ⟨owner', h', -⟩ := negative_cases hnegative'
  have hcommit : atomicCommit authority s (request rootDraft.spoiltEvidence "other" "nonce") 0
      = .ok (second, t) := by
    rw [← hnegative', atomicCommit, commit, show s.commitIndex? (request _ "other" _).commitId = _
      from hindex]
    dsimp only
    rw [commitFresh, show (s.nonceOwner? (request _ _ "nonce").nonce).isSome = _ from hspent]
    rfl
  exact ⟨first, owner, s, owner', t, hfirst, h, map_eq_ok.mpr ⟨_, hcommit, rfl⟩, h'⟩

theorem exact_replay_bareRequest
    : ∃ result s' t, atomicCommit authority .empty (request bareEvidence "commit" "nonce") 0
        = .ok (result, s') ∧
      step authority s' (.atomicCommit (request rootDraft.spoiltEvidence "other" "nonce") 0)
        = .ok t ∧
      atomicCommit authority t (request bareEvidence "commit" "nonce") 1 = .ok (result, t) := by
  obtain ⟨result, _, s', _, t, h, -, hstep, -⟩ := exists_replayed
  exact ⟨result, s', t, h, hstep,
    (exact_replay authority .empty).1 _ _ _ _ h t (.tail (.refl s') trivial hstep) 1⟩

end Apcc.Sample
