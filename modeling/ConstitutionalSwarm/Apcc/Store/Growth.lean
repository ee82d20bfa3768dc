import ConstitutionalSwarm.Apcc.Store.Effects

namespace Apcc

open List

def OutboxRow.identity
    (r : OutboxRow) : Nat × String × OutboxKind × String × Bytes × String × Nat :=
  (r.eventSequence, r.eventId, r.eventKind, r.operationId, r.eventJson, r.auditEventId,
    r.trustSequence)

structure Grows (s s' : Store) : Prop where
  commitIndex : s.commitIndex.rows <+: s'.commitIndex.rows
  requestIndex : s.requestIndex.rows <+: s'.requestIndex.rows
  nonceLedger : s.nonceLedger.rows <+: s'.nonceLedger.rows
  evidenceRefs : s.evidenceRefs.rows <+: s'.evidenceRefs.rows
  certificates : s.certificates.rows <+: s'.certificates.rows
  commitOutputRefs : s.commitOutputRefs.rows <+: s'.commitOutputRefs.rows
  auditEvents : s.auditEvents.rows <+: s'.auditEvents.rows
  decisions : s.decisions.rows <+: s'.decisions.rows
  certificateDispositions : s.certificateDispositions.rows <+: s'.certificateDispositions.rows
  predecessorEdges : s.predecessorEdges.rows <+: s'.predecessorEdges.rows
  supersessionEdges : s.supersessionEdges.rows <+: s'.supersessionEdges.rows
  trustLog : s.trustLog.rows <+: s'.trustLog.rows
  controlEvents : s.controlEvents.rows <+: s'.controlEvents.rows
  commitConflicts : s.commitConflicts.rows <+: s'.commitConflicts.rows
  outbox : s.outbox.rows.map OutboxRow.identity <+: s'.outbox.rows.map OutboxRow.identity

namespace Grows

variable {s t u : Store}

theorem refl (s : Store) : Grows s s :=
  ⟨prefix_rfl, prefix_rfl, prefix_rfl, prefix_rfl, prefix_rfl,
    prefix_rfl, prefix_rfl, prefix_rfl, prefix_rfl, prefix_rfl,
    prefix_rfl, prefix_rfl, prefix_rfl, prefix_rfl, prefix_rfl⟩

theorem trans (h : Grows s t) (h' : Grows t u) : Grows s u :=
  ⟨h.commitIndex.trans h'.commitIndex, h.requestIndex.trans h'.requestIndex,
    h.nonceLedger.trans h'.nonceLedger, h.evidenceRefs.trans h'.evidenceRefs,
    h.certificates.trans h'.certificates, h.commitOutputRefs.trans h'.commitOutputRefs,
    h.auditEvents.trans h'.auditEvents, h.decisions.trans h'.decisions,
    h.certificateDispositions.trans h'.certificateDispositions,
    h.predecessorEdges.trans h'.predecessorEdges, h.supersessionEdges.trans h'.supersessionEdges,
    h.trustLog.trans h'.trustLog, h.controlEvents.trans h'.controlEvents,
    h.commitConflicts.trans h'.commitConflicts, h.outbox.trans h'.outbox⟩

end Grows

section Statements

variable {α : Type} [TableSchema α] {t t' : Table α}

theorem prefix_of_insert? (h : t.insert? row = some t') : t.rows <+: t'.rows := by
  rw [Table.rows_of_insert? h]
  exact prefix_append _ _

theorem rows_of_insertAll (h : insertAll t rows = .ok t')
    : t'.rows = t.rows ++ rows := by
  induction rows generalizing t with
  | nil => rw [← Except.ok.inj h, append_nil]
  | cons row rows ih =>
    rw [insertAll, foldlM_cons, bind_eq_ok] at h
    obtain ⟨_, hins, h⟩ := h
    rw [ih h, Table.rows_of_insert? (insert_eq_ok.mp hins)]
    simp

theorem prefix_of_insertAll (h : insertAll t rows = .ok t')
    : t.rows <+: t'.rows := by
  rw [rows_of_insertAll h]
  exact prefix_append _ _

theorem insertDisposition_cases {t t' row} (h : insertDisposition t row = .ok t')
    : t.insert? row = some t' ∧
      ((row.eventSequence = 1 ∧ row.disposition = .current ∧
          ∀ r ∈ t, r.certificateDigest ≠ row.certificateDigest) ∨
        (row.eventSequence = 2 ∧ row.disposition ≠ .current ∧
          (⟨row.certificateDigest, 1, .current⟩ : DispositionRow) ∈ t)) := by
  simp only [insertDisposition, bind_eq_ok, exists_unit, ensure_eq_ok, insert_eq_ok] at h
  refine ⟨h.2, ?_⟩
  simp only [Table.any, Bool.or_eq_true, Bool.and_eq_true, decide_eq_true_eq, Bool.not_eq_true',
    any_eq_true, any_eq_false, Bool.and_true] at h
  rcases h.1 with ⟨⟨hone, hcurr⟩, hfresh⟩ | ⟨⟨⟨htwo, hne⟩, r, hr, hstart⟩, -⟩
  . exact .inl ⟨hone, hcurr, hfresh⟩
  . refine .inr ⟨htwo, hne, ?_⟩
    obtain ⟨hdig, hseq, hdisposition⟩ := hstart
    rw [← hdig, ← hseq, ← hdisposition]
    exact hr

theorem prefix_of_insertDisposition {t t' row}
    (h : insertDisposition t row = .ok t') : t.rows <+: t'.rows :=
  prefix_of_insert? (insertDisposition_cases h).1

end Statements

section Operations

theorem ConflictWrites.grows (h : ConflictWrites s row supersedeOld s')
    : Grows s s' := by
  rw [h.unchanged]
  exact { Grows.refl s with
    commitConflicts := prefix_of_insert? h.commitConflicts
    auditEvents := prefix_of_insert? h.auditEvents }

theorem map_identity_prefix_of_insert? {t t' : Table OutboxRow} {row : OutboxRow}
    (h : t.insert? row = some t')
    : t.rows.map OutboxRow.identity <+: t'.rows.map OutboxRow.identity :=
  (prefix_of_insert? h).map _

theorem Fenced.grows {request generation} (h : Fenced s request generation s') : Grows s s' := by
  cases h with
  | certificate _ _ _ hins =>
    exact { Grows.refl s with certificateDispositions := prefix_of_insertDisposition hins }
  | actor => exact { Grows.refl s with }
  | workflow => exact { Grows.refl s with }

theorem OutboxUpdate.map_identity (h : OutboxUpdate s state s')
    : s'.outbox.rows.map OutboxRow.identity = s.outbox.rows.map OutboxRow.identity := by
  obtain ⟨p, hupd⟩ := h.outbox
  rw [Table.rows_of_update? hupd, map_map]
  apply map_congr_left
  intro r _
  by_cases hp : p r <;> simp [hp, OutboxRow.identity]

theorem OutboxUpdate.grows (h : OutboxUpdate s state s') : Grows s s' := by
  have hident := h.map_identity
  rw [h.unchanged]
  exact { Grows.refl s with outbox := hident ▸ prefix_rfl }

variable [Platform] {auth : Authority} {s s' : Store}

variable {supersedeOld : Option String} {request : AtomicCommitRequest}

theorem conflict_grows (h : conflict s cid claim = .ok (res, s')) : Grows s s' := by
  obtain ⟨orig, ⟨ex, -, -, rfl⟩ | ⟨-, -, hwr⟩⟩ := conflict_cases h
  . exact Grows.refl s'
  . exact hwr.grows

theorem DenialWrites.grows
    (h : DenialWrites s request reason supersedeOld nonceOwner s') : Grows s s' := by
  obtain ⟨_, -, hreq⟩ := h.requestIndex
  have hnonce : s.nonceLedger.rows <+: s'.nonceLedger.rows := by
    rcases h.nonce with ⟨_, -, -, -, heq⟩ | ⟨-, -, -, hins⟩
    . rw [heq]
    . exact prefix_of_insert? hins
  rw [h.unchanged]
  exact { Grows.refl s with
    commitIndex := prefix_of_insert? h.commitIndex
    requestIndex := prefix_of_insert? hreq
    nonceLedger := hnonce
    auditEvents := prefix_of_insert? h.auditEvents
    decisions := prefix_of_insert? h.decisions }

theorem recordDisposition_grows
    (h : recordDisposition s digest nonce supersedeOld = .ok (dispositions, edges))
    : s.certificateDispositions.rows <+: dispositions.rows ∧
      s.supersessionEdges.rows <+: edges.rows := by
  cases supersedeOld with
  | none =>
    simp only [recordDisposition, bind_eq_ok, pure_inj, Prod.mk.injEq] at h
    obtain ⟨_, hins, rfl, rfl⟩ := h
    exact ⟨prefix_of_insertDisposition hins, prefix_rfl⟩
  | some old =>
    simp only [recordDisposition, bind_eq_ok, pure_eq_ok, insert_eq_ok, Except.ok.injEq,
      Prod.mk.injEq] at h
    obtain ⟨_, hold, _, hnew, _, hedge, rfl, rfl⟩ := h
    exact ⟨(prefix_of_insertDisposition hold).trans (prefix_of_insertDisposition hnew),
      prefix_of_insert? hedge⟩

theorem CommitWrites.grows {seq : Nat} {cert : Sealed}
    (h : CommitWrites s request supersedeOld seq cert s') : Grows s s' := by
  obtain ⟨_, -, hreq⟩ := h.requestIndex
  obtain ⟨_, -, houtput⟩ := h.commitOutputRefs
  have hdisps := recordDisposition_grows h.dispositions
  have hctrls := congrArg Store.controlEvents h.unchanged
  have hconfs := congrArg Store.commitConflicts h.unchanged
  exact
    { commitIndex := prefix_of_insert? h.commitIndex
      requestIndex := prefix_of_insert? hreq
      nonceLedger := prefix_of_insert? h.nonceLedger
      evidenceRefs := prefix_of_insert? h.evidenceRefs
      certificates := prefix_of_insert? h.certificates
      commitOutputRefs := prefix_of_insert? houtput
      auditEvents := prefix_of_insert? h.auditEvents
      decisions := prefix_of_insert? h.decisions
      certificateDispositions := hdisps.1
      predecessorEdges := prefix_of_insertAll h.predecessorEdges
      supersessionEdges := hdisps.2
      trustLog := prefix_of_insert? h.trustLog
      controlEvents := by rw [hctrls]
      commitConflicts := by rw [hconfs]
      outbox := map_identity_prefix_of_insert? h.outbox }

theorem CommitEffect.grows
    (h : CommitEffect auth s request supersedeOld now res s') : Grows s s' := by
  cases h with
  | replayed => exact Grows.refl s
  | conflicted _ _ _ hconf => exact conflict_grows hconf
  | denied _ _ hwr => exact hwr.grows
  | committed _ _ hwr => exact hwr.grows

theorem RevokeWrites.grows {request : RevocationRequest} {gen : Option String}
    (h : RevokeWrites s request gen s') : Grows s s' := by
  rw [h.unchanged]
  exact { Grows.refl s with
    auditEvents := prefix_of_insert? h.auditEvents
    controlEvents := prefix_of_insert? h.controlEvents
    trustLog := prefix_of_insert? h.trustLog
    outbox := map_identity_prefix_of_insert? h.outbox }

theorem step_grows (h : step auth s op = .ok s')
    : Grows s s' := by
  cases step_effect h with
  | unchanged => exact Grows.refl s
  | staged hwr =>
    rw [hwr.unchanged]
    exact { Grows.refl s with }
  | advanced hwr =>
    rw [hwr.unchanged]
    exact { Grows.refl s with }
  | committed _ heffect => exact heffect.grows
  | revoked _ hfenced hwr => exact hfenced.grows.trans hwr.grows
  | recovered _ _ hconf => exact conflict_grows hconf
  | leased hupd => exact hupd.grows
  | delivered hupd haudits =>
    exact hupd.grows.trans { Grows.refl _ with auditEvents := prefix_of_insert? haudits }

end Operations

end Apcc
