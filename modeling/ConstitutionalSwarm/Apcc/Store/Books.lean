import ConstitutionalSwarm.Apcc.Store.Replay

namespace Apcc

open Table

def Store.Indexed (s : Store) (commitId : String) : Prop :=
  ∃ r ∈ s.commitIndex, r.commitId = commitId

def Store.Audited (s : Store) (auditEventId : String) : Prop :=
  ∃ r ∈ s.auditEvents, r.auditEventId = auditEventId

structure Booked [Platform] (s : Store) : Prop where
  decided : ∀ commitId, s.Indexed commitId → ∃ result, decidedResult s commitId = .ok result
  published : ∀ commitId, s.Indexed commitId → ∃ r ∈ s.requestIndex, r.commitId = commitId
  requests : ∀ r ∈ s.requestIndex, s.Indexed r.commitId
  nonces : ∀ r ∈ s.nonceLedger, s.Indexed r.commitId
  evidence : ∀ r ∈ s.evidenceRefs, s.Indexed r.commitId
  certificates : ∀ r ∈ s.certificates, s.Indexed r.commitId
  outputs : ∀ r ∈ s.commitOutputRefs, s.Indexed r.commitId
  edges : ∀ r ∈ s.predecessorEdges, s.Indexed r.childCommitId
  decisions : ∀ r ∈ s.decisions, s.Indexed r.commitId ∧ s.Audited r.auditEventId
  dispositions : ∀ r ∈ s.certificateDispositions,
    ∃ c ∈ s.certificates, c.certificateDigest = r.certificateDigest
  trust : ∀ r ∈ s.trustLog, s.Audited r.auditEventId
  events : ∀ r ∈ s.outbox, s.Audited r.auditEventId ∧
    (r.eventKind = .commit → s.Indexed r.operationId) ∧ r.trustSequence = r.eventSequence ∧
    ∃ t ∈ s.trustLog, t.sequence = r.eventSequence
  conflicts : ∀ r ∈ s.commitConflicts, s.Indexed r.commitId ∧ s.Audited r.auditEventId ∧
    r.auditEventId = auditId "conflict" [r.commitId, r.conflictingRequestDigest]

section Statements

variable {α : Type} [TableSchema α] {t t' : Table α} {row : α} {p q : α → Prop}

theorem forall_mem_of_insert? (h : t.insert? row = some t') (hpq : ∀ r, p r → q r)
    (hrows : ∀ r ∈ t, p r) (hrow : q row) : ∀ r ∈ t', q r :=
  Table.forall_mem_of_insert? h (fun r hr => hpq r (hrows r hr)) hrow

end Statements

theorem Store.Indexed.grows (h : s.Indexed commitId) (hgrows : Grows s s')
    : s'.Indexed commitId := by
  obtain ⟨r, hr, hid⟩ := h
  exact ⟨r, hgrows.commitIndex.subset hr, hid⟩

theorem Store.Audited.grows (h : s.Audited auditEventId)
    (hgrows : Grows s s') : s'.Audited auditEventId := by
  obtain ⟨r, hr, hid⟩ := h
  exact ⟨r, hgrows.auditEvents.subset hr, hid⟩

theorem dispositions_of_insertDisposition {p : String → Prop} (h : insertDisposition t row = .ok t')
    (hrows : ∀ r ∈ t, p r.certificateDigest)
    (hrow : row.eventSequence = 1 → p row.certificateDigest)
    : ∀ r ∈ t', p r.certificateDigest := by
  obtain ⟨hins, ⟨hone, -, -⟩ | ⟨-, -, hstart⟩⟩ := insertDisposition_cases h
  . exact forall_mem_of_insert? (p := fun r => p r.certificateDigest)
      (q := fun r => p r.certificateDigest) hins (fun _ => id) hrows (hrow hone)
  . exact forall_mem_of_insert? (p := fun r => p r.certificateDigest)
      (q := fun r => p r.certificateDigest) hins (fun _ => id) hrows (hrows _ hstart)

theorem foldlM_insertContext {contexts : List CommitContext}
    (h : contexts.foldlM insertContext s = .ok s')
    : s' = { s with logicalNodes := s'.logicalNodes, candidates := s'.candidates } := by
  induction contexts generalizing s with
  | nil => rw [← Except.ok.inj h]
  | cons ctx contexts ih =>
    rw [List.foldlM_cons, bind_eq_ok] at h
    obtain ⟨_, hctx, hcontexts⟩ := h
    simp only [insertContext, bind_eq_ok, pure_inj] at hctx
    obtain ⟨_, -, _, -, rfl⟩ := hctx
    rw [ih hcontexts]

variable [Platform] {auth : Authority} {s s' : Store}

omit [Platform] in
theorem Store.indexed_iff
    : s.Indexed cid ↔ ∃ row, s.commitIndex? cid = some row := by
  constructor
  . rintro ⟨r, hr, hid⟩
    cases hfind : s.commitIndex? cid with
    | none => exact absurd hid (Store.commitIndex?_eq_none.mp hfind r hr)
    | some row => exact ⟨row, rfl⟩
  . rintro ⟨row, hrow⟩
    obtain ⟨hmem, hid⟩ := mem_of_find? hrow
    exact ⟨row, hmem, by simpa using hid⟩

theorem dispositions_of_recordDisposition {p : String → Prop}
    (h : recordDisposition s digest nonce old = .ok (dispositions, edges))
    (hrows : ∀ r ∈ s.certificateDispositions, p r.certificateDigest) (hdig : p digest)
    : ∀ r ∈ dispositions, p r.certificateDigest := by
  cases old with
  | none =>
    simp only [recordDisposition, bind_eq_ok, pure_inj, Prod.mk.injEq] at h
    obtain ⟨_, hins, rfl, -⟩ := h
    exact dispositions_of_insertDisposition hins hrows fun _ => hdig
  | some old =>
    simp only [recordDisposition, bind_eq_ok, pure_inj, Prod.mk.injEq] at h
    obtain ⟨_, hold, _, hnew, _, -, rfl, -⟩ := h
    exact dispositions_of_insertDisposition hnew
      (dispositions_of_insertDisposition hold hrows (by simp)) fun _ => hdig

section Effects

variable (hbook : Booked s)

include hbook

theorem ConflictWrites.booked (h : ConflictWrites s row old s') (hidx : s.Indexed row.commitId)
    (haudit : row.auditEventId = auditId "conflict" [row.commitId, row.conflictingRequestDigest])
    : Booked s' := by
  have hgrows := h.grows
  have hdecs := fun r hr => (hbook.decisions r hr).imp_right (·.grows hgrows)
  have htrust := fun r hr => (hbook.trust r hr).grows hgrows
  have hevents := fun r hr => (hbook.events r hr).imp_left (·.grows hgrows)
  have hconfs : ∀ r ∈ s'.commitConflicts, s.Indexed r.commitId ∧ s'.Audited r.auditEventId ∧
      r.auditEventId = auditId "conflict" [r.commitId, r.conflictingRequestDigest] :=
    forall_mem_of_insert? h.commitConflicts
      (fun _ => And.imp_right (And.imp_left (·.grows hgrows))) hbook.conflicts
      ⟨hidx, ⟨_, mem_of_insert? h.auditEvents, rfl⟩, haudit⟩
  rw [h.unchanged] at hdecs htrust hevents hconfs ⊢
  exact { hbook with
    decisions := hdecs, trust := htrust, events := hevents, conflicts := hconfs }

theorem conflict_booked (h : conflict s cid claim = .ok (res, s')) : Booked s' := by
  obtain ⟨orig, ⟨_, -, -, rfl⟩ | ⟨-, -, hwr⟩⟩ := conflict_cases h
  . exact hbook
  . exact hwr.booked hbook ⟨orig.row, (mem_of_find? orig.indexed).1, rfl⟩ rfl

theorem decided_of_insert? (hgrows : Grows s s')
    (h : s.commitIndex.insert? row = some s'.commitIndex)
    (hres : decidedResult s' row.commitId = .ok result)
    : ∀ cid, s'.Indexed cid → ∃ result, decidedResult s' cid = .ok result := by
  rintro cid ⟨r, hr, rfl⟩
  rcases (mem_insert? h).mp hr with hr | rfl
  . obtain ⟨result, hres⟩ := hbook.decided _ ⟨r, hr, rfl⟩
    exact ⟨result, hgrows.decidedResult_eq hres⟩
  . exact ⟨result, hres⟩

theorem published_of_insert? (h : s.commitIndex.insert? row = some s'.commitIndex)
    (hreq : s.requestIndex.insert? ⟨digest, row.commitId⟩ = some s'.requestIndex)
    : ∀ commitId, s'.Indexed commitId → ∃ r ∈ s'.requestIndex, r.commitId = commitId := by
  rintro commitId ⟨r, hr, rfl⟩
  rcases (mem_insert? h).mp hr with hr | rfl
  . obtain ⟨p, hp, hid⟩ := hbook.published _ ⟨r, hr, rfl⟩
    exact ⟨p, (mem_insert? hreq).mpr (.inl hp), hid⟩
  . exact ⟨_, mem_of_insert? hreq, rfl⟩

theorem DenialWrites.booked (h : DenialWrites s req reason old nonceOwner s') : Booked s' := by
  have hgrows := h.grows
  have hid : s'.Indexed req.commitId := ⟨_, mem_of_insert? h.commitIndex, rfl⟩
  have hidx {id : String} (h : s.Indexed id) : s'.Indexed id := h.grows hgrows
  have haudited {id : String} (h : s.Audited id) : s'.Audited id := h.grows hgrows
  obtain ⟨_, -, hreq⟩ := h.requestIndex
  have hnonces : ∀ r ∈ s'.nonceLedger, s'.Indexed r.commitId := by
    rcases h.nonce with ⟨_, -, -, -, heq⟩ | ⟨-, -, -, hins⟩
    . rw [heq]
      exact fun r hr => hidx (hbook.nonces r hr)
    . exact forall_mem_of_insert? hins (fun _ => hidx) hbook.nonces hid
  have hreqs := forall_mem_of_insert? hreq (fun _ => hidx) hbook.requests hid
  have hdecs := forall_mem_of_insert? h.decisions (fun _ => And.imp hidx haudited)
    hbook.decisions ⟨hid, _, mem_of_insert? h.auditEvents, rfl⟩
  have hdecided := decided_of_insert? hbook hgrows h.commitIndex h.decidedResult_eq
  have hpub := published_of_insert? hbook h.commitIndex hreq
  have hunchanged := h.unchanged
  exact
    { decided := hdecided
      published := hpub
      requests := hreqs
      nonces := hnonces
      evidence := fun r hr => hidx (hbook.evidence r (by rwa [hunchanged] at hr))
      certificates := fun r hr => hidx (hbook.certificates r (by rwa [hunchanged] at hr))
      outputs := fun r hr => hidx (hbook.outputs r (by rwa [hunchanged] at hr))
      edges := fun r hr => hidx (hbook.edges r (by rwa [hunchanged] at hr))
      decisions := hdecs
      dispositions := by
        rw [hunchanged]
        exact hbook.dispositions
      trust := fun r hr => haudited (hbook.trust r (by rwa [hunchanged] at hr))
      events := by
        have htrust : s'.trustLog = s.trustLog := by rw [hunchanged]
        intro r hr
        obtain ⟨haudit, hkind, hentry⟩ := hbook.events r (by rwa [hunchanged] at hr)
        exact ⟨haudited haudit, fun hcommit => hidx (hkind hcommit), htrust ▸ hentry⟩
      conflicts := fun r hr =>
        (hbook.conflicts r (by rwa [hunchanged] at hr)).imp hidx (And.imp_left haudited) }

theorem CommitWrites.booked {seq} (h : CommitWrites s req old seq cert s')
    : Booked s' := by
  have hgrows := h.grows
  have hid : s'.Indexed req.commitId := ⟨_, mem_of_insert? h.commitIndex, rfl⟩
  have haudit : s'.Audited (commitAudit req old) := ⟨_, mem_of_insert? h.auditEvents, rfl⟩
  have hidx {id : String} (h : s.Indexed id) : s'.Indexed id := h.grows hgrows
  have haudited {id : String} (h : s.Audited id) : s'.Audited id := h.grows hgrows
  obtain ⟨_, -, hreq⟩ := h.requestIndex
  obtain ⟨_, -, houtput⟩ := h.commitOutputRefs
  have hconfs : s'.commitConflicts = s.commitConflicts := by rw [h.unchanged]
  exact
    { decided := decided_of_insert? hbook hgrows h.commitIndex h.decidedResult_eq
      published := published_of_insert? hbook h.commitIndex hreq
      requests := forall_mem_of_insert? hreq (fun _ => hidx) hbook.requests hid
      nonces := forall_mem_of_insert? h.nonceLedger (fun _ => hidx) hbook.nonces hid
      evidence := forall_mem_of_insert? h.evidenceRefs (fun _ => hidx) hbook.evidence hid
      certificates :=
        forall_mem_of_insert? h.certificates (fun _ => hidx) hbook.certificates hid
      outputs := forall_mem_of_insert? houtput (fun _ => hidx) hbook.outputs hid
      edges := by
        intro r hr
        rw [mem_def, rows_of_insertAll h.predecessorEdges, List.mem_append, List.mem_map] at hr
        rcases hr with hr | ⟨_, -, rfl⟩
        . exact hidx (hbook.edges r hr)
        . exact hid
      decisions := forall_mem_of_insert? h.decisions (fun _ => And.imp hidx haudited)
        hbook.decisions ⟨hid, haudit⟩
      dispositions := by
        apply dispositions_of_recordDisposition
          (p := fun d => ∃ c ∈ s'.certificates, c.certificateDigest = d) h.dispositions
        . intro r hr
          obtain ⟨c, hc, hdig⟩ := hbook.dispositions r hr
          exact ⟨c, hgrows.certificates.subset hc, hdig⟩
        . exact ⟨_, mem_of_insert? h.certificates, rfl⟩
      trust := forall_mem_of_insert? h.trustLog (fun _ => haudited) hbook.trust haudit
      events := by
        refine forall_mem_of_insert? h.outbox ?_ hbook.events
          ⟨haudit, fun _ => hid, rfl, _, mem_of_insert? h.trustLog, rfl⟩
        . rintro r ⟨haudit, hkind, hseq, entry, hentry, heq⟩
          exact ⟨haudited haudit, fun hcommit => hidx (hkind hcommit), hseq, entry,
            hgrows.trustLog.subset hentry, heq⟩
      conflicts := by
        rw [hconfs]
        exact fun r hr => (hbook.conflicts r hr).imp hidx (And.imp_left haudited) }

theorem Fenced.booked (h : Fenced s request generation s') : Booked s' := by
  cases h with
  | certificate _ _ _ hins =>
    refine { hbook with dispositions := ?_ }
    refine dispositions_of_insertDisposition hins
      (p := fun d => ∃ c ∈ s.certificates, c.certificateDigest = d) hbook.dispositions ?_
    simp
  | actor => exact { hbook with }
  | workflow => exact { hbook with }

theorem RevokeWrites.booked (h : RevokeWrites s req gen s') : Booked s' := by
  have hgrows := h.grows
  have haudit : s'.Audited (revocationAudit req) := ⟨_, mem_of_insert? h.auditEvents, rfl⟩
  have hdecs := fun r hr => (hbook.decisions r hr).imp_right (·.grows hgrows)
  have hconfs := fun r hr =>
    (hbook.conflicts r hr).imp_right (And.imp_left (Store.Audited.grows · hgrows))
  have htrust := forall_mem_of_insert? h.trustLog (fun _ h => Store.Audited.grows h hgrows)
    hbook.trust haudit
  have hevents : ∀ r ∈ s'.outbox, s'.Audited r.auditEventId ∧
      (r.eventKind = .commit → s.Indexed r.operationId) ∧ r.trustSequence = r.eventSequence ∧
      ∃ t ∈ s'.trustLog, t.sequence = r.eventSequence := by
    refine forall_mem_of_insert? h.outbox ?_ hbook.events
      ⟨haudit, by simp [outboxRow], rfl, _, mem_of_insert? h.trustLog, rfl⟩
    . rintro r ⟨haudit, hkind, hseq, entry, hentry, heq⟩
      exact ⟨haudit.grows hgrows, hkind, hseq, entry, hgrows.trustLog.subset hentry, heq⟩
  rw [h.unchanged] at hdecs hconfs htrust hevents ⊢
  exact { hbook with
    decisions := hdecs, trust := htrust, events := hevents, conflicts := hconfs }

theorem OutboxUpdate.booked (h : OutboxUpdate s state s') : Booked s' := by
  obtain ⟨_, hupd⟩ := h.outbox
  have hevents : ∀ r ∈ s'.outbox, s.Audited r.auditEventId ∧
      (r.eventKind = .commit → s.Indexed r.operationId) ∧ r.trustSequence = r.eventSequence ∧
      ∃ t ∈ s.trustLog, t.sequence = r.eventSequence := by
    intro r hr
    rcases (mem_update? hupd).mp hr with ⟨hr, -⟩ | ⟨event, hevent, -, rfl⟩
    . exact hbook.events r hr
    . exact hbook.events event hevent
  rw [h.unchanged] at hevents ⊢
  exact { hbook with events := hevents }

theorem booked_of_audit
    (h : s.auditEvents.insert? row = some audits) : Booked { s with auditEvents := audits } := by
  have hgrows : Grows s { s with auditEvents := audits } :=
    { Grows.refl s with auditEvents := prefix_of_insert? h }
  exact { hbook with
    decisions := fun r hr => (hbook.decisions r hr).imp_right (·.grows hgrows)
    trust := fun r hr => (hbook.trust r hr).grows hgrows
    events := fun r hr => (hbook.events r hr).imp_left (·.grows hgrows)
    conflicts := fun r hr =>
      (hbook.conflicts r hr).imp_right (And.imp_left (Store.Audited.grows · hgrows)) }

theorem step_booked (h : step auth s op = .ok s')
    : Booked s' := by
  cases step_effect h with
  | unchanged => exact hbook
  | staged hwr =>
    rw [hwr.unchanged]
    exact { hbook with }
  | advanced hwr =>
    rw [hwr.unchanged]
    exact { hbook with }
  | committed _ heffect =>
    cases heffect with
    | replayed => exact hbook
    | conflicted _ _ _ hconf => exact conflict_booked hbook hconf
    | denied _ _ hwr => exact hwr.booked hbook
    | committed _ _ hwr => exact hwr.booked hbook
  | revoked _ hfenced hwr => exact hwr.booked (hfenced.booked hbook)
  | recovered _ _ hconf => exact conflict_booked hbook hconf
  | leased hupd => exact hupd.booked hbook
  | delivered hupd haudits => exact booked_of_audit (hupd.booked hbook) haudits

end Effects

theorem provision_booked {cfg : AuthorityConfig} {contexts : List CommitContext}
    (h : provision cfg contexts = .ok s) : Booked s := by
  simp only [provision, bind_eq_ok, pure_inj] at h
  obtain ⟨_, hcontexts, -, -, rfl⟩ := h
  rw [foldlM_insertContext hcontexts]
  constructor <;> simp [Store.Indexed, mem_def, Store.empty, Table.empty]

theorem Reachable.booked (h : Reachable auth s) : Booked s := by
  obtain ⟨_, _, hprov, hrun⟩ := h
  exact Transition.Run.invariant (fun _ _ _ _ hstep hs => step_booked hs hstep) hrun
    (provision_booked hprov)

section Nonces

/-- The nonce of a decision is booked on its own operation, unless the decision denies a replay. -/
def DecisionRow.Spends (d : DecisionRow) (s : Store) : Prop :=
  ⟨d.nonce, d.nonceOwnerCommitId⟩ ∈ s.nonceLedger ∧
    (d.nonceOwnerCommitId = d.commitId ∨ d.reason = FailureCode.nonceReplay.value)

theorem DenialWrites.spends (h : DenialWrites s request reason old nonceOwner s')
    : (denialRow request reason old nonceOwner).Spends s' := by
  rcases h.nonce with ⟨owner, howner, rfl, rfl, hsame⟩ | ⟨-, -, rfl, hins⟩
  . obtain ⟨hmem, hnonce⟩ := mem_of_find? howner
    have hrow : (⟨request.nonce, owner.commitId⟩ : NonceRow) = owner := by
      rw [← of_decide_eq_true hnonce]
    refine ⟨?_, .inr rfl⟩
    rw [hsame]
    exact hrow ▸ hmem
  . exact ⟨mem_of_insert? hins, .inl rfl⟩

theorem decisions_of_conflict (h : conflict s cid claim = .ok (res, s'))
    : s'.decisions = s.decisions := by
  obtain ⟨_, ⟨_, -, -, rfl⟩ | ⟨-, -, hwr⟩⟩ := conflict_cases h
  . rfl
  . rw [hwr.unchanged]

theorem step_decides (h : step auth s op = .ok s')
    : s'.decisions = s.decisions ∨
      ∃ row, s.decisions.insert? row = some s'.decisions ∧ row.Spends s' := by
  cases step_effect h with
  | unchanged => exact .inl rfl
  | staged hwr => exact .inl (by rw [hwr.unchanged])
  | advanced hwr => exact .inl (by rw [hwr.unchanged])
  | committed _ heffect =>
    cases heffect with
    | replayed => exact .inl rfl
    | conflicted _ _ _ hconf => exact .inl (decisions_of_conflict hconf)
    | denied _ _ hwr => exact .inr ⟨_, hwr.decisions, hwr.spends⟩
    | committed _ _ hwr => exact .inr ⟨_, hwr.decisions, mem_of_insert? hwr.nonceLedger, .inl rfl⟩
  | revoked _ hfenced hwr =>
    rw [hwr.unchanged]
    cases hfenced <;> exact .inl rfl
  | recovered _ _ hconf => exact .inl (decisions_of_conflict hconf)
  | leased hupd => exact .inl (by rw [hupd.unchanged])
  | delivered hupd => exact .inl (by rw [hupd.unchanged])

theorem step_spends (h : step auth s op = .ok s') (hspent : ∀ d ∈ s.decisions, d.Spends s)
    : ∀ d ∈ s'.decisions, d.Spends s' := by
  have hkeep : ∀ d ∈ s.decisions, d.Spends s' := fun d hd =>
    (hspent d hd).imp_left ((step_grows h).nonceLedger.subset ·)
  rcases step_decides h with heq | ⟨_, hins, hrow⟩
  . exact heq ▸ hkeep
  . exact forall_mem_of_insert? hins (fun _ => id) hkeep hrow

theorem Reachable.spends (h : Reachable auth s) : ∀ d ∈ s.decisions, d.Spends s := by
  obtain ⟨_, _, hprov, hrun⟩ := h
  refine Transition.Run.invariant (fun _ _ _ _ hstep => step_spends hstep) hrun ?_
  simp only [provision, bind_eq_ok, pure_inj] at hprov
  obtain ⟨_, hcontexts, -, -, rfl⟩ := hprov
  rw [foldlM_insertContext hcontexts]
  simp [mem_def, Store.empty, Table.empty]

/-- Of two decisions on one nonce, however far apart in a run, one denies the replay. -/
theorem nonce_spent_once {authority : Authority} {s t : Store} {d d' : DecisionRow}
    (hs : Reachable authority s) (hrun : Runs authority s t) (hd : d ∈ s.decisions)
    (hd' : d' ∈ t.decisions) (hnonce : d.nonce = d'.nonce)
    : d = d' ∨ d.reason = FailureCode.nonceReplay.value ∨
      d'.reason = FailureCode.nonceReplay.value := by
  have hspent := Transition.Run.invariant (fun _ _ _ _ hstep => step_spends hstep) hrun hs.spends
  have hd := hrun.grows.decisions.subset hd
  obtain ⟨hrow, hown | hreplay⟩ := hspent d hd
  . obtain ⟨hrow', hown' | hreplay'⟩ := hspent d' hd'
    . have howner := eq_of_key NonceRow.nonce hrow hrow' hnonce
      rw [hnonce, NonceRow.mk.injEq, hown, hown'] at howner
      exact .inl (eq_of_key DecisionRow.commitId hd hd' howner.2)
    . exact .inr (.inr hreplay')
  . exact .inr (.inl hreplay)

end Nonces

end Apcc

namespace Apcc.Sample

theorem nonce_spent_once_replayed
    : ∃ s t d d', Reachable authority s ∧ Runs authority s t ∧ d ∈ s.decisions ∧
        d' ∈ t.decisions ∧ d ≠ d' ∧ d.nonce = d'.nonce ∧
        d'.reason = FailureCode.nonceReplay.value := by
  obtain ⟨_, _, s, _, t, h, hwr, hstep, hwr'⟩ := exists_replayed
  have hs : Reachable authority s := (reachable_empty authority).step
    (show step authority .empty (.atomicCommit _ 0) = .ok s by rw [step, h]; rfl)
  have hrun : Runs authority s t := .tail (.refl s) trivial hstep
  have hd := Table.mem_of_insert? hwr.decisions
  have hd' := Table.mem_of_insert? hwr'.decisions
  refine ⟨s, t, _, _, hs, hrun, hd, hd', ?_, rfl, ?_⟩
  . intro heq
    exact absurd (congrArg DecisionRow.commitId heq) (show "commit" ≠ "other" by decide)
  . rcases nonce_spent_once hs hrun hd hd' rfl with heq | hreason | hreason
    . exact absurd (congrArg DecisionRow.commitId heq) (show "commit" ≠ "other" by decide)
    . exact absurd hreason (show FailureCode.statementDigestMismatch.value ≠ _ by decide)
    . exact hreason

end Apcc.Sample
