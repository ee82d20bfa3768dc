import ConstitutionalSwarm.Apcc.Store.Preservation
import ConstitutionalSwarm.Apcc.Store.Trust

namespace Apcc

open List

theorem expectedGeneration_append (controls : List ControlRow) (row : ControlRow)
    (p : ControlRow → Bool)
    : expectedGeneration (controls ++ [row]) p =
      if p row then
        match row.generation.bind PyInt.int? with
        | some generation => some (max ((expectedGeneration controls p).getD 0) generation)
        | none => expectedGeneration controls p
      else expectedGeneration controls p := by
  rw [expectedGeneration, filter_append, foldl_append]
  by_cases hp : p row
  . rw [filter_cons_of_pos hp, if_pos hp]
    rfl
  . rw [filter_cons_of_neg hp, if_neg hp]
    rfl

theorem expectedGeneration_eq_none {p : ControlRow → Bool}
    (h : ∀ c ∈ controls, p c = false) : expectedGeneration controls p = none := by
  have hfilter : controls.filter p = [] := by
    rw [filter_eq_nil_iff]
    intro c hc
    simp [h c hc]
  rw [expectedGeneration, hfilter]
  rfl

theorem requireIncrease_eq_ok
    : requireIncrease generation recorded = .ok u ↔
      ∃ m n, recorded.elim (some 0) PyInt.int? = some m ∧ PyInt.int? generation = some n ∧
        m < n := by
  cases recorded with
  | none => simp [requireIncrease, bind_eq_ok]
  | some recorded => simp [requireIncrease, bind_eq_ok]

theorem toString_of_canonicalPositiveDecimal {maximum}
    (h : canonicalPositiveDecimal value maximum = .ok n)
    : toString n = value ∧ PyInt.int? value = some n := by
  simp only [canonicalPositiveDecimal, bind_eq_ok, exists_unit, raiseIf_eq_ok, int_eq_ok,
    pure_inj, Bool.not_eq_false', Bool.and_eq_true] at h
  obtain ⟨⟨hcanon, -⟩, _, hint, -, rfl⟩ := h
  obtain ⟨_, rfl⟩ := PyInt.eq_toString_of_isCanonical hcanon
  refine ⟨?_, hint⟩
  rw [PyInt.eq_of_int?_toString hint]
  rfl

theorem revocationGeneration_cases (h : revocationGeneration request = .ok generation)
    : (request.scope = .certificate ∧ generation = none) ∨
      (request.scope ≠ .certificate ∧ generation = some request.nextGeneration ∧
        ∃ n, canonicalPositiveDecimal request.nextGeneration maxSafeInteger = .ok n) := by
  unfold revocationGeneration at h
  split at h
  . next hscope => exact .inl ⟨hscope, (Except.ok.inj h).symm⟩
  . next hscope =>
    simp only [bind_eq_ok, pure_inj] at h
    obtain ⟨n, hn, rfl⟩ := h
    rw [(toString_of_canonicalPositiveDecimal hn).1]
    exact .inr ⟨hscope, rfl, n, hn⟩

theorem Fenced.unchanged {generation} (h : Fenced s request generation fenced)
    : fenced = { s with
        certificateDispositions := fenced.certificateDispositions
        actorRevocations := fenced.actorRevocations
        workflowRevocations := fenced.workflowRevocations } := by
  cases h <;> rfl

theorem Fenced.latestDisposition {generation} (h : Fenced s request generation fenced)
    (digest : String)
    : fenced.latestDisposition digest =
      if request.scope = .certificate ∧ digest = request.targetId then some .revoked
      else s.latestDisposition digest := by
  cases h with
  | certificate hscope howner hcurr hins =>
    simp only [hscope, true_and, latestDisposition_eq_latestIn]
    exact latestIn_insertDisposition hins digest
  | actor hscope =>
    rw [if_neg (by simp [hscope])]
    rfl
  | workflow hscope =>
    rw [if_neg (by simp [hscope])]
    rfl

variable [Platform] {config : AuthorityConfig} {auth : Authority} {s s' fenced : Store}

structure Tracks {α : Type} (rows : List α) (generation : α → String)
    (selects : α → ControlRow → Bool) (scope : RevocationScope) (controls : List ControlRow)
    : Prop where
  expected : ∀ r ∈ rows,
    expectedGeneration controls (selects r) = PyInt.int? (generation r)
  events : ∀ c ∈ controls, c.scope = scope → ∃ r ∈ rows, selects r c = true

section Tracks

variable {α : Type} {rows : List α} {generation : α → String} {selects : α → ControlRow → Bool}
  {scope : RevocationScope} {controls : List ControlRow} {control : ControlRow}

omit [Platform] in
theorem Tracks.other (h : Tracks rows generation selects scope controls)
    (hselects : ∀ r, selects r control = false) (hscope : control.scope ≠ scope)
    : Tracks rows generation selects scope (controls ++ [control]) where
  expected := by
    intro r hr
    rw [expectedGeneration_append, hselects r]
    exact h.expected r hr
  events := by
    intro c hc hc'
    rcases mem_append.mp hc with hc | hc
    . exact h.events c hc hc'
    . exact absurd (mem_singleton.mp hc ▸ hc') hscope

variable {isKey : α → Bool} {new : α}

omit [Platform] in
theorem Tracks.prior (h : Tracks rows generation selects scope controls)
    (hscope : ∀ c, selects new c = true → c.scope = scope)
    (hkey : ∀ r c, selects r c = true → selects new c = true → isKey r)
    (hsame : ∀ r, isKey r = true → selects r = selects new)
    (hrecorded : ((rows.find? isKey).map generation).elim (some 0) PyInt.int? = some m)
    : (expectedGeneration controls (selects new)).getD 0 = m := by
  cases hfind : rows.find? isKey with
  | none =>
    rw [expectedGeneration_eq_none]
    . simpa [hfind] using hrecorded
    . intro c hc
      by_contra hnew
      rw [Bool.not_eq_false] at hnew
      obtain ⟨r, hr, hr'⟩ := h.events c hc (hscope c hnew)
      exact find?_eq_none.mp hfind r hr (hkey r c hr' hnew)
  | some r =>
    rw [← hsame r (find?_some hfind), h.expected r (mem_of_find?_eq_some hfind)]
    rw [hfind] at hrecorded
    simp only [Option.map_some, Option.elim_some] at hrecorded
    rw [hrecorded]
    rfl

omit [Platform] in
theorem Tracks.replace (h : Tracks rows generation selects scope controls)
    (hscope : ∀ c, selects new c = true → c.scope = scope)
    (hkey : ∀ r c, selects r c = true → selects new c = true → isKey r)
    (hsame : ∀ r, isKey r = true → selects r = selects new)
    (hself : selects new control) (hctrl : control.generation = some (generation new))
    (hinc : requireIncrease (generation new) ((rows.find? isKey).map generation) = .ok ())
    : Tracks (rows.filter (!isKey ·) ++ [new]) generation selects scope
        (controls ++ [control]) where
  expected := by
    intro r hr
    obtain ⟨_, _, hm, hn, hlt⟩ := requireIncrease_eq_ok.mp hinc
    rw [expectedGeneration_append]
    rcases mem_append.mp hr with hr | hr
    . obtain ⟨hr, hother⟩ := mem_filter.mp hr
      have hctrl : selects r control = false := by
        by_contra hselects
        simp [hkey r control (by simpa using hselects) hself] at hother
      rw [hctrl]
      exact h.expected r hr
    . obtain rfl := mem_singleton.mp hr
      rw [if_pos hself, hctrl, Option.bind_some, hn, h.prior hscope hkey hsame hm]
      simp only [Option.some.injEq]
      omega
  events := by
    intro c hc hc'
    rcases mem_append.mp hc with hc | hc
    . obtain ⟨r, hr, hselects⟩ := h.events c hc hc'
      cases hp : isKey r with
      | true => exact ⟨new, by simp, hsame r hp ▸ hselects⟩
      | false => exact ⟨r, by simp [hr, hp], hselects⟩
    . exact ⟨new, by simp, mem_singleton.mp hc ▸ hself⟩

end Tracks

omit [Platform] in
theorem generationsOk_iff_count
    : GenerationsOk s ↔
      Tracks s.actorRevocations.rows (·.generation) (fun r c => c.isActor r.workflowId r.actorId)
          .actor s.controlEvents.rows ∧
        Tracks s.workflowRevocations.rows (·.generation) (fun r c => c.isWorkflow r.workflowId)
          .workflow s.controlEvents.rows :=
  ⟨fun h => ⟨⟨h.actors, h.actorRows⟩, ⟨h.workflows, h.workflowRows⟩⟩,
    fun ⟨ha, hw⟩ => ⟨ha.expected, ha.events, hw.expected, hw.events⟩⟩

section Revocation

variable {request : RevocationRequest} {generation : Option String} {fenced : Store}

variable (hgen : revocationGeneration request = .ok generation)
  (hfenced : Fenced s request (generation.getD "") fenced)

include hgen hfenced

theorem Fenced.generations (hs : GenerationsOk s)
    (hctrls : s'.controlEvents.rows = s.controlEvents.rows ++ [controlRow request generation])
    (hactors : s'.actorRevocations = fenced.actorRevocations)
    (hworkflows : s'.workflowRevocations = fenced.workflowRevocations) : GenerationsOk s' := by
  obtain ⟨ha, hw⟩ := generationsOk_iff_count.mp hs
  rw [generationsOk_iff_count, hctrls, hactors, hworkflows]
  cases hfenced with
  | certificate hscope =>
    exact ⟨ha.other (by simp [ControlRow.isActor, controlRow, hscope])
        (by simp [controlRow, hscope]),
      hw.other (by simp [ControlRow.isWorkflow, controlRow, hscope])
        (by simp [controlRow, hscope])⟩
  | actor hscope hinc hreplace =>
    refine ⟨?_, hw.other (by simp [ControlRow.isWorkflow, controlRow, hscope])
      (by simp [controlRow, hscope])⟩
    obtain ⟨hscope', -⟩ | ⟨-, rfl, -⟩ := revocationGeneration_cases hgen
    . simp [hscope] at hscope'
    . dsimp only
      rw [rows_of_replace hreplace]
      refine ha.replace ?_ ?_ ?_ ?_ rfl hinc
      . simp +contextual [ControlRow.isActor]
      . simp +contextual [ControlRow.isActor]
      . intro r hr
        simp only [Bool.and_eq_true, decide_eq_true_eq] at hr
        rw [hr.1, hr.2]
      . simp [ControlRow.isActor, controlRow, hscope]
  | workflow hscope hinc hreplace =>
    refine ⟨ha.other (by simp [ControlRow.isActor, controlRow, hscope])
      (by simp [controlRow, hscope]), ?_⟩
    obtain ⟨hscope', -⟩ | ⟨-, rfl, -⟩ := revocationGeneration_cases hgen
    . simp [hscope] at hscope'
    . dsimp only
      rw [rows_of_replace hreplace]
      refine hw.replace ?_ ?_ ?_ ?_ rfl hinc
      . simp +contextual [ControlRow.isWorkflow]
      . simp +contextual [ControlRow.isWorkflow]
      . intro r hr
        simp only [decide_eq_true_eq] at hr
        rw [hr]
      . simp [ControlRow.isWorkflow, controlRow, hscope]

variable (h : RevokeWrites fenced request generation s')

include h

omit hgen in
theorem RevokeWrites.unchanged_fence
    : s' = { s with
        certificateDispositions := fenced.certificateDispositions
        actorRevocations := fenced.actorRevocations
        workflowRevocations := fenced.workflowRevocations
        auditEvents := s'.auditEvents, controlEvents := s'.controlEvents
        trustLog := s'.trustLog, outbox := s'.outbox } := by
  have hunchanged := h.unchanged
  rw [hfenced.unchanged] at hunchanged
  exact hunchanged

theorem validateControl_controlRow (hs : Ledger config s)
    (hcerts : s'.certificates = s.certificates)
    (hlatest : s'.latestDisposition = fenced.latestDisposition)
    : validateControl s' (decodedCertificates config s') s'.latestDisposition
        (controlRow request generation) = .ok () := by
  simp only [validateControl, bind_eq_ok, exists_unit, ensure_eq_ok, decide_eq_true_eq]
  refine ⟨by simp only [controlRow, revocationAudit], by simp only [controlRow, revocationAudit],
    audit?_of_insert? h.auditEvents, by simp only [controlRow], by simp only [controlRow], ?_⟩
  obtain ⟨hscope, rfl⟩ | ⟨hscope, rfl, n, hn⟩ := revocationGeneration_cases hgen
  . rw [if_pos (show (controlRow request none).scope = .certificate from hscope)]
    simp only [bind_eq_ok, exists_unit, ensure_eq_ok, decide_eq_true_eq, hlatest,
      hfenced.latestDisposition, decodedCertificates_congr hcerts]
    refine ⟨rfl, by simp [controlRow, hscope], ?_⟩
    dsimp only [controlRow]
    cases hfenced with
    | certificate _ howner hcurr _ =>
      obtain ⟨certificate, hc⟩ := hs.latestDisposition_isSome.mp (by rw [hcurr]; rfl)
      obtain ⟨row, hrow, hvalid⟩ := mem_decodedCertificates.mp hc
      obtain ⟨-, hholds, hdig⟩ := validateCertificate_eq_ok.mp hvalid
      have hfind : s.certificate? request.targetId = some row := by
        rw [← show _ = request.targetId from hdig]
        exact Table.find?_key CertificateRow.certificateDigest hrow
      rw [lookup_decodedCertificates.mpr hc]
      exact decide_eq_true (hholds.workflowId.trans (howner row hfind))
    | actor hscope' => simp [hscope] at hscope'
    | workflow hscope' => simp [hscope] at hscope'
  . rw [if_neg (show (controlRow request _).scope ≠ .certificate from hscope)]
    simp only [controlRow, hn, orInvalid, ok_bind, ensure_eq_ok, decide_eq_true_eq]
    exact (toString_of_canonicalPositiveDecimal hn).1

omit hgen in
theorem RevokeWrites.trustWrites
    : TrustWrites s s' "control" (revocationAudit request) (revocationAudit request) .control
        (revocationAudit request) (controlRow request generation).payloadDigest
        (controlRow request generation).payload := by
  have htrust : fenced.trustLog = s.trustLog := by rw [hfenced.unchanged]
  have houtbox : fenced.outbox = s.outbox := by rw [hfenced.unchanged]
  have hrow (kind subject auditEventId : String)
      : trustRow fenced kind subject auditEventId = trustRow s kind subject auditEventId := by
    simp only [trustRow, Store.trustHead?, htrust]
  constructor
  . rw [← hrow, ← htrust]
    exact h.trustLog
  . rw [← hrow, ← houtbox]
    exact h.outbox

omit hgen hfenced in
theorem validateOutboxPayload_controlRow (hevent : row.auditEventId = revocationAudit request)
    : validateOutboxPayload s' (decodedCertificates config s')
        (nextFact s "control" (revocationAudit request) (revocationAudit request))
        (outboxRow .control (revocationAudit request)
          (controlRow request generation).payloadDigest (controlRow request generation).payload row)
        = .ok () := by
  unfold validateOutboxPayload
  change validateOutboxControl _ _ _ = _
  generalize houtbox : outboxRow .control (revocationAudit request)
    (controlRow request generation).payloadDigest (controlRow request generation).payload row
      = event
  have hfind : s'.controlEvents.find? (·.operationId = event.operationId)
      = some (controlRow request generation) := by
    rw [← houtbox]
    exact Table.find?_key ControlRow.operationId (Table.mem_of_insert? h.controlEvents)
  simp only [validateOutboxControl, hfind, bind_eq_ok, exists_unit, ensure_eq_ok, decide_eq_true_eq]
  rw [← houtbox]
  simp [outboxRow, controlRow, nextFact, OutboxKind.value, hevent]

omit hgen h in
theorem Fenced.logicalNodes (hs : LogicalNodesOk s (decodedCertificates config s))
    (hdecoded : decodedCertificates config s' = decodedCertificates config s)
    (hnodes : s'.logicalNodes = s.logicalNodes)
    (hlatest : s'.latestDisposition = fenced.latestDisposition)
    : LogicalNodesOk s' (decodedCertificates config s') where
  rows := by
    intro r hr
    obtain ⟨hzero, hpointer⟩ := validateLogicalNode_eq_ok.mp (hs.rows r (hnodes ▸ hr))
    refine validateLogicalNode_eq_ok.mpr ⟨hzero, fun digest hdig => ?_⟩
    obtain ⟨c, hlook, hkey, hvers, hsup⟩ := hpointer digest hdig
    refine ⟨c, hdecoded ▸ hlook, hkey, hvers, ?_⟩
    rw [hlatest, hfenced.latestDisposition]
    split
    . simp
    . exact hsup
  pointed := by
    intro c hc hcurr
    rw [hlatest, hfenced.latestDisposition] at hcurr
    rw [hdecoded] at hc
    rw [hnodes]
    split at hcurr
    . simp at hcurr
    . exact hs.pointed c hc hcurr

theorem RevokeWrites.integrity (hled : Ledger config s') (hs : Integrity config s)
    : Integrity config s' := by
  have hgrows := hfenced.grows.trans h.grows
  have hunchanged := h.unchanged_fence hfenced
  have hcerts : s'.certificates = s.certificates := by rw [hunchanged]
  have hdecoded : decodedCertificates config s' = decodedCertificates config s :=
    decodedCertificates_congr hcerts
  have hlatest : s'.latestDisposition = fenced.latestDisposition := by
    rw [hunchanged, hfenced.unchanged]
    rfl
  have hctrls : s'.controlEvents.rows
      = s.controlEvents.rows ++ [controlRow request generation] := by
    rw [Table.rows_of_insert? h.controlEvents, hfenced.unchanged]
  have hcomm : committedIds s' = committedIds s := by rw [hunchanged]; rfl
  have hdecs : s'.decisions = s.decisions := by rw [hunchanged]
  have hedges : s'.supersessionEdges = s.supersessionEdges := by rw [hunchanged]
  obtain ⟨_, htrust, houtbox⟩ := hs.trust
  refine
    { certificates := hled.certificates
      dispositions := hled.dispositions
      edges := hled.edges
      logicalNodes := hfenced.logicalNodes hs.logicalNodes hdecoded (by rw [hunchanged]) hlatest
      candidates := by rw [hunchanged]; exact hs.candidates
      operations := by rw [hunchanged]; exact hs.operations
      indexes := by rw [hunchanged]; exact { hs.indexes with }
      decisions := .extend hs hgrows (fun r hr => .inl (hdecs ▸ hr)) ?_ ?_ ?_ ?_
      outputRefs := by rw [hunchanged]; exact { hs.outputRefs with }
      supersessions := .extend hs hgrows (fun r hr => .inl (hedges ▸ hr))
        (hedges ▸ hs.supersessions.distinct) ?_ ?_ (fun r hr => .inl (hdecs ▸ hr))
      controls := ?_
      generations := hfenced.generations hgen hs.generations hctrls (by rw [hunchanged])
        (by rw [hunchanged])
      trust := ⟨_, (h.trustWrites hfenced).log_valid hgrows htrust
        (Option.isSome_of_eq_some (audit?_of_insert? h.auditEvents)) (.inr rfl),
        .insert (h.trustWrites hfenced) hgrows htrust houtbox ?_ ?_ ?_ ?_⟩
      conflicts := .extend hs hgrows (fun r hr => .inl ?_) ?_ }
  . intro r hr hnone
    rw [hunchanged]
    exact hnone
  . intro r hr
    rw [hunchanged] at hr
    exact .inl hr
  . rw [hcomm, hunchanged]
    exact hs.decisions.evidence
  . rw [hcomm, hdecoded]
    exact hs.decisions.certificates
  . intro c hc hsup
    rw [hlatest, hfenced.latestDisposition] at hsup
    split at hsup
    . simp at hsup
    . rw [hedges]
      exact hs.supersessions.superseded c (hdecoded ▸ hc) hsup
  . intro r hr digest hdig
    rw [incoming?, hedges, incoming?]
  . intro r hr
    rcases (Table.mem_insert? h.controlEvents).mp hr with hr | rfl
    . rw [hfenced.unchanged] at hr
      exact validateControl_grows hgrows hs.dispositions (hs.controls r hr)
    . exact validateControl_controlRow hgen hfenced h hs.ledger hcerts hlatest
  . exact validateOutboxPayload_controlRow h (by simp only [trustRow])
  . simp [hcomm]
  . simp [hctrls, controlRow, eq_comm, or_comm]
  . simp [hcomm, hctrls, Nat.add_assoc]
  . rw [hunchanged] at hr
    exact hr
  . rw [hunchanged]
    exact hs.conflicts.sequences

end Revocation

end Apcc
