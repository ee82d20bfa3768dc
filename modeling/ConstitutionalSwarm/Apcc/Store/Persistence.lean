import ConstitutionalSwarm.Apcc.Store.Ledger
import ConstitutionalSwarm.Apcc.Store.Texts

namespace Apcc

open Option

variable [Platform] {cfg : AuthorityConfig} {s s' : Store}

namespace Grows

variable (h : Grows s s')

include h

omit [Platform] in
theorem audit?_eq (htext : audit? s aeid = some text)
    : audit? s' aeid = some text := by
  simp only [audit?, map_eq_some_iff] at htext ⊢
  obtain ⟨row, hrow, rfl⟩ := htext
  exact ⟨row, h.auditEvents.find?_eq_some hrow, rfl⟩

variable {cid digest : String}

omit [Platform] in
theorem public?_eq (hdig : public? s cid = some digest)
    : public? s' cid = some digest := by
  simp only [public?, map_eq_some_iff] at hdig ⊢
  obtain ⟨row, hrow, rfl⟩ := hdig
  exact ⟨row, h.requestIndex.find?_eq_some hrow, rfl⟩

omit [Platform] in
theorem decision?_eq (hrow : s.decisions.find? (·.commitId = cid) = some row)
    : s'.decisions.find? (·.commitId = cid) = some row :=
  h.decisions.find?_eq_some hrow

theorem lookup_indexedOperations (hop : (indexedOperations s).lookup cid = some operation)
    : (indexedOperations s').lookup cid = some operation := by
  obtain ⟨_, hrest⟩ := h.commitIndex.filterMap fun r => (validateCommitIndex r).toOption
  rw [indexedOperations, ← hrest, List.lookup_append]
  exact or_eq_some_iff.mpr (.inl hop)

theorem lookup_decodedCertificates
    (hcert : (decodedCertificates cfg s).lookup digest = some certificate)
    : (decodedCertificates cfg s').lookup digest = some certificate := by
  obtain ⟨_, hrest⟩ :=
    h.certificates.filterMap fun r => (validateCertificate cfg r).toOption
  rw [decodedCertificates, ← hrest, List.lookup_append]
  exact or_eq_some_iff.mpr (.inl hcert)

omit [Platform] in
theorem latestDisposition_eq {certs} (hs : DispositionsOk s certs) {disposition}
    (hne : disposition ≠ .current) (hlatest : s.latestDisposition digest = some disposition)
    : s'.latestDisposition digest = some disposition := by
  simp only [Store.latestDisposition, map_eq_some_iff, or_eq_some_iff] at hlatest ⊢
  obtain ⟨row, htwo | ⟨-, hone⟩, rfl⟩ := hlatest
  . exact ⟨row, .inl (h.certificateDispositions.find?_eq_some htwo), rfl⟩
  . obtain ⟨hmem, hp⟩ := Table.mem_of_find? hone
    simp only [Bool.and_eq_true, decide_eq_true_eq] at hp
    rcases hs.follows row hmem with ⟨-, hcurr⟩ | ⟨htwo, -⟩
    . exact absurd hcurr hne
    . omega

omit [Platform] in
theorem latestDisposition_isSome (hlatest : (s.latestDisposition digest).isSome)
    : (s'.latestDisposition digest).isSome := by
  rw [isSome_iff_exists] at hlatest
  obtain ⟨_, hlatest⟩ := hlatest
  simp only [Store.latestDisposition, map_eq_some_iff, or_eq_some_iff] at hlatest
  obtain ⟨row, htwo | ⟨-, hone⟩, -⟩ := hlatest
  . have htwo' := h.certificateDispositions.find?_eq_some htwo
    simp [Store.latestDisposition, Store.disposition?, Table.find?, htwo']
  . have hone' := h.certificateDispositions.find?_eq_some hone
    simp [Store.latestDisposition, Store.disposition?, Table.find?, hone']

end Grows

section Rows

variable (h : Grows s s')

include h

variable {row : DecisionRow}

theorem validateDecisionAudit_grows (hrow : validateDecisionAudit s row op = .ok ())
    : validateDecisionAudit s' row op = .ok () := by
  cases haudit : audit? s row.auditEventId with
  | none => simp [validateDecisionAudit, haudit] at hrow
  | some text =>
    rw [← hrow]
    simp only [validateDecisionAudit, haudit, h.audit?_eq haudit]

theorem validateDecision_grows
    (hevid : evidence? s row.commitId = none → evidence? s' row.commitId = none)
    (hrow : validateDecision cfg s (decodedCertificates cfg s) (indexedOperations s) row
      = .ok ())
    : validateDecision cfg s' (decodedCertificates cfg s') (indexedOperations s') row
        = .ok () := by
  unfold validateDecision at hrow ⊢
  split at hrow
  . simp at hrow
  . next op hop =>
    rw [h.lookup_indexedOperations hop]
    simp only [bind_eq_ok, exists_unit, ensure_eq_ok, decide_eq_true_eq] at hrow ⊢
    obtain ⟨hreason, haudit, hnonce, digest, hdig, hpub, howner, hreplay, hrow⟩ := hrow
    refine ⟨hreason, validateDecisionAudit_grows h haudit, hnonce, digest, hdig,
      h.public?_eq hpub, ?_, hreplay, ?_⟩
    . rw [any_eq_true] at howner ⊢
      obtain ⟨owner, hfind, hid⟩ := howner
      exact ⟨owner, h.nonceLedger.find?_eq_some hfind, hid⟩
    . split at hrow
      . next hcomm =>
        rw [if_pos hcomm]
        unfold validateCommitted at hrow ⊢
        split at hrow
        . simp at hrow
        . next certificate hcert =>
          obtain ⟨digest, hdig, hlook⟩ := bind_eq_some_iff.mp hcert
          have hcert' : (row.certificateDigest.bind fun digest =>
              (decodedCertificates cfg s').lookup digest) = some certificate := by
            rw [hdig]
            exact h.lookup_decodedCertificates hlook
          rw [hcert']
          simp only [bind_eq_ok, exists_unit, ensure_eq_ok, decide_eq_true_eq] at hrow ⊢
          obtain ⟨h₁, h₂, h₃, h₄, h₅, h₆, h₇, h₈, h₉, hrefs⟩ := hrow
          exact ⟨h₁, h₂, h₃, h₄, h₅, h₆, h₇, h₈, h₉, h.evidenceRefs.find?_eq_some hrefs⟩
      . next hcomm =>
        rw [if_neg hcomm]
        simp only [validateDenial, bind_eq_ok, exists_unit, ensure_eq_ok,
          isNone_iff_eq_none] at hrow ⊢
        obtain ⟨hdenial, hnone, hrefs, howner⟩ := hrow
        exact ⟨hdenial, hnone, hevid hrefs, howner⟩

omit [Platform] in
theorem decisionEvent_grows
    (hevent : decisionEvent s cid = .ok event) : decisionEvent s' cid = .ok event := by
  unfold decisionEvent at hevent ⊢
  split at hevent
  . simp at hevent
  . next text htext =>
    obtain ⟨_, hrow, haudit⟩ := bind_eq_some_iff.mp htext
    rw [h.decision?_eq hrow, bind_some, h.audit?_eq haudit]
    exact hevent

theorem validateSupersessionEdge_grows (hs : DispositionsOk s (decodedCertificates cfg s)) {row}
    (hrow : validateSupersessionEdge s (decodedCertificates cfg s) s.latestDisposition
      (indexedOperations s) row = .ok ())
    : validateSupersessionEdge s' (decodedCertificates cfg s') s'.latestDisposition
        (indexedOperations s') row = .ok () := by
  unfold validateSupersessionEdge at hrow ⊢
  split at hrow
  . next old new hold hnew =>
    rw [h.lookup_decodedCertificates hold, h.lookup_decodedCertificates hnew]
    simp only [bind_eq_ok] at hrow ⊢
    obtain ⟨event, hevent, hrow⟩ := hrow
    refine ⟨event, decisionEvent_grows h hevent, ?_⟩
    split at hrow
    . simp at hrow
    . next op event hop =>
      rw [h.lookup_indexedOperations hop]
      simp only [bind_eq_ok, exists_unit, ensure_eq_ok, decide_eq_true_eq] at hrow ⊢
      obtain ⟨h₁, h₂, h₃, h₄, hlatest, hlatest', hrow⟩ := hrow
      exact ⟨h₁, h₂, h₃, h₄, h.latestDisposition_eq hs (by simp) hlatest,
        h.latestDisposition_isSome hlatest', hrow⟩
    . simp at hrow
  . simp at hrow

theorem validateIncoming_grows
    (hincoming : ∀ digest ∈ row.certificateDigest, incoming? s' digest = incoming? s digest)
    (hrow : validateIncoming s (indexedOperations s) row = .ok ())
    : validateIncoming s' (indexedOperations s') row = .ok () := by
  unfold validateIncoming at hrow ⊢
  split at hrow
  . next digest op hdig hop =>
    rw [hdig, h.lookup_indexedOperations hop]
    dsimp only
    rw [hincoming digest hdig]
    exact hrow
  . simp at hrow

theorem validateControl_grows (hs : DispositionsOk s (decodedCertificates cfg s)) {row}
    (hrow : validateControl s (decodedCertificates cfg s) s.latestDisposition row = .ok ())
    : validateControl s' (decodedCertificates cfg s') s'.latestDisposition row = .ok () := by
  simp only [validateControl, bind_eq_ok, exists_unit, ensure_eq_ok, decide_eq_true_eq] at hrow ⊢
  obtain ⟨h₁, h₂, haudit, h₄, h₅, hrow⟩ := hrow
  refine ⟨h₁, h₂, h.audit?_eq haudit, h₄, h₅, ?_⟩
  split at hrow
  . next hscope =>
    rw [if_pos hscope]
    simp only [bind_eq_ok, exists_unit, ensure_eq_ok, decide_eq_true_eq] at hrow ⊢
    obtain ⟨hnone, hlatest, hcert⟩ := hrow
    refine ⟨hnone, h.latestDisposition_eq hs (by simp) hlatest, ?_⟩
    rw [any_eq_true] at hcert ⊢
    obtain ⟨cert, hlook, hwf⟩ := hcert
    exact ⟨cert, h.lookup_decodedCertificates hlook, hwf⟩
  . next hscope =>
    rw [if_neg hscope]
    exact hrow

theorem validateTrustRow_grows {exp : Nat} {prior row fact}
    (hrow : validateTrustRow s exp prior row = .ok fact)
    : validateTrustRow s' exp prior row = .ok fact := by
  unfold validateTrustRow at hrow ⊢
  simp only [bind_eq_ok, exists_unit, ensure_eq_ok] at hrow ⊢
  obtain ⟨hseq, haudit, hrow⟩ := hrow
  refine ⟨hseq, ?_, hrow⟩
  obtain ⟨_, htext⟩ := isSome_iff_exists.mp haudit
  rw [h.audit?_eq htext]
  rfl

theorem validateTrustRows_grows (hrows : validateTrustRows s exp prior rows = .ok facts)
    : validateTrustRows s' exp prior rows = .ok facts := by
  induction rows generalizing exp prior facts with
  | nil => exact hrows
  | cons row rows ih =>
    simp only [validateTrustRows, bind_eq_ok, pure_eq_ok] at hrows ⊢
    obtain ⟨fact, hfact, facts', hfacts, heq⟩ := hrows
    exact ⟨fact, validateTrustRow_grows h hfact, facts', ih hfacts, heq⟩

theorem validateOutputRef_grows {row}
    (hcand : ∀ result,
      (s.candidate? row.workflowId row.nodeId row.attemptId).bind (·.result) = some result →
      (s'.candidate? row.workflowId row.nodeId row.attemptId).bind (·.result) = some result)
    (hrow : validateOutputRef s (indexedOperations s) row = .ok ())
    : validateOutputRef s' (indexedOperations s') row = .ok () := by
  unfold validateOutputRef at hrow ⊢
  split at hrow
  . simp at hrow
  . next op hop =>
    rw [h.lookup_indexedOperations hop]
    dsimp only at hrow ⊢
    split at hrow
    . simp at hrow
    . next result hres =>
      have hres' : (s'.candidate? op.request.subject.workflowId
          op.request.subject.nodeId op.request.subject.attemptId).bind (·.result)
            = some result := by
        simp only [bind_eq_ok, exists_unit, ensure_eq_ok, decide_eq_true_eq] at hrow
        obtain ⟨hrow, -⟩ := hrow
        rw [hrow] at hcand
        exact hcand result hres
      rw [hres']
      exact hrow

theorem validateConflict_grows {row} (hrow : validateConflict s (indexedOperations s) row = .ok ())
    : validateConflict s' (indexedOperations s') row = .ok () := by
  unfold validateConflict at hrow ⊢
  dsimp only at hrow ⊢
  cases hidx : (indexedOperations s).lookup row.commitId with
  | none =>
    rw [hidx] at hrow
    simp only [bind_eq_ok] at hrow
    obtain ⟨_, -, hrow⟩ := hrow
    simp at hrow
  | some orig =>
    rw [hidx] at hrow
    rw [h.lookup_indexedOperations hidx]
    simp only [bind_eq_ok, exists_unit, ensure_eq_ok, decide_eq_true_eq] at hrow ⊢
    obtain ⟨exp, hexp, h₁, hpub, h₃, h₄, h₅, h₆, h₇, h₈, h₉, h₁₀, h₁₁, haudit, h₁₃⟩ :=
      hrow
    exact ⟨exp, hexp, h₁, h.public?_eq hpub, h₃, h₄, h₅, h₆, h₇, h₈, h₉, h₁₀, h₁₁,
      h.audit?_eq haudit, h₁₃⟩

theorem validateOutboxPayload_grows {fact row}
    (hrow : validateOutboxPayload s (decodedCertificates cfg s) fact row = .ok ())
    : validateOutboxPayload s' (decodedCertificates cfg s') fact row = .ok () := by
  unfold validateOutboxPayload at hrow ⊢
  split at hrow
  . unfold validateOutboxCommit at hrow ⊢
    split at hrow
    . simp at hrow
    . next dec hdecision =>
      rw [h.decision?_eq hdecision]
      simp only [bind_eq_ok, exists_unit] at hrow ⊢
      refine ⟨hrow.1, ?_⟩
      obtain ⟨-, hrow⟩ := hrow
      split at hrow
      . simp at hrow
      . next cert hcert =>
        rw [h.lookup_decodedCertificates hcert]
        exact hrow
  . unfold validateOutboxControl at hrow ⊢
    split at hrow
    . simp at hrow
    . next control hctrl =>
      have hctrl' : s'.controlEvents.find? (·.operationId = row.operationId) = some control :=
        h.controlEvents.find?_eq_some hctrl
      rw [hctrl']
      exact hrow

theorem validateOutboxRow_grows {facts facts'} (hfacts : facts <+: facts')
    {row state} (hstate : state.check)
    (hrow : validateOutboxRow s (decodedCertificates cfg s) facts row = .ok ())
    : validateOutboxRow s' (decodedCertificates cfg s') facts' { row with state := state }
        = .ok () := by
  unfold validateOutboxRow at hrow ⊢
  simp only [bind_eq_ok, exists_unit] at hrow ⊢
  refine ⟨hrow.1, ?_⟩
  obtain ⟨-, hrow⟩ := hrow
  split at hrow
  . simp at hrow
  . next fact hfact =>
    rw [hfacts.find?_eq_some hfact]
    simp only [bind_eq_ok, exists_unit, ensure_eq_ok] at hrow ⊢
    obtain ⟨haudit, hpay, -⟩ := hrow
    refine ⟨haudit, ?_, hstate⟩
    exact validateOutboxPayload_grows h hpay

end Rows

end Apcc
