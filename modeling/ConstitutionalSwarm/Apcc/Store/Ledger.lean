import ConstitutionalSwarm.Apcc.Store.Publication

namespace Apcc

theorem latestIn_insertDisposition (h : insertDisposition t row = .ok t') (digest : String)
    : latestIn t'.rows digest =
      if digest = row.certificateDigest then some row.disposition
      else latestIn t.rows digest := by
  obtain ⟨hins, hrow⟩ := insertDisposition_cases h
  have hrows := Table.rows_of_insert? hins
  split
  . next hdig =>
    rw [hdig, hrows]
    rcases hrow with ⟨hone, -, hfresh⟩ | ⟨htwo, -, -⟩
    . apply latestIn_append_one hone
      simp only [latestIn, Option.map_eq_none_iff, Option.or_eq_none_iff, List.find?_eq_none]
      constructor <;> intro r hr <;> simp [hfresh r hr]
    . exact latestIn_append_two (hrows ▸ distinctKeys_rows t') htwo
  . next hdig =>
    rw [hrows]
    exact latestIn_append_of_ne (Ne.symm hdig)

variable [Platform] {config : AuthorityConfig} {auth : Authority} {s s' : Store}

theorem mem_decodedCertificates
    : entry ∈ decodedCertificates config s ↔
      ∃ r ∈ s.certificates, validateCertificate config r = .ok entry := by
  simp [decodedCertificates, Except.toOption_eq_some, Table.mem_def]

theorem eq_of_mem_decodedCertificates (ha : a ∈ decodedCertificates config s)
    (hb : b ∈ decodedCertificates config s) (h : a.1 = b.1) : a = b := by
  obtain ⟨r, hr, hra⟩ := mem_decodedCertificates.mp ha
  obtain ⟨r', hr', hrb⟩ := mem_decodedCertificates.mp hb
  have hdig := (validateCertificate_eq_ok.mp hra).2.2
  have hdig' := (validateCertificate_eq_ok.mp hrb).2.2
  have hrow : r = r' :=
    Table.eq_of_key CertificateRow.certificateDigest hr hr' ((hdig.trans h).trans hdig'.symm)
  rw [hrow, hrb] at hra
  exact (Except.ok.inj hra).symm

theorem lookup_decodedCertificates
    : (decodedCertificates config s).lookup digest = some cert ↔
      (digest, cert) ∈ decodedCertificates config s := by
  apply Assoc.lookup_eq_some
  intro b b' hb hb'
  exact (Prod.mk.inj (eq_of_mem_decodedCertificates hb hb' rfl)).2

theorem decodedCertificates_congr (h : s'.certificates = s.certificates)
    : decodedCertificates config s' = decodedCertificates config s := by
  rw [decodedCertificates, h, decodedCertificates]

section Publishes

variable {node : LogicalNodeRow} {row : CertificateRow} {cert : CommitCertificate}
  {old : Option String}

theorem Publishes.decodedCertificates (h : Publishes auth s node row cert old s')
    : decodedCertificates auth.config s' =
      Apcc.decodedCertificates auth.config s ++ [(row.certificateDigest, cert)] := by
  rw [Apcc.decodedCertificates, Table.rows_of_insert? h.certificates, List.filterMap_append,
    Apcc.decodedCertificates]
  simp [h.validated, Except.toOption]

theorem Publishes.fresh (h : Publishes auth s node row cert old s')
    (hentry : entry ∈ Apcc.decodedCertificates config s)
    : entry.1 ≠ row.certificateDigest := by
  obtain ⟨r, hr, hvalidated⟩ := mem_decodedCertificates.mp hentry
  have hcompat := (Table.check_of_insert? h.certificates).2 r hr
  simp only [TableSchema.compatible, Bool.and_eq_true, decide_eq_true_eq] at hcompat
  rw [← (validateCertificate_eq_ok.mp hvalidated).2.2]
  exact hcompat.1.1

end Publishes

theorem latestIn_recordDisposition
    (h : recordDisposition s digest nonce old = .ok (dispositions, edges)) (d : String)
    : latestIn dispositions.rows d =
      if d = digest then some .current
      else if some d = old then some .superseded
      else s.latestDisposition d := by
  rw [latestDisposition_eq_latestIn]
  cases old with
  | none =>
    simp only [recordDisposition, bind_eq_ok, pure_inj, Prod.mk.injEq] at h
    obtain ⟨_, hins, rfl, rfl⟩ := h
    simp [latestIn_insertDisposition hins]
  | some old =>
    simp only [recordDisposition, bind_eq_ok, pure_inj, Prod.mk.injEq] at h
    obtain ⟨_, hold, _, hnew, _, -, rfl, rfl⟩ := h
    simp [latestIn_insertDisposition hnew, latestIn_insertDisposition hold]

theorem rows_of_recordDisposition
    (h : recordDisposition s digest nonce old = .ok (dispositions, edges))
    : edges.rows = s.supersessionEdges.rows ++
        old.toList.map fun old => ⟨auditId "replace" [old, digest], old, digest, nonce⟩ := by
  cases old with
  | none =>
    simp only [recordDisposition, bind_eq_ok, pure_inj, Prod.mk.injEq] at h
    obtain ⟨_, -, -, rfl⟩ := h
    simp
  | some old =>
    simp only [recordDisposition, bind_eq_ok, pure_inj, Prod.mk.injEq, insert_eq_ok] at h
    obtain ⟨_, -, _, -, _, hins, -, rfl⟩ := h
    exact Table.rows_of_insert? hins

structure Ledger (config : AuthorityConfig) (s : Store) : Prop where
  certificates : ∀ r ∈ s.certificates, ∃ c, validateCertificate config r = .ok c
  dispositions : DispositionsOk s (decodedCertificates config s)
  edges : ∀ e, e ∈ allSignedEdges (decodedCertificates config s) ↔ e ∈ allStoredEdges s

theorem Integrity.ledger (h : Integrity config s) : Ledger config s :=
  ⟨h.certificates, h.dispositions, h.edges⟩

theorem Ledger.latestDisposition_isSome (h : Ledger config s)
    : (s.latestDisposition digest).isSome ↔
      ∃ cert, (digest, cert) ∈ decodedCertificates config s := by
  constructor
  . intro hsome
    obtain ⟨_, hlatest⟩ := Option.isSome_iff_exists.mp hsome
    simp only [Store.latestDisposition, Option.map_eq_some_iff, Option.or_eq_some_iff] at hlatest
    obtain ⟨r, hr, -⟩ := hlatest
    have hmem : r ∈ s.certificateDispositions ∧ r.certificateDigest = digest := by
      rcases hr with hr | ⟨-, hr⟩ <;>
      . obtain ⟨hmem, hp⟩ := Table.mem_of_find? hr
        simp only [Bool.and_eq_true, decide_eq_true_eq] at hp
        exact ⟨hmem, hp.1⟩
    rw [← hmem.2]
    exact Assoc.lookup_isSome.mp (h.dispositions.known r hmem.1)
  . rintro ⟨cert, hc⟩
    exact h.dispositions.started _ hc

omit [Platform] in
theorem DispositionsOk.insert (h : DispositionsOk s certificates)
    (hins : insertDisposition s.certificateDispositions row = .ok s'.certificateDispositions)
    (hcerts : ∀ c ∈ certificates, c ∈ certificates')
    (hknown : ∃ c, (row.certificateDigest, c) ∈ certificates')
    (hnew : ∀ c ∈ certificates', c ∈ certificates ∨ c.1 = row.certificateDigest)
    : DispositionsOk s' certificates' := by
  obtain ⟨hinserted, hrow⟩ := insertDisposition_cases hins
  have hmem {r : DispositionRow} := Table.mem_insert? (r := r) hinserted
  constructor
  . intro r hr
    rw [Assoc.lookup_isSome]
    rcases hmem.mp hr with hr | rfl
    . obtain ⟨c, hc⟩ := Assoc.lookup_isSome.mp (h.known r hr)
      exact ⟨c, hcerts _ hc⟩
    . exact hknown
  . intro r hr
    rcases hmem.mp hr with hr | rfl
    . rcases h.follows r hr with hone | ⟨htwo, hne, hstart⟩
      . exact .inl hone
      . exact .inr ⟨htwo, hne, hmem.mpr (.inl hstart)⟩
    . rcases hrow with ⟨hone, hcurr, -⟩ | ⟨htwo, hne, hstart⟩
      . exact .inl ⟨hone, hcurr⟩
      . exact .inr ⟨htwo, hne, hmem.mpr (.inl hstart)⟩
  . intro c hc
    rw [latestDisposition_eq_latestIn, latestIn_insertDisposition hins]
    split
    . rfl
    . next hne =>
      rcases hnew c hc with hc | hc
      . exact h.started c hc
      . exact absurd hc hne

omit [Platform] in
theorem DispositionsOk.congr (h : DispositionsOk s certificates)
    (heq : s'.certificateDispositions = s.certificateDispositions)
    : DispositionsOk s' certificates := by
  obtain ⟨hknown, hfollows, hstarted⟩ := h
  refine ⟨heq ▸ hknown, heq ▸ hfollows, fun c hc => ?_⟩
  rw [latestDisposition_eq_latestIn, heq]
  exact hstarted c hc

theorem DispositionsOk.record (h : DispositionsOk s certificates)
    (hrec : recordDisposition s digest nonce old
      = .ok (s'.certificateDispositions, s'.supersessionEdges))
    (hold : ∀ d ∈ old, ∃ c, (d, c) ∈ certificates)
    : DispositionsOk s' (certificates ++ [(digest, cert)]) := by
  cases old with
  | none =>
    simp only [recordDisposition, bind_eq_ok, pure_inj, Prod.mk.injEq] at hrec
    obtain ⟨_, hins, rfl, -⟩ := hrec
    exact h.insert hins (by simp +contextual) ⟨cert, by simp⟩
      (by simp +contextual [or_imp])
  | some old =>
    simp only [recordDisposition, bind_eq_ok, pure_inj, Prod.mk.injEq] at hrec
    obtain ⟨dispositions, hsupersede, _, hins, _, -, rfl, -⟩ := hrec
    have hsup : DispositionsOk { s with certificateDispositions := dispositions }
        certificates :=
      h.insert hsupersede (fun _ => id) (hold old rfl) (fun _ => .inl)
    exact hsup.insert hins (by simp +contextual) ⟨cert, by simp⟩
      (by simp +contextual [or_imp])

omit [Platform] in
theorem allSignedEdges_append (certificates : Certificates) (entry : String × CommitCertificate)
    : allSignedEdges (certificates ++ [entry]) =
      allSignedEdges certificates ++ entry.2.bindings.predecessors.map fun p =>
          (entry.2.decision.commitId, p.certificateDigest) := by
  simp [allSignedEdges]

theorem Publishes.ledger
    (h : Publishes auth s node row cert old s') (hs : Ledger auth.config s)
    : Ledger auth.config s' := by
  constructor
  . exact Table.forall_mem_of_insert? h.certificates hs.certificates ⟨_, h.validated⟩
  . rw [h.decodedCertificates]
    refine hs.dispositions.record h.dispositions fun d hd => ?_
    exact hs.latestDisposition_isSome.mp (by rw [h.current d hd]; rfl)
  . intro e
    obtain ⟨_, hperm, hrows⟩ := h.predecessorEdges
    rw [h.decodedCertificates, allSignedEdges_append, allStoredEdges, hrows, List.map_append,
      List.mem_append, List.mem_append, hs.edges e, allStoredEdges, List.map_map]
    exact or_congr_right (hperm.map _).mem_iff.symm

theorem PublicationStep.ledger (h : PublicationStep auth s s')
    (hs : Ledger auth.config s) : Ledger auth.config s' := by
  cases h with
  | same h =>
    refine ⟨h.certificates ▸ hs.certificates, ?_, ?_⟩
    . rw [decodedCertificates_congr h.certificates]
      exact hs.dispositions.congr h.dispositions
    . rw [decodedCertificates_congr h.certificates, allStoredEdges, h.predecessorEdges]
      exact hs.edges
  | revoked hcurr hins h =>
    have hcerts : s'.certificates = s.certificates := h.certificates
    refine ⟨hcerts ▸ hs.certificates, ?_, ?_⟩
    . rw [decodedCertificates_congr hcerts]
      refine hs.dispositions.insert (by rw [h.dispositions]; exact hins) (fun _ => id) ?_
        fun _ => .inl
      exact hs.latestDisposition_isSome.mp (by rw [hcurr]; rfl)
    . rw [decodedCertificates_congr hcerts, allStoredEdges, h.predecessorEdges]
      exact hs.edges
  | published h => exact h.ledger hs

theorem Runs.ledger (hrun : Runs auth s s') (hs : Ledger auth.config s)
    : Ledger auth.config s' :=
  Transition.Run.invariant (fun _ _ _ _ hstep => (step_publication hstep).ledger) hrun hs

end Apcc
