import ConstitutionalSwarm.Apcc.Model

namespace Apcc

open List Json

section Fields

variable {key k : String} {rest : Fields}

@[simp]
theorem object_obj (fields : Fields) : object (.obj fields) = .ok fields := rfl

@[simp]
theorem item_cons_self (v : Json) : item ((key, v) :: rest) key = .ok v := by
  simp [item]

@[simp]
theorem item_cons_of_ne (h : key ≠ k) : item ((k, v) :: rest) key = item rest key := by
  have hbeq : (key == k) = false := by simpa using h
  simp [item, List.lookup_cons, hbeq]

@[simp]
theorem string_cons_self (s : String) : string ((key, .str s) :: rest) key = .ok s := by
  simp [string, bind, Except.bind, pure, Except.pure]

@[simp]
theorem string_cons_of_ne (h : key ≠ k)
    : string ((k, v) :: rest) key = string rest key := by
  simp [string, h]

@[simp]
theorem array_cons_self (vs : List Json) (msg : String)
    : array ((key, .arr vs) :: rest) key msg = .ok vs := by
  simp [array, bind, Except.bind, pure, Except.pure]

@[simp]
theorem array_cons_of_ne (h : key ≠ k) (message : String)
    : array ((k, v) :: rest) key message = array rest key message := by
  simp [array, h]

@[simp]
theorem nested_cons_self {α : Type} (v : Json) (fromObject : Fields → Py α)
    : nested ((key, v) :: rest) key fromObject = object v >>= fromObject := by
  simp [nested, bind, Except.bind]

@[simp]
theorem nested_cons_of_ne {α : Type} {v} (h : key ≠ k) (fromObject : Fields → Py α)
    : nested ((k, v) :: rest) key fromObject = nested rest key fromObject := by
  simp [nested, h]

theorem expectKeys_eq_ok
    : expectKeys value expected = .ok () ↔ ∀ k, k ∈ value.map Prod.fst ↔ k ∈ expected := by
  simp only [expectKeys, ensure_eq_ok, Bool.and_eq_true, all_eq_true, contains_eq_mem,
    decide_eq_true_eq]
  exact ⟨fun h k => ⟨h.1 k, h.2 k⟩, fun h => ⟨fun k => (h k).mp, fun k => (h k).mpr⟩⟩

end Fields

theorem Signature.fromObject_toObject (v : Signature)
    : object v.toObject >>= Signature.fromObject = .ok v := by
  obtain ⟨_, _, _, rfl⟩ := v
  simp [toObject, fromObject, expectKeys, keys]

theorem CertificateHeader.fromObject_toObject (v : CertificateHeader)
    : object v.toObject >>= CertificateHeader.fromObject = .ok v := by
  obtain ⟨_, _, _, _, _, _, _, _, rfl, rfl, rfl, rfl, rfl⟩ := v
  simp [toObject, fromObject, expectKeys, keys, supported]

theorem CertificateSubject.fromObject_toObject (v : CertificateSubject)
    : object v.toObject >>= CertificateSubject.fromObject = .ok v := by
  simp [toObject, fromObject, expectKeys, keys]

theorem CertificateContext.fromObject_toObject (v : CertificateContext)
    : object v.toObject >>= CertificateContext.fromObject = .ok v := by
  simp [toObject, fromObject, expectKeys, keys]

theorem CertificateDecision.fromObject_toObject (v : CertificateDecision)
    : object v.toObject >>= CertificateDecision.fromObject = .ok v := by
  obtain ⟨_, _, _, _, _, rfl⟩ := v
  simp [toObject, fromObject, expectKeys, keys]

theorem PredecessorRef.fromObject_toObject (v : PredecessorRef)
    : object v.toObject >>= PredecessorRef.fromObject = .ok v := by
  simp [toObject, fromObject, expectKeys, keys]

theorem PredecessorRef.mapM_fromObject_toObject (vs : List PredecessorRef)
    : (vs.map PredecessorRef.toObject).mapM (fun raw => object raw >>= PredecessorRef.fromObject)
      =
      .ok vs := by
  induction vs with
  | nil => rfl
  | cons v vs ih =>
    rw [map_cons, mapM_cons, PredecessorRef.fromObject_toObject, ih]
    rfl

theorem CertificateBindings.fromObject_toObject (v : CertificateBindings)
    : object v.toObject >>= CertificateBindings.fromObject = .ok v := by
  simp only [toObject, object_obj, ok_bind, fromObject, expectKeys, keys]
  simp [PredecessorRef.mapM_fromObject_toObject, v.valid, -mapM_map]

theorem CertificateSignatures.fromObject_toObject (v : CertificateSignatures)
    : object v.toObject >>= CertificateSignatures.fromObject = .ok v := by
  simp [toObject, fromObject, expectKeys, keys, Signature.fromObject_toObject]

theorem Statement.mapM_toFields (error : PyError) (entries : List (String × String))
    : (entries.map fun e => (e.1, str e.2)).mapM (stringEntry error) = .ok entries := by
  induction entries with
  | nil => rfl
  | cons e entries ih =>
    rw [map_cons, mapM_cons, ih]
    rfl

theorem Statement.fromFields_toFields (v : Statement) (error : PyError)
    : Statement.fromFields v.toFields error = .ok v := by
  simp only [fromFields, toFields, mapM_toFields, ok_bind, pure_eq_ok, ofPairs,
    dict_of_sortedKeys v.sorted]

variable (v : CertificateEvidence)

def CertificateEvidence.ExactKeys : Prop :=
  (∀ k, k ∈ v.producerStatement.entries.map Prod.fst ↔ k ∈ producerKeys) ∧
    (∀ k, k ∈ v.policyStatement.entries.map Prod.fst ↔ k ∈ policyKeys) ∧
    (∀ k, k ∈ v.authorityStatement.entries.map Prod.fst ↔ k ∈ authorityKeys)

theorem Statement.map_fst_toFields (v : Statement)
    : v.toFields.map Prod.fst = v.entries.map Prod.fst := by
  simp [toFields]

theorem CertificateEvidence.fromObject_toObject (h : v.ExactKeys)
    : object v.toObject >>= CertificateEvidence.fromObject = .ok v := by
  have hprod := expectKeys_eq_ok.mpr (v.producerStatement.map_fst_toFields ▸ h.1)
  have hpol := expectKeys_eq_ok.mpr (v.policyStatement.map_fst_toFields ▸ h.2.1)
  have hauth := expectKeys_eq_ok.mpr (v.authorityStatement.map_fst_toFields ▸ h.2.2)
  have hkeys : ∀ a b c d e f, expectKeys
      [("authority_statement", a), ("authority_statement_digest", b), ("policy_statement", c),
        ("policy_statement_digest", d), ("producer_statement", e),
        ("producer_statement_digest", f)] keys = .ok () := by
    intros
    simp [expectKeys, keys]
  simp [toObject, fromObject, hkeys, Statement.toObject, hprod, hpol, hauth,
    Statement.fromFields_toFields, v.literals]

theorem CertificateEvidence.exactKeys_of_fromObject (w : CertificateEvidence)
    (h : object v.toObject >>= CertificateEvidence.fromObject = .ok w) : v.ExactKeys := by
  simp only [toObject, object_obj, ok_bind, fromObject, bind_eq_ok] at h
  obtain ⟨_, _, _, hprod, _, hproducerKeys, _, hpol, _, hpolicyKeys, _,
    hauth, _, hauthorityKeys, _⟩ := h
  simp [Statement.toObject] at hprod hpol hauth
  subst hprod hpol hauth
  exact ⟨v.producerStatement.map_fst_toFields ▸ expectKeys_eq_ok.mp hproducerKeys,
    v.policyStatement.map_fst_toFields ▸ expectKeys_eq_ok.mp hpolicyKeys,
    v.authorityStatement.map_fst_toFields ▸ expectKeys_eq_ok.mp hauthorityKeys⟩

theorem CommitCertificate.fromObject_toObject (v : CommitCertificate) (h : v.evidence.ExactKeys)
    : object v.toObject >>= CommitCertificate.fromObject = .ok v := by
  simp [toObject, fromObject, expectKeys, keys, CertificateHeader.fromObject_toObject,
    CertificateSubject.fromObject_toObject, CertificateContext.fromObject_toObject,
    CertificateEvidence.fromObject_toObject v.evidence h, CertificateDecision.fromObject_toObject,
    CertificateBindings.fromObject_toObject, CertificateSignatures.fromObject_toObject]

@[simp]
theorem Signature.canonical_toObject (v : Signature) : v.toObject.Canonical :=
  canonical_obj (by simp) (by simp only [map]; decide)

@[simp]
theorem CertificateHeader.canonical_toObject (v : CertificateHeader) : v.toObject.Canonical :=
  canonical_obj (by simp) (by simp only [map]; decide)

@[simp]
theorem CertificateSubject.canonical_toObject (v : CertificateSubject) : v.toObject.Canonical :=
  canonical_obj (by simp) (by simp only [map]; decide)

@[simp]
theorem CertificateContext.canonical_toObject (v : CertificateContext) : v.toObject.Canonical :=
  canonical_obj (by simp) (by simp only [map]; decide)

@[simp]
theorem CertificateDecision.canonical_toObject (v : CertificateDecision)
    : v.toObject.Canonical :=
  canonical_obj (by simp) (by simp only [map]; decide)

@[simp]
theorem PredecessorRef.canonical_toObject (v : PredecessorRef) : v.toObject.Canonical :=
  canonical_obj (by simp) (by simp only [map]; decide)

@[simp]
theorem PredecessorRef.canonical_arr (vs : List PredecessorRef)
    : (Json.arr (vs.map toObject)).Canonical :=
  Json.canonical_arr (by simp)

@[simp]
theorem Statement.canonical_toObject (v : Statement) : v.toObject.Canonical := by
  refine canonical_obj (fun f hf => ?_) ?_
  . obtain ⟨_, -, rfl⟩ := mem_map.mp hf
    simp
  . rw [map_fst_toFields]
    exact sortedKeys_iff.mp v.sorted

@[simp]
theorem CertificateBindings.canonical_toObject (v : CertificateBindings)
    : v.toObject.Canonical :=
  canonical_obj (by simp) (by simp only [map]; decide)

@[simp]
theorem CertificateSignatures.canonical_toObject (v : CertificateSignatures)
    : v.toObject.Canonical :=
  canonical_obj (by simp) (by simp only [map]; decide)

@[simp]
theorem CertificateEvidence.canonical_toObject : v.toObject.Canonical :=
  canonical_obj (by simp) (by simp only [map]; decide)

@[simp]
theorem CommitCertificate.canonical_toObject (v : CommitCertificate) : v.toObject.Canonical :=
  canonical_obj (by simp) (by simp only [map]; decide)

end Apcc
