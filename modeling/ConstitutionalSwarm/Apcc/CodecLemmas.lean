import ConstitutionalSwarm.Apcc.Codec

namespace Json

mutual

theorem sortKeys_of_canonical : ∀ {v : Json}, v.Canonical → v.sortKeys = v
  | .null, _ | .bool _, _ | .int _, _ | .str _, _ => by rw [sortKeys]; all_goals simp
  | .arr _, h => by
    rw [Canonical] at h
    rw [sortKeys, sortKeysElems_of_canonical h]
  | .obj _, h => by
    rw [Canonical] at h
    rw [sortKeys, sortKeysFields_of_canonical h.2, dict_of_sortedKeys h.1]

theorem sortKeysElems_of_canonical
    : ∀ {vs : List Json}, CanonicalElems vs → sortKeysElems vs = vs
  | [], _ => by rw [sortKeysElems]
  | _ :: _, h => by
    rw [CanonicalElems] at h
    rw [sortKeysElems, sortKeys_of_canonical h.1, sortKeysElems_of_canonical h.2]

theorem sortKeysFields_of_canonical
    : ∀ {fs : List (String × Json)}, CanonicalFields fs → sortKeysFields fs = fs
  | [], _ => by rw [sortKeysFields]
  | (_, _) :: _, h => by
    rw [CanonicalFields] at h
    rw [sortKeysFields, sortKeys_of_canonical h.1, sortKeysFields_of_canonical h.2]

end

end Json

namespace Apcc

open Json (Canonical CanonicalElems CanonicalFields)

theorem checkKeys_eq_ok
    (h : checkKeys actual expected = .ok ()) : ∀ k, k ∈ actual ↔ k ∈ expected := by
  simp only [checkKeys, bind_eq_ok, exists_unit, raiseIf_eq_ok] at h
  obtain ⟨-, hextra, hmiss⟩ := h
  intro k
  constructor
  . intro hk
    by_contra hne
    simp at hextra
    exact hne (hextra k hk)
  . intro hk
    by_contra hne
    simp at hmiss
    exact hne (hmiss k hk)

variable {fields : Fields} {c : CommitCertificate} {v : Json} {raw : Bytes} {n : Nat}
  {schema : Schema}

theorem checkSchema_object {schema : List (String × Schema)}
    (h : checkSchema (.obj fields) (.object schema) = .ok ())
    : checkFields fields schema = .ok () := by
  simp only [checkSchema, fieldsOf, ok_bind, bind_eq_ok, exists_unit] at h
  exact h.2

theorem checkSchema_strings (h : checkSchema (.obj fields) (.strings keys) = .ok ())
    : ∀ k, k ∈ fields.map Prod.fst ↔ k ∈ keys := by
  simp only [checkSchema, fieldsOf, ok_bind, bind_eq_ok, exists_unit] at h
  exact checkKeys_eq_ok h.1

theorem exactKeys_of_checkSchema (h : checkSchema c.toObject certificateSchema = .ok ())
    : c.evidence.ExactKeys := by
  have hflds := checkSchema_object h
  simp [checkFields, bind_eq_ok, exists_unit] at hflds
  have hstatements := checkSchema_object hflds.2.2.2.1
  simp [checkFields, bind_eq_ok, exists_unit] at hstatements
  obtain ⟨hprod, _, hpol, _, hauth, _⟩ := hstatements
  exact ⟨c.evidence.producerStatement.map_fst_toFields ▸ checkSchema_strings hprod,
    c.evidence.policyStatement.map_fst_toFields ▸ checkSchema_strings hpol,
    c.evidence.authorityStatement.map_fst_toFields ▸ checkSchema_strings hauth⟩

theorem Statement.string_toFields {v : Statement} {key value : String}
    (h : v.get? key = some value) : string v.toFields key = .ok value := by
  have hlook : v.toFields.lookup key = some (.str value) := by
    unfold toFields
    unfold get? at h
    generalize v.entries = entries at h
    induction entries with
    | nil => simp at h
    | cons e entries ih =>
      rw [List.map_cons]
      rw [List.lookup_cons] at h ⊢
      split at h
      . next heq => simp_all
      . next heq => simp_all
  simp [string, item, hlook]

theorem certificateSemantics_toObject (c : CommitCertificate) (h : c.toObject = .obj fields)
    : certificateSemantics fields = .ok () := by
  obtain rfl := Json.obj.inj h
  obtain ⟨-, -, -, -, -⟩ := c.header.valid
  have hliterals := c.evidence.literals
  simp [certificateSemantics, statementLiterals, requiredLiteral, CertificateHeader.toObject,
    CertificateEvidence.toObject, CertificateDecision.toObject, CertificateBindings.toObject,
    CertificateSignatures.toObject, Signature.toObject, Statement.toObject,
    Statement.string_toFields hliterals.producerVersion,
    Statement.string_toFields hliterals.producerType,
    Statement.string_toFields hliterals.policyVersion,
    Statement.string_toFields hliterals.policyType,
    Statement.string_toFields hliterals.policyDecision,
    Statement.string_toFields hliterals.authorityVersion,
    Statement.string_toFields hliterals.authorityType,
    c.header.valid, c.decision.valid, c.bindings.valid, c.signatures.producer.valid,
    c.signatures.policyAuthority.valid, c.signatures.authorityRegistry.valid]

theorem noncanonical_eq_ok {α : Type} {x : Py α} {a : α} : noncanonical x = .ok a ↔ x = .ok a := by
  cases x <;> simp [noncanonical, fail]

variable [Platform]

mutual

theorem accepts_strictHooks
    : ∀ {v : Json} {d : Nat}, v.Canonical → tree d v = .ok () → strictHooks.Accepts v
  | .str _, _, _, _ => by rw [Json.Hooks.Accepts]; trivial
  | .null, _, _, h | .bool _, _, _, h | .int _, _, _, h => by
    simp [tree, bind_eq_ok, fail] at h
  | .arr vs, d, hc, h => by
    rw [Canonical] at hc
    simp only [tree, bind_eq_ok, raiseIf_eq_ok] at h
    obtain ⟨_, _, h⟩ := h
    rw [Json.Hooks.Accepts]
    exact acceptsElems_strictHooks hc h
  | .obj fs, d, hc, h => by
    rw [Canonical] at hc
    simp only [tree, bind_eq_ok, raiseIf_eq_ok] at h
    obtain ⟨_, _, h⟩ := h
    rw [Json.Hooks.Accepts]
    refine ⟨?_, acceptsFields_strictHooks hc.2 h⟩
    simp [strictHooks, hasDuplicates, List.Nodup, (Json.sortedKeys_iff.mp hc.1).imp ne_of_lt]

theorem acceptsElems_strictHooks : ∀ {vs : List Json} {d : Nat}, CanonicalElems vs →
    treeElems d vs = .ok () → strictHooks.AcceptsElems vs
  | [], _, _, _ => by rw [Json.Hooks.AcceptsElems]; trivial
  | _ :: _, _, hc, h => by
    rw [CanonicalElems] at hc
    simp only [treeElems, bind_eq_ok] at h
    obtain ⟨_, hv, hvs⟩ := h
    rw [Json.Hooks.AcceptsElems]
    exact ⟨accepts_strictHooks hc.1 hv, acceptsElems_strictHooks hc.2 hvs⟩

theorem acceptsFields_strictHooks : ∀ {fs : Fields} {d : Nat}, CanonicalFields fs →
    treeFields d fs = .ok () → strictHooks.AcceptsFields fs
  | [], _, _, _ => by rw [Json.Hooks.AcceptsFields]; trivial
  | (_, _) :: _, _, hc, h => by
    rw [CanonicalFields] at hc
    simp only [treeFields, bind_eq_ok] at h
    obtain ⟨_, _, _, hv, hfs⟩ := h
    rw [Json.Hooks.AcceptsFields]
    exact ⟨accepts_strictHooks hc.1 hv, acceptsFields_strictHooks hc.2 hfs⟩

end

theorem canonical_eq_ok (hv : v.Canonical)
    : canonical v = .ok raw ↔ tree 1 v = .ok () ∧ raw = (v.dumps false).encodeUTF8 := by
  simp only [canonical, bind_eq_ok, pure_eq_ok, Json.sortKeys_of_canonical hv, Except.ok.injEq]
  exact ⟨fun ⟨_, ht, h⟩ => ⟨ht, h.symm⟩, fun ⟨ht, h⟩ => ⟨(), ht, h.symm⟩⟩

theorem canonical_inj (hv : v.Canonical) (hw : w.Canonical) (h : canonical v = .ok raw)
    (h' : canonical w = .ok raw) : v = w := by
  have hdumps : (v.dumps false).encodeUTF8 = (w.dumps false).encodeUTF8 := by
    rw [← ((canonical_eq_ok hv).mp h).2, ← ((canonical_eq_ok hw).mp h').2]
  exact Json.eq_of_dumps_eq hv hw (String.encodeUTF8_injective hdumps)

theorem parse_canonical (hv : v.Canonical) (h : canonical v = .ok raw)
    (hparse : parse raw n = .ok w) : w = v := by
  obtain ⟨htree, rfl⟩ := (canonical_eq_ok hv).mp h
  have hread := Json.Hooks.value_render false v (accepts_strictHooks hv htree)
    ((Json.render false v).length + 1) [] (by omega) (.inl rfl)
  rw [List.append_nil] at hread
  simp only [parse, Bytes.decodeUTF8_encodeUTF8, Json.dumps, String.toList_ofList, bind_eq_ok,
    pure_eq_ok] at hparse
  obtain ⟨_, _, _, htext, _, _, _, _, _, hp, _, _, _, _, hw⟩ := hparse
  cases htext
  rw [hread] at hp
  cases hp
  exact (Except.ok.inj hw).symm

theorem decode_canonical (hv : v.Canonical) (h : canonical v = .ok raw)
    (hdec : decode raw schema n = .ok fields)
    : v = .obj fields ∧ checkSchema v schema = .ok () ∧ scalars "" v = .ok () := by
  simp only [decode, bind_eq_ok, pure_eq_ok] at hdec
  obtain ⟨w, hparse, _, hfs, _, _, _, _, _, hschema, _, hscalars, hflds⟩ := hdec
  obtain rfl := parse_canonical hv h hparse
  cases hflds
  refine ⟨?_, hschema, hscalars⟩
  cases w <;> simp_all [fieldsOf, fail]

theorem decode_mono (hmn : m ≤ n) (h : decode raw schema m = .ok fields)
    : decode raw schema n = .ok fields := by
  simp only [decode, parse, bind_eq_ok, raiseIf_eq_ok, decide_eq_false_iff_not] at h ⊢
  obtain ⟨w, ⟨u, hsize, hrest⟩, htail⟩ := h
  exact ⟨w, ⟨u, by omega, hrest⟩, htail⟩

def CommitCertificate.withPredecessors (c : CommitCertificate) (predecessors : List PredecessorRef)
    : CommitCertificate :=
  { c with bindings := { c.bindings with predecessors } }

theorem perm_of_sortByCanonical {α : Type} {toObject : α → Json} {items sorted}
    (h : sortByCanonical toObject items = .ok sorted) : sorted.Perm items := by
  simp only [sortByCanonical, bind_eq_ok, Except.mapM_eq_ok, pure_inj] at h
  obtain ⟨keyed, ⟨hall, rfl⟩, rfl⟩ := h
  refine ((List.perm_insertionSort _ _).map Prod.snd).trans (List.Perm.of_eq ?_)
  induction items with
  | nil => rfl
  | cons item items ih =>
    obtain ⟨_, _, hraw, -⟩ := hall item List.mem_cons_self
    simp only [List.filterMap_cons, hraw, ok_bind, Except.toOption]
    exact congrArg _ (ih fun a ha => hall a (List.mem_cons_of_mem _ ha))

theorem decodeCertificate_encodeCertificate (h : encodeCertificate c = .ok raw)
    : ∃ ps, sortByCanonical PredecessorRef.toObject c.bindings.predecessors = .ok ps ∧
      canonical (c.withPredecessors ps).toObject = .ok raw ∧
      decodeCertificate raw = .ok (c.withPredecessors ps) := by
  simp only [encodeCertificate, bind_eq_ok, exists_unit, pure_inj] at h
  obtain ⟨ps, hps, _, henc, _, hdec, hpreds, rfl⟩ := h
  refine ⟨ps, hps, henc, ?_⟩
  obtain ⟨hobject, hschema, -⟩ := decode_canonical (CommitCertificate.canonical_toObject _) henc
    hdec
  have hread := CommitCertificate.fromObject_toObject _ (exactKeys_of_checkSchema hschema)
  rw [hobject, object_obj, ok_bind] at hread
  simp [decodeCertificate, hdec, hpreds, certificateSemantics_toObject _ hobject,
    noncanonical, hread, CommitCertificate.withPredecessors]

theorem length_le_of_decode (h : decode raw schema n = .ok fields) : raw.length ≤ n := by
  simp only [decode, parse, bind_eq_ok, exists_unit, raiseIf_eq_ok, decide_eq_false_iff_not,
    not_lt] at h
  obtain ⟨_, ⟨hsize, -⟩, -⟩ := h
  exact hsize

theorem length_le_of_decodeCertificate (h : decodeCertificate raw = .ok c)
    : raw.length ≤ maxPayloadBytes := by
  simp only [decodeCertificate, bind_eq_ok] at h
  obtain ⟨_, hdec, -⟩ := h
  exact length_le_of_decode hdec

@[simp]
theorem envelopeObject_canonical (payload : Bytes) (sealSignature : Signature)
    : (envelopeObject payload sealSignature).Canonical :=
  Json.canonical_obj (by simp) (by simp only [List.map]; decide)

theorem decodeEnvelopeCertificate_encodeEnvelope
    (h : encodeEnvelope payload keyId signatureB64u = .ok raw)
    : ∃ c, decodeCertificate payload = .ok c ∧
      decodeEnvelopeCertificate raw =
        .ok (⟨payload, sha256Digest payload, ⟨"Ed25519", keyId, signatureB64u, rfl⟩⟩, c) := by
  simp only [encodeEnvelope, bind_eq_ok, pure_inj] at h
  obtain ⟨c, hc, _, henc, _, hdec, rfl⟩ := h
  refine ⟨c, hc, ?_⟩
  obtain ⟨hobject, -, -⟩ := decode_canonical (envelopeObject_canonical _ _) henc hdec
  obtain rfl := Json.obj.inj hobject
  have hsig := Signature.fromObject_toObject ⟨"Ed25519", keyId, signatureB64u, rfl⟩
  have hlen := not_lt.mpr (length_le_of_decodeCertificate hc)
  have hwide := decode_mono (show maxPayloadBytes ≤ maxEnvelopeBytes by decide) hdec
  simp only [Signature.toObject, object_obj, ok_bind] at hsig hwide
  simp [decodeEnvelopeCertificate, hwide, requiredLiteral, decodeB64u, hc, hsig, noncanonical,
    raiseIf, hlen]

end Apcc
