import ConstitutionalSwarm.Apcc.EnvelopeLemmas
import ConstitutionalSwarm.Apcc.Store.Sealed

namespace Apcc

theorem resolve_of_mem {trust : ScopedTrust} {binding : TrustBinding} (h : binding ∈ trust.bindings)
    : trust.resolve binding.role binding.scope = some binding := by
  have huniq := trust.compatible
  rw [ScopedTrust.resolve]
  generalize trust.bindings = bindings at h huniq
  induction bindings with
  | nil => simp at h
  | cons first rest ih =>
    rw [List.pairwise_cons] at huniq
    rcases List.mem_cons.mp h with rfl | h
    . simp
    . have hne := (huniq.1 binding h).1
      rw [List.find?_cons_of_neg (by simpa using hne)]
      exact ih h huniq.2

theorem resolve_commitTrust (cfg : AuthorityConfig)
    : cfg.scopedTrust.resolve .commit [cfg.authorityStoreId] = some cfg.commitTrust := by
  have hmem : cfg.commitTrust ∈ cfg.scopedTrust.bindings := by
    simp [AuthorityConfig.scopedTrust, AuthorityConfig.trustBindings]
  have hresolve := resolve_of_mem hmem
  rwa [cfg.commit_role.1, cfg.commit_role.2] at hresolve

variable [Platform]

theorem sortByCanonical_idem {α : Type} {toObject : α → Json} {items sorted}
    (h : sortByCanonical toObject items = .ok sorted)
    : sortByCanonical toObject sorted = .ok sorted := by
  obtain ⟨_, hmems, hsort⟩ := pairwise_of_sortByCanonical h
  exact sortByCanonical_of_pairwise hmems hsort

section Order

variable {c : CommitCertificate} {ps : List PredecessorRef}
  (h : sortByCanonical PredecessorRef.toObject c.bindings.predecessors = .ok ps)

include h

theorem predecessorRoot_of_sorted
    : predecessorRoot ps = predecessorRoot c.bindings.predecessors := by
  simp only [predecessorRoot, canonicalPredecessors, h, sortByCanonical_idem h]

theorem verifyBindings_withPredecessors
    : verifyBindings (c.withPredecessors ps) = verifyBindings c := by
  have hany (p : PredecessorRef → Bool) : ps.any p = c.bindings.predecessors.any p :=
    (perm_of_sortByCanonical h).any_eq
  simp only [verifyBindings, CommitCertificate.withPredecessors, predecessorRoot_of_sorted h, hany]
  rfl

end Order

variable {authority : Authority}

structure Signs (authority : Authority) (payload : Bytes) : Prop where
  keyId : (authority.sign .commit authority.config.commitTrust.keyId .commit payload).keyId
    = authority.config.commitTrust.keyId
  verified : verifyDetached authority.config.commitTrust.publicKey .commit payload
    (authority.sign .commit authority.config.commitTrust.keyId .commit payload).signatureB64u = true

theorem verifySignature_commit {sig : Signature} {payload : Bytes} {cfg : AuthorityConfig}
    : verifySignature sig cfg.commitTrust.keyId cfg.scopedTrust .commit
          [cfg.authorityStoreId] .commit payload .invalidCommitSeal = .ok () ↔
      sig.keyId = cfg.commitTrust.keyId ∧
        verifyDetached cfg.commitTrust.publicKey .commit payload sig.signatureB64u := by
  simp [verifySignature, resolve_commitTrust, bind_eq_ok]

theorem sealWellFormed_of_verifyDetached (hkeyId : isIdentifier keyId)
    (h : verifyDetached pk domain payload signatureB64u)
    : SealWellFormed keyId signatureB64u := by
  refine ⟨hkeyId, ?_⟩
  simp only [verifyDetached, Bool.and_eq_true] at h
  obtain ⟨-, h⟩ := h
  split at h
  . next hvalue _ =>
    unfold b64uDecode at hvalue
    split at hvalue
    . next dec hdecoded =>
      split at hvalue
      . next hlen => exact ⟨dec, hdecoded, by simpa using hlen⟩
      . simp at hvalue
    . simp at hvalue
  . simp at h

structure Sealable (authority : Authority) (certificate : CommitCertificate) (payload : Bytes)
    : Prop where
  store : certificate.header.authorityStoreId = authority.config.authorityStoreId
  keyId : certificate.header.commitAuthorityKeyId = authority.config.commitTrust.keyId
  checked : certificateError authority certificate = .ok ()
  encoded : encodeCertificate certificate = .ok payload
  fits : ∃ envelope, encodeEnvelope payload authority.config.commitTrust.keyId
    (Base64.encode (List.replicate 64 0)) = .ok envelope

section Sealing

variable {certificate : CommitCertificate} {payload : Bytes}
  (h : Sealable authority certificate payload)

include h

theorem Sealable.isIdentifier_keyId
    : isIdentifier authority.config.commitTrust.keyId := by
  obtain ⟨_, -, -, -, hencodable, -⟩ := encodeCertificate_eq_ok.mp h.encoded
  rw [← h.keyId]
  exact hencodable.header.commitAuthorityKeyId

theorem Sealable.envelope_isOk
    (hseal : SealWellFormed authority.config.commitTrust.keyId signatureB64u)
    : ∃ envelope, encodeEnvelope payload authority.config.commitTrust.keyId signatureB64u
        = .ok envelope := by
  obtain ⟨_, -, -, hdecoded⟩ := decodeCertificate_encodeCertificate h.encoded
  have hzero : SealWellFormed authority.config.commitTrust.keyId
      (Base64.encode (List.replicate 64 0)) :=
    ⟨h.isIdentifier_keyId, _, Base64.decode_encode _, List.length_replicate ..⟩
  rw [encodeEnvelope_isOk_iff hseal hdecoded, ← encodeEnvelope_isOk_iff hzero hdecoded]
  exact h.fits

theorem Sealable.verifyHistorical_iff {ps : List PredecessorRef} {env : Bytes}
    {keyId signatureB64u : String}
    (hps : sortByCanonical PredecessorRef.toObject certificate.bindings.predecessors = .ok ps)
    (henv : encodeEnvelope payload keyId signatureB64u = .ok env) {verified : Verified}
    : verifyHistorical env authority.config.scopedTrust = .ok verified ↔
      verified = ⟨certificate.withPredecessors ps, sha256Digest payload⟩ ∧
        keyId = authority.config.commitTrust.keyId ∧
        verifyDetached authority.config.commitTrust.publicKey .commit payload signatureB64u := by
  obtain ⟨_, hps', -, hdecoded⟩ := decodeCertificate_encodeCertificate h.encoded
  obtain rfl := Except.ok.inj (hps.symm.trans hps')
  obtain ⟨_, hc, hdec⟩ := decodeEnvelopeCertificate_encodeEnvelope henv
  obtain rfl := Except.ok.inj (hdecoded.symm.trans hc)
  have hchecked := h.checked
  simp only [certificateError, bind_eq_ok, exists_unit] at hchecked
  have hbind := (verifyBindings_withPredecessors hps).trans hchecked.2
  rw [verifyHistorical_eq_ok, hdec]
  simp only [Except.ok.injEq, Prod.mk.injEq]
  constructor
  . rintro ⟨_, ⟨rfl, hcert⟩, -, hsig, -, -, hdig⟩
    obtain ⟨certificate', digest⟩ := verified
    obtain rfl : certificate.withPredecessors ps = certificate' := hcert
    obtain rfl : sha256Digest payload = digest := hdig
    have hsig : verifySignature ⟨"Ed25519", keyId, signatureB64u, rfl⟩
        certificate.header.commitAuthorityKeyId authority.config.scopedTrust .commit
        [certificate.header.authorityStoreId] .commit payload .invalidCommitSeal = .ok () :=
      hsig
    rw [h.keyId, h.store, verifySignature_commit] at hsig
    exact ⟨rfl, hsig⟩
  . rintro ⟨rfl, hsig⟩
    refine ⟨_, ⟨rfl, rfl⟩, rfl, ?_, hchecked.1, hbind, rfl⟩
    change verifySignature _ certificate.header.commitAuthorityKeyId _ _
      [certificate.header.authorityStoreId] _ _ _ = _
    rw [h.keyId, h.store, verifySignature_commit]
    exact hsig

theorem Sealable.sealCertificate_isOk_iff
    : (∃ sealed, sealCertificate authority certificate = .ok sealed) ↔ Signs authority payload := by
  obtain ⟨_, hps, -, -⟩ := decodeCertificate_encodeCertificate h.encoded
  simp only [sealCertificate, h.encoded, ok_bind]
  constructor
  . rintro ⟨sealed, hsealed⟩
    rw [bind_eq_ok] at hsealed
    obtain ⟨env, henv, hsealed⟩ := hsealed
    split at hsealed
    . next verified hver =>
      obtain ⟨-, hkeyId, hsig⟩ := (h.verifyHistorical_iff hps henv).mp hver
      exact ⟨hkeyId, hsig⟩
    . simp at hsealed
    . simp at hsealed
  . rintro ⟨hkeyId, hver⟩
    obtain ⟨env, henv⟩ := h.envelope_isOk
      (sealWellFormed_of_verifyDetached h.isIdentifier_keyId hver)
    have hhistorical := (h.verifyHistorical_iff hps henv).mpr ⟨rfl, rfl, hver⟩
    rw [hkeyId, henv, ok_bind, hhistorical]
    exact ⟨_, rfl⟩

omit h in
theorem payload_of_sealCertificate (henc : encodeCertificate certificate = .ok payload)
    (hsealed : sealCertificate authority certificate = .ok sealed)
    : sealed.payload = payload ∧ sealed.digest = sha256Digest payload := by
  obtain ⟨_, hseals⟩ := sealCertificate_cases hsealed
  have hpay := Except.ok.inj (hseals.encoded.symm.trans henc)
  exact ⟨hpay, hpay ▸ hseals.digest⟩

end Sealing

end Apcc
