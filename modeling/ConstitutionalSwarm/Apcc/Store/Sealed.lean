import ConstitutionalSwarm.Apcc.CodecLemmas
import ConstitutionalSwarm.Apcc.Store.Integrity

namespace Apcc

@[simp]
theorem accept_eq_ok {x u} : accept x = .ok u ↔ x = .ok () := by
  rcases x with (_ | _) | _ <;> simp [accept]

@[simp]
theorem orInvalid_eq_ok {α : Type} {x : Py α} {a : α} : orInvalid x = .ok a ↔ x = .ok a := by
  cases x <;> simp [orInvalid]

variable [Platform] {config : AuthorityConfig} {authority : Authority}

variable {certificate : CommitCertificate} {row : CertificateRow}

theorem decodeCertificate_of_envelope {raw detached}
    (h : decodeEnvelopeCertificate raw = .ok (detached, certificate))
    : decodeCertificate detached.payload = .ok certificate := by
  simp only [decodeEnvelopeCertificate, bind_eq_ok, exists_unit, pure_inj, Prod.mk.injEq] at h
  obtain ⟨_, _, _, _, _, _, _, _, _, _, _, _, _, _, hcert, _, _, _, _, rfl, rfl⟩ := h
  exact hcert

theorem verifyHistorical_eq_ok {env trust verified}
    : verifyHistorical env trust = .ok verified ↔
      ∃ detached, decodeEnvelopeCertificate env = .ok (detached, verified.certificate) ∧
        sha256Digest detached.payload = detached.payloadSha256 ∧
        verifySignature detached.sealSignature verified.certificate.header.commitAuthorityKeyId
          trust .commit [verified.certificate.header.authorityStoreId] .commit detached.payload
          .invalidCommitSeal = .ok () ∧
        verifyEvidence verified.certificate trust = .ok () ∧
        verifyBindings verified.certificate = .ok () ∧
        detached.payloadSha256 = verified.certificateDigest := by
  simp only [verifyHistorical, bind_eq_ok, exists_unit, Check.ofCodec_eq_ok, reject_eq_ok,
    decide_eq_false_iff_not, not_not, Prod.exists]
  constructor
  . rintro ⟨detached, certificate, hdec, hdig, hsig, hevid, hbind, h⟩
    cases h
    exact ⟨detached, hdec, hdig, hsig, hevid, hbind, rfl⟩
  . rintro ⟨detached, hdec, hdig, hsig, hevid, hbind, h⟩
    exact ⟨detached, verified.certificate, hdec, hdig, hsig, hevid, hbind, by rw [h]; rfl⟩

theorem decodeVerified_eq_ok
    : decodeVerified config row = .ok certificate ↔
      verifyHistorical row.envelope config.scopedTrust = .ok ⟨certificate, row.certificateDigest⟩ ∧
        (decodeEnvelope row.envelope).map (·.payload) = .ok row.certificateJson := by
  rw [verifyHistorical_eq_ok]
  simp only [decodeVerified, decodeEnvelope, bind_eq_ok, exists_unit, ensure_eq_ok, accept_eq_ok,
    decide_eq_true_eq, pure_inj, map_eq_ok, Prod.exists]
  constructor
  . rintro ⟨_, ⟨detached, c, hdec, rfl⟩, hpay, hsha, hdig, c', hc', hsig, hevid, hbind, rfl⟩
    have hc := decodeCertificate_of_envelope hdec
    rw [hpay, hc'] at hc
    obtain rfl := Except.ok.inj hc
    rw [← hpay] at hdig hsig
    exact ⟨⟨detached, hdec, hdig.trans hsha.symm, hsig, hevid, hbind, hsha⟩,
      detached, ⟨detached, c', hdec, rfl⟩, hpay⟩
  . rintro ⟨⟨detached, hdec, hdig, hsig, hevid, hbind, hsha⟩, _, ⟨detached', _, hdec', rfl⟩, hpay⟩
    rw [hdec] at hdec'
    obtain ⟨rfl, rfl⟩ := Prod.mk.inj (Except.ok.inj hdec')
    have hc := decodeCertificate_of_envelope hdec
    rw [hpay] at hdig hsig hc
    exact ⟨detached, ⟨detached, certificate, hdec, rfl⟩, hpay, hsha, hdig.trans hsha,
      certificate, hc, hsig, hevid, hbind, rfl⟩

structure CertificateRow.Holds (config : AuthorityConfig) (row : CertificateRow)
    (certificate : CommitCertificate) : Prop where
  historical : verifyHistorical row.envelope config.scopedTrust
    = .ok ⟨certificate, row.certificateDigest⟩
  payload : (decodeEnvelope row.envelope).map (·.payload) = .ok row.certificateJson
  commitId : certificate.decision.commitId = row.commitId
  workflowId : certificate.subject.workflowId = row.workflowId
  nodeId : certificate.subject.nodeId = row.nodeId
  sequence : certificate.header.certificateSequence = toString row.sequence

theorem CertificateRow.Holds.decoded (h : row.Holds config certificate)
    : decodeCertificate row.certificateJson = .ok certificate := by
  obtain ⟨_, hdec, -⟩ := verifyHistorical_eq_ok.mp h.historical
  have hpay := h.payload
  simp only [decodeEnvelope, hdec, ok_bind, pure_eq_ok, Except.map, Except.ok.injEq] at hpay
  rw [← hpay]
  exact decodeCertificate_of_envelope hdec

theorem validateCertificate_eq_ok {entry : String × CommitCertificate}
    : validateCertificate config row = .ok entry ↔
      (1 ≤ row.sequence ∧ row.sequence ≤ maxSafeInteger) ∧ row.Holds config entry.2 ∧
        row.certificateDigest = entry.1 := by
  obtain ⟨_, certificate⟩ := entry
  simp only [validateCertificate, bind_eq_ok, exists_unit, ensure_eq_ok, orInvalid_eq_ok,
    decide_eq_true_eq, pure_inj, decodeVerified_eq_ok, Bool.and_eq_true, Prod.mk.injEq]
  constructor
  . rintro ⟨hseq, _, ⟨hhistorical, hpay⟩, h₁, h₂, h₃, h₄, rfl, rfl⟩
    exact ⟨hseq, ⟨hhistorical, hpay, h₁, h₂, h₃, h₄⟩, rfl⟩
  . rintro ⟨hseq, ⟨hhistorical, hpay, h₁, h₂, h₃, h₄⟩, rfl⟩
    exact ⟨hseq, certificate, ⟨hhistorical, hpay⟩, h₁, h₂, h₃, h₄, rfl, rfl⟩

structure Seals (authority : Authority) (certificate : CommitCertificate) (sealed : Sealed)
    (predecessors : List PredecessorRef) : Prop where
  encoded : encodeCertificate certificate = .ok sealed.payload
  sorted : sortByCanonical PredecessorRef.toObject certificate.bindings.predecessors
    = .ok predecessors
  digest : sealed.digest = sha256Digest sealed.payload
  payload : (decodeEnvelope sealed.envelope).map (·.payload) = .ok sealed.payload
  historical : verifyHistorical sealed.envelope authority.config.scopedTrust
    = .ok ⟨certificate.withPredecessors predecessors, sealed.digest⟩

theorem sealCertificate_cases {sealed} (h : sealCertificate authority certificate = .ok sealed)
    : ∃ predecessors, Seals authority certificate sealed predecessors := by
  simp only [sealCertificate, bind_eq_ok] at h
  obtain ⟨_, hpay, _, henv, h⟩ := h
  obtain ⟨predecessors, hsort, -, hdecoded⟩ := decodeCertificate_encodeCertificate hpay
  obtain ⟨_, hc, hdec⟩ := decodeEnvelopeCertificate_encodeEnvelope henv
  rw [hdecoded] at hc
  cases hc
  split at h
  . next verified hver =>
    simp only [pure_inj] at h
    subst h
    refine ⟨predecessors, hpay, hsort, rfl, ?_, ?_⟩
    . simp [decodeEnvelope, hdec, Except.map]
    . obtain ⟨_, hdec', _, _, _, _, hdig⟩ := verifyHistorical_eq_ok.mp hver
      rw [hdec] at hdec'
      obtain ⟨rfl, hcert⟩ := Prod.mk.inj (Except.ok.inj hdec')
      rw [hver]
      obtain ⟨_, _⟩ := verified
      dsimp only at hcert hdig ⊢
      rw [hcert, hdig]
  . simp at h
  . simp at h

end Apcc
