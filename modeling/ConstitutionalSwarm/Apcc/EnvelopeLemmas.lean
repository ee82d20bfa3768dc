import ConstitutionalSwarm.Apcc.CertificateEncoding

namespace Apcc

structure SealWellFormed (keyId signatureB64u : String) : Prop where
  keyId : isIdentifier keyId = true
  signature : ∃ value, Base64.decode signatureB64u = some value ∧ value.length = 64

def envelopeLength (payload keyId : Nat) : Nat :=
  (4 * payload + 2) / 3 + keyId + 284

section Seals

variable {payload raw : Bytes} {keyId signatureB64u : String}
  (hseal : SealWellFormed keyId signatureB64u)

include hseal

theorem isPlain_seal : isPlain keyId ∧ isPlain signatureB64u ∧
    signatureB64u.length = 86 := by
  obtain ⟨value, hdec, hlen⟩ := hseal.signature
  rw [← Base64.encode_of_decode hdec, length_encode, hlen]
  exact ⟨isPlain_of_isIdentifier hseal.keyId, isPlain_encode value, rfl⟩

variable [Platform]

theorem tree_envelopeObject
    : tree 1 (envelopeObject payload ⟨"Ed25519", keyId, signatureB64u, rfl⟩) = .ok () := by
  obtain ⟨hkeyId, hsig, -⟩ := isPlain_seal hseal
  have hascii : ∀ {s}, isPlain s = true → (!isAscii s && !Platform.isNFC s) = false := by
    intro s hs
    simp [isAscii_of_isPlain hs]
  have hpay := hascii (isPlain_encode payload)
  have hdig := hascii (isPlain_encode (Platform.sha256 payload))
  have htype := hascii (show isPlain "apcc.detached-certificate-envelope" = true by decide)
  have halgorithm := hascii (show isPlain "Ed25519" = true by decide)
  simp only [envelopeObject, Signature.toObject, tree, treeFields, bind_eq_ok, exists_unit,
    raiseIf_eq_ok, sha256Digest, hascii hkeyId, hascii hsig, hpay, hdig, htype, halgorithm]
  decide

theorem length_canonical_envelopeObject
    (h : canonical (envelopeObject payload ⟨"Ed25519", keyId, signatureB64u, rfl⟩) = .ok raw)
    : raw.length = envelopeLength payload.length keyId.length := by
  obtain ⟨hkeyId, hsig, hlen⟩ := isPlain_seal hseal
  obtain ⟨-, rfl⟩ := (canonical_eq_ok (envelopeObject_canonical _ _)).mp h
  have hpay := isPlain_encode payload
  have hdig := isPlain_encode (Platform.sha256 payload)
  have hplain : isPlainValue (envelopeObject payload ⟨"Ed25519", keyId, signatureB64u, rfl⟩)
      := by
    simp only [envelopeObject, Signature.toObject, sha256Digest, isPlainValue, isPlainFields,
      hpay, hdig, hkeyId, hsig]
    decide
  have hlens : "envelope_type".length = 13 ∧ "apcc.detached-certificate-envelope".length = 34 ∧
      "payload_b64u".length = 12 ∧ "payload_sha256".length = 14 ∧ "seal".length = 4 ∧
      "algorithm".length = 9 ∧ "Ed25519".length = 7 ∧ "key_id".length = 6 ∧
      "signature_b64u".length = 14 := by decide
  rw [length_dumps_of_isPlainValue hplain]
  simp only [envelopeObject, Signature.toObject, sha256Digest, textLength, fieldsLength,
    length_encode, Platform.length_sha256, hlen, envelopeLength]
  omega

theorem scalars_envelopeObject
    : scalars "" (envelopeObject payload ⟨"Ed25519", keyId, signatureB64u, rfl⟩) = .ok () := by
  obtain ⟨_, hdec, hlen⟩ := hseal.signature
  simp [envelopeObject, Signature.toObject, scalars, scalarsFields, checkScalar, decimalNames,
    digestNames, idNames, decodeB64u, sha256Digest, Platform.length_sha256, hdec, hlen,
    hseal.keyId, Except.map]

theorem encodeEnvelope_isOk_iff {c} (hc : decodeCertificate payload = .ok c)
    : (∃ raw, encodeEnvelope payload keyId signatureB64u = .ok raw) ↔
      envelopeLength payload.length keyId.length ≤ maxPayloadBytes := by
  have hcanon := envelopeObject_canonical payload ⟨"Ed25519", keyId, signatureB64u, rfl⟩
  have henc := (canonical_eq_ok hcanon).mpr ⟨tree_envelopeObject hseal, rfl⟩
  rw [← length_canonical_envelopeObject hseal henc]
  simp only [encodeEnvelope, bind_eq_ok, pure_inj, Except.ok.injEq, hc, henc]
  constructor
  . rintro ⟨raw, _, -, _, rfl, fields, hdec, -⟩
    exact length_le_of_decode hdec
  . intro hlen
    have hdec := (decode_eq_ok hcanon henc).mpr
      ⟨rfl, hlen, show checkSchema _ envelopeSchema = _ from rfl, scalars_envelopeObject hseal⟩
    exact ⟨_, c, rfl, _, rfl, _, hdec, rfl⟩

end Seals

variable [Platform]

def wireEnvelope (envelope : DetachedEnvelope) : Json :=
  .obj
    [("envelope_type", .str "apcc.detached-certificate-envelope"),
      ("payload_b64u", .str (Base64.encode envelope.payload)),
      ("payload_sha256", .str envelope.payloadSha256),
      ("seal", envelope.sealSignature.toObject)]

omit [Platform] in
theorem wireEnvelope_canonical (envelope : DetachedEnvelope)
    : (wireEnvelope envelope).Canonical :=
  Json.canonical_obj (by simp) (by simp only [List.map]; decide)

theorem decodeEnvelope_cases {raw envelope} (h : decodeEnvelope raw = .ok envelope)
    : canonical (wireEnvelope envelope) = .ok raw ∧
      (∃ c, decodeCertificate envelope.payload = .ok c) ∧
      ∃ fields, wireEnvelope envelope = .obj fields ∧
        decode raw envelopeSchema maxEnvelopeBytes = .ok fields := by
  simp only [decodeEnvelope, decodeEnvelopeCertificate, bind_eq_ok, exists_unit, ensure_eq_ok,
    decide_eq_true_eq, raiseIf_eq_ok, pure_inj, requiredLiteral, string_eq_ok,
    nested_eq_ok, noncanonical_eq_ok] at h
  obtain ⟨_, ⟨fields, hdec, _, htype, rfl, _, ⟨sealFields, hseal, rfl⟩, -, text, htext, payload,
    hpay, -, c, hc, sig, hsig, digest, hdig, rfl⟩, rfl⟩ := h
  obtain ⟨hcanon, henc⟩ := canonical_of_decode hdec
  have hwritten : sig.toObject = .obj sealFields :=
    Signature.toObject_of_fromObject (canonical_of_lookup hcanon hseal) hsig
  have hb64 : Base64.encode payload = text := by
    unfold decodeB64u at hpay
    split at hpay
    . next dec hdecoded =>
      simp only [Option.all_none, if_true, Except.ok.injEq] at hpay
      rw [← hpay, Base64.encode_of_decode hdecoded]
    . simp [fail] at hpay
  have hobject : wireEnvelope ⟨payload, digest, sig⟩ = .obj fields := by
    obtain ⟨hschema, -⟩ := (decode_eq_ok hcanon henc).mp hdec |>.2.2
    simp only [envelopeSchema, checkSchema, fieldsOf, ok_bind, bind_eq_ok, exists_unit] at hschema
    exact obj_eq_of_expectKeys hcanon (wireEnvelope_canonical _)
      (expectKeys_eq_ok.mpr (checkKeys_eq_ok hschema.1))
      (by simp [htype, htext, hdig, hseal, hwritten, hb64])
  rw [← hobject] at henc
  exact ⟨henc, ⟨c, hc⟩, fields, hobject, hdec⟩

theorem encodeEnvelope_decodeEnvelope_iff {raw envelope} (h : decodeEnvelope raw = .ok envelope)
    : encodeEnvelope envelope.payload envelope.sealSignature.keyId
          envelope.sealSignature.signatureB64u = .ok raw ↔
      envelope.payloadSha256 = sha256Digest envelope.payload ∧ raw.length ≤ maxPayloadBytes := by
  obtain ⟨henc, ⟨c, hc⟩, fields, hobject, hdec⟩ := decodeEnvelope_cases h
  obtain ⟨payload, digest, ⟨_, keyId, signatureB64u, rfl⟩⟩ := envelope
  simp only [encodeEnvelope, bind_eq_ok, pure_inj, hc]
  constructor
  . rintro ⟨_, -, _, hcanon, _, hfits, rfl⟩
    have hsame := canonical_inj (wireEnvelope_canonical _) (envelopeObject_canonical _ _) henc
      hcanon
    simp only [wireEnvelope, envelopeObject, Json.obj.injEq, List.cons.injEq, Prod.mk.injEq,
      Json.str.injEq] at hsame
    exact ⟨hsame.2.2.1.2, length_le_of_decode hfits⟩
  . rintro ⟨rfl, hlen⟩
    have hcanon : canonical (envelopeObject payload ⟨"Ed25519", keyId, signatureB64u, rfl⟩)
        = .ok raw := henc
    rw [hobject] at henc
    have hvalid := wireEnvelope_canonical ⟨payload, sha256Digest payload,
      ⟨"Ed25519", keyId, signatureB64u, rfl⟩⟩
    rw [hobject] at hvalid
    have hchecked := ((decode_eq_ok hvalid henc).mp hdec).2.2
    exact ⟨c, rfl, raw, hcanon, fields, (decode_eq_ok hvalid henc).mpr ⟨rfl, hlen, hchecked⟩, rfl⟩

/--
Envelopes: a payload that the decoder accepts has, under a well-formed seal, an envelope that is
decoded to the payload and the seal exactly if that envelope fits the limit for payloads; and an
accepted envelope is encoded as itself exactly if its digest is right and it fits that limit.
-/
theorem envelope_round_trip_iff
    : (∀ (payload : Bytes) (c : CommitCertificate) (keyId signatureB64u : String),
        decodeCertificate payload = .ok c → SealWellFormed keyId signatureB64u →
        ((∃ raw, encodeEnvelope payload keyId signatureB64u = .ok raw ∧
            raw.length ≤ maxEnvelopeBytes ∧
            decodeEnvelope raw = .ok ⟨payload, sha256Digest payload,
              ⟨"Ed25519", keyId, signatureB64u, rfl⟩⟩) ↔
          envelopeLength payload.length keyId.length ≤ maxPayloadBytes)) ∧
      (∀ (raw : Bytes) (envelope : DetachedEnvelope), decodeEnvelope raw = .ok envelope →
        (encodeEnvelope envelope.payload envelope.sealSignature.keyId
            envelope.sealSignature.signatureB64u = .ok raw ↔
          envelope.payloadSha256 = sha256Digest envelope.payload ∧
            raw.length ≤ maxPayloadBytes)) := by
  refine ⟨fun payload c keyId signatureB64u hc hseal => ?_,
    fun raw envelope h => encodeEnvelope_decodeEnvelope_iff h⟩
  rw [← encodeEnvelope_isOk_iff hseal hc]
  constructor
  . rintro ⟨raw, hraw, -⟩
    exact ⟨raw, hraw⟩
  . rintro ⟨raw, hraw⟩
    obtain ⟨_, -, hdec⟩ := decodeEnvelopeCertificate_encodeEnvelope hraw
    have hfits : raw.length ≤ maxPayloadBytes := by
      simp only [encodeEnvelope, bind_eq_ok, pure_inj] at hraw
      obtain ⟨_, -, _, -, _, hfits, rfl⟩ := hraw
      exact length_le_of_decode hfits
    refine ⟨raw, hraw, hfits.trans (by decide), ?_⟩
    rw [decodeEnvelope, hdec]
    rfl

end Apcc

namespace Apcc.Sample

def zeroSignature : String :=
  Base64.encode (List.replicate 64 0)

theorem sealWellFormed : SealWellFormed "seal" zeroSignature :=
  ⟨by decide, List.replicate 64 0, Base64.decode_encode _, List.length_replicate ..⟩

/-- A certificate of 803317 bytes is accepted, and it has no envelope. -/
theorem encodeEnvelope_large
    : ∃ raw c, decodeCertificate raw = .ok c ∧ SealWellFormed "seal" zeroSignature ∧
        ¬ ∃ envelope, encodeEnvelope raw "seal" zeroSignature = .ok envelope := by
  have hreason : isPlain (String.ofList (List.replicate 800000 'a')) := by
    rw [isPlain, String.toList_ofList, List.all_replicate]
    decide
  obtain ⟨raw, hraw, hlen⟩ := encodeCertificate_rootDraft hreason (by
    rw [String.length_ofList, List.length_replicate]
    decide)
  obtain ⟨_, -, -, hdec⟩ := decodeCertificate_encodeCertificate hraw
  refine ⟨raw, _, hdec, sealWellFormed, ?_⟩
  rw [encodeEnvelope_isOk_iff sealWellFormed hdec, hlen, String.length_ofList,
    List.length_replicate, show "seal".length = 4 from rfl]
  decide

theorem envelope_round_trip_iff_rootDraft
    : ∃ payload raw, decodeCertificate payload = .ok (rootDraft.certificate "1" "OK") ∧
        encodeEnvelope payload "seal" zeroSignature = .ok raw ∧
        decodeEnvelope raw = .ok ⟨payload, sha256Digest payload,
          ⟨"Ed25519", "seal", zeroSignature, rfl⟩⟩ := by
  obtain ⟨payload, hpay, hlen⟩ := encodeCertificate_rootDraft
    (show isPlain "OK" = true by decide) (by decide)
  obtain ⟨ps, hps, -, hdec⟩ := decodeCertificate_encodeCertificate hpay
  obtain rfl : [] = ps := Except.ok.inj hps
  obtain ⟨raw, hraw, -, henv⟩ := (envelope_round_trip_iff.1 payload _ "seal" zeroSignature
    hdec sealWellFormed).mpr (by
      rw [hlen]
      decide)
  exact ⟨payload, raw, hdec, hraw, henv⟩

end Apcc.Sample
